import Mathlib.Logic.Relation
import NsoAdapter.Core.Adapter
import NsoAdapter.Core.Stamping

/-! The moves a transaction is made of. A move inserts a job, binds a generation, rewrites
rows in place, creates a generation, moves one revision counter, or settles or abandons
generations; every invariant of the chain is shown for the moves and every transaction is
shown to be a sequence of them. -/

namespace NsoAdapter.Core
open Lib Store Projection

/-- The rows the chain lives in, and the sequence settlement cohorts are taken from. -/
structure DeploymentChain where
  db : Database
  nextCohort : Nat

def carrierType (generation : DeploymentGeneration) : JobType :=
  if generation.removalContext.isSome || generation.mode == .detach then .removal else .apply

structure JobInPlace (move : Job → Job) : Prop where
  id : ∀ job, (move job).id = job.id
  jobType : ∀ job, (move job).jobType = job.jobType
  coalescible : ∀ job, (move job).coalescible = job.coalescible

theorem JobInPlace.refl : JobInPlace fun job => job := ⟨fun _ => rfl, fun _ => rfl, fun _ => rfl⟩

theorem JobInPlace.where {move : Job → Job} (inPlace : JobInPlace move) (selected : Job → Bool) :
    JobInPlace fun job => if selected job then move job else job := by
  constructor
  case id => exact fun job => by split; exacts [inPlace.id job, rfl]
  case jobType => exact fun job => by split; exacts [inPlace.jobType job, rfl]
  case coalescible => exact fun job => by split; exacts [inPlace.coalescible job, rfl]

def SameSide (before after : GenerationStatus) : Prop :=
  after.crossable = before.crossable ∧ (after = .settled ↔ before = .settled)

theorem SameSide.refl (status : GenerationStatus) : SameSide status status := ⟨rfl, Iff.rfl⟩

theorem SameSide.of_open {before after : GenerationStatus} (opened : before.crossable = false)
    (stays : after.crossable = false) : SameSide before after := by
  refine ⟨stays.trans opened.symm, ⟨?_, ?_⟩⟩
  · rintro rfl
    cases stays
  · rintro rfl
    cases opened

/-- Jobs and generations change in place, and no generation settles or is abandoned. -/
structure Rewrites (db after : Database) : Prop where
  jobs : ∃ move, JobInPlace move ∧ after.jobs = db.jobs.map move
  generations : ∃ update, InPlace update ∧ after.generations = db.generations.map update ∧
    ∀ row ∈ db.generations, SameSide row.status (update row).status
  streams : after.streams = db.streams
  nextJobId : after.nextJobId = db.nextJobId
  nextGenerationId : after.nextGenerationId = db.nextGenerationId

/-- A job can take a generation: it is of the type that executes it, and carries nothing or
coalesces generations of one mode. -/
structure Fits (db : Database) (job : Job) (generation : DeploymentGeneration) : Prop where
  jobType : job.jobType = carrierType generation
  shared : (∀ row ∈ db.generations, row.jobId ≠ some job.id) ∨
    (job.coalescible = true ∧
      ∀ row ∈ db.generations, row.jobId = some job.id → row.mode = generation.mode)

def selectedRevision (row : DeviceProjectionStream) : Option Nat :=
  if row.stream.outOfProtocol then row.preparedRevision else some row.desiredRevision

inductive MoveKind where
  | job | bind | rewrite | create | cohort | prune | write | prepare | promote | equivalent
  | settle | abandon
  deriving DecidableEq

inductive StreamMove : MoveKind → DeviceProjectionStream → DeviceProjectionStream → Prop where
  | prune (row : DeviceProjectionStream) (existing : List Nat) :
      StreamMove .prune row (pruneRow existing row)
  | write (row : DeviceProjectionStream) (pushSeq : Option Nat) :
      StreamMove .write row
        { row with desiredRevision := row.desiredRevision + 1, sourcePushSeq := pushSeq }
  | prepare (row : DeviceProjectionStream) (tables : Tables) (deletions : PreparedDeletions) :
      StreamMove .prepare row { row with
        preparedRevision := some row.desiredRevision, preparedTables := some tables
        preparedDeletions := some deletions }
  | promote {row : DeviceProjectionStream} {revision : Nat} (fragment : Fragment)
      (selected : selectedRevision row = some revision) :
      StreamMove .promote row { row with
        authorizedRevision := revision, authorizedDocument := some fragment }
  | equivalent {row : DeviceProjectionStream} {revision : Nat} (fragment : Fragment)
      (selected : selectedRevision row = some revision) :
      StreamMove .equivalent row { row with
        authorizedRevision := revision, appliedRevision := revision
        authorizedDocument := some fragment }

def Listed (db : Database) (deviceId : Nat) (revisions : List (ProjectionStream × Nat)) : Prop :=
  ∀ entry ∈ revisions, ∃ row ∈ db.streams, streamKey deviceId entry.1 row = true ∧
    entry.2 ≤ row.authorizedRevision

/-- A cohort of the request that is being served: allocated, of its device, and not started. -/
def OwnCohort (chain : DeploymentChain) (deviceId : Nat) (cohort : Option Nat) : Prop :=
  ∀ own, cohort = some own → own < chain.nextCohort ∧
    ∀ row ∈ chain.db.generations, row.settlementCohort = some own →
      row.deviceId = deviceId ∧ row.status = .pending

inductive Move : MoveKind → DeploymentChain → DeploymentChain → Prop where
  | job (chain : DeploymentChain) (deviceId : Option Nat) {jobType : JobType} {coalescible : Bool}
      (context : Option JobContext) (now : Nat)
      (dedicated : jobType = .removal → coalescible = false) :
      Move .job chain
        { chain with db := (insertJob chain.db deviceId jobType coalescible context now).1 }
  | bind {chain : DeploymentChain} {generation : DeploymentGeneration} {job : Job}
      (member : generation ∈ chain.db.generations) (present : job ∈ chain.db.jobs)
      (fits : Fits chain.db job generation) :
      Move .bind chain { chain with db := bindToJob chain.db generation.id job.id }
  | rewrite {chain : DeploymentChain} {after : Database} (rewrites : Rewrites chain.db after) :
      Move .rewrite chain { chain with db := after }
  | create {chain : DeploymentChain} {deviceId : Nat} {content : GenerationContent}
      (digestDocument : DocumentDigest)
      (listed : Listed chain.db deviceId content.streamRevisions)
      (reissue : content.streamRevisions = [] →
        content.removalContext.isSome = true ∧ content.settlementCohort = none)
      (cohort : OwnCohort chain deviceId content.settlementCohort) :
      Move .create chain
        { chain with db := (insertGeneration digestDocument chain.db deviceId content).1 }
  | cohort (chain : DeploymentChain) :
      Move .cohort chain { chain with nextCohort := chain.nextCohort + 1 }
  | stream {chain : DeploymentChain} {kind : MoveKind} {selected : DeviceProjectionStream → Bool}
      {update : DeviceProjectionStream → DeviceProjectionStream}
      (moves : ∀ row ∈ chain.db.streams, selected row = true → StreamMove kind row (update row))
      (idle : kind = .equivalent → ∀ row ∈ chain.db.streams, selected row = true →
        ∀ generation ∈ chain.db.generations, generation.deviceId = row.deviceId →
          generation.status.crossable = true) :
      Move kind chain
        { chain with
          db := { chain.db with streams := updateWhere selected update chain.db.streams } }
  | firstWrite {chain : DeploymentChain} {deviceId : Nat} {stream : ProjectionStream}
      (pushSeq : Option Nat) (fresh : ∀ row ∈ chain.db.streams, streamKey deviceId stream row = false) :
      Move .write chain { chain with db := { chain.db with
        streams := chain.db.streams ++
          [⟨deviceId, stream, 1, 0, 0, pushSeq, none, none, none, none⟩] } }
  | settle {chain : DeploymentChain} {after : Database} {jobId : Nat} {error : Option Json}
      (settled : settleJobGenerations chain.db jobId .settled error = .ok after) :
      Move .settle chain { chain with db := after }
  | abandon {chain : DeploymentChain} {claimed : Database} {head : DeploymentGeneration}
      (member : head ∈ chain.db.generations) (blocked : head.status.blocked = true)
      (claim : claimBlockedHead chain.db head .abandoned = .ok claimed) :
      Move .abandon chain { chain with db := stampAbandoned claimed head }

def Moves (kinds : List MoveKind) : DeploymentChain → DeploymentChain → Prop :=
  Relation.ReflTransGen fun before after => ∃ kind ∈ kinds, Move kind before after

namespace Moves

variable {kinds wider : List MoveKind} {first second third : DeploymentChain}

theorem refl (chain : DeploymentChain) : Moves kinds chain chain := Relation.ReflTransGen.refl

theorem single {kind : MoveKind} (move : Move kind first second) (permitted : kind ∈ kinds) : Moves kinds first second :=
  Relation.ReflTransGen.single ⟨kind, permitted, move⟩

theorem trans (before : Moves kinds first second) (after : Moves kinds second third) : Moves kinds first third :=
  Relation.ReflTransGen.trans before after

theorem mono (moves : Moves kinds first second) (weaker : kinds ⊆ wider) : Moves wider first second := by
  induction moves with
  | refl => exact refl first
  | tail _ last ih =>
    obtain ⟨kind, permitted, move⟩ := last
    exact ih.trans (single move (weaker permitted))

theorem keeps {holds : DeploymentChain → Prop} (each : ∀ kind ∈ kinds, ∀ before after, holds before → Move kind before after → holds after)
    (moves : Moves kinds first second) (start : holds first) : holds second := by
  induction moves with
  | refl => exact start
  | tail _ last ih =>
    obtain ⟨kind, permitted, move⟩ := last
    exact each kind permitted _ _ ih move

theorem related {holds : DeploymentChain → Prop} {relation : DeploymentChain → DeploymentChain → Prop}
    (reflexive : ∀ chain, relation chain chain)
    (transitive : ∀ one two three, relation one two → relation two three → relation one three)
    (each : ∀ kind ∈ kinds, ∀ before after, holds before → Move kind before after → holds after ∧ relation before after)
    (moves : Moves kinds first second) (start : holds first) :
    holds second ∧ relation first second := by
  induction moves with
  | refl => exact ⟨start, reflexive first⟩
  | tail _ last ih =>
    obtain ⟨kind, permitted, move⟩ := last
    obtain ⟨held, relates⟩ := each kind permitted _ _ ih.1 move
    exact ⟨held, transitive _ _ _ ih.2 relates⟩

end Moves

end NsoAdapter.Core
