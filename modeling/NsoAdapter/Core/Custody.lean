import NsoAdapter.Core.Orchestration

/-! What an operation on the chain does to the generations that are still open. A
removal is carried by the job that owns its tombstones, so the question is which
operations move an open generation to another job: only a retry does. -/

namespace NsoAdapter.Core
open Lib Store

/-- A generation row and its earlier version. An open row was open before and has the
job it had, unless it had none. -/
structure Continues (old row : DeploymentGeneration) : Prop where
  document : old.document = row.document
  deviceId : old.deviceId = row.deviceId
  removalContext : old.removalContext = row.removalContext
  opened : row.status.terminal = false →
    old.status.terminal = false ∧ (old.jobId = row.jobId ∨ old.jobId = none)

theorem Continues.refl (row : DeploymentGeneration) : Continues row row := ⟨rfl, rfl, rfl, fun opened => ⟨opened, .inl rfl⟩⟩

theorem Continues.trans {first second third : DeploymentGeneration} (before : Continues first second) (after : Continues second third) :
    Continues first third := by
  refine ⟨before.document.trans after.document, before.deviceId.trans after.deviceId,
    before.removalContext.trans after.removalContext, fun opened => ?_⟩
  obtain ⟨middleOpen, middleJob⟩ := after.opened opened
  obtain ⟨firstOpen, firstJob⟩ := before.opened middleOpen
  refine ⟨firstOpen, ?_⟩
  rcases firstJob with same | unbound
  · rcases middleJob with kept | unbound
    · exact .inl (same.trans kept)
    · exact .inr (same.trans unbound)
  · exact .inr unbound

/-- Every generation that names a tombstone continues one that was there before, and
the tombstones stand as they were. -/
structure Custodial (before after : Database) : Prop where
  tombstones : after.tombstones = before.tombstones
  rows : ∀ row ∈ after.generations, row.document.tombstoneIds = [] ∨
    ∃ old ∈ before.generations, Continues old row

namespace Custodial

variable {before after db : Database} {jobId : Nat}

theorem of_generations_eq (tombstones : after.tombstones = before.tombstones)
    (generations : after.generations = before.generations) : Custodial before after :=
  ⟨tombstones, fun row member => .inr ⟨row, generations ▸ member, .refl row⟩⟩

theorem refl (db : Database) : Custodial db db := of_generations_eq rfl rfl

theorem trans {first second third : Database} (before : Custodial first second)
    (after : Custodial second third) : Custodial first third := by
  refine ⟨after.tombstones.trans before.tombstones, fun row member => ?_⟩
  rcases after.rows row member with unnamed | ⟨middle, middleMember, continues⟩
  · exact .inl unnamed
  · rcases before.rows middle middleMember with unnamed | ⟨old, oldMember, earlier⟩
    · exact .inl (continues.document ▸ unnamed)
    · exact .inr ⟨old, oldMember, earlier.trans continues⟩

variable {update : DeploymentGeneration → DeploymentGeneration} {outcome : GenerationStatus}
  {error : Option Json} {generationId deviceId now : Nat} {job : Option Job}

theorem of_map (tombstones : after.tombstones = before.tombstones) (generations : after.generations = before.generations.map update)
    (continues : ∀ row ∈ before.generations, Continues row (update row)) :
    Custodial before after := by
  refine ⟨tombstones, fun row member => ?_⟩
  rw [generations] at member
  obtain ⟨old, present, rfl⟩ := List.mem_map.mp member
  exact .inr ⟨old, present, continues old present⟩

theorem of_onlyStreams (stamped : OnlyStreams before after) : Custodial before after := by
  rw [stamped]
  exact of_generations_eq rfl rfl

theorem insertJob (db : Database) (deviceId : Option Nat) (jobType : JobType)
    (coalescible : Bool) (context : Option JobContext) (now : Nat) :
    Custodial db (insertJob db deviceId jobType coalescible context now).1 :=
  of_generations_eq rfl rfl

theorem of_inPlace (tombstones : after.tombstones = before.tombstones)
    (generations : after.generations = before.generations.map update) (inPlace : InPlace update)
    (opened : ∀ row ∈ before.generations, (update row).status.terminal = false →
      row.status.terminal = false) : Custodial before after :=
  of_map tombstones generations fun row member =>
    ⟨(inPlace.document row).symm, (inPlace.deviceId row).symm, (inPlace.removalContext row).symm,
      fun still => ⟨opened row member still, .inl (inPlace.jobId row).symm⟩⟩

theorem terminalizeGenerations {generations : List DeploymentGeneration} {expected : Option (List GenerationStatus)} {landed : List Nat}
    (written : terminalizeGenerations db generations outcome error expected = .ok (after, landed)) : Custodial db after := by
  obtain ⟨terminal, update, inPlace, rfl, wrote⟩ := terminalizeGenerations_spec written
  refine of_inPlace rfl rfl inPlace fun row _ still => ?_
  rcases wrote row with ⟨status, _⟩ | ⟨unchanged, _⟩
  · rw [status, terminal] at still
    cases still
  · rw [unchanged] at still
    exact still

theorem bindToJob (unbound : ∀ row ∈ db.generations, row.id = generationId → row.jobId = none) :
    Custodial db (bindToJob db generationId jobId) := by
  refine of_map rfl rfl fun row member => ?_
  split
  · rename_i same
    exact ⟨rfl, rfl, rfl, fun opened =>
      ⟨opened, .inr (unbound row member (beq_iff_eq.mp same))⟩⟩
  · exact .refl row

theorem advanceGenerationsLocked (valid : Orderly db) (advanced : advanceGenerationsLocked db deviceId now = .ok (after, job)) :
    Custodial db after := by
  rcases valid.advance_cases advanced with rfl | ⟨head, fresh, member, _, unbound, created⟩
  · exact refl _
  · obtain ⟨jobType, context, rfl, rfl⟩ := createDedicatedCarrier_eq created
    refine (insertJob db _ jobType false context now).trans (bindToJob ?_)
    intro row inside same
    rw [valid.generation_unique row inside head member same]
    exact unbound

theorem startHeadUnderClaim {expectedJobId : Option Nat} {job : Job}
    (started : startHeadUnderClaim db deviceId expectedJobId = some (after, job)) :
    Custodial db after := by
  unfold Core.startHeadUnderClaim at started
  split at started
  · cases started
  cases started
  refine of_map rfl rfl fun row _ => ?_
  split
  · rename_i selected
    simp only [Bool.and_eq_true, beq_iff_eq] at selected
    refine ⟨rfl, rfl, rfl, fun _ => ⟨?_, .inl rfl⟩⟩
    rw [selected.2]
    rfl
  · exact .refl row

theorem settleJobGenerations (settled : settleJobGenerations db jobId outcome error = .ok after) : Custodial db after := by
  rcases settleJobGenerations_cases settled with ⟨_, rfl⟩ | ⟨middle, landed, written, stamped⟩
  · exact refl _
  · exact (terminalizeGenerations written).trans (of_onlyStreams stamped)

theorem terminalize {request : TerminalRequest} {write : Option TerminalWrite}
    (written : terminalize db jobId request = .ok (after, write)) : Custodial db after := by
  obtain ⟨_, ⟨_, rfl, _⟩ | ⟨_, _, _, settled, settles, landed⟩⟩ := terminalize_cases written
  · exact refl _
  · have cast : Custodial db (casTerminalStatus db jobId request) := of_generations_eq rfl rfl
    have kept := cast.trans (settleJobGenerations settles)
    rcases landed with ⟨_, rfl, _⟩ | ⟨_, _, rfl, _⟩
    · exact kept
    · exact kept.trans (of_generations_eq rfl rfl)

theorem terminalizeRunning {status : JobStatus} {expectedAttempt : Option Nat} {written : Option JobStatus}
    (moved : terminalizeRunning db jobId status error expectedAttempt = .ok (after, written)) :
    Custodial db after := by
  rcases terminalizeRunning_cases moved with ⟨request, write, ended, _⟩ | rfl
  · exact terminalize ended
  unfold requeueRunning
  split
  · refine of_map rfl rfl fun row _ => ?_
    split
    · rename_i selected
      simp only [Bool.and_eq_true, beq_iff_eq] at selected
      refine ⟨rfl, rfl, rfl, fun _ => ⟨?_, .inl rfl⟩⟩
      rw [selected.2]
      rfl
    · exact .refl row
  · exact refl db

theorem reconcileGeneration (valid : Orderly db) (reconciled : reconcileGeneration db generationId now = .ok (after, job)) :
    Custodial db after := by
  rcases reconcileGeneration_cases reconciled with
    rfl | ⟨_, head, claimed, _, required, claim, advanced⟩
  · exact refl _
  · obtain ⟨member, _, blocked⟩ := requireBlockedHead_spec required
    have stamped := onlyStreams_stampAbandoned claimed head
    have abandoned := (Sound.abandon valid member blocked claim).of_onlyStreams stamped
    obtain ⟨landed, written⟩ := claimBlockedHead_terminal rfl claim
    have kept := (terminalizeGenerations written).trans (of_onlyStreams stamped)
    exact kept.trans (advanceGenerationsLocked abandoned.orderly advanced)

theorem advanceOrKeep (valid : Orderly db) (now : Nat → Nat) (deviceId : Nat) : Custodial db (advanceOrKeep now db deviceId) := by
  rcases advanceOrKeep_cases now db deviceId with same | ⟨job, advanced⟩
  · rw [same]
    exact refl db
  · exact advanceGenerationsLocked valid advanced

theorem recoverGenerations {now : Nat → Nat} (valid : Orderly db)
    (recovered : recoverGenerations db now = .ok after) : Custodial db after := by
  unfold Core.recoverGenerations at recovered
  split at recovered
  · cases recovered
  rename_i stranded landed strands
  cases recovered
  have start := Sound.strandRunningGenerations valid strands
  refine (List.foldlRecOn (motive := fun middle => Orderly middle ∧ Custodial db middle) _ _
    ⟨start.orderly, terminalizeGenerations strands⟩ ?_).2
  rintro middle ⟨orderly, custodial⟩ device _
  exact ⟨(Sound.advanceOrKeep orderly now device).orderly, custodial.trans (advanceOrKeep orderly now device)⟩

end Custodial

def Operation.keepsCarriers : Operation → Bool
  | .createGeneration _ content => content.document.tombstoneIds.isEmpty
  | .retryGeneration _ _ => false
  | _ => true

theorem Operation.run_custodial {digestDocument : DocumentDigest} {operation : Operation}
    {db after : Database} (valid : Orderly db) (keeps : operation.keepsCarriers = true)
    (ran : operation.run digestDocument db = some after) : Custodial db after := by
  cases operation.ran ran with
  | created deviceId content =>
    refine ⟨rfl, fun row member => ?_⟩
    rcases List.mem_append.mp member with old | new
    · exact .inr ⟨row, old, .refl row⟩
    · rw [List.mem_singleton.mp new]
      exact .inl (List.isEmpty_iff.mp keeps)
  | joined => exact .refl _
  | queued => exact .insertJob ..
  | attached member unbound present queued device accepted =>
    rcases attachToJob_cases accepted with ⟨_, rfl⟩ | ⟨_, rfl, _⟩
    · exact .refl _
    · refine .bindToJob fun row inside same => ?_
      rw [valid.generation_unique row inside _ member same]
      exact unbound
  | started start => exact .startHeadUnderClaim start
  | claimless start =>
    unfold claimNextClaimlessJob at start
    split at start
    · cases start
    · cases start
      exact .of_generations_eq rfl rfl
  | ended observed written => exact .terminalize written
  | disposed moved => exact .terminalizeRunning moved
  | retried => cases keeps
  | reconciled reconciled => exact .reconcileGeneration valid reconciled
  | advanced advanced => exact .advanceGenerationsLocked valid advanced
  | stranded stranded => exact .terminalizeGenerations stranded
  | recovered recovered => exact .recoverGenerations valid recovered

end NsoAdapter.Core
