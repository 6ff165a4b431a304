import Mathlib.Data.Prod.Lex
import Mathlib.Logic.Function.Basic
import NsoAdapter.Store.Models

/-! Job construction and queue admission (`core/jobs.py`), and the ordered chain of deployment
generations of a device and the success barrier in front of it (`core/generation.py`). A generation
is created pending, bound to a job, started with its job, and ended by the job's terminal write; a
blocked head leaves the chain only by a retry or a reconcile. -/

namespace NsoAdapter.Core
open Lib Store Projection

/-- Why a pending generation's carrier cannot be repaired. -/
inductive CarrierFault where
  | detachWithoutContext
  | carrierRejected (jobId : Nat)
  | carrierRunning (jobId : Nat)
  deriving DecidableEq

inductive CoreError where
  | jobNotCoalescible (jobType : JobType)
  | jobNotDedicated (jobType : JobType)
  | statusNotTerminal (status : JobStatus)
  | outcomeNotTerminal (outcome : GenerationStatus)
  | freshJobRefused (jobId generationId : Nat)
  | generationModeConflict (jobId : Nat) (carried : GenerationMode)
      (generationId : Nat) (offered : GenerationMode)
  | generationCarrierCorruption (generationId : Nat) (fault : CarrierFault)
  | generationNotExecutableHead (generationId : Nat)
  | generationNotBlocked (generationId : Nat) (status : GenerationStatus)
  | generationTampered (generationId : Nat)
  deriving DecidableEq

/-- `ORDER BY created_at, id`. -/
def Job.queueKey (job : Job) : Nat ×ₗ Nat :=
  toLex (job.createdAt, job.id)

/-- The `INSERT` every admission shares: a fresh queued row. -/
def insertJob (db : Database) (deviceId : Option Nat) (jobType : JobType)
    (coalescible : Bool) (context : Option JobContext) (now : Nat) : Database × Job :=
  let job : Job :=
    { id := db.nextJobId, jobType, status := .queued, coalescible, deviceId,
      result := none, error := none, context, createdAt := now, runAttempt := 0,
      settleSeq := none }
  ({ db with jobs := db.jobs ++ [job], nextJobId := db.nextJobId + 1 }, job)

def lockQueuedWinner (db : Database) (deviceId : Nat) (jobType : JobType) : Option Job :=
  (orderBy Job.queueKey (db.jobs.filter fun job =>
    job.deviceId == some deviceId && job.jobType == jobType &&
      job.status == .queued && job.coalescible)).head?

/-- The partial unique index on queued coalescible jobs decides between inserting and returning the
winner. -/
def admitCoalescibleJob (db : Database) (deviceId : Nat) (jobType : JobType)
    (context : Option JobContext) (now : Nat) : Except CoreError (Database × Job) :=
  if jobType = .removal ∨ jobType = .provision then
    .error (.jobNotCoalescible jobType)
  else
    match lockQueuedWinner db deviceId jobType with
    | some winner => .ok (db, winner)
    | none => .ok (insertJob db (some deviceId) jobType true context now)

def createDedicatedJob (db : Database) (deviceId : Nat) (jobType : JobType)
    (context : Option JobContext) (now : Nat) : Except CoreError (Database × Job) :=
  if jobType.deviceWriting then
    .ok (insertJob db (some deviceId) jobType false context now)
  else
    .error (.jobNotDedicated jobType)

def createFollowupSync (db : Database) (deviceId followupOfJobId now : Nat) : Database × Job :=
  insertJob db (some deviceId) .sync false (some (.followup followupOfJobId)) now

section

variable {db after : Database} {deviceId now : Nat} {jobType : JobType}
  {context : Option JobContext} {job : Job}

theorem admitCoalescibleJob_cases (admitted : admitCoalescibleJob db deviceId jobType context now = .ok (after, job)) :
    (after = db ∧ job ∈ db.jobs ∧ job.deviceId = some deviceId ∧ job.status = .queued) ∨
      (after, job) = insertJob db (some deviceId) jobType true context now := by
  unfold admitCoalescibleJob at admitted
  split at admitted
  · cases admitted
  cases winner : lockQueuedWinner db deviceId jobType with
  | none =>
    rw [winner] at admitted
    exact .inr (Except.ok.inj admitted).symm
  | some found =>
    rw [winner] at admitted
    cases admitted
    have member := mem_of_head?_orderBy winner
    simp only [List.mem_filter, Bool.and_eq_true, beq_iff_eq] at member
    exact .inl ⟨rfl, member.1, member.2.1.1.1, member.2.1.2⟩

theorem createDedicatedJob_eq (created : createDedicatedJob db deviceId jobType context now = .ok (after, job)) :
    (after, job) = insertJob db (some deviceId) jobType false context now := by
  unfold createDedicatedJob at created
  split at created
  · exact (Except.ok.inj created).symm
  · cases created

end

structure GenerationContent where
  mode : GenerationMode
  document : Document
  allowedRemovalKeys : RemovalAuthority
  sourcePushSeq : List (ProjectionStream × Option Nat)
  streamRevisions : List (ProjectionStream × Nat)
  settlementCohort : Option Nat
  removalContext : Option RemovalContext
  applyAttemptId : Option Nat

/-- `digest_document`: the hash of the canonical serialization. -/
abbrev DocumentDigest := GenerationMode → Document → RemovalAuthority → String

/-- The end of `_store_generation`: `_next_seq` and the row. -/
def insertGeneration (digestDocument : DocumentDigest) (db : Database) (deviceId : Nat)
    (content : GenerationContent) : Database × DeploymentGeneration :=
  let seq := db.lastSeq deviceId + 1
  let generation : DeploymentGeneration :=
    { id := db.nextGenerationId, deviceId, seq, mode := content.mode, status := .pending,
      document := content.document,
      digest := digestDocument content.mode content.document content.allowedRemovalKeys,
      allowedRemovalKeys := content.allowedRemovalKeys,
      sourcePushSeq := content.sourcePushSeq, streamRevisions := content.streamRevisions,
      settlementCohort := content.settlementCohort, removalContext := content.removalContext,
      applyAttemptId := content.applyAttemptId, jobId := none, carrier := none,
      attempts := 0, lastError := none }
  ({ db with
      generations := db.generations ++ [generation]
      lastSeq := Function.update db.lastSeq deviceId seq
      nextGenerationId := db.nextGenerationId + 1 }, generation)

def updateGenerations (db : Database) (selected : DeploymentGeneration → Bool)
    (update : DeploymentGeneration → DeploymentGeneration) : Database :=
  { db with generations := updateWhere selected update db.generations }

def updateJobs (db : Database) (selected : Job → Bool) (update : Job → Job) : Database :=
  { db with jobs := updateWhere selected update db.jobs }

def blockingPredecessor (db : Database) (deviceId seq : Nat) : Option DeploymentGeneration :=
  (orderBy (·.seq) (db.generations.filter fun generation =>
    generation.deviceId == deviceId && decide (generation.seq < seq) &&
      !generation.status.crossable)).head?

/-- The oldest generation that is not settled or abandoned. -/
def executableHead (db : Database) (deviceId : Nat) : Option DeploymentGeneration :=
  (orderBy (·.seq) (db.generations.filter fun generation =>
    generation.deviceId == deviceId && !generation.status.crossable)).head?

/-- `generation.job_id = job.id`. -/
def bindToJob (db : Database) (generationId jobId : Nat) : Database :=
  updateGenerations db (fun generation => generation.id == generationId)
    fun generation => { generation with jobId := some jobId }

/-- False when the job cannot carry the generation. -/
def attachToJob (db : Database) (generation : DeploymentGeneration) (job : Job) : Except CoreError (Database × Bool) :=
  match (db.jobGenerations job.id).getLast? with
  | none => .ok (bindToJob db generation.id job.id, true)
  | some last =>
    if job.coalescible = false then
      .ok (db, false)
    else if last.mode ≠ generation.mode then
      .error (.generationModeConflict job.id last.mode generation.id generation.mode)
    else if last.seq + 1 ≠ generation.seq then
      .ok (db, false)
    else
      .ok (bindToJob db generation.id job.id, true)

def requireAttachToJob (db : Database) (generation : DeploymentGeneration) (job : Job) : Except CoreError Database :=
  match attachToJob db generation job with
  | .error refused => .error refused
  | .ok (after, true) => .ok after
  | .ok (_, false) => .error (.freshJobRefused job.id generation.id)

/-- The success barrier's answer for one queued job. -/
def jobAdmissible (db : Database) (jobId deviceId : Nat) : Bool :=
  match (db.jobGenerations jobId).head? with
  | some first => (blockingPredecessor db deviceId first.seq).isNone
  | none =>
    match db.job? jobId with
    | none => true
    | some job =>
      !job.jobType.deviceWriting ||
        !db.generations.any fun generation =>
          generation.deviceId == deviceId && generation.status.blocked

def markJobGenerationsRunning (db : Database) (jobId : Nat) : Database :=
  updateGenerations db
    (fun generation => generation.jobId == some jobId && generation.status == .pending)
    fun generation =>
      { generation with status := .running, attempts := generation.attempts + 1 }

def requeueJobGenerations (db : Database) (jobId : Nat) : Database :=
  updateGenerations db
    (fun generation => generation.jobId == some jobId && generation.status == .running)
    fun generation => { generation with status := .pending }

def Job.evidence (job : Job) : Option CarrierEvidence :=
  if job.status.live then none
  else some { jobId := job.id, status := job.status, result := job.result, error := job.error }

/-- The row `_terminalize_generations` writes. Carrier columns are replaced only while it is not
terminal or without evidence. -/
def terminalizeRow (outcome : GenerationStatus) (error : Option Json)
    (evidence : Option CarrierEvidence) (row : DeploymentGeneration) : DeploymentGeneration :=
  { row with
    status := outcome
    lastError := if outcome = .settled then none else error.orElse fun _ => row.lastError
    carrier := if !row.status.terminal || row.carrier.isNone then evidence else row.carrier }

/-- The `WHERE` of one terminal write: the generation as it was read, in one of
the expected statuses. -/
def terminalizes (generation : DeploymentGeneration) (expected : Option (List GenerationStatus))
    (row : DeploymentGeneration) : Bool :=
  row.id == generation.id && row.jobId == generation.jobId &&
    match expected with
    | none => true
    | some statuses => statuses.contains row.status

/-- The store and the identifiers that landed. -/
def terminalizeGenerations (db : Database) (generations : List DeploymentGeneration)
    (outcome : GenerationStatus) (error : Option Json)
    (expected : Option (List GenerationStatus)) : Except CoreError (Database × List Nat) :=
  if outcome.terminal = false then
    .error (.outcomeNotTerminal outcome)
  else
    let evidence := fun generation : DeploymentGeneration =>
      (generation.jobId.bind db.job?).bind Job.evidence
    .ok (
      { db with
        generations := generations.foldl
          (fun rows generation => updateWhere (terminalizes generation expected)
            (terminalizeRow outcome error (evidence generation)) rows)
          db.generations },
      (generations.filter fun generation =>
        db.generations.any (terminalizes generation expected)).map (·.id))

/-- One settlement target: the revision of a stream that a generation carried. -/
structure RevisionTarget where
  deviceId : Nat
  stream : ProjectionStream
  revision : Nat
  cohort : Option Nat

def DeploymentGeneration.targets (generation : DeploymentGeneration) : List RevisionTarget :=
  generation.streamRevisions.map fun entry =>
    ⟨generation.deviceId, entry.1, entry.2, generation.settlementCohort⟩

/-- A live or failed member of the cohort withholds every stream of the request. -/
def blockingSibling (db : Database) (deviceId : Nat) : Option Nat → Bool
  | none => false
  | some cohort => db.generations.any fun generation =>
    generation.deviceId == deviceId && !generation.status.crossable &&
      generation.settlementCohort == some cohort

def stampTarget (db : Database) (target : RevisionTarget) : Database :=
  { db with
    streams := updateWhere
      (fun row => row.deviceId == target.deviceId && row.stream == target.stream &&
        decide (row.appliedRevision < target.revision) &&
        !blockingSibling db target.deviceId target.cohort)
      (fun row => { row with appliedRevision := target.revision }) db.streams }

/-- `_stamp_applied_revisions`. -/
def stampAppliedRevisions (db : Database) (targets : List RevisionTarget) : Database :=
  targets.foldl stampTarget db

def stampSettledCohort (db : Database) (cohort : Nat) : Database :=
  let members := db.generations.filter fun generation =>
    generation.settlementCohort == some cohort
  if members.any fun generation => generation.status == .settled then
    stampAppliedRevisions db (members.flatMap DeploymentGeneration.targets)
  else
    db

def inCohorts (cohorts : List Nat) (generation : DeploymentGeneration) : Bool :=
  match generation.settlementCohort with
  | none => false
  | some cohort => cohorts.contains cohort

def settleJobGenerations (db : Database) (jobId : Nat) (outcome : GenerationStatus)
    (error : Option Json) : Except CoreError Database :=
  let carried := db.jobGenerations jobId
  if carried.isEmpty then
    .ok db
  else
    match terminalizeGenerations db carried outcome error none with
    | .error refused => .error refused
    | .ok (after, landedIds) =>
      if outcome ≠ .settled then
        .ok after
      else
        let landed := carried.filter fun generation => landedIds.contains generation.id
        let cohorts := landed.filterMap (·.settlementCohort)
        let members := after.generations.filter (inCohorts cohorts)
        let targets := (landed.filter fun generation => generation.settlementCohort.isNone) ++
          members
        .ok (((carried.filterMap (·.settlementCohort)).dedup).foldl stampSettledCohort
          (stampAppliedRevisions after (targets.flatMap DeploymentGeneration.targets)))

def createDedicatedCarrier (db : Database) (generation : DeploymentGeneration) (now : Nat) :
    Except CoreError (Database × Job) :=
  let created :=
    match generation.removalContext, generation.mode with
    | some context, _ =>
      createDedicatedJob db generation.deviceId .removal (some (.removal context)) now
    | none, .detach =>
      .error (.generationCarrierCorruption generation.id .detachWithoutContext)
    | none, .networked => createDedicatedJob db generation.deviceId .apply none now
  match created with
  | .error refused => .error refused
  | .ok (inserted, job) =>
    match attachToJob inserted generation job with
    | .error refused => .error refused
    | .ok (after, true) => .ok (after, job)
    | .ok (_, false) =>
      .error (.generationCarrierCorruption generation.id (.carrierRejected job.id))

/-- `_require_locked_executable_head`, with the status test both operator exits make. -/
def requireBlockedHead (db : Database) (generation : DeploymentGeneration) : Except CoreError DeploymentGeneration :=
  match executableHead db generation.deviceId with
  | none => .error (.generationNotExecutableHead generation.id)
  | some head =>
    if head.id ≠ generation.id then
      .error (.generationNotExecutableHead generation.id)
    else if head.status.blocked = false then
      .error (.generationNotBlocked generation.id head.status)
    else
      .ok head

/-- `BLOCKED_STATUSES` as the list the terminal write expects. -/
def blockedStatuses : List GenerationStatus :=
  [.failed, .outcomeUnknown]

/-- The compare-and-set both operator exits share. -/
def claimBlockedHead (db : Database) (head : DeploymentGeneration)
    (outcome : GenerationStatus) : Except CoreError Database :=
  if outcome.terminal then
    match terminalizeGenerations db [head] outcome none (some blockedStatuses) with
    | .error refused => .error refused
    | .ok (after, claimed) =>
      if claimed.contains head.id then .ok after
      else .error (.generationNotBlocked head.id head.status)
  else
    if db.generations.any fun row => row.id == head.id && row.status.blocked then
      .ok (updateGenerations db (fun row => row.id == head.id && row.status.blocked)
        fun row => { row with status := outcome })
    else
      .error (.generationNotBlocked head.id head.status)

def takeOverTombstones (db : Database) (generation : DeploymentGeneration)
    (previousCarrier : Option Nat) (jobId : Nat) : Database :=
  { db with
    tombstones := updateWhere
      (fun tombstone => generation.document.tombstoneIds.contains tombstone.id &&
        tombstone.deviceId == generation.deviceId &&
        (tombstone.jobId.isNone || tombstone.jobId == previousCarrier))
      (fun tombstone => { tombstone with jobId := some jobId }) db.tombstones }

/-- Re-admit a blocked head as a new job. -/
def retryGeneration (digestDocument : DocumentDigest) (db : Database) (generationId now : Nat) :
    Except CoreError (Database × Option Job) :=
  match db.generation? generationId with
  | none => .ok (db, none)
  | some generation =>
    match requireBlockedHead db generation with
    | .error refused => .error refused
    | .ok head =>
      if digestDocument head.mode head.document head.allowedRemovalKeys ≠ head.digest then
        .error (.generationTampered head.id)
      else
        match claimBlockedHead db head .pending with
        | .error refused => .error refused
        | .ok claimed =>
          match createDedicatedCarrier claimed { head with status := .pending } now with
          | .error refused => .error refused
          | .ok (carried, job) =>
            if head.removalContext.isSome then
              .ok (takeOverTombstones carried head head.jobId job.id, some job)
            else
              .ok (carried, some job)

/-- Give the pending executable head a queued carrier. -/
def advanceGenerationsLocked (db : Database) (deviceId now : Nat) : Except CoreError (Database × Option Job) :=
  match executableHead db deviceId with
  | none => .ok (db, none)
  | some head =>
    if head.status ≠ .pending then
      .ok (db, none)
    else
      let replace (db : Database) : Except CoreError (Database × Option Job) :=
        match createDedicatedCarrier db { head with jobId := none } now with
        | .error refused => .error refused
        | .ok (after, job) => .ok (after, some job)
      match head.jobId with
      | none => replace db
      | some jobId =>
        match db.job? jobId with
        | some carrier =>
          match carrier.status with
          | .queued => .ok (db, some carrier)
          | .running => .error (.generationCarrierCorruption head.id (.carrierRunning jobId))
          | _ => replace (updateGenerations db (fun row => row.id == head.id)
              fun row => { row with jobId := none })
        | none => replace (updateGenerations db (fun row => row.id == head.id)
            fun row => { row with jobId := none })

/-- Abandon a blocked head and release its successor. -/
def reconcileGeneration (db : Database) (generationId now : Nat) : Except CoreError (Database × Option Job) :=
  match db.generation? generationId with
  | none => .ok (db, none)
  | some generation =>
    match requireBlockedHead db generation with
    | .error refused => .error refused
    | .ok head =>
      match claimBlockedHead db head .abandoned with
      | .error refused => .error refused
      | .ok claimed =>
        let stamped :=
          match head.settlementCohort with
          | none => claimed
          | some cohort => stampSettledCohort claimed cohort
        advanceGenerationsLocked stamped head.deviceId now

/-- The rows `recover_generations` finds running with no running job. -/
def strandedGenerations (db : Database) : List DeploymentGeneration :=
  db.generations.filter fun generation =>
    generation.status == .running &&
      match generation.jobId.bind db.job? with
      | none => true
      | some job => job.status != .running

/-- The first transaction of `recover_generations`. -/
def strandRunningGenerations (db : Database) : Except CoreError (Database × List Nat) :=
  terminalizeGenerations db (strandedGenerations db) .outcomeUnknown none (some [.running])

/-- One device of the second half of `recover_generations`; a refusal is logged
and the device keeps its chain. -/
def advanceOrKeep (now : Nat → Nat) (db : Database) (deviceId : Nat) : Database :=
  match advanceGenerationsLocked db deviceId (now deviceId) with
  | .ok (after, _) => after
  | .error _ => db

def recoverGenerations (db : Database) (now : Nat → Nat) : Except CoreError Database :=
  match strandRunningGenerations db with
  | .error refused => .error refused
  | .ok (stranded, _) =>
    .ok (((stranded.generations.filter fun generation => generation.status == .pending).map
      (·.deviceId)).dedup.foldl (advanceOrKeep now) stranded)

end NsoAdapter.Core
