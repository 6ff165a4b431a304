import NsoAdapter.Execution.Disposition

/-! The exclusive device claim and the writes that end a run under it (`core/claim.py`,
`core/execution.py`, `core/worker.py`). Each function is one transaction; where the source
reads without a row lock, what it read is an argument, so that it may be stale. -/

namespace NsoAdapter.Execution
open Lib Store Projection NsoAdapter.Core

structure ClaimRegistration where
  deviceId : Option Nat
  token : Option String
  runAttempt : Option Nat

def ClaimRegistration.registered (reg : ClaimRegistration) : Bool :=
  reg.token.isSome

def ClaimRegistration.names (reg : ClaimRegistration) (claim : DeviceClaim) : Bool :=
  reg.deviceId == some claim.deviceId && reg.token == some claim.claimToken

inductive ClaimOutcome where
  | commitAcknowledged | abortKnown

/-- The primary key decides. -/
def acquireClaim (state : Runtime) (deviceId : Nat) (purpose : ClaimPurpose) (jobId : Option Nat)
    (token : String) (now : Nat) : Runtime × Option ClaimRegistration :=
  if state.claims.any fun claim => claim.deviceId == deviceId then
    (state, none)
  else
    ({ state with claims := state.claims ++ [⟨deviceId, token, purpose, jobId, now⟩] },
      some ⟨some deviceId, some token, none⟩)

/-- `lock_claim` succeeds: nothing to validate, or the row is still there. -/
def lockClaim (state : Runtime) (reg : ClaimRegistration) : Bool :=
  !reg.registered || state.claims.any reg.names

def deleteOwnClaim (state : Runtime) (reg : ClaimRegistration) : Runtime :=
  { state with claims := state.claims.filter fun claim => !reg.names claim }

def releaseClaim (state : Runtime) (reg : ClaimRegistration) : Runtime × ClaimOutcome :=
  if !reg.registered then
    (state, .commitAcknowledged)
  else if lockClaim state reg then
    (deleteOwnClaim state reg, .commitAcknowledged)
  else
    (state, .abortKnown)

/-- One tick of `_heartbeat` on the claim. -/
def heartbeat (state : Runtime) (reg : ClaimRegistration) (now : Nat) : Runtime :=
  { state with
    claims := updateWhere reg.names (fun claim => { claim with heartbeatAt := now }) state.claims }

/-- The successors `terminalize_running` looks up without a lock, before the requeue and after the
unique index refused it. -/
structure RequeueReads where
  successor : Option Nat
  raced : Option Nat

/-- `uq_job_queued_per_device_type` refuses the requeue of the job. -/
def queuedSlotTaken (db : Database) (jobId : Nat) : Bool :=
  match db.job? jobId with
  | none => false
  | some job => job.coalescible && db.jobs.any fun other =>
    other.id != jobId && other.status == .queued && other.coalescible &&
      other.jobType == job.jobType && other.deviceId == job.deviceId && job.deviceId.isSome

/-- The terminal half of `terminalize_running`. -/
def endRunning (db : Database) (jobId : Nat) (status : JobStatus) (error : Option Json)
    (expectedAttempt : Option Nat) (outcome : Option GenerationStatus) :
    Except CoreError Database :=
  (terminalize db jobId
    { status, expect := .running, runAttempt := expectedAttempt, result := none, error
      setDeviceId := none, generationOutcome := outcome }).map (·.1)

/-- `terminalize_running`, with lookups that other transactions may have overtaken. -/
def terminalizeRunningAfter (reads : RequeueReads) (db : Database) (jobId : Nat)
    (status : JobStatus) (error : Option Json) (expectedAttempt : Option Nat) :
    Except CoreError Database :=
  match status, reads.successor with
  | .queued, some successor =>
    endRunning db jobId .failed (some (supersededError (some successor))) expectedAttempt
      (some .abandoned)
  | .queued, none =>
    if queuedSlotTaken db jobId then
      endRunning db jobId .failed (some (supersededError reads.raced)) expectedAttempt
        (some .abandoned)
    else
      .ok (requeueRunning db jobId error expectedAttempt).1
  | .failed, _ => endRunning db jobId .failed error expectedAttempt (some .outcomeUnknown)
  | status, _ => endRunning db jobId status error expectedAttempt none

def failLostAttempt (db : Database) (jobId runAttempt : Nat) : Except CoreError Database :=
  endRunning db jobId .failed
    (some (.obj [("code", .str "attempt_ownership_lost"),
      ("message", .str "Execution attempt no longer matches its job"), ("detail", .obj [])]))
    (some runAttempt) (some .outcomeUnknown)

variable (codec : EvidenceCodec)

/-- Whether an attempt of the run was there to settle. -/
def disposeRun (state : Runtime) (jobId : Nat) (reg : ClaimRegistration) (reason : ExitReason)
    (terminalError : Option Json) : Except AttemptError (Runtime × Bool) :=
  if !lockClaim state reg then
    .error (.ownershipLost "claim is no longer held")
  else
    match reg.runAttempt with
    | none => .ok (state, false)
    | some runAttempt => (disposeExecutionAttempt codec state jobId runAttempt reg.token reason
        terminalError).map fun disposed => (disposed.1, disposed.2 != .noAttempt)

/-- The transaction `mark_failed_and_release` and `dispose_cancelled` share. A claim that is gone or
an error before the commit leaves everything as it was. -/
def endRunAndRelease (state : Runtime) (jobId : Nat) (reg : ClaimRegistration)
    (reason : ExitReason) (status : JobStatus) (error : Option Json) (reads : RequeueReads) :
    Runtime × ClaimOutcome :=
  if !lockClaim state reg then
    (state, .abortKnown)
  else
    match disposeRun codec state jobId reg reason none with
    | .error _ => (state, .abortKnown)
    | .ok (disposed, true) => (deleteOwnClaim disposed reg, .commitAcknowledged)
    | .ok (disposed, false) =>
      match terminalizeRunningAfter reads disposed.db jobId status error reg.runAttempt with
      | .error _ => (state, .abortKnown)
      | .ok db => (deleteOwnClaim { disposed with db } reg, .commitAcknowledged)

def markFailedAndRelease (state : Runtime) (jobId : Nat) (code message : String)
    (reg : ClaimRegistration) : Runtime × ClaimOutcome :=
  endRunAndRelease codec state jobId reg .runnerFailed .failed
    (some (.obj [("code", .str code), ("message", .str message), ("detail", .obj [])]))
    ⟨none, none⟩

def disposeCancelled (state : Runtime) (jobId : Nat) (jobType : JobType)
    (reg : ClaimRegistration) (exitReason : ExitReason) (reads : RequeueReads) :
    Runtime × ClaimOutcome :=
  endRunAndRelease codec state jobId reg exitReason (dispositionFor jobType)
    (if dispositionFor jobType = .failed then
      some (.obj [("code", .str "cancelled"), ("message", .str "Worker cancelled the run"),
        ("detail", .obj [])])
    else none) reads

/-- The re-disposition of a run that recovery observed. -/
def redispose (state : Runtime) (jobId : Nat) (jobType : JobType) (runAttempt : Nat)
    (token : Option String) (reason : ExitReason) (message : String) (reads : RequeueReads) :
    Except AttemptError Runtime :=
  match disposeExecutionAttempt codec state jobId runAttempt token reason none with
  | .error (.ownershipLost _) =>
    match failLostAttempt state.db jobId runAttempt with
    | .error refused => .error (.core refused)
    | .ok db => .ok { state with db }
  | .error refused => .error refused
  | .ok (disposed, .noAttempt) =>
    match terminalizeRunningAfter reads disposed.db jobId (dispositionFor jobType)
        (if dispositionFor jobType = .failed then
          some (.obj [("code", .str "orphaned"), ("message", .str message),
            ("detail", .obj [])])
        else none) (some runAttempt) with
    | .error refused => .error (.core refused)
    | .ok db => .ok { disposed with db }
  | .ok (disposed, _) => .ok disposed

/-- The run of a stale claim: `observed` is the type and the attempt read of the claim's job,
if there is one. -/
def redisposeClaimed (state : Runtime) (claim : DeviceClaim) (observed : Option (JobType × Nat))
    (reads : RequeueReads) : Except AttemptError Runtime :=
  match claim.jobId, observed with
  | some jobId, some (jobType, runAttempt) =>
    redispose codec state jobId jobType runAttempt (some claim.claimToken) .claimExpired
      "Claim revoked after heartbeat loss" reads
  | _, _ => .ok state

/-- What `revoke_stale_claims` does for one stale claim it holds locked. -/
def revokeClaim (state : Runtime) (claim : DeviceClaim) (observed : Option (JobType × Nat))
    (reads : RequeueReads) : Except AttemptError Runtime := do
  let redisposed ← redisposeClaimed codec state claim observed reads
  pure { redisposed with
    claims := redisposed.claims.filter fun row =>
      !(row.deviceId == claim.deviceId && row.claimToken == claim.claimToken) }

/-- One candidate of `requeue_orphaned_jobs`. -/
def requeueOrphan (state : Runtime) (jobId : Nat) (jobType : JobType) (runAttempt : Nat)
    (reads : RequeueReads) : Except AttemptError Runtime :=
  redispose codec state jobId jobType runAttempt none .orphaned
    "Adapter restarted while the job was running" reads

/-- `_start_head_under_claim`: the start and the association of the claim are one
transaction. -/
def startUnderClaim (state : Runtime) (deviceId : Nat) (reg : ClaimRegistration)
    (expectedJobId : Option Nat) : Option (Runtime × ClaimRegistration) :=
  if lockClaim state reg then
    (startHeadUnderClaim state.db deviceId expectedJobId).map fun (db, job) =>
      ({ state with
        db
        claims := updateWhere
          (fun claim => claim.deviceId == deviceId && reg.token == some claim.claimToken)
          (fun claim => { claim with jobId := some job.id }) state.claims },
        { reg with runAttempt := some (job.runAttempt + 1) })
  else
    none

/-- The terminal transaction of a run that reports its result. -/
def completeRun (state : Runtime) (jobId runAttempt : Nat) (token : String)
    (dispositions : Dict LogicalIdentity RowDisposition) (status : JobStatus)
    (error : Option Json) : Except AttemptError Runtime := do
  let (completed, result) ← completeExecutionResult codec state jobId runAttempt token dispositions
  match terminalize completed.db jobId
      { status, expect := .running, runAttempt := some runAttempt, result := some (.obj result)
        error, setDeviceId := none, generationOutcome := none } with
  | .error refused => throw (.core refused)
  | .ok (_, none) => throw (.ownershipLost "Execution terminal ownership was lost")
  | .ok (db, some _) => pure { completed with db }

end NsoAdapter.Execution
