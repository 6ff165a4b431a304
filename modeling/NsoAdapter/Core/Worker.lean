import NsoAdapter.Core.Generation

/-! The two job transitions a generation follows: the worker's start under the
device claim (`core/worker.py`) and the one terminal writer (`core/claim.py`).
The claim itself only excludes other workers, and each function here is one
transaction. -/

namespace NsoAdapter.Core
open Lib Store

/-- `queued → running`, with the run-attempt bump. -/
def startJob (db : Database) (jobId : Nat) : Database :=
  updateJobs db (fun job => job.id == jobId)
    fun job => { job with status := .running, runAttempt := job.runAttempt + 1 }

/-- The queued jobs of a device in FIFO order, narrowed to the inspected one if
there is one. -/
def queuedCandidates (db : Database) (deviceId : Nat) (expectedJobId : Option Nat) : List Job :=
  orderBy Job.queueKey (db.jobs.filter fun job =>
    job.deviceId == some deviceId && job.status == .queued &&
      match expectedJobId with
      | none => true
      | some expected => job.id == expected)

/-- Start the first queued job the barrier admits. -/
def startHeadUnderClaim (db : Database) (deviceId : Nat) (expectedJobId : Option Nat) : Option (Database × Job) :=
  match (queuedCandidates db deviceId expectedJobId).find?
      fun job => jobAdmissible db job.id deviceId with
  | none => none
  | some job => some (startJob (markJobGenerationsRunning db job.id) job.id, job)

/-- Start the oldest queued job with no device. -/
def claimNextClaimlessJob (db : Database) : Option (Database × Job) :=
  match (orderBy Job.queueKey (db.jobs.filter fun job =>
      job.deviceId == none && job.status == .queued)).head? with
  | none => none
  | some job => some (startJob db job.id, job)

/-- The status the caller observed and, when named, the attempt. -/
def ownership (jobId : Nat) (expect : JobStatus) (runAttempt : Option Nat) (job : Job) : Bool :=
  job.id == jobId && job.status == expect &&
    match runAttempt with
    | none => true
    | some attempt => job.runAttempt == attempt

structure TerminalWrite where
  jobId : Nat
  status : JobStatus
  deviceId : Option Nat
  settleSeq : Option Nat

/-- The values of one terminal write. `setDeviceId` is given by the provision
success path only. -/
structure TerminalRequest where
  status : JobStatus
  expect : JobStatus
  runAttempt : Option Nat
  result : Option Json
  error : Option Json
  setDeviceId : Option (Option Nat)
  generationOutcome : Option GenerationStatus

def TerminalRequest.outcome (request : TerminalRequest) : GenerationStatus :=
  request.generationOutcome.getD
    (if request.status = .succeeded then .settled else .failed)

/-- `_cas_job_status` as a terminal write issues it. -/
def casTerminalStatus (db : Database) (jobId : Nat) (request : TerminalRequest) : Database :=
  updateJobs db (ownership jobId request.expect request.runAttempt) fun job =>
    { job with
      status := request.status
      result := request.result.orElse fun _ => job.result
      error := request.error.orElse fun _ => job.error
      deviceId := request.setDeviceId.getD job.deviceId }

/-- `allocate_settle_seq` and its write on the job row. -/
def allocateSettleSeq (db : Database) (jobId deviceId : Nat) : Database × Nat :=
  let settleSeq := db.lastSettleSeq deviceId + 1
  (updateJobs { db with lastSettleSeq := Function.update db.lastSettleSeq deviceId settleSeq }
    (fun job => job.id == jobId) fun job => { job with settleSeq := some settleSeq }, settleSeq)

/-- A missed predicate writes nothing. -/
def terminalize (db : Database) (jobId : Nat) (request : TerminalRequest) :
    Except CoreError (Database × Option TerminalWrite) :=
  if request.status.live then
    .error (.statusNotTerminal request.status)
  else
    match db.jobs.find? (ownership jobId request.expect request.runAttempt) with
    | none => .ok (db, none)
    | some owned =>
      match settleJobGenerations (casTerminalStatus db jobId request) jobId request.outcome
          request.error with
      | .error refused => .error refused
      | .ok settled =>
        match request.setDeviceId.getD owned.deviceId with
        | none => .ok (settled, some ⟨jobId, request.status, none, none⟩)
        | some deviceId =>
          let (allocated, settleSeq) := allocateSettleSeq settled jobId deviceId
          .ok (allocated, some ⟨jobId, request.status, some deviceId, some settleSeq⟩)

/-- `_queued_successor_id`. -/
def queuedSuccessor (db : Database) (deviceId : Nat) (jobType : JobType) : Option Job :=
  db.jobs.find? fun job =>
    job.deviceId == some deviceId && job.jobType == jobType && job.status == .queued

def supersedingJob (db : Database) (jobId : Nat) : Option Job :=
  match db.jobs.find? fun job => job.id == jobId && job.status == .running with
  | none => none
  | some job =>
    match job.deviceId with
    | none => none
    | some deviceId =>
      if job.jobType = .removal then none else queuedSuccessor db deviceId job.jobType

def supersededError (successorId : Option Nat) : Json :=
  .obj [("code", .str "superseded"),
    ("message", .str "Interrupted; an equivalent queued job covers the re-run"),
    ("detail", .obj [("queued_successor_id", (successorId.map fun id => Json.num id).getD .null)])]

/-- The requeue half of `terminalize_running`. -/
def requeueRunning (db : Database) (jobId : Nat) (error : Option Json)
    (expectedAttempt : Option Nat) : Database × Option JobStatus :=
  if db.jobs.any (ownership jobId .running expectedAttempt) then
    (requeueJobGenerations
      (updateJobs db (ownership jobId .running expectedAttempt) fun job =>
        { job with status := .queued, error := error.orElse fun _ => job.error }) jobId,
      some .queued)
  else
    (db, none)

/-- An interrupted apply is never pushed again. -/
def dispositionFor (jobType : JobType) : JobStatus :=
  if jobType = .apply then .failed else .queued

/-- Recovery's re-disposition of a running job. A requeue that a queued successor covers ends the
job instead. -/
def terminalizeRunning (db : Database) (jobId : Nat) (status : JobStatus) (error : Option Json)
    (expectedAttempt : Option Nat) : Except CoreError (Database × Option JobStatus) :=
  let finish (status : JobStatus) (error : Option Json) (outcome : Option GenerationStatus) :=
    match terminalize db jobId
        { status, expect := .running, runAttempt := expectedAttempt, result := none, error,
          setDeviceId := none, generationOutcome := outcome } with
    | .error refused => Except.error refused
    | .ok (after, write) => .ok (after, write.map (·.status))
  match status, supersedingJob db jobId with
  | .queued, some successor =>
    finish .failed (some (supersededError (some successor.id))) (some .abandoned)
  | .queued, none => .ok (requeueRunning db jobId error expectedAttempt)
  | .failed, _ => finish .failed error (some .outcomeUnknown)
  | status, _ => finish status error none

end NsoAdapter.Core
