import NsoAdapter.Core.TombstoneSweep
import NsoAdapter.Execution.Evidence

/-! The execution attempt of a worker run (`store/execution_attempt_store.py`): its
preparation before the send, the response checkpoints, and the two ways it ends. Each
function runs in its caller's transaction, which is rolled back when it raises. -/

namespace NsoAdapter.Execution
open Lib Store Projection NsoAdapter.Core StaticRoute

/-- `PURPOSES`: the five holders of a claim. -/
inductive ClaimPurpose where
  | job | intentPut | teardown | sweep | failover

structure DeviceClaim where
  deviceId : Nat
  claimToken : String
  purpose : ClaimPurpose
  jobId : Option Nat
  heartbeatAt : Nat

inductive SenderPhase where
  | preCommitDryRun | commit | postCommitVerification
  deriving DecidableEq

def SenderPhase.name : SenderPhase → String
  | .preCommitDryRun => "pre_commit_dry_run"
  | .commit => "commit"
  | .postCommitVerification => "post_commit_verification"

inductive ExitReason where
  | cancelled | timeout | runnerFailed | removalFailed | disposed | orphaned | claimExpired
  deriving DecidableEq

/-- `_EXIT_MESSAGES`. -/
def ExitReason.message : ExitReason → String
  | .cancelled => "Execution cancelled"
  | .timeout => "Execution budget expired"
  | .runnerFailed => "Execution runner failed"
  | .removalFailed => "Removal runner failed"
  | .disposed => "Execution ownership disposed"
  | .orphaned => "Execution interrupted by restart"
  | .claimExpired => "Execution claim expired"

/-- The members of `response_classification`. -/
inductive CheckpointKey where
  | sender (phase : SenderPhase)
  | delivery
  deriving DecidableEq

/-- A recorded checkpoint. A disposition writes the last one under `delivery`. -/
inductive Checkpoint where
  | refused (refusals : List Refusal)
  | protocolFault
  | unavailable
  | rejected
  | verified
  | acknowledged
  | undelivered (reason : ExitReason)
  deriving DecidableEq

inductive ErrorClassification where
  | definiteRefusal (records : List Refusal)
  | protocolFault
  | unavailable
  | ordinaryRejection

inductive AttemptPhase where
  | prepared | responseRecorded | terminal
  deriving DecidableEq

inductive RowDisposition where
  | inSync | refused | notApplied | unavailable
  deriving DecidableEq

def RowDisposition.name : RowDisposition → String
  | .inSync => "in_sync"
  | .refused => "refused"
  | .notApplied => "not_applied"
  | .unavailable => "unavailable"

structure GenerationAuthority where
  generationId : Nat
  documentDigest : String
  streamRevisions : List (ProjectionStream × Nat)
  sourcePushSeq : List (ProjectionStream × Option Nat)
  settlementCohort : Option Nat
  deriving DecidableEq

structure ApplyExecutionAttempt where
  id : Nat
  deviceId : Nat
  generationId : Nat
  jobId : Option Nat
  jobCorrelationId : Nat
  runAttempt : Nat
  operationKind : JobType
  documentDigest : String
  claimToken : String
  streamRevisions : Dict ProjectionStream Nat
  generationAuthorities : List GenerationAuthority
  manualAttemptId : Option Nat
  removalTombstoneIds : List Nat
  logicalMembership : List LogicalRow
  attemptedCarriers : List SettlementOwner
  safeOrigins : OriginIndex
  phase : AttemptPhase
  responsePhase : Option SenderPhase
  responseClassification : Dict CheckpointKey Checkpoint
  commitAcknowledged : Bool

structure RowOutcome where
  executionAttemptId : Nat
  identity : LogicalIdentity
  sourceIdentity : List SourceRef
  logicalIdentity : List (String × Json)
  carrierIdentity : List (String × Json)
  disposition : RowDisposition
  refusals : List Refusal

structure Runtime where
  db : Database
  claims : List DeviceClaim
  attempts : List ApplyExecutionAttempt
  outcomes : List RowOutcome
  nextAttemptId : Nat

/-- What the attempt store raises, violated constraints of its tables included. -/
inductive AttemptError where
  | ownershipLost (message : String)
  | invalid (message : String)
  | integrity (constraint : String)
  | core (error : CoreError)

/-- `_generation_authorities`. -/
def authorityOf (generation : DeploymentGeneration) : GenerationAuthority :=
  ⟨generation.id, generation.digest, generation.streamRevisions, generation.sourcePushSeq,
    generation.settlementCohort⟩

def Runtime.claim? (state : Runtime) (jobId : Nat) : Option DeviceClaim :=
  match (state.db.job? jobId).bind (·.deviceId) with
  | none => none
  | some deviceId => state.claims.find? fun claim => claim.deviceId == deviceId

/-- Whether the claim on the job's device is the caller's. No token asks for no claim. -/
def claimMatches (claim : Option DeviceClaim) (jobId : Nat) : Option String → Bool
  | none => claim.isNone
  | some token =>
    match claim with
    | none => false
    | some held => held.claimToken == token && held.jobId == some jobId

/-- The run's job, the generations it carries and the highest of them. -/
def lockRun (state : Runtime) (jobId runAttempt : Nat) (token : Option String) (generationId : Nat) :
    Except AttemptError (Job × List DeploymentGeneration × DeploymentGeneration) :=
  let lost := AttemptError.ownershipLost
    "Execution attempt no longer owns this job and generation"
  match state.db.jobs.find? (ownership jobId .running (some runAttempt)),
      (state.db.jobGenerations jobId).getLast? with
  | some job, some generation =>
    if claimMatches (state.claim? jobId) jobId token && generation.id == generationId &&
        (state.db.jobGenerations jobId).all (fun row => some row.deviceId == job.deviceId) &&
        job.jobType.deviceWriting then
      .ok (job, state.db.jobGenerations jobId, generation)
    else
      .error lost
  | _, _ => .error lost

def matchesAuthority (generations : List DeploymentGeneration) (logical : LogicalRow) : Bool :=
  match generations.find? (fun generation => some generation.id == logical.generationId) with
  | none => false
  | some authority =>
    (authority.streamRevisions.lookup logical.stream).isSome &&
      logical.frozenRevision == authority.streamRevisions.lookup logical.stream &&
      logical.sourcePushSeq == (authority.sourcePushSeq.lookup logical.stream).join &&
      logical.settlementCohort == authority.settlementCohort &&
      logical.carrier.generationId == some authority.id &&
      logical.carrier.stream == logical.stream &&
      logical.carrier.frozenRevision == logical.frozenRevision &&
      logical.carrier.settlementCohort == logical.settlementCohort &&
      logical.carrier.sourcePushSeq == logical.sourcePushSeq

def validateLogicalMembership (generations : List DeploymentGeneration)
    (logicals : List LogicalRow) : Except AttemptError Unit :=
  if ¬(logicals.map LogicalRow.identity).Nodup then
    .error (.invalid "Attempted logical membership must be unique")
  else if logicals.all (matchesAuthority generations) then
    .ok ()
  else
    .error (.invalid "Logical membership does not match the frozen generation")

/-- The tombstones a removal's attempt names, all of which its job must own. -/
def removalTombstones (state : Runtime) (job : Job) (generation : DeploymentGeneration) :
    Except AttemptError (List Nat) :=
  let tombstoneIds := orderBy id (attemptTombstones job generation)
  if tombstoneIds.any (· == 0) then
    .error (.invalid "Removal authority requires concrete tombstone identities")
  else if ownsTombstones state.db job tombstoneIds then
    .ok tombstoneIds
  else
    .error (.ownershipLost "Removal attempt no longer owns its tombstones")

def preparedAttempt (state : Runtime) (job : Job) (generations : List DeploymentGeneration)
    (generation : DeploymentGeneration) (claimToken : String) (tombstoneIds : List Nat)
    (origins : OriginIndex) (logicals : List LogicalRow) : ApplyExecutionAttempt :=
  { id := state.nextAttemptId, deviceId := generation.deviceId, generationId := generation.id
    jobId := some job.id, jobCorrelationId := job.id, runAttempt := job.runAttempt
    operationKind := job.jobType, documentDigest := generation.digest, claimToken
    streamRevisions := Dict.update [] (generations.flatMap (·.streamRevisions))
    generationAuthorities := generations.map authorityOf
    manualAttemptId := generation.applyAttemptId, removalTombstoneIds := tombstoneIds
    logicalMembership := logicals
    attemptedCarriers := (logicals.map (·.carrier)).eraseDups, safeOrigins := origins
    phase := .prepared, responsePhase := none, responseClassification := []
    commitAcknowledged := false }

def attemptConstraints (state : Runtime) (jobId runAttempt : Nat) : Except AttemptError Unit :=
  if runAttempt = 0 then
    .error (.integrity "ck_execution_attempt_run")
  else if state.attempts.any fun attempt =>
      attempt.jobId == some jobId && attempt.runAttempt == runAttempt then
    .error (.integrity "uq_execution_attempt_job_run")
  else if state.attempts.any fun attempt =>
      attempt.jobCorrelationId == jobId && attempt.runAttempt == runAttempt then
    .error (.integrity "uq_execution_attempt_correlation_run")
  else
    .ok ()

def prepareExecutionAttempt (state : Runtime) (jobId runAttempt : Nat) (claimToken : String)
    (generationId : Nat) (origins : OriginIndex) (logicals : List LogicalRow) :
    Except AttemptError (Runtime × ApplyExecutionAttempt) := do
  let (job, generations, generation) ←
    lockRun state jobId runAttempt (some claimToken) generationId
  validateLogicalMembership generations logicals
  let tombstoneIds ← removalTombstones state job generation
  attemptConstraints state jobId runAttempt
  let attempt :=
    preparedAttempt state job generations generation claimToken tombstoneIds origins logicals
  pure ({ state with
    attempts := state.attempts ++ [attempt], nextAttemptId := state.nextAttemptId + 1 }, attempt)

def ownedAttempt (state : Runtime) (attemptId jobId runAttempt : Nat) (token : String) :
    Except AttemptError ApplyExecutionAttempt :=
  match state.attempts.find? (fun attempt => attempt.id == attemptId) with
  | none => .error (.ownershipLost "Execution attempt is absent")
  | some attempt => do
      let (job, generations, generation) ←
        lockRun state jobId runAttempt (some token) attempt.generationId
      if attempt.jobId == some job.id && attempt.runAttempt == runAttempt &&
          attempt.claimToken == token && attempt.documentDigest == generation.digest &&
          attempt.generationAuthorities == generations.map authorityOf &&
          attempt.phase != .terminal then
        pure attempt
      else
        throw (.ownershipLost "Execution attempt no longer owns this settlement")

abbrev Codec := Refusal → Bool

/-- `catalog_records`, and the check `refusals_from_payload` makes. -/
def catalogRecords (codec : Codec) (records : List Refusal) : Except AttemptError (List Refusal) :=
  if records.all codec then
    .ok records
  else
    .error (.invalid "Refusal evidence must use the codec catalog")

def checkpointOf (codec : Codec) (classification : Option ErrorClassification)
    (senderPhase : SenderPhase) (commitAcknowledged : Bool) : Except AttemptError Checkpoint :=
  match classification, senderPhase with
  | some (.definiteRefusal []), _ =>
    .error (.invalid "A refusal checkpoint requires codec catalog records")
  | some (.definiteRefusal records), _ => (catalogRecords codec records).map .refused
  | some .protocolFault, _ => .ok .protocolFault
  | some .unavailable, _ => .ok .unavailable
  | some .ordinaryRejection, _ => .ok .rejected
  | none, .postCommitVerification => .ok .verified
  | none, .commit =>
    if commitAcknowledged then .ok .acknowledged
    else .error (.invalid "A response checkpoint requires safe classification")
  | none, .preCommitDryRun =>
    .error (.invalid "A response checkpoint requires safe classification")

def updateAttempt (state : Runtime) (attemptId : Nat)
    (update : ApplyExecutionAttempt → ApplyExecutionAttempt) : Runtime :=
  { state with
    attempts := updateWhere (fun attempt => attempt.id == attemptId) update state.attempts }

def recordClassifiedResponse (codec : Codec) (state : Runtime) (attemptId jobId runAttempt : Nat)
    (claimToken : String) (classification : Option ErrorClassification)
    (senderPhase : SenderPhase) (commitAcknowledged : Bool) : Except AttemptError Runtime := do
  let attempt ← ownedAttempt state attemptId jobId runAttempt claimToken
  let checkpoint ← checkpointOf codec classification senderPhase commitAcknowledged
  if (attempt.responseClassification.get? (.sender senderPhase)).isSome then
    throw (.invalid "A recorded response checkpoint is immutable")
  else if commitAcknowledged && checkpoint != .acknowledged then
    throw (.invalid "Commit acknowledgement requires a successful commit response")
  else if senderPhase == .postCommitVerification && !attempt.commitAcknowledged then
    throw (.invalid "Verification requires a recorded commit acknowledgement")
  else
    pure (updateAttempt state attemptId fun attempt => { attempt with
      responseClassification := attempt.responseClassification.set (.sender senderPhase) checkpoint
      responsePhase := some senderPhase
      commitAcknowledged := attempt.commitAcknowledged || commitAcknowledged
      phase := .responseRecorded })

end NsoAdapter.Execution
