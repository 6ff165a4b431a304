import NsoAdapter.Execution.RunEnds

/-! Claimed work as open transactions. A transaction locks claim rows, stages its writes and
commits or rolls back, with any other transaction in between; a row lock is held to the end
of its transaction. -/

namespace NsoAdapter.Execution
open Lib Store Projection NsoAdapter.Core

/-- A claim row as its holder names it: the device and the token. -/
abbrev ClaimKey := Nat × String

def DeviceClaim.key (claim : DeviceClaim) : ClaimKey := (claim.deviceId, claim.claimToken)

def ClaimRegistration.key? (reg : ClaimRegistration) : Option ClaimKey :=
  match reg.deviceId, reg.token with
  | some deviceId, some token => some (deviceId, token)
  | _, _ => none

def Runtime.claimKeys (state : Runtime) : List ClaimKey := state.claims.map DeviceClaim.key

structure ClaimedRun where
  key : ClaimKey
  jobId : Nat
  runAttempt : Nat
  deriving DecidableEq

/-- A stale claim as the reaper locked it, and what it then read of the claim's job. -/
structure ScannedClaim where
  claim : DeviceClaim
  observed : Option (Option (JobType × Nat))

/-- An open transaction: of a holder, with the writes it has staged, or of the reaper. -/
inductive Session where
  | work (staged : List RuntimeEvent)
  | reap (scanned : List ScannedClaim)

/-- The committed rows, the row locks on claims and the open transactions; the rest is history. -/
structure ClaimStore where
  runtime : Runtime
  holder : ClaimKey → Option Nat
  sessions : Nat → Option Session
  minted : List String
  retired : List ClaimKey
  runs : List ClaimedRun
  revoked : List ClaimedRun

inductive ClaimEvent where
  | acquire (deviceId : Nat) (purpose : ClaimPurpose) (run : Option (Nat × Nat)) (token : String)
      (now : Nat)
  | heartbeat (reg : ClaimRegistration) (now : Nat)
  | begin (session : Nat)
  | lockClaim (session : Nat) (reg : ClaimRegistration)
  | stage (session : Nat) (event : RuntimeEvent)
  | scan (session cutoff : Nat)
  | observe (session : Nat) (key : ClaimKey)
  | commit (session : Nat) (reads : DeviceClaim → RequeueReads)
  | rollback (session : Nat)

def deletedKeys (before after : Runtime) : List ClaimKey :=
  before.claimKeys.filter fun key => !after.claimKeys.contains key

def startedRun (state : Runtime) : RuntimeEvent → List ClaimedRun
  | .startUnderClaim deviceId reg expectedJobId =>
    match reg.key?, startHeadUnderClaim state.db deviceId expectedJobId with
    | some key, some (_, job) => [⟨key, job.id, job.runAttempt + 1⟩]
    | _, _ => []
  | _ => []

namespace ClaimStore

def close (state : ClaimStore) (session : Nat) : ClaimStore :=
  { state with
    holder := fun key => if state.holder key = some session then none else state.holder key
    sessions := Function.update state.sessions session none }

/-- Whether the transaction may make these writes: a claim row is locked before it is written, and
the head of a device is started under the device's claim, once for each. -/
def permitted (state : ClaimStore) (session : Nat) : RuntimeEvent → Bool
  | .acquire .. | .heartbeat .. | .revokeStaleClaims .. | .operation (.startHead ..) => false
  | .startUnderClaim deviceId reg _ =>
    match reg.key? with
    | none => false
    | some key => key.1 == deviceId && state.holder key == some session &&
        !state.runs.any fun run => run.key == key
  | .release reg | .markFailedAndRelease _ _ _ reg | .disposeCancelled _ _ reg _ _ =>
    match reg.key? with
    | none => true
    | some key => state.holder key == some session
  | _ => true

variable (digestDocument : DocumentDigest) (codec : EvidenceCodec)

def perform (session : Nat) (state : ClaimStore) (event : RuntimeEvent) : Option ClaimStore :=
  if state.permitted session event then
    (event.run digestDocument codec state.runtime).map fun runtime => { state with
      runtime
      retired := state.retired ++ deletedKeys state.runtime runtime
      runs := state.runs ++ startedRun state.runtime event }
  else
    none

def revoke (reads : DeviceClaim → RequeueReads) (state : ClaimStore) (scanned : ScannedClaim) : Option ClaimStore :=
  if scanned.claim.jobId.isSome && scanned.observed.isNone then
    none
  else
    (revokeClaim codec state.runtime scanned.claim scanned.observed.join
      (reads scanned.claim)).toOption.map fun runtime => { state with
        runtime
        retired := state.retired ++ deletedKeys state.runtime runtime
        revoked := state.revoked ++
          state.runs.filter fun run => run.key == DeviceClaim.key scanned.claim }

/-- `acquire_claim` with a freshly minted token. A provision names its own running job: the
job got as far as the attempt the caller runs at. -/
def acquire (state : ClaimStore) (deviceId : Nat) (purpose : ClaimPurpose)
    (run : Option (Nat × Nat)) (token : String) (now : Nat) : Option ClaimStore :=
  if state.minted.contains token ||
      run.any (fun (jobId, attempt) => !state.runtime.db.jobs.any fun job =>
        job.id == jobId && decide (attempt ≤ job.runAttempt)) then
    none
  else
    match acquireClaim state.runtime deviceId purpose (run.map (·.1)) token now with
    | (_, none) => some { state with minted := token :: state.minted }
    | (runtime, some _) => some { state with
        runtime
        minted := token :: state.minted
        runs := state.runs ++ run.toList.map fun (jobId, attempt) =>
          ⟨(deviceId, token), jobId, attempt⟩ }

/-- An absent row ends the transaction with `ClaimLostError`; a row that another transaction has
locked makes it wait. -/
def lockClaim (state : ClaimStore) (session : Nat) (reg : ClaimRegistration) : Option ClaimStore :=
  if (state.sessions session).isNone then
    none
  else if !reg.registered then
    some state
  else if !Execution.lockClaim state.runtime reg then
    some (state.close session)
  else
    match reg.key? with
    | none => none
    | some key =>
      match state.holder key with
      | none => some { state with holder := Function.update state.holder key (some session) }
      | some other => if other = session then some state else none

def scan (state : ClaimStore) (session cutoff : Nat) : Option ClaimStore :=
  let stale := state.runtime.claims.filter fun claim => claim.heartbeatAt < cutoff
  match state.sessions session with
  | some (.work []) =>
    if stale.all fun claim => (state.holder (DeviceClaim.key claim)).all (· == session) then
      some { state with
        holder := fun key =>
          if stale.any fun claim => DeviceClaim.key claim == key then some session
          else state.holder key
        sessions := Function.update state.sessions session
          (some (.reap (stale.map fun claim => ⟨claim, none⟩))) }
    else
      none
  | _ => none

/-- The reaper reads the job of a claim, without a lock on it. -/
def observedJob (db : Database) (claim : DeviceClaim) : Option (JobType × Nat) :=
  (claim.jobId.bind db.job?).map fun job => (job.jobType, job.runAttempt)

def observe (state : ClaimStore) (session : Nat) (key : ClaimKey) : Option ClaimStore :=
  match state.sessions session with
  | some (.reap scanned) =>
    some { state with
      sessions := Function.update state.sessions session (some (.reap (scanned.map fun entry =>
        if DeviceClaim.key entry.claim = key then
          { entry with observed := some (observedJob state.runtime.db entry.claim) }
        else
          entry))) }
  | _ => none

def commit (state : ClaimStore) (session : Nat) (reads : DeviceClaim → RequeueReads) : Option ClaimStore :=
  match state.sessions session with
  | none => none
  | some (.work staged) =>
    (staged.foldlM (perform digestDocument codec session) state).map (·.close session)
  | some (.reap scanned) => (scanned.foldlM (revoke codec reads) state).map (·.close session)

end ClaimStore

variable (digestDocument : DocumentDigest) (codec : EvidenceCodec)

def ClaimEvent.run : ClaimEvent → ClaimStore → Option ClaimStore
  | .acquire deviceId purpose run token now, state =>
    state.acquire deviceId purpose run token now
  | .heartbeat reg now, state =>
    if (reg.key?.bind state.holder).isNone then
      some { state with runtime := Execution.heartbeat state.runtime reg now }
    else
      none
  | .begin session, state =>
    if (state.sessions session).isNone then
      some { state with sessions := Function.update state.sessions session (some (.work [])) }
    else
      none
  | .lockClaim session reg, state => state.lockClaim session reg
  | .stage session event, state =>
    match state.sessions session with
    | some (.work staged) => some { state with
        sessions := Function.update state.sessions session (some (.work (staged ++ [event]))) }
    | _ => none
  | .scan session cutoff, state => state.scan session cutoff
  | .observe session key, state => state.observe session key
  | .commit session reads, state => state.commit digestDocument codec session reads
  | .rollback session, state => some (state.close session)

def claimSystem : TransitionSystem ClaimStore ClaimEvent where
  initial state := (runtimeSystem digestDocument codec).initial state.runtime ∧
    (∀ key, state.holder key = none) ∧ (∀ session, state.sessions session = none) ∧
    state.retired = [] ∧ state.runs = [] ∧ state.revoked = []
  step := ClaimEvent.run digestDocument codec

end NsoAdapter.Execution
