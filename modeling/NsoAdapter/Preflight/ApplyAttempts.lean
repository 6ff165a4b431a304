import NsoAdapter.Preflight.Admission

/-! Manual apply requests under an attempt UUID (`action_apply`,
`store/apply_attempt_store.py`), with any number of requests in flight. An attempt is reserved
and completed in one transaction, and every later request under its UUID is replayed or
refused. -/

namespace NsoAdapter.Preflight
open Lib Projection Store NsoAdapter.Core StaticRoute
open Execution

/-! ### The answers of a request -/

structure Reply where
  status : Nat
  body : Dict String Json

structure StoredBody where
  members : Dict String Json
  distinct : ("_preflight_identity" :: members.map (·.1)).Nodup

/-- The envelope of `api_error`. -/
def errorBody (code message : String) (detail : Dict String Json) : StoredBody where
  members := [("error", .obj [("code", .str code), ("message", .str message),
    ("detail", .obj detail)])]
  distinct := by simp

def apiError (status : Nat) (code message : String) (detail : Dict String Json) : Reply :=
  ⟨status, (errorBody code message detail).members⟩

def storeOnlyRefusal : Reply :=
  apiError 422 "validation_error" "store_only is not valid for the Apply action" []

def deviceNotFound : Reply :=
  apiError 404 "not_found" "Device not found" []

/-- The component that `ApplyAttemptIdentityMismatch` names. -/
inductive Mismatch where
  | deviceId | selected | preflightIdentity

def Mismatch.name : Mismatch → String
  | .deviceId => "device_id"
  | .selected => "selected"
  | .preflightIdentity => "preflight_identity"

def identityConflict (field : Mismatch) : Reply :=
  apiError 409 "conflict" "Apply attempt UUID belongs to a different request identity"
    [("mismatch", .str field.name)]

def StaleReason.name : StaleReason → String
  | .liveInputInconclusive => "live_input_inconclusive"
  | .inputsChanged => "inputs_changed"

def staleBody (reason : StaleReason) : StoredBody :=
  errorBody "preflight_stale" "Manual Apply needs a fresh preflight" [("reason", .str reason.name)]

def jobConflictBody (jobId : Nat) : StoredBody :=
  errorBody "conflict" "A job is already queued or running for this device"
    [("job_id", .num jobId)]

def unexecutableName : UnexecutableReason → String
  | .eligibilityUnresolved => "interface_attribute_eligibility_unresolved"
  | .mixedDetachReplacement => "mixed_detach_replacement"
  | .unresolvedInterfaceIdentity => "unresolved_interface_identity"
  | .noExecutableInterface => "no_executable_interface"
  | .invalidStoredAddress => "invalid_stored_address"

def streamObject {Value : Type} (encode : Value → Json) (dict : Dict ProjectionStream Value) : Json :=
  .obj ((canonical dict).map fun entry => (streamName entry.1, encode entry.2))

def unexecutableBody (reasons : Dict ProjectionStream UnexecutableReason) : StoredBody :=
  errorBody "apply_unexecutable"
    ("Selected stream(s) cannot be applied faithfully: " ++
      ", ".intercalate ((canonical reasons).map fun entry => streamName entry.1))
    [("streams", streamObject (fun reason => .str (unexecutableName reason)) reasons)]

def skipName : SkipReason → String
  | .noReceipt => "no_receipt"
  | .superseded => "superseded"
  | .backfillOnly => "backfill_only"
  | .revisionMismatch => "revision_mismatch"
  | .alreadyApplied => "already_applied"
  | .alreadyAuthorized => "already_authorized"
  | .noPreparedRevision => "no_prepared_revision"

def generationStatusName : GenerationStatus → String
  | .pending => "pending"
  | .running => "running"
  | .settled => "settled"
  | .failed => "failed"
  | .outcomeUnknown => "outcome_unknown"
  | .abandoned => "abandoned"

def generationModeName : GenerationMode → String
  | .networked => "networked"
  | .detach => "detach"

def selectedRevision (store : PromotionStore) (stream : ProjectionStream) (selector : Nat) : Option Nat :=
  if stream.outOfProtocol then some selector
  else (store.streamRow stream).map (·.authorizedRevision)

/-- The `skipped_detail` of `_selected_promotions`. -/
def skippedDetail (store : PromotionStore) (selected : Dict ProjectionStream Nat)
    (skipped : Dict ProjectionStream SkipReason) : Dict ProjectionStream Json :=
  (canonical selected).filterMap fun entry =>
    if skipped.get? entry.1 = some .alreadyAuthorized then
      (selectedRevision store entry.1 entry.2).bind fun revision =>
        (authorizedGeneration store.db store.deviceId entry.1 revision).map fun generation =>
          (entry.1, .obj [("generation_id", .num generation.id), ("seq", .num generation.seq),
            ("status", .str (generationStatusName generation.status))])
    else none

def attachedJob (db : Database) (generation : DeploymentGeneration) : Option Nat :=
  (db.generation? generation.id).bind (·.jobId)

def generationRecord (db : Database) (generation : DeploymentGeneration) : Json :=
  .obj [("generation_id", .num generation.id), ("seq", .num generation.seq),
    ("job_id", optionalNum (attachedJob db generation)),
    ("mode", .str (generationModeName generation.mode)),
    ("source_push_seq", streamObject optionalNum generation.sourcePushSeq),
    ("stream_revisions", streamObject (fun revision => .num (revision : Nat))
      generation.streamRevisions),
    ("digest", .str generation.digest)]

/-- The body of an admitted apply; `jobId` is the job of the head of its chain. -/
def admittedBody (store : PromotionStore) (deviceId : Nat) (selected : Dict ProjectionStream Nat)
    (result : ActionApply) (jobId : Option Nat) : StoredBody where
  members :=
    [("device_id", .num deviceId),
      ("outcome", .str (if result.generations.isEmpty then "no_op" else "promoted")),
      ("selected", streamObject (fun selector => .num (selector : Nat)) selected),
      ("skipped", streamObject (fun reason => .str (skipName reason)) result.skipped),
      ("skipped_detail",
        let detail := skippedDetail store selected result.skipped
        if detail.isEmpty then .null else streamObject id detail),
      ("generations", .arr (result.generations.map (generationRecord result.store.db)))] ++
    jobId.toList.map fun jobId => ("job_id", .num jobId)
  distinct := by cases jobId <;> simp

/-! ### Stored attempts -/

inductive AdmissionState where
  | admitted | rejected

/-- `DeploymentApplyAttempt`. -/
structure ApplyAttempt where
  id : Nat
  deviceId : Nat
  selected : Dict ProjectionStream Nat
  admissionState : AdmissionState
  httpStatus : Nat
  response : Dict String Json

structure ApplyDelivery where
  deviceId : Nat
  request : ApplyRequest
  storeOnly : Bool

def ApplyDelivery.attemptId (delivery : ApplyDelivery) : Nat :=
  delivery.request.applyAttemptId

def ApplyDelivery.SameRequest (left right : ApplyDelivery) : Prop :=
  left.deviceId = right.deviceId ∧
    canonical left.request.selected.entries = canonical right.request.selected.entries ∧
    left.request.preflightIdentity = right.request.preflightIdentity

instance (left right : ApplyDelivery) : Decidable (left.SameRequest right) :=
  inferInstanceAs (Decidable (_ ∧ _ ∧ _))

def applyResponseBody (response : Dict String Json) : Dict String Json :=
  response.filter fun entry => entry.1 != "_preflight_identity"

namespace ApplyAttempt

/-- The comparisons of `replay_apply_attempt`. -/
def mismatch (attempt : ApplyAttempt) (delivery : ApplyDelivery) : Option Mismatch :=
  if attempt.deviceId ≠ delivery.deviceId then some .deviceId
  else if canonical attempt.selected ≠ canonical delivery.request.selected.entries then
    some .selected
  else if attempt.response.get? "_preflight_identity" ≠
      some (.str delivery.request.preflightIdentity) then
    some .preflightIdentity
  else none

def reply (attempt : ApplyAttempt) : Reply :=
  ⟨attempt.httpStatus, applyResponseBody attempt.response⟩

def reserved (delivery : ApplyDelivery) : ApplyAttempt where
  id := delivery.attemptId
  deviceId := delivery.deviceId
  selected := canonical delivery.request.selected.entries
  admissionState := .admitted
  httpStatus := 500
  response := [("_preflight_identity", .str delivery.request.preflightIdentity)]

/-- `complete_apply_attempt`. -/
def complete (attempt : ApplyAttempt) (admissionState : AdmissionState) (httpStatus : Nat)
    (response : StoredBody) : ApplyAttempt :=
  { attempt with admissionState, httpStatus, response := attempt.response.update response.members }

end ApplyAttempt

def replayApplyAttempt (attempts : List ApplyAttempt) (delivery : ApplyDelivery) : Except Mismatch (Option Reply) :=
  match attempts.find? fun attempt => attempt.id == delivery.attemptId with
  | none => .ok none
  | some attempt =>
    match attempt.mismatch delivery with
    | some field => .error field
    | none => .ok (some attempt.reply)

/-! ### Requests in flight -/

/-- A request past its first transaction: the live read, the device mapping it was made for, and
the row that its second transaction inserted and has not committed. -/
structure ApplySession where
  delivery : ApplyDelivery
  live : Option ServiceState
  readMapping : String × String
  attempt : Option ApplyAttempt

/-- An answer that was given; `stored` says that its attempt was committed with it. -/
structure Answer where
  delivery : ApplyDelivery
  reply : Reply
  stored : Bool
  created : List Nat

/-- The answers are in the order they were given, the last one first. -/
structure ApplyState where
  adapter : Adapter
  devices : Nat → Option (String × String)
  attempts : List ApplyAttempt
  sessions : Dict Nat ApplySession
  answers : List Answer

namespace ApplyState

def close (state : ApplyState) (key : Nat) : ApplyState :=
  { state with sessions := state.sessions.filter fun entry => entry.1 != key }

def answer (state : ApplyState) (delivery : ApplyDelivery) (reply : Reply) : ApplyState :=
  { state with answers := ⟨delivery, reply, false, []⟩ :: state.answers }

def finish (state : ApplyState) (delivery : ApplyDelivery) (attempt : ApplyAttempt)
    (admissionState : AdmissionState) (status : Nat) (body : StoredBody) (created : List Nat) :
    ApplyState :=
  { state with
    attempts := attempt.complete admissionState status body :: state.attempts
    answers := ⟨delivery, ⟨status, body.members⟩, true, created⟩ :: state.answers }

/-- The transactions of `action_apply` that hold the row of an attempt or the projection lock of
a device that another request needs. -/
def blocked (state : ApplyState) (key : Nat) (delivery : ApplyDelivery) : Bool :=
  state.sessions.any fun entry => entry.1 != key && entry.2.attempt.any fun attempt =>
    attempt.id == delivery.attemptId || attempt.deviceId == delivery.deviceId

end ApplyState

def AdmissionError.body? : AdmissionError → Option StoredBody
  | .stale reason => some (staleBody reason)
  | .refused (.jobConflict jobId) => some (jobConflictBody jobId)
  | .refused (.promotion (.applyJobConflict jobId)) => some (jobConflictBody jobId)
  | .refused (.promotion (.applyUnexecutable reasons)) => some (unexecutableBody reasons)
  | .refused _ => none

def internalError (message : String) : Reply :=
  apiError 500 "internal" message []

inductive ApplyEvent where
  | receive (key : Nat) (delivery : ApplyDelivery) (live : Option ServiceState)
  | begin (key : Nat)
  | resolve (key now : Nat)
  | lose (key : Nat)
  | place (deviceId : Nat) (mapping : String × String)
  | other (event : AdapterEvent)

def ApplyEvent.serves (event : ApplyEvent) (state : ApplyState) : Option ApplyDelivery :=
  match event with
  | .receive _ delivery _ => some delivery
  | .begin key | .resolve key _ => (state.sessions.get? key).map (·.delivery)
  | .lose _ | .place .. | .other _ => none

/-- Chains of a manual apply are created by `resolve` only. -/
def AdapterEvent.manual : AdapterEvent → Bool
  | .createActionApply .. => true
  | _ => false

variable (hashIdentity : IdentityInputs → String) (encoders : Encoders)

/-- The first transaction of `action_apply`. -/
def receive (state : ApplyState) (key : Nat) (delivery : ApplyDelivery) (live : Option ServiceState) : ApplyState :=
  if delivery.storeOnly then state.answer delivery storeOnlyRefusal
  else
    match replayApplyAttempt state.attempts delivery with
    | .error field => state.answer delivery (identityConflict field)
    | .ok (some reply) => state.answer delivery reply
    | .ok none =>
      match state.devices delivery.deviceId with
      | none => state.answer delivery deviceNotFound
      | some mapping =>
        { state with sessions := state.sessions.set key ⟨delivery, live, mapping, none⟩ }

/-- `begin_apply_attempt`, under the projection lock. -/
def beginApplyAttempt (state : ApplyState) (key : Nat) (session : ApplySession) : ApplyState :=
  match replayApplyAttempt state.attempts session.delivery with
  | .error field => (state.close key).answer session.delivery (identityConflict field)
  | .ok (some reply) => (state.close key).answer session.delivery reply
  | .ok none =>
    { state with
      sessions := state.sessions.set key
        { session with attempt := some (.reserved session.delivery) } }

def resolveAttempt (state : ApplyState) (key : Nat) (session : ApplySession) (attempt : ApplyAttempt)
    (mapping : String × String) (now : Nat) : ApplyState :=
  let delivery := session.delivery
  let request := delivery.request
  let store := state.adapter.store delivery.deviceId
  let moment : Moment := ⟨mapping.1, mapping.2, store, now, delivery.attemptId⟩
  match createPreflightedApply hashIdentity encoders delivery.deviceId moment request session.live
      session.readMapping with
  | .error refused =>
    match refused.body? with
    | some body =>
      (state.close key).finish delivery attempt .rejected 409 body []
    | none => (state.close key).answer delivery (internalError "Internal server error")
  | .ok result =>
    let jobId := result.generations.head?.bind (attachedJob result.store.db)
    if result.generations ≠ [] ∧ jobId = none then
      (state.close key).answer delivery
        (internalError "The promoted generation chain has no executable head job")
    else
      let status := if result.generations.isEmpty then 200 else 202
      let body := admittedBody store delivery.deviceId request.selected.entries result jobId
      { (state.close key).finish delivery attempt .admitted status body
          (result.generations.map (·.id)) with adapter := state.adapter.commit result.store }

def applyStep (event : ApplyEvent) (state : ApplyState) : Option ApplyState :=
  match event with
  | .receive key delivery live =>
    if (state.sessions.get? key).isSome then none else some (receive state key delivery live)
  | .begin key =>
    match state.sessions.get? key with
    | none => none
    | some session =>
      if session.attempt.isSome || state.blocked key session.delivery then none
      else some (beginApplyAttempt state key session)
  | .resolve key now =>
    match state.sessions.get? key with
    | none => none
    | some session =>
      match session.attempt, state.devices session.delivery.deviceId with
      | some attempt, some mapping =>
        some (resolveAttempt hashIdentity encoders state key session attempt mapping now)
      | _, _ => none
  | .lose key => some (state.close key)
  | .place deviceId mapping =>
    some { state with devices := Function.update state.devices deviceId (some mapping) }
  | .other event =>
    if AdapterEvent.manual event then none
    else (adapterStep (encoders.environment 0) event state.adapter).map fun adapter =>
      { state with adapter }

/-- Manual apply beside the events of the adapter; no device is deleted. A request that is lost
leaves nothing. -/
def applySystem : TransitionSystem ApplyState ApplyEvent where
  initial state := (adapterSystem (encoders.environment 0)).initial state.adapter ∧
    state.attempts = [] ∧ state.sessions = [] ∧ state.answers = []
  step := applyStep hashIdentity encoders

end NsoAdapter.Preflight
