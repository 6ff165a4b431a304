import NsoAdapter.Execution.Claim
import NsoAdapter.StaticRoute.Ingestion
import NsoAdapter.StaticRoute.Wire

/-! The settlement of a static-route removal (`core/removal.py`): what the frozen plan says,
the proof gathered after the send, and the one transaction that consumes the carriers and
writes the job's status. -/

namespace NsoAdapter.Execution
open Lib Store Projection NsoAdapter.Core StaticRoute

inductive SrBranch where
  | force | detach | networked | superseded
  deriving DecidableEq

def SrBranch.name : SrBranch → String
  | .force => "force"
  | .detach => "detach"
  | .networked => "networked"
  | .superseded => "superseded"

inductive Verdict where
  | conclusive | inconclusive | disabled
  deriving DecidableEq

def Verdict.name : Verdict → String
  | .conclusive => "conclusive"
  | .inconclusive => "inconclusive"
  | .disabled => "disabled"

/-- The frozen classification and what the send added to it. A clear carries its route key. -/
structure SrRemoval where
  branch : SrBranch
  authorized : List Triple
  tombstoneIds : List Nat
  sentKeys : List Triple
  putIssued : Bool
  verify : Option Verdict
  clears : List SrClear

def classifyStaticRouteRemoval (plan : SrRemovalPlan) (context : RemovalContext) : SrRemoval :=
  if context.force then
    ⟨.force, [], [], [], false, none, []⟩
  else
    { branch :=
        if plan.authorized.isEmpty && plan.clears.isEmpty then .superseded
        else if context.detach then .detach
        else .networked
      authorized := plan.authorized, tombstoneIds := plan.tombstoneIds, sentKeys := []
      putIssued := false, verify := none, clears := plan.clears }

/-- What `_put_removal_document` makes of the classification once the body is built: a clear needs
its route in the body, and a removal left with nothing is superseded. -/
def SrRemoval.bodyBuilt (out : SrRemoval) (sentKeys : List Triple) : SrRemoval :=
  let delivered := out.clears.filter fun clear => sentKeys.contains clear.key
  if out.branch != .force && out.authorized.isEmpty && delivered.isEmpty then
    { out with branch := .superseded, sentKeys := [], clears := [] }
  else
    { out with sentKeys, clears := delivered }

def SrRemoval.sent (out : SrRemoval) (verdict : Verdict) : SrRemoval :=
  { out with putIssued := true, verify := some verdict }

/-- The reads and actions of a settlement. A service read may raise; `sync-from` is tried
twice. -/
structure NsoAnswers where
  device : DeviceState
  service : Option ServiceState
  syncFrom : Bool × Bool

structure RouteStore where
  runtime : Runtime
  routes : List StaticRouteIntent

inductive SettlementError where
  | claimLost
  | claimRequired
  | readFailed
  | unknownClear (field : String)
  | attempt (error : AttemptError)
  | core (error : CoreError)

def srVerifyOk (out : SrRemoval) : Bool :=
  !out.putIssued || out.verify == some .conclusive

def srServiceClean (answers : NsoAnswers) (out : SrRemoval) : Except SettlementError Bool :=
  match answers.service with
  | none => .error .readFailed
  | some service => .ok (serviceClean (certifiedStaticRouteSection service) out.authorized)

def srSyncFrom (answers : NsoAnswers) : Bool :=
  answers.syncFrom.1 || answers.syncFrom.2

structure SrProof where
  proven : Bool
  residue : List Triple
  perField : List SrClear
  notes : List (String × Json)

def keysJson (keys : List Triple) : Json :=
  .arr (keys.map tripleJson)

def provenFields (entries : List (Triple × RouteEntry)) (clear : SrClear) : Except SettlementError SrClear :=
  match entries.lookup clear.key with
  | none => .ok { clear with fields := [] }
  | some entry => do
      let fields ← clear.fields.filterM fun field =>
        match clearWireLeaf.lookup field with
        | none => .error (.unknownClear field)
        | some leaf => .ok (leafIsNeutral field leaf entry)
      pure { clear with fields }

/-- The survivors of the keys a removal dropped, and the verdict if there was one to look for. -/
def residueCheck (device : DeviceState) (consumed : List Triple) : List Triple × Option String :=
  let survivors := sortedKeys (consumed.filter fun key => (device.entries.lookup key).isSome)
  if consumed.isEmpty then
    ([], none)
  else
    match device with
    | .ok _ => (survivors, some (if survivors.isEmpty then "clean" else "found"))
    | unread => ([], some unread.statusName)

def residueNotes (survivors : List Triple) (verdict : Option String) : List (String × Json) :=
  ("residue_check", .str (verdict.getD "unsupported")) ::
    if survivors.isEmpty then [] else [("residue", .obj [("route", keysJson survivors)])]

/-- The authorized keys the service is asked about; none authorized asks nothing. -/
def networkedServiceClean (answers : NsoAnswers) (out : SrRemoval) : Except SettlementError Bool :=
  if out.authorized.isEmpty then .ok true else srServiceClean answers out

def srNetworkedProof (answers : NsoAnswers) (out : SrRemoval) : Except SettlementError SrProof := do
  let consumed := out.authorized.filter fun key => !out.sentKeys.contains key
  let (survivors, verdict) := residueCheck answers.device consumed
  let perField ← out.clears.mapM (provenFields answers.device.entries)
  let clearsOk := (out.clears.zip perField).all fun (clear, proven) =>
    proven.fields.length == clear.fields.length
  let clean ← networkedServiceClean answers out
  pure
    { proven := (verdict == none || verdict == some "clean") && clearsOk && clean && srVerifyOk out
      residue := survivors, perField
      notes := residueNotes survivors verdict ++
        (if out.clears.isEmpty then [] else
          [("pending_clear_proven", .obj ((orderBy (·.rowId) perField).map fun clear =>
            (toString clear.rowId, .arr (clear.fields.map .str))))]) ++
        (if clean then [] else [("service_clean", .bool false)]) }

def srProof (answers : NsoAnswers) (out : SrRemoval) : Except SettlementError SrProof :=
  match out.branch with
  | .superseded => .ok
      { proven := true, residue := [], perField := []
        notes := [("residue_check", .str "skipped_superseded"), ("superseded", .bool true)] }
  | .detach => do
      let clean ← srServiceClean answers out
      pure
        { proven := clean && srSyncFrom answers && out.putIssued && srVerifyOk out
          residue := [], perField := []
          notes := [("detach", .bool true), ("residue_check", .str "skipped_detach")] ++
            if srSyncFrom answers then [] else [("sync_from", .str "failed")] }
  | .networked | .force => srNetworkedProof answers out

def deleteTombstones (state : Runtime) (tombstoneIds : List Nat) (deviceId : Nat)
    (token : String) : Except SettlementError Runtime :=
  if lockClaim state ⟨some deviceId, some token, none⟩ then
    .ok { state with db := Core.deleteTombstones state.db tombstoneIds deviceId }
  else
    .error .claimLost

/-- Empty the proven fields of one row's carrier. -/
def consumeClear (routes : List StaticRouteIntent) (clear : SrClear) : List StaticRouteIntent :=
  if clear.fields.isEmpty then
    routes
  else
    updateWhere (fun route => route.id == clear.rowId && route.triple == clear.key)
      (fun route =>
        let carrier := route.pendingClear.getD ⟨[], []⟩
        let authorized := orderBy id
          ((carrier.authorized.filter fun field => !clear.fields.contains field).dedup)
        let storeOnly := orderBy id
          ((carrier.storeOnly.filter fun field => !clear.fields.contains field).dedup)
        { route with
          pendingClear :=
            if authorized.isEmpty && storeOnly.isEmpty then none
            else some ⟨authorized, storeOnly⟩ })
      routes

def consumeSnapshot (state : Runtime) (deviceId : Nat) (reg : ClaimRegistration)
    (tombstoneIds : List Nat) : Except SettlementError Runtime :=
  if tombstoneIds.isEmpty then
    .ok state
  else
    match reg.token with
    | none => .error .claimRequired
    | some token => deleteTombstones state tombstoneIds deviceId token

def srConsume (store : RouteStore) (deviceId : Nat) (reg : ClaimRegistration) (out : SrRemoval)
    (perField : List SrClear) : Except SettlementError RouteStore :=
  (consumeSnapshot store.runtime deviceId reg out.tombstoneIds).map fun runtime =>
    ⟨runtime, perField.foldl consumeClear store.routes⟩

/-- A proof without residue consumes. -/
def SrProof.consumes (proof : SrProof) : Bool :=
  proof.proven && proof.residue.isEmpty

def consumeProven (store : RouteStore) (deviceId : Nat) (reg : ClaimRegistration)
    (out : SrRemoval) (proof : SrProof) : Except SettlementError RouteStore :=
  if proof.consumes then srConsume store deviceId reg out proof.perField else .ok store

def promotesStaticRoute (db : Database) (jobId : Nat) : Bool :=
  db.generations.any fun generation => generation.jobId == some jobId &&
    generation.streamRevisions.any fun entry => entry.1 == .staticRoute

/-- A removal with a carrier must not succeed unproven. -/
def ownsCarrier (db : Database) (jobId : Nat) (out : SrRemoval) : Bool :=
  !out.tombstoneIds.isEmpty || !out.clears.isEmpty ||
    (!out.authorized.isEmpty && promotesStaticRoute db jobId)

/-- The status, the error and the last note of the job. -/
def settlementStatus (owns : Bool) (out : SrRemoval) (proof : SrProof) :
    JobStatus × Option Json × List (String × Json) :=
  if !proof.residue.isEmpty then
    (.failed, some (.obj [("code", .str "static_route_removal_residue_found"),
      ("message", .str ("static_route: removed route(s) [" ++ ", ".intercalate (proof.residue.map
        fun key => "['" ++ key.1 ++ "', '" ++ key.2.1 ++ "', '" ++ key.2.2 ++ "']") ++
        "] are still on the device")),
      ("detail", .obj [("scope", .str "static_route"),
        ("residue", .obj [("route", keysJson proof.residue)])])]), [])
  else if proof.proven || !owns then
    (.succeeded, none, if proof.proven then [] else [("unproven", .bool true)])
  else
    (.failed, some (.obj [("code", .str "static_route_removal_unproven"),
      ("message", .str
        "static_route: the removal could not be proven, so its carrier is retained for retry"),
      ("detail", .obj [("scope", .str "static_route"), ("branch", .str out.branch.name),
        ("verify", ((out.verify.map fun verdict => Json.str verdict.name).getD .null)),
        ("residue_check", ((proof.notes.lookup "residue_check").getD .null))])]), [])

def activeAttempt (state : Runtime) (jobId : Nat) : Option ApplyExecutionAttempt :=
  (orderBy (·.id) (state.attempts.filter fun attempt => attempt.jobId == some jobId)).getLast?

variable (codec : EvidenceCodec)

def completeRemoval (state : Runtime) (jobId : Nat) (reg : ClaimRegistration) (settled : Bool) :
    Except SettlementError (Runtime × List (String × Json)) :=
  match activeAttempt state jobId with
  | none => .ok (state, [])
  | some attempt =>
    match reg.runAttempt, reg.token with
    | some runAttempt, some token =>
      match completeExecutionResult codec state jobId runAttempt token
          (attempt.logicalMembership.map fun row =>
            (row.identity, if settled then .inSync else .unavailable)) with
      | .error refused => .error (.attempt refused)
      | .ok completed => .ok completed
    | _, _ => .error (.attempt (.ownershipLost "Execution attempt is absent"))

def settlementResult (out : SrRemoval) (proof : SrProof) (last evidence : List (String × Json)) : Json :=
  .obj ([("scope", .str "static_route"), ("removal_branch", .str out.branch.name)] ++
    (if out.authorized.isEmpty then [] else
      [("authorized", keysJson (sortedKeys out.authorized))]) ++ proof.notes ++
    (if proof.consumes && !out.tombstoneIds.isEmpty then
      [("consumed_tombstones", .arr (out.tombstoneIds.map fun tombstoneId => .num tombstoneId))]
    else []) ++ last ++ evidence)

def settlementRequest (db : Database) (jobId : Nat) (reg : ClaimRegistration) (out : SrRemoval)
    (proof : SrProof) (evidence : List (String × Json)) : TerminalRequest :=
  let (status, error, last) := settlementStatus (ownsCarrier db jobId out) out proof
  { status, expect := .running, runAttempt := reg.runAttempt
    result := some (settlementResult out proof last evidence), error, setDeviceId := none
    generationOutcome := none }

/-- The terminal transaction of `_finalize_static_route_removal`: a refused write leaves the
carriers to the execution that owns the job. -/
def commitSettlement (store : RouteStore) (jobId deviceId : Nat) (reg : ClaimRegistration)
    (out : SrRemoval) (proof : SrProof) :
    Except SettlementError (RouteStore × Option TerminalWrite) := do
  let consumed ← consumeProven store deviceId reg out proof
  let (completed, evidence) ← completeRemoval codec consumed.runtime jobId reg proof.consumes
  match terminalize completed.db jobId
      (settlementRequest store.runtime.db jobId reg out proof evidence) with
  | .error refused => throw (.core refused)
  | .ok (_, none) => pure (store, none)
  | .ok (db, some write) => pure (⟨{ completed with db }, consumed.routes⟩, some write)

/-- What it wrote, or nothing if another execution owns the job. -/
def finalizeStaticRouteRemoval (store : RouteStore) (jobId deviceId : Nat)
    (reg : ClaimRegistration) (out : SrRemoval) (answers : NsoAnswers) :
    Except SettlementError (RouteStore × Option TerminalWrite) := do
  let proof ← srProof answers out
  if lockClaim store.runtime reg then
    commitSettlement codec store jobId deviceId reg out proof
  else
    throw .claimLost

end NsoAdapter.Execution
