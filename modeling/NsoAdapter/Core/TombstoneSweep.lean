import NsoAdapter.Core.Orchestration
import NsoAdapter.Core.Removal

/-! The life of a static-route tombstone: the push that writes it with a removal
job for its marking (`enqueue_static_route_removals`), the sweeper that reissues
an uncarried one (`core/tombstone_sweep.py`), the attempt that must own what its
generation names (`prepare_execution_attempt`) and the settlement that consumes it. -/

namespace NsoAdapter.Core
open Lib Store Projection StaticRoute

inductive CheckpointKind where
  | refused | protocolFault | unavailable | rejected | verified | acknowledged
  deriving DecidableEq

structure ExecutionAttempt where
  deviceId : Nat
  jobId : Nat
  runAttempt : Nat
  removalTombstoneIds : List Nat
  checkpoints : List CheckpointKind
  commitAcknowledged : Bool

structure RemovalStore where
  db : Database
  attempts : List ExecutionAttempt
  nextTombstoneId : Nat

structure DeletedRoute where
  routeId : Nat
  triple : Triple
  deployedKey : Option Triple
  marking : Marking
  createdAt : String

/-- One push that shrinks or clears the lane. `carriers` is empty when the fence is shut; both
markings deploy `document`. -/
structure RemovalPush where
  deviceId : Nat
  removed : Marking → List Triple
  carriers : List DeletedRoute
  retract : Bool
  cohort : Option Nat
  document : Document
  sourcePushSeq : List (ProjectionStream × Option Nat)
  streamRevisions : List (ProjectionStream × Nat)
  now : Nat

def markingOrder : List Marking :=
  [.deleteOrigin, .detach]

def RemovalPush.present (push : RemovalPush) : List Marking :=
  markingOrder.filter fun marking => !(push.removed marking).isEmpty

/-- The jobs of a push, with the first one marked. A pure clear has one unmarked job. -/
def RemovalPush.markings (push : RemovalPush) : List (Option Marking × Bool) :=
  match push.present with
  | [] => [(none, true)]
  | first :: rest => (some first, true) :: rest.map fun marking => (some marking, false)

/-- The removal one marking of a push asks for. A clear rides the first job. -/
def RemovalPush.request (push : RemovalPush) (marking : Option Marking) (first : Bool) : RemovalRequest :=
  { scope := .staticRoute, marking, deferRetract := push.present.contains .detach, interfaces := []
    removed := match marking with
      | none => []
      | some marking => [("route", (push.removed marking).map tripleJson)]
    vaultRefs := [], force := false, retract := push.retract && first
    shrank := marking.isSome }

/-- `_write_tombstones`: a carrier for every route a push deletes. -/
def carriersOf (deviceId next : Nat) (routes : List DeletedRoute) : List StaticRouteTombstone :=
  routes.zipIdx.map fun (route, index) =>
    { id := next + index, deviceId, routeId := route.routeId, triple := route.triple
      deployedKey := route.deployedKey, marking := route.marking, createdAt := route.createdAt
      jobId := none }

def writeTombstones (store : RemovalStore) (push : RemovalPush) : RemovalStore × List StaticRouteTombstone :=
  let written := carriersOf push.deviceId store.nextTombstoneId push.carriers
  ({ store with
      db := { store.db with tombstones := store.db.tombstones ++ written }
      nextTombstoneId := store.nextTombstoneId + push.carriers.length }, written)

/-- `tombstone.job_id = job.id` for some rows. -/
def assignTombstones (db : Database) (tombstoneIds : List Nat) (jobId : Nat) : Database :=
  { db with
    tombstones := updateWhere (fun tombstone => tombstoneIds.contains tombstone.id)
      (fun tombstone => { tombstone with jobId := some jobId }) db.tombstones }

variable (digestDocument : DocumentDigest)

/-- One job of `enqueue_static_route_removals`. -/
def enqueueMarking (push : RemovalPush) (written : List StaticRouteTombstone)
    (db : Database) (marking : Option Marking) (first : Bool) : Except PromotionError Database :=
  let request := push.request marking first
  let tombstoneIds := (written.filter fun tombstone => some tombstone.marking == marking).map (·.id)
  match request.refusal with
  | some refused => .error refused
  | none =>
    let content : GenerationContent :=
      { mode := request.mode, document := push.document
        allowedRemovalKeys := scopeQualified .staticRoute request.removedKeys
        sourcePushSeq := push.sourcePushSeq, streamRevisions := push.streamRevisions
        settlementCohort := push.cohort, removalContext := some request.context
        applyAttemptId := none }
    match carryRemoval digestDocument db push.deviceId content tombstoneIds [] [] push.now with
    | .error refused => .error refused
    | .ok (after, _, job) => .ok (assignTombstones after tombstoneIds job.id)

/-- `enqueue_static_route_removals`. A carrier whose marking has no job refuses the push. -/
def enqueueStaticRouteRemovals (store : RemovalStore) (push : RemovalPush) : Except PromotionError RemovalStore :=
  let (stored, written) := writeTombstones store push
  if push.present.isEmpty && !push.retract then
    .ok stored
  else
    match push.markings.foldlM
        (fun db job => enqueueMarking digestDocument push written db job.1 job.2) stored.db with
    | .error refused => .error refused
    | .ok after =>
      match written.find? fun tombstone => !push.present.contains tombstone.marking with
      | some tombstone => .error (.carrierWithoutJob tombstone.id)
      | none => .ok { stored with db := after }

/-- No job, or a job that failed. -/
def eligible (db : Database) (tombstone : StaticRouteTombstone) : Bool :=
  match tombstone.jobId with
  | none => true
  | some jobId => db.jobs.any fun job => job.id == jobId && job.status == .failed

def automaticRemovalReissueBlocked (attempts : List ExecutionAttempt) (tombstone : StaticRouteTombstone) : Bool :=
  attempts.any fun attempt =>
    attempt.deviceId == tombstone.deviceId &&
      attempt.removalTombstoneIds.contains tombstone.id &&
      (attempt.checkpoints.any (fun kind =>
          kind == .refused || kind == .unavailable || kind == .protocolFault) ||
        attempt.checkpoints.isEmpty || attempt.commitAcknowledged)

/-- `_removal_context` of the sweeper: one job for a tombstone, at its own marking. -/
def sweepContext (tombstone : StaticRouteTombstone) : RemovalContext :=
  let deployed := tombstone.deployedKey.filter fun key => key ≠ tombstone.triple
  { scope := .staticRoute, interfaces := []
    removed := [("route", (tombstone.triple :: deployed.toList).map tripleJson)]
    vaultRefs := [], retractDeferred := false, force := false
    detach := tombstone.marking == .detach, tombstoneIds := [tombstone.id] }

/-- `reissue_removal_job` over the composed authorized document. -/
def reissueRemovalJob (attempts : List ExecutionAttempt) (document : Document)
    (sourcePushSeq : List (ProjectionStream × Option Nat)) (now : Nat) (db : Database)
    (tombstone : StaticRouteTombstone) : Except PromotionError Database :=
  if automaticRemovalReissueBlocked attempts tombstone then
    .ok db
  else
    let context := sweepContext tombstone
    let content : GenerationContent :=
      { mode := if context.detach then .detach else .networked, document
        allowedRemovalKeys := [(.staticRoute, context.removed)], sourcePushSeq
        streamRevisions := [], settlementCohort := none, removalContext := some context
        applyAttemptId := none }
    match carryRemoval digestDocument db tombstone.deviceId content [tombstone.id] [] [] now with
    | .error refused => .error refused
    | .ok (after, _, job) => .ok (assignTombstones after [tombstone.id] job.id)

/-- Every eligible tombstone of the device, by id. -/
def sweepOneDevice (store : RemovalStore) (deviceId : Nat) (document : Document)
    (sourcePushSeq : List (ProjectionStream × Option Nat)) (now : Nat) :
    Except PromotionError RemovalStore :=
  let rows := orderBy (·.id) (store.db.tombstones.filter fun tombstone =>
    tombstone.deviceId == deviceId && eligible store.db tombstone)
  match rows.foldlM (reissueRemovalJob digestDocument store.attempts document sourcePushSeq now)
      store.db with
  | .error refused => .error refused
  | .ok after => .ok { store with db := after }

inductive AttemptError where
  | notRunning (jobId : Nat)
  | attemptOwnershipLost (jobId : Nat)
  deriving DecidableEq

def attemptTombstones (job : Job) (generation : DeploymentGeneration) : List Nat :=
  if job.jobType = .removal then generation.document.tombstoneIds.dedup else []

def ownsTombstones (db : Database) (job : Job) (tombstoneIds : List Nat) : Bool :=
  tombstoneIds.all fun tombstoneId => db.tombstones.any fun tombstone =>
    tombstone.id == tombstoneId && some tombstone.deviceId == job.deviceId &&
      tombstone.jobId == some job.id

/-- `prepare_execution_attempt` of the job's highest generation: a removal must own
every tombstone its document names. -/
def prepareExecutionAttempt (store : RemovalStore) (jobId : Nat) : Except AttemptError RemovalStore :=
  match store.db.job? jobId, (store.db.jobGenerations jobId).getLast? with
  | some job, some generation =>
    if job.status ≠ .running then
      .error (.notRunning jobId)
    else if ownsTombstones store.db job (attemptTombstones job generation) then
      .ok { store with
        attempts := store.attempts ++ [⟨generation.deviceId, jobId, job.runAttempt,
          orderBy id (attemptTombstones job generation), [], false⟩] }
    else
      .error (.attemptOwnershipLost jobId)
  | _, _ => .error (.notRunning jobId)

/-- One more checkpoint on the attempts of a run. -/
def recordClassifiedResponse (store : RemovalStore) (jobId runAttempt : Nat) (kind : CheckpointKind) : RemovalStore :=
  { store with
    attempts := updateWhere
      (fun attempt => attempt.jobId == jobId && attempt.runAttempt == runAttempt &&
        (kind != .verified || attempt.commitAcknowledged))
      (fun attempt => { attempt with
        checkpoints := attempt.checkpoints ++ [kind]
        commitAcknowledged := attempt.commitAcknowledged || kind == .acknowledged })
      store.attempts }

def deleteTombstones (db : Database) (tombstoneIds : List Nat) (deviceId : Nat) : Database :=
  { db with
    tombstones := db.tombstones.filter fun tombstone =>
      !(tombstoneIds.contains tombstone.id && tombstone.deviceId == deviceId) }

/-- `delete_tombstones` for what the executing generation of a job names. -/
def consumeTombstones (db : Database) (jobId : Nat) (after : Database) : Database :=
  match (db.jobGenerations jobId).getLast? with
  | none => after
  | some generation => deleteTombstones after generation.document.tombstoneIds generation.deviceId

/-- The terminal transaction of a run. A removal that succeeded deletes what it names. -/
def settleRun (store : RemovalStore) (jobId : Nat) (request : TerminalRequest) : Option RemovalStore :=
  match terminalize store.db jobId request with
  | .error _ => none
  | .ok (_, none) => some store
  | .ok (after, some _) =>
    if request.status = .succeeded then
      some { store with db := consumeTombstones store.db jobId after }
    else
      some { store with db := after }

end NsoAdapter.Core
