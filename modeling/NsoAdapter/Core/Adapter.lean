import NsoAdapter.Core.ApplyChain
import NsoAdapter.Core.TombstoneSweep

/-! The device-writing side of the adapter as one transition system: accepted writes and
prepared snapshots, the requests that promote streams and enqueue their generations, the
sweeper's reissues and the operations on the chain. What an endpoint stores beside that
is chosen by the environment. -/

namespace NsoAdapter.Core
open Lib Projection Store StaticRoute
open Intent

def streamKey (deviceId : Nat) (stream : ProjectionStream) (row : DeviceProjectionStream) : Bool :=
  row.deviceId == deviceId && row.stream == stream

/-- Insert the stream's row or advance its desired revision. -/
def noteWrite (db : Database) (deviceId : Nat) (stream : ProjectionStream) (pushSeq : Option Nat) : Database :=
  if db.streams.any (streamKey deviceId stream) then
    { db with
      streams := updateWhere (streamKey deviceId stream)
        (fun row => { row with desiredRevision := row.desiredRevision + 1, sourcePushSeq := pushSeq })
        db.streams }
  else
    { db with
      streams := db.streams ++
        [⟨deviceId, stream, 1, 0, 0, pushSeq, none, none, none, none⟩] }

def switchingTables : ProjectionStream → Option (IntentTable × IntentTable)
  | .lag => some (.lagBundleIntent, .lagMemberIntent)
  | .switchport => some (.switchportIntent, .switchportTaggedVlanIntent)
  | _ => none

def appendRows (tables : Tables) (table : IntentTable) (rows : List Row) : Tables :=
  if rows.isEmpty then tables else Dict.set tables table (tables.rows table ++ rows)

/-- The first element of a root's identity. -/
def rootNames (tables : Tables) (root : IntentTable) : Except ProjectionError (List Json) := do
  let roots ← rowsByIntentIdentity tables root
  return roots.filterMap fun entry => entry.1.head?

/-- The authorized rows a snapshot drops, by marking group. -/
def resolveDeletions (authorized desired : Tables) (marked : List Json) (root child : IntentTable) :
    Except ProjectionError PreparedDeletions := do
  let roots ← rowsByIntentIdentity authorized root
  let children ← rowsByIntentIdentity authorized child
  let retained ← rootNames desired root
  let desiredChildren ← rowsByIntentIdentity desired child
  let gone := roots.filter fun entry => entry.1.head?.all fun name => !retained.contains name
  let under (keep : Json → Bool) : List Row :=
    (children.filter fun entry => gone.any fun item =>
      item.1.head? == entry.1.head? && entry.1.head?.any keep).map (·.2)
  let group (keep : Json → Bool) : Tables :=
    appendRows (appendRows [] root ((gone.filter fun entry => entry.1.head?.any keep).map (·.2)))
      child (under keep)
  let owned := (children.filter fun entry =>
    entry.1.head?.any retained.contains && (desiredChildren.get? entry.1).isNone).map (·.2)
  return ⟨group marked.contains, appendRows [] child owned, group fun name => !marked.contains name⟩

inductive SwitchingRefusal where
  | notSwitching (stream : ProjectionStream)
  | repeatedRoot
  | rootStillPresent
  | projection (refused : ProjectionError)

def prepareSlot (store : PromotionStore) (stream : ProjectionStream) (tables : Tables)
    (deletions : PreparedDeletions) : PromotionStore :=
  store.updateStreams (fun other => other == stream) fun row =>
    { row with
      preparedRevision := some row.desiredRevision
      preparedTables := some tables
      preparedDeletions := some deletions }

/-- `_prepare_snapshot`, where `rows` are the rows its replacement leaves. A store-only
request keeps the slot. -/
def prepareSnapshot (store : PromotionStore) (stream : ProjectionStream) (deletedRoots : List String)
    (rows : IntentTable → List Row) (storeOnly : Bool) : Except SwitchingRefusal PromotionStore :=
  match switchingTables stream with
  | none => .error (.notSwitching stream)
  | some (root, child) =>
    let marked := deletedRoots.map Json.str
    let replaced := { store with
      db := noteWrite store.db store.deviceId stream none
      intentRows := fun table =>
        if table = root ∨ table = child then rows table else store.intentRows table }
    let prepared : Except ProjectionError (Bool × PromotionStore) := do
      let tables ← snapshotStream replaced.live stream
      let desired ← rootNames tables root
      let authorized := fragmentTables (store.authorized stream)
      let known ← rootNames authorized root
      let deletions ← resolveDeletions authorized tables (marked.filter known.contains) root child
      return (marked.any desired.contains,
        if storeOnly then replaced else prepareSlot replaced stream tables deletions)
    if ¬ marked.Nodup then
      .error .repeatedRoot
    else
      match prepared with
      | .error refused => .error (.projection refused)
      | .ok (true, _) => .error .rootStillPresent
      | .ok (false, after) => .ok after

inductive SkipReason where
  | noReceipt | superseded | backfillOnly | revisionMismatch | alreadyApplied | alreadyAuthorized
  | noPreparedRevision
  deriving DecidableEq

inductive ApplyRefusal where
  | promotion (refused : PromotionError)
  | authorizedWithoutGeneration (stream : ProjectionStream)
  | unexpectedSkip (stream : ProjectionStream) (reason : SkipReason)
  | jobConflict (jobId : Nat)

/-- `_authorized_generation_detail`. -/
def authorizedGeneration (db : Database) (deviceId : Nat) (stream : ProjectionStream)
    (revision : Nat) : Option DeploymentGeneration :=
  (orderBy (·.seq) (db.generations.filter fun generation =>
    generation.deviceId == deviceId && generation.status != .settled &&
      generation.streamRevisions.lookup stream == some revision)).head?

def resolvePreparedSelection (row : Option DeviceProjectionStream) (revision : Nat) : Option SkipReason :=
  match row.bind fun row => row.preparedRevision.map fun prepared => (row, prepared) with
  | none => some .noPreparedRevision
  | some (row, prepared) =>
    if revision ≤ row.appliedRevision then some .alreadyApplied
    else if revision < row.authorizedRevision then some .superseded
    else if revision = row.authorizedRevision then some .alreadyAuthorized
    else if revision = prepared then none
    else if revision < prepared then some .superseded
    else some .noPreparedRevision

def resolveReceiptSelection (store : PromotionStore) (stream : ProjectionStream) (pushSeq : Nat) :
    Except ApplyRefusal (Option SkipReason) :=
  match store.receipts stream, store.streamRow stream with
  | some receipt, some row =>
    if pushSeq < receipt.identity.seq then .ok (some .superseded)
    else if receipt.identity.seq ≠ pushSeq then .ok (some .noReceipt)
    else if receipt.identity.backfillOnly then .ok (some .backfillOnly)
    else if row.sourcePushSeq ≠ some pushSeq then .ok (some .revisionMismatch)
    else if row.desiredRevision ≤ row.appliedRevision then .ok (some .alreadyApplied)
    else if row.desiredRevision ≤ row.authorizedRevision then
      if (authorizedGeneration store.db store.deviceId stream row.authorizedRevision).isSome ∨
          row.authorizedRevision ≤ row.appliedRevision then
        .ok (some .alreadyAuthorized)
      else
        .error (.authorizedWithoutGeneration stream)
    else .ok none
  | _, _ => .ok (some .noReceipt)

/-- One stream of `_selected_promotions`: the selection, or why it is stale. -/
def selectPromotion (store : PromotionStore) (stream : ProjectionStream) (selector : Nat) :
    Except ApplyRefusal (Except SkipReason Selection) :=
  if out : stream.outOfProtocol = true then
    match resolvePreparedSelection (store.streamRow stream) selector with
    | some reason => .ok (.error reason)
    | none => .ok (.ok ⟨stream, some selector, out.symm⟩)
  else
    match resolveReceiptSelection store stream selector with
    | .error refused => .error refused
    | .ok (some reason) => .ok (.error reason)
    | .ok none => .ok (.ok ⟨stream, none, (Bool.eq_false_iff.mpr out).symm⟩)

/-- `_selected_promotions`, in stream order. -/
def selectedPromotions (store : PromotionStore) (selected : Dict ProjectionStream Nat) :
    Except ApplyRefusal (List (ProjectionStream × Except SkipReason Selection)) :=
  (ProjectionStream.all.filterMap fun stream =>
    (selected.get? stream).map fun selector => (stream, selector)).mapM fun entry => do
      let resolved ← selectPromotion store entry.1 entry.2
      return (entry.1, resolved)

def promotable (resolved : List (ProjectionStream × Except SkipReason Selection)) : List Selection :=
  resolved.filterMap fun entry => entry.2.toOption

def promoteSelected (env : Environment) (store : PromotionStore) (selections : List Selection)
    (attemptId : Option Nat) : Except ApplyRefusal PromotionStore :=
  match createApplyChain env store selections attemptId with
  | .error refused => .error (.promotion refused)
  | .ok result => .ok result.store

def activeJob (db : Database) (deviceId : Nat) : Option Job :=
  (orderBy Job.queueKey (db.jobs.filter fun job =>
    job.deviceId == some deviceId && job.status.live)).head?

def createActionApply (env : Environment) (store : PromotionStore)
    (selected : Dict ProjectionStream Nat) (attemptId : Nat) :
    Except ApplyRefusal PromotionStore := do
  let resolved ← selectedPromotions store selected
  if (promotable resolved).isEmpty then
    return store
  else
    match activeJob store.db store.deviceId with
    | some job => throw (.jobConflict job.id)
    | none => promoteSelected env store (promotable resolved) (some attemptId)

/-- `_BENIGN_AUTOMATIC_SKIPS`. -/
def SkipReason.benign : SkipReason → Bool
  | alreadyApplied | alreadyAuthorized | backfillOnly | superseded => true
  | _ => false

/-- The stream an automatic delivery skips for a reason that breaks its call site. -/
def unexpectedSkip (resolved : List (ProjectionStream × Except SkipReason Selection)) :
    Option (ProjectionStream × SkipReason) :=
  resolved.findSome? fun entry =>
    match entry.2 with
    | .error reason => if reason.benign then none else some (entry.1, reason)
    | .ok _ => none

def createAutomaticApply (env : Environment) (store : PromotionStore) (stream : ProjectionStream)
    (pushSeq : Nat) : Except ApplyRefusal PromotionStore := do
  let resolved ← selectedPromotions store [(stream, pushSeq)]
  match unexpectedSkip resolved with
  | some (skipped, reason) => throw (.unexpectedSkip skipped reason)
  | none =>
    if (promotable resolved).isEmpty then return store
    else promoteSelected env store (promotable resolved) none

/-- `enqueue_apply` outside a store-only request. -/
def enqueueApply (env : Environment) (store : PromotionStore) (stream : ProjectionStream)
    (cohort : Option Nat) : Except PromotionError PromotionStore := do
  let (created, generation) ← createGeneration env store
    { streams := [stream], mode := .networked, allowedRemovalKeys := [], document := none
      removalContext := none, settlementCohort := cohort, tombstoneIds := []
      dischargedClearIds := [], applyAttemptId := none, frozen := fun _ => none
      immediateClearStreams := [] }
  created.over (admitApplyGeneration created.db generation env.now)

/-- The promotions of one intent request: its removals and its automatic apply. -/
structure RequestDelivery where
  removals : List RemovalAdmission
  apply : Option ProjectionStream

def RequestDelivery.generationCount (delivery : RequestDelivery) : Nat :=
  delivery.removals.length + delivery.apply.toList.length

def enqueueRequestRemoval (env : Environment) (cohort : Option Nat) (store : PromotionStore)
    (admission : RemovalAdmission) : Except PromotionError PromotionStore := do
  let (after, _) ← enqueueRemoval env store { admission with settlementCohort := cohort }
  return after

/-- Everything one request enqueues, under `prepare_request_settlement`'s cohort. -/
def deliverRequest (env : Environment) (store : PromotionStore) (delivery : RequestDelivery) :
    Except PromotionError PromotionStore := do
  let (allocated, cohort) := allocateCohort store delivery.generationCount
  let removed ← delivery.removals.foldlM (enqueueRequestRemoval env cohort) allocated
  match delivery.apply with
  | none => return removed
  | some stream => enqueueApply env removed stream cohort

/-- `reissue_removal_job` over the device's own store. -/
def reissueRemoval (env : Environment) (store : PromotionStore) (tombstone : StaticRouteTombstone) :
    Except PromotionError PromotionStore := do
  let context := sweepContext tombstone
  let (created, generation) ← createReissueGeneration env store
    (if context.detach then .detach else .networked) (some context)
    [(.staticRoute, context.removed)] [tombstone.id] []
  match attachDedicatedJob created.db created.deviceId .removal (some (.removal context)) generation
      env.now with
  | .error refused => throw refused
  | .ok (db, job) => return { created with db := assignTombstones db [tombstone.id] job.id }

/-- The calls the adapter makes: recovery passes the disposition of the job's type, or fails a run
it cannot attribute, and it alone abandons what a run carried. -/
def Operation.called (db : Database) : Operation → Bool
  | .createGeneration .. | .attachToJob .. | .createDedicatedJob .. => false
  | .terminalize _ request => request.generationOutcome != some .abandoned &&
      request.generationOutcome != some .settled
  | .terminalizeRunning jobId status _ _ =>
    status == .failed || (db.job? jobId).all fun job => dispositionFor job.jobType == status
  | _ => true

structure DeviceIntent where
  nedId : Option String
  intentRows : IntentTable → List Row
  interfaces : List InterfaceRecord
  attributeStates : List ((Nat × String) × SyncState)
  receipts : ProjectionStream → Option Receipt
  pendingClears : List StreamPendingClear
  nextPendingClearId : Nat

structure Adapter where
  db : Database
  nextCohort : Nat
  intents : Nat → DeviceIntent

namespace Adapter

def store (adapter : Adapter) (deviceId : Nat) : PromotionStore :=
  let intent := adapter.intents deviceId
  ⟨deviceId, adapter.db, intent.nedId, intent.intentRows, intent.interfaces,
    intent.attributeStates, intent.receipts, intent.pendingClears, intent.nextPendingClearId,
    adapter.nextCohort⟩

def commit (adapter : Adapter) (store : PromotionStore) : Adapter where
  db := store.db
  nextCohort := store.nextCohort
  intents := Function.update adapter.intents store.deviceId
    ⟨store.nedId, store.intentRows, store.interfaces, store.attributeStates, store.receipts,
      store.pendingClears, store.nextPendingClearId⟩

def transact {Failure : Type} (adapter : Adapter) (result : Except Failure PromotionStore) : Option Adapter :=
  result.toOption.map adapter.commit

end Adapter

/-- The transactions of the adapter. `edit` stands for all that an endpoint or a runner stores of a
device. -/
inductive AdapterEvent where
  | edit (deviceId : Nat) (intent : DeviceIntent) (tombstones : List StaticRouteTombstone)
  | noteWrite (deviceId : Nat) (stream : ProjectionStream) (pushSeq : Option Nat)
  | prepareSnapshot (deviceId : Nat) (stream : ProjectionStream) (deletedRoots : List String)
      (rows : IntentTable → List Row) (storeOnly : Bool)
  | deliverRequest (deviceId : Nat) (delivery : RequestDelivery) (now : Nat)
  | createActionApply (deviceId : Nat) (selected : Dict ProjectionStream Nat) (attemptId now : Nat)
  | createAutomaticApply (deviceId : Nat) (stream : ProjectionStream) (pushSeq now : Nat)
  | reissueRemoval (tombstone : StaticRouteTombstone) (now : Nat)
  | chain (operation : Operation)

variable (env : Environment)

def adapterStep (event : AdapterEvent) (adapter : Adapter) : Option Adapter :=
  match event with
  | .edit deviceId intent tombstones =>
    some { adapter with
      db := { adapter.db with tombstones }
      intents := Function.update adapter.intents deviceId intent }
  | .noteWrite deviceId stream pushSeq =>
    some { adapter with db := noteWrite adapter.db deviceId stream pushSeq }
  | .prepareSnapshot deviceId stream deletedRoots rows storeOnly =>
    adapter.transact (prepareSnapshot (adapter.store deviceId) stream deletedRoots rows storeOnly)
  | .deliverRequest deviceId delivery now =>
    adapter.transact (deliverRequest { env with now } (adapter.store deviceId) delivery)
  | .createActionApply deviceId selected attemptId now =>
    adapter.transact
      (createActionApply { env with now } (adapter.store deviceId) selected attemptId)
  | .createAutomaticApply deviceId stream pushSeq now =>
    adapter.transact
      (createAutomaticApply { env with now } (adapter.store deviceId) stream pushSeq)
  | .reissueRemoval tombstone now =>
    adapter.transact
      (reissueRemoval { env with now } (adapter.store tombstone.deviceId) tombstone)
  | .chain operation =>
    if operation.called adapter.db then
      (operation.run env.digestDocument adapter.db).map fun db => { adapter with db }
    else none

/-- The adapter, from a store with no job, no generation and no projection stream. -/
def adapterSystem : TransitionSystem Adapter AdapterEvent where
  initial adapter := adapter.db.jobs = [] ∧ adapter.db.generations = [] ∧ adapter.db.streams = []
  step := adapterStep env

end NsoAdapter.Core
