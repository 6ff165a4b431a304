import NsoAdapter.Core.RemovalContext

/-! The store of one device as promotion sees it, and the two ways a generation is
created over it: `create_generation` promotes streams, `create_reissue_generation`
promotes nothing. Each operation runs under the device's projection lock. -/

namespace NsoAdapter.Core
open Lib Projection Store StaticRoute
open Intent

/-- `StreamPendingClear` of the device; `authorized` is its provenance. -/
structure StreamPendingClear where
  id : Nat
  stream : ProjectionStream
  authorized : Bool
  revision : Nat

/-- What promotion reads and writes. The live tombstone rows are those of `db`. -/
structure PromotionStore where
  deviceId : Nat
  db : Database
  nedId : Option String
  intentRows : IntentTable → List Row
  interfaces : List InterfaceRecord
  attributeStates : List ((Nat × String) × SyncState)
  receipts : ProjectionStream → Option Receipt
  pendingClears : List StreamPendingClear
  nextPendingClearId : Nat
  nextCohort : Nat

/-- What no function of the adapter decides: the digest, the address parser of the
standard library and the clock. -/
structure Environment where
  digestDocument : DocumentDigest
  addressVersion : AddressVersion
  now : Nat

def markingText : Marking → String
  | .deleteOrigin => "delete_origin"
  | .detach => "detach"

/-- A tombstone as `snapshot_stream` serializes it. -/
def tombstoneRow (tombstone : StaticRouteTombstone) : Row :=
  [("id", .num tombstone.id), ("device_id", .num tombstone.deviceId),
    ("route_id", .num tombstone.routeId), ("vrf", .str tombstone.triple.1),
    ("prefix", .str tombstone.triple.2.1), ("next_hop", .str tombstone.triple.2.2),
    ("deployed_key", (tombstone.deployedKey.map tripleJson).getD .null),
    ("marking", .str (markingText tombstone.marking)), ("created_at", .str tombstone.createdAt),
    ("job_id", (tombstone.jobId.map fun jobId => Json.num jobId).getD .null)]

namespace PromotionStore

def deviceTombstones (store : PromotionStore) : List StaticRouteTombstone :=
  store.db.tombstones.filter fun tombstone => tombstone.deviceId == store.deviceId

def live (store : PromotionStore) : LiveDevice where
  nedId := store.nedId
  rows
    | .staticRouteTombstone => store.deviceTombstones.map tombstoneRow
    | table => store.intentRows table
  interfaces := store.interfaces
  attributeStates := store.attributeStates

def streamRow (store : PromotionStore) (stream : ProjectionStream) : Option DeviceProjectionStream :=
  store.db.streams.find? fun row => row.deviceId == store.deviceId && row.stream == stream

def updateStreams (store : PromotionStore) (selected : ProjectionStream → Bool)
    (update : DeviceProjectionStream → DeviceProjectionStream) : PromotionStore :=
  { store with
    db := { store.db with
      streams := updateWhere
        (fun row => row.deviceId == store.deviceId && selected row.stream) update
        store.db.streams } }

def authorized (store : PromotionStore) : Fragments :=
  fun stream => (store.streamRow stream).bind (·.authorizedDocument)

end PromotionStore

theorem streamRow_updateStreams (store : PromotionStore) (selected : ProjectionStream → Bool)
    (update : DeviceProjectionStream → DeviceProjectionStream)
    (sameDevice : ∀ row, (update row).deviceId = row.deviceId)
    (sameStream : ∀ row, (update row).stream = row.stream) (stream : ProjectionStream) :
    (store.updateStreams selected update).streamRow stream =
      (store.streamRow stream).map fun row => if selected stream then update row else row := by
  unfold PromotionStore.streamRow PromotionStore.updateStreams
  unfold updateWhere
  rw [List.find?_map]
  have same : ((fun row : DeviceProjectionStream =>
      row.deviceId == store.deviceId && row.stream == stream) ∘ fun row =>
        if row.deviceId == store.deviceId && selected row.stream then update row else row) =
      fun row => row.deviceId == store.deviceId && row.stream == stream := by
    funext row
    dsimp only [Function.comp]
    split
    · rw [sameDevice, sameStream]
    · rfl
  rw [same]
  cases found : store.db.streams.find? fun row =>
      row.deviceId == store.deviceId && row.stream == stream with
  | none => rfl
  | some row =>
    have key := List.find?_some found
    simp only [Bool.and_eq_true, beq_iff_eq] at key
    simp [key.1, key.2]

theorem authorized_updateStreams (store : PromotionStore) (selected : ProjectionStream → Bool)
    (update : DeviceProjectionStream → DeviceProjectionStream)
    (sameDevice : ∀ row, (update row).deviceId = row.deviceId)
    (sameStream : ∀ row, (update row).stream = row.stream) (stream : ProjectionStream) :
    (store.updateStreams selected update).authorized stream = (store.streamRow stream).bind fun row =>
        (if selected stream then update row else row).authorizedDocument := by
  unfold PromotionStore.authorized
  rw [streamRow_updateStreams store selected update sameDevice sameStream]
  cases store.streamRow stream <;> rfl

def pruneRow (existing : List Nat) (row : DeviceProjectionStream) : DeviceProjectionStream :=
  { row with
    authorizedDocument := row.authorizedDocument.map fun fragment =>
      pruneConsumedCarriers fragment existing }

/-- A selected carrier must exist, an inherited one that is gone is pruned from the stored fragment.
-/
def refreshConsumedCarriers (store : PromotionStore) (selected : List Nat) : Except PromotionError PromotionStore :=
  let existing := store.deviceTombstones.map (·.id)
  let missing := selected.filter fun tombstoneId => !existing.contains tombstoneId
  if missing.isEmpty then
    .ok (store.updateStreams (fun _ => true) (pruneRow existing))
  else
    .error (.carrierGone (orderBy id missing.dedup))

/-- `_freeze`: an unresolved eligibility names the section it blocks. -/
def freezeStream (live : LiveDevice) (stream : ProjectionStream) (tables : Tables) : Except PromotionError Fragment :=
  match freezeFragment live stream tables with
  | .ok fragment => .ok fragment
  | .error (.interfacesMissing _) | .error (.eligibilityMissing _) =>
    .error (.applyUnexecutable [(.interfaceConfig, .eligibilityUnresolved)])
  | .error refused => .error (.projection refused)

/-- `snapshot_stream` and `_freeze` of the live rows. -/
def freezeLive (store : PromotionStore) (stream : ProjectionStream) : Except PromotionError Fragment :=
  match snapshotStream store.live stream with
  | .error refused => .error (.projection refused)
  | .ok tables => freezeStream store.live stream tables

def composeFragments (fragments : Fragments) : Except PromotionError Document :=
  match composeDocument fragments with
  | .error refused => .error (.projection refused)
  | .ok document => .ok document

structure StreamPromotion where
  stream : ProjectionStream
  revision : Nat
  sourcePushSeq : Option Nat
  fragment : Fragment

/-- One stream of `create_generation`. An out-of-protocol stream promotes its
prepared slot and never the live rows. -/
def promoteStream (store : PromotionStore) (frozen : Fragments) (stream : ProjectionStream) :
    Except PromotionError StreamPromotion :=
  match store.streamRow stream with
  | none => if stream.outOfProtocol then
        if (frozen stream).isNone then .error (.preparedFragmentAbsent stream)
        else .error (.noPreparedSnapshot stream)
      else .error (.noAcceptedWrite stream)
  | some row =>
    if stream.outOfProtocol then
      match frozen stream, row.preparedRevision with
      | none, _ => .error (.preparedFragmentAbsent stream)
      | some _, none => .error (.noPreparedSnapshot stream)
      | some fragment, some revision => .ok ⟨stream, revision, none, fragment⟩
    else
      match frozen stream with
      | some fragment => .ok ⟨stream, row.desiredRevision, row.sourcePushSeq, fragment⟩
      | none =>
        match freezeLive store stream with
        | .error refused => .error refused
        | .ok fragment => .ok ⟨stream, row.desiredRevision, row.sourcePushSeq, fragment⟩

def authorizeStreams (store : PromotionStore) (promotions : List StreamPromotion) : PromotionStore :=
  promotions.foldl (fun store promotion =>
    store.updateStreams (fun stream => stream == promotion.stream) fun row =>
      { row with
        authorizedRevision := promotion.revision
        authorizedDocument := some promotion.fragment }) store

def promotedFragments (promotions : List StreamPromotion) : Fragments :=
  fun stream => (promotions.find? fun promotion => promotion.stream == stream).map (·.fragment)

structure GenerationRequest where
  streams : List ProjectionStream
  mode : GenerationMode
  allowedRemovalKeys : RemovalAuthority
  document : Option Document
  removalContext : Option RemovalContext
  settlementCohort : Option Nat
  tombstoneIds : List Nat
  dischargedClearIds : List Nat
  applyAttemptId : Option Nat
  frozen : Fragments
  immediateClearStreams : List ProjectionStream

/-- `sorted(set(streams))`. -/
def sortedStreams (streams : List ProjectionStream) : List ProjectionStream :=
  ProjectionStream.all.filter streams.contains

def PromotionStore.write (store : PromotionStore) (result : Except PromotionError (Database × DeploymentGeneration)) :
    Except PromotionError (PromotionStore × DeploymentGeneration) :=
  match result with
  | .error refused => .error refused
  | .ok (db, generation) => .ok ({ store with db }, generation)

/-- The document of the generation: the caller's, or the authorized fragments with the
promoted ones over them. -/
def composePromoted (store : PromotionStore) (given : Option Document)
    (promotions : List StreamPromotion) : Except PromotionError (PromotionStore × Document) :=
  match given with
  | some document => .ok (store, document)
  | none => do
      let current ← refreshConsumedCarriers store []
      let document ← composeFragments (current.authorized.overlay (promotedFragments promotions))
      return (current, document)

def GenerationRequest.content (request : GenerationRequest) (promotions : List StreamPromotion)
    (document : Document) : GenerationContent :=
  { mode := request.mode, document, allowedRemovalKeys := request.allowedRemovalKeys
    sourcePushSeq := promotions.map fun promotion => (promotion.stream, promotion.sourcePushSeq)
    streamRevisions := promotions.map fun promotion => (promotion.stream, promotion.revision)
    settlementCohort := request.settlementCohort, removalContext := request.removalContext
    applyAttemptId := request.applyAttemptId }

def createGeneration (env : Environment) (store : PromotionStore) (request : GenerationRequest) :
    Except PromotionError (PromotionStore × DeploymentGeneration) :=
  if request.streams.isEmpty then
    .error .noStreams
  else do
    let refreshed ← refreshConsumedCarriers store request.tombstoneIds
    let promotions ← (sortedStreams request.streams).mapM (promoteStream refreshed request.frozen)
    let (composed, document) ←
      composePromoted (authorizeStreams refreshed promotions) request.document promotions
    composed.write (storeGeneration env.digestDocument composed.db composed.deviceId
      (request.content promotions document) request.tombstoneIds request.dischargedClearIds
      request.immediateClearStreams)

/-- Deploy what is authorized already. -/
def createReissueGeneration (env : Environment) (store : PromotionStore) (mode : GenerationMode)
    (removalContext : Option RemovalContext) (allowedRemovalKeys : RemovalAuthority)
    (tombstoneIds dischargedClearIds : List Nat) :
    Except PromotionError (PromotionStore × DeploymentGeneration) := do
  let refreshed ← refreshConsumedCarriers store tombstoneIds
  let document ← composeFragments refreshed.authorized
  let content : GenerationContent :=
    { mode, document, allowedRemovalKeys
      sourcePushSeq := (refreshed.db.streams.filter fun row =>
        row.deviceId == refreshed.deviceId && row.authorizedDocument.isSome).map
          fun row => (row.stream, row.sourcePushSeq)
      streamRevisions := [], settlementCohort := none, removalContext, applyAttemptId := none }
  refreshed.write (storeGeneration env.digestDocument refreshed.db refreshed.deviceId content
    tombstoneIds dischargedClearIds [])

end NsoAdapter.Core
