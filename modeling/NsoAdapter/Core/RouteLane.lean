import NsoAdapter.Core.ApplyChain
import NsoAdapter.Core.TombstoneSweep
import NsoAdapter.StaticRoute.Ingestion

/-! The static-route lane of one device: its stored rows, its authorized fragment and the
receipt that carries the deletion provenance, and what a push does to them. -/

namespace NsoAdapter.Core
open Lib Projection Store StaticRoute
open Intent

structure RouteLane where
  deviceId : Nat
  nedId : Option String
  rows : List StaticRouteIntent
  nextRowId : Nat
  tombstones : List StaticRouteTombstone
  nextTombstoneId : Nat
  authorized : Option Fragment
  authorizedRevision : Nat
  desiredRevision : Nat
  receipt : Option Receipt
  deriving DecidableEq

/-- What an ingestion reads beside the store: the clock, the device's `auto_apply` and the
digest of a rendered route. -/
structure RouteContext where
  now : String
  autoApply : Bool
  fingerprint : Row → String

namespace RouteLane

def live (lane : RouteLane) : LiveDevice where
  nedId := lane.nedId
  rows
    | .staticRouteIntent => lane.rows.map StaticRouteIntent.row
    | .staticRouteTombstone => lane.tombstones.map tombstoneRow
    | _ => []
  interfaces := []
  attributeStates := []

/-- `snapshot_stream` of the lane. -/
def tables (lane : RouteLane) : Tables :=
  ProjectionStream.staticRoute.streamTables.map fun table =>
    (table, rowsFor lane.live .staticRoute table)

def freeze (lane : RouteLane) : Fragment :=
  { tables := lane.tables
    context := ⟨lane.nedId, communityDialectFor lane.nedId⟩
    proof := some (freezeStaticRouteProof lane.tables) }

def authorize (lane : RouteLane) : RouteLane :=
  { lane with authorized := some lane.freeze, authorizedRevision := lane.desiredRevision }

def records (lane : RouteLane) : List DeletionRecord :=
  privateDeletions (lane.receipt.bind (·.response))

end RouteLane

/-- `_echo`. -/
def echoRoute (fingerprint : Row → String) (route : StaticRouteIntent) : Json :=
  .obj [("route_id", optional (fun routeId : Nat => .num routeId) route.routeId),
    ("generation", optional (fun value : Nat => .num value) route.intentGeneration),
    ("fingerprint", .str (fingerprint (staticRouteEntry route.row)))]

def acknowledgement (partition : DeletionPartition) : List (String × Json) :=
  let ids := fun values : List Nat => Json.arr (values.map fun value => .num value)
  [("deleted_executed_ids", ids partition.executed), ("deleted_degraded_ids", ids partition.degraded),
    ("deleted_moot_ids", ids partition.moot),
    ("removed_uncorrelated", .arr (partition.uncorrelated.map fun triple =>
      .obj [("vrf", .str triple.1), ("prefix", .str triple.2.1), ("next_hop", .str triple.2.2)]))]

def ingestResponse (deviceId : Nat) (fingerprint : Row → String) (ingested : Ingested)
    (replaced : Bool) : List (String × Json) :=
  [("device_id", .num deviceId), ("count", .num ingested.echoed.length),
    ("removed", .num ingested.removed.length), ("replaced", .bool replaced),
    ("routes", .arr (ingested.echoed.map (echoRoute fingerprint)))] ++
    acknowledgement ingested.partition

/-- The rows an immediate removal deletes. An open fence has no row without a route id. -/
def deletedRoutes (lane : RouteLane) (ingested : Ingested) (storeOnly : Bool) (now : String) :
    List DeletedRoute :=
  if storeOnly || !fenceOpen lane.rows then
    []
  else
    ingested.removed.filterMap fun row => row.routeId.map fun routeId =>
      ⟨routeId, row.triple, row.deployedKey, removalMarking ingested.partition row, now⟩

def removalCarriers (lane : RouteLane) (ingested : Ingested) (storeOnly : Bool) (now : String) :
    List StaticRouteTombstone :=
  carriersOf lane.deviceId lane.nextTombstoneId (deletedRoutes lane ingested storeOnly now)

/-- A normal push promotes the lane when it removes, clears or applies automatically. -/
def pushPromotes (body : StaticRouteIntentUpdate) (ingested : Ingested) (identity : PushIdentity)
    (autoApply : Bool) : Bool :=
  !identity.backfillOnly && !identity.storeOnly &&
    (!ingested.removed.isEmpty || ingested.cleared || (autoApply && !body.routes.isEmpty))

/-- The rows of a push: the full replace, or the backfill. -/
def ingest (lane : RouteLane) (identity : PushIdentity) (body : StaticRouteIntentUpdate)
    (now : String) : Except IngestError Ingested :=
  if identity.backfillOnly then backfillRoutes lane.rows lane.nextRowId body
  else ingestRoutes lane.rows lane.nextRowId body identity.storeOnly now

def storeIngested (lane : RouteLane) (identity : PushIdentity) (body : StaticRouteIntentUpdate)
    (context : RouteContext) (ingested : Ingested) : RouteLane :=
  let carriers := if identity.backfillOnly then []
    else removalCarriers lane ingested identity.storeOnly context.now
  let stored : RouteLane :=
    { lane with
      rows := ingested.rows, nextRowId := ingested.nextRowId
      tombstones := lane.tombstones ++ carriers
      nextTombstoneId := lane.nextTombstoneId + ingested.removed.length
      desiredRevision := lane.desiredRevision + 1 }
  if pushPromotes body ingested identity context.autoApply then stored.authorize else stored

/-- The private records of a push; a backfill records none of its own. -/
def ingestRecords (identity : PushIdentity) (ingested : Ingested) : List DeletionRecord :=
  if identity.backfillOnly then []
  else ingested.removed.map (promotionDeletion ingested.partition)

/-- `record_response` over the store the push leaves. -/
def recordIngested (stored : RouteLane) (receipt : Receipt) (identity : PushIdentity)
    (context : RouteContext) (ingested : Ingested) : Except PushError Receipt :=
  let replaced := !identity.backfillOnly && !identity.storeOnly &&
    (!ingested.removed.isEmpty || ingested.cleared)
  recordResponse .staticRoute receipt identity
    ⟨ingestResponse stored.deviceId context.fingerprint ingested replaced,
      ingestRecords identity ingested⟩ 200 none
    (some ⟨stored.authorized.map (·.tables), stored.authorizedRevision, stored.desiredRevision⟩)
    stored.tables

/-- The admitted part of `_apply_static_route_intent`. -/
def ingestAdmitted (lane : RouteLane) (receipt : Receipt) (identity : PushIdentity)
    (body : StaticRouteIntentUpdate) (context : RouteContext) : Except IngestError RouteLane := do
  let ingested ← ingest lane identity body context.now
  let stored := storeIngested lane identity body context ingested
  match recordIngested stored receipt identity context ingested with
  | .error refused => .error (.push refused)
  | .ok recorded => .ok { stored with receipt := some recorded }

/-- One transaction; a replay leaves the store alone. The request-wide `delete_origin` flag does not
apply to this lane. -/
def applyStaticRouteIntent (lane : RouteLane) (request : PushIdentity)
    (body : StaticRouteIntentUpdate) (context : RouteContext) : Except IngestError RouteLane := do
  let identity := { request with deleteOrigin := false }
  rejectPayloadDuplicates body.routes
  rejectDeletionPayload identity.backfillOnly body.deletedRoutes
  match admitPush .staticRoute lane.receipt identity with
  | .error refused => .error (.push refused)
  | .ok (_, some (some _, _)) => .ok lane
  | .ok (receipt, _) => ingestAdmitted lane receipt identity body context

def RouteLane.fresh (deviceId : Nat) (nedId : Option String) : RouteLane :=
  ⟨deviceId, nedId, [], 1, [], 1, none, 0, 0, none⟩

end NsoAdapter.Core
