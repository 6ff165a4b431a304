import NsoAdapter.Intent.Receipt

/-! Static-route ingestion (`core/static_route_ingestion.py`) and the authority of its
`deleted_routes` (`core/deleted_routes.py`): a full-replace push is matched against the
stored rows, what it removes is classified, and the matched rows are edited in place. -/

namespace NsoAdapter.StaticRoute
open Lib Projection Store

/-- `_STATE_FIELDS`: the columns a push writes beside the identity. -/
structure RouteState where
  interfaceNextHop : Option String
  nextHopVrf : Option String
  metric : Option Int
  permanent : Option Bool
  tag : Option Int
  name : Option String
  deriving DecidableEq

/-- The two halves of `pending_clear`. -/
structure PendingClear where
  authorized : List String
  storeOnly : List String
  deriving DecidableEq

/-- `StaticRouteIntent` of one device. -/
structure StaticRouteIntent where
  id : Nat
  routeId : Option Nat
  intentGeneration : Option Nat
  triple : Triple
  state : RouteState
  acceptedAt : String
  deployedKey : Option Triple
  pendingClear : Option PendingClear
  deriving DecidableEq

structure StaticRouteEntry where
  routeId : Option Nat
  generation : Option Nat
  triple : Triple
  state : RouteState
  acceptedAt : Option String

structure DeletedRoute where
  routeId : Nat
  triples : List Triple
  unverified : Bool

structure StaticRouteIntentUpdate where
  routes : List StaticRouteEntry
  deletedRoutes : List DeletedRoute

inductive IngestError where
  | duplicateTriple (triple : Triple)
  | duplicateRouteId (routeId : Nat)
  | backfillCarriesDeletions (routeIds : List Nat)
  | duplicateDeletedRouteId (routeId : Nat)
  | fenceShut (routeIds : List Nat)
  | backfillMissingRouteId (routes : List Triple)
  | push (refused : Intent.PushError)
  deriving DecidableEq

def optional {Value : Type} (encode : Value → Json) (value : Option Value) : Json :=
  (value.map encode).getD .null

def RouteState.columns (state : RouteState) : Row :=
  [("interface_next_hop", optional .str state.interfaceNextHop),
    ("next_hop_vrf", optional .str state.nextHopVrf),
    ("metric", optional .num state.metric), ("permanent", optional .bool state.permanent),
    ("tag", optional .num state.tag), ("name", optional .str state.name)]

def PendingClear.json (carrier : PendingClear) : Json :=
  .obj [("authorized", .arr (carrier.authorized.map .str)),
    ("store_only", .arr (carrier.storeOnly.map .str))]

/-- A route as `snapshot_stream` serializes it. -/
def StaticRouteIntent.row (route : StaticRouteIntent) : Row :=
  [("id", .num route.id), ("route_id", optional (fun routeId : Nat => .num routeId) route.routeId),
    ("intent_generation", optional (fun value : Nat => .num value) route.intentGeneration),
    ("vrf", .str route.triple.1), ("prefix", .str route.triple.2.1),
    ("next_hop", .str route.triple.2.2), ("accepted_at", .str route.acceptedAt),
    ("deployed_key", optional tripleJson route.deployedKey),
    ("pending_clear", optional PendingClear.json route.pendingClear)] ++ route.state.columns

def nullRouteIdCount (rows : List StaticRouteIntent) : Nat :=
  rows.countP fun row => row.routeId.isNone

/-- No row of the device lacks its NetBox route. -/
def fenceOpen (rows : List StaticRouteIntent) : Bool :=
  nullRouteIdCount rows == 0

def rejectPayloadDuplicates (routes : List StaticRouteEntry) : Except IngestError Unit :=
  match firstRepeated [] (routes.map (·.triple)) with
  | some triple => .error (.duplicateTriple triple)
  | none =>
    match firstRepeated [] (routes.filterMap (·.routeId)) with
    | some routeId => .error (.duplicateRouteId routeId)
    | none => .ok ()

/-- A backfill carries no deletion authority at all. -/
def rejectDeletionPayload (backfillOnly : Bool) (records : List DeletedRoute) : Except IngestError Unit :=
  if backfillOnly && !records.isEmpty then
    .error (.backfillCarriesDeletions (records.map (·.routeId)))
  else
    match firstRepeated [] (records.map (·.routeId)) with
    | some routeId => .error (.duplicateDeletedRouteId routeId)
    | none => .ok ()

abbrev Matched := StaticRouteEntry × Option StaticRouteIntent

def claimedIds (matched : List Matched) : List Nat :=
  matched.filterMap fun entry => entry.2.map (·.id)

/-- The first pass: a row is found by its route id. -/
def matchByRouteId (existing : List StaticRouteIntent) (item : StaticRouteEntry) : Option StaticRouteIntent :=
  item.routeId.bind fun routeId => existing.find? fun row => row.routeId == some routeId

/-- The second pass: an unclaimed row is found by its triple, unless both sides
name a NetBox route. -/
def matchByTriple (existing : List StaticRouteIntent) (claimed : List Nat)
    (item : StaticRouteEntry) : Option StaticRouteIntent :=
  (existing.find? fun row => row.triple == item.triple).filter fun row =>
    !claimed.contains row.id && !(item.routeId.isSome && row.routeId.isSome)

/-- The second pass over the entries the first one left unmatched. -/
def claimByTriple (existing : List StaticRouteIntent) : List Matched → List Nat → List Matched
  | [], _ => []
  | (item, some row) :: rest, claimed =>
    (item, some row) :: claimByTriple existing rest claimed
  | (item, none) :: rest, claimed =>
    match matchByTriple existing claimed item with
    | none => (item, none) :: claimByTriple existing rest claimed
    | some row => (item, some row) :: claimByTriple existing rest (row.id :: claimed)

/-- The pairs of `_match_payload_to_rows`. -/
def matchedEntries (routes : List StaticRouteEntry) (existing : List StaticRouteIntent) : List Matched :=
  let byRouteId := routes.map fun item => (item, matchByRouteId existing item)
  claimByTriple existing byRouteId (claimedIds byRouteId)

/-- The rows of `_match_payload_to_rows` that nothing claimed. -/
def unmatchedRows (routes : List StaticRouteEntry) (existing : List StaticRouteIntent) : List StaticRouteIntent :=
  existing.filter fun row => !(claimedIds (matchedEntries routes existing)).contains row.id

/-- The route id an entry ends up with: an entry naming none keeps its row's. -/
def claimant (entry : Matched) : Option Nat :=
  entry.1.routeId.or (entry.2.bind (·.routeId))

def doubleClaimedTriple (planned : List (Triple × Option Nat)) : Option Triple :=
  (planned.filter (·.2.isSome)).find? (fun claim =>
    planned.any fun other => other.1 == claim.1 && other.2.isSome && other.2 != claim.2)
    |>.map (·.1)

def rejectDoubleClaimedTriple (matched : List Matched) : Except IngestError Unit :=
  match doubleClaimedTriple (matched.map fun entry => (entry.1.triple, claimant entry)) with
  | some triple => .error (.duplicateTriple triple)
  | none => .ok ()

structure DeletionPartition where
  executed : List Nat
  degraded : List Nat
  moot : List Nat
  uncorrelated : List Triple
  genuineRowIds : List Nat
  deriving DecidableEq

def orderTriples (triples : List Triple) : List Triple :=
  orderBy tripleKey triples

/-- The lineage of each record without its repetitions. -/
def deletionRecords (records : List DeletedRoute) : List DeletedRoute :=
  records.map fun record => { record with triples := record.triples.eraseDups }

/-- A route id binds first and exclusively, what is left goes by triple against the rows without
one. -/
def classifyDeletions (records : List DeletedRoute) (removed : List StaticRouteIntent) : DeletionPartition :=
  let correlated := fun record : DeletedRoute =>
    removed.find? fun row => row.routeId == some record.routeId
  let remaining := records.filter fun record => (correlated record).isNone
  let residue := removed.filter fun row => row.routeId.isNone
  let byTriple := fun row : StaticRouteIntent =>
    (remaining.filter fun record => record.triples.contains row.triple).map (·.routeId)
  let degraded := residue.flatMap byTriple
  let uncorrelated := orderTriples
    ((residue.filter fun row => (byTriple row).isEmpty).map (·.triple))
  let unmatched := remaining.filter fun record => !degraded.contains record.routeId
  let conservative := fun record : DeletedRoute => record.unverified && !uncorrelated.isEmpty
  { executed := orderBy id ((records.filter fun record => (correlated record).isSome).map (·.routeId))
    degraded := orderBy id
      (degraded ++ (unmatched.filter conservative).map (·.routeId)).dedup
    moot := orderBy id ((unmatched.filter fun record => !conservative record).map (·.routeId))
    uncorrelated
    genuineRowIds := records.filterMap fun record => (correlated record).map (·.id) }

def refuseUnmarkableDeletions (partition : DeletionPartition) (storeOnly fence : Bool) : Except IngestError Unit :=
  if !partition.executed.isEmpty && !storeOnly && !fence then
    .error (.fenceShut partition.executed)
  else
    .ok ()

/-- `_removal_markings`. -/
def removalMarking (partition : DeletionPartition) (row : StaticRouteIntent) : Marking :=
  if partition.genuineRowIds.contains row.id then .deleteOrigin else .detach

/-- The receipt-only carrier of one removed row. -/
def promotionDeletion (partition : DeletionPartition) (row : StaticRouteIntent) : Intent.DeletionRecord :=
  ⟨.staticRouteIntent, row.routeId, some row.triple, none, removalMarking partition row⟩

def srClearFields : List String :=
  ["interface_next_hop", "next_hop_vrf", "metric", "permanent", "tag"]

/-- The field went from wire-set to wire-unset. -/
def srIsCleared (before after : RouteState) (field : String) : Bool :=
  wireSet field (before.columns.get field) && !wireSet field (after.columns.get field)

def clearedFields (before after : RouteState) : List String :=
  srClearFields.filter (srIsCleared before after)

/-- Fold the clears and the re-sets of a push into the carrier. -/
def updatePendingClear (carrier : Option PendingClear) (cleared reset : List String)
    (storeOnly : Bool) : Option PendingClear :=
  let kept := fun half : List String => half.filter fun field => !reset.contains field
  let before := kept ((carrier.map (·.authorized)).getD [])
  let held := kept ((carrier.map (·.storeOnly)).getD [])
  let authorized := if storeOnly then before else (before ++ cleared).dedup
  let store := if storeOnly then (held ++ cleared.filter fun field => !before.contains field).dedup
    else held.filter fun field => !cleared.contains field
  if authorized.isEmpty && store.isEmpty then none
  else some ⟨orderBy id authorized, orderBy id store⟩

/-- A matched row is edited in place: its triple moves with the entry, and a route id or
a generation is adopted, never erased. -/
def updateRow (item : StaticRouteEntry) (now : String) (storeOnly : Bool)
    (row : StaticRouteIntent) : StaticRouteIntent :=
  { row with
    triple := item.triple
    routeId := item.routeId.or row.routeId
    intentGeneration := item.generation.or row.intentGeneration
    acceptedAt := item.acceptedAt.getD now
    state := item.state
    pendingClear := updatePendingClear row.pendingClear (clearedFields row.state item.state)
      (srClearFields.filter fun field => wireSet field (item.state.columns.get field)) storeOnly }

def newRow (id : Nat) (item : StaticRouteEntry) (now : String) : StaticRouteIntent :=
  { id, routeId := item.routeId, intentGeneration := item.generation, triple := item.triple
    state := item.state, acceptedAt := item.acceptedAt.getD now
    deployedKey := none, pendingClear := none }

def writeRoutes (now : String) (storeOnly : Bool) : List Matched → Nat → List StaticRouteIntent × Nat
  | [], next => ([], next)
  | (item, some row) :: rest, next =>
    let written := writeRoutes now storeOnly rest next
    (updateRow item now storeOnly row :: written.1, written.2)
  | (item, none) :: rest, next =>
    let written := writeRoutes now storeOnly rest (next + 1)
    (newRow next item now :: written.1, written.2)

def clearsLeaf (matched : List Matched) : Bool :=
  matched.any fun entry => entry.2.any fun row => !(clearedFields row.state entry.1.state).isEmpty

/-- What one ingestion comes to: the stored rows, the echoed ones in payload order, and
what left the store. -/
structure Ingested where
  rows : List StaticRouteIntent
  nextRowId : Nat
  echoed : List StaticRouteIntent
  removed : List StaticRouteIntent
  partition : DeletionPartition
  cleared : Bool

/-- The full-replace half of `_apply_static_route_intent`. -/
def ingestRoutes (rows : List StaticRouteIntent) (next : Nat) (body : StaticRouteIntentUpdate)
    (storeOnly : Bool) (now : String) : Except IngestError Ingested := do
  let matched := matchedEntries body.routes rows
  let removed := unmatchedRows body.routes rows
  rejectDoubleClaimedTriple matched
  let partition := classifyDeletions (deletionRecords body.deletedRoutes) removed
  refuseUnmarkableDeletions partition storeOnly (fenceOpen rows)
  let written := writeRoutes now storeOnly matched next
  return ⟨written.1, written.2, written.1, removed, partition, clearsLeaf matched⟩

/-- A backfill adopts the correlation of an entry and writes nothing else. -/
def adoptRow (item : StaticRouteEntry) (row : StaticRouteIntent) : StaticRouteIntent :=
  { row with
    routeId := item.routeId.or row.routeId
    intentGeneration := item.generation.or row.intentGeneration }

/-- The row a backfill leaves: adopted where an entry is paired with it. -/
def backfilledRow (matched : List Matched) (row : StaticRouteIntent) : StaticRouteIntent :=
  match matched.find? fun entry => entry.2.map (·.id) == some row.id with
  | some entry => adoptRow entry.1 row
  | none => row

def adoptedRows (matched : List Matched) : List StaticRouteIntent :=
  (matched.filter fun entry => entry.1.routeId.isSome || entry.1.generation.isSome).filterMap
    fun entry => entry.2.map (adoptRow entry.1)

/-- The matched rows a backfill would leave without a route id. -/
def residualNulls (matched : List Matched) : List Triple :=
  (matched.filter fun entry => entry.2.any (·.routeId.isNone) && entry.1.routeId.isNone).map
    (·.1.triple)

/-- The omitted rows a backfill prunes: those that correlate with no NetBox route. -/
def prunedRows (routes : List StaticRouteEntry) (rows : List StaticRouteIntent) : List StaticRouteIntent :=
  (unmatchedRows routes rows).filter fun row => row.routeId.isNone

/-- `_apply_backfill_only`. -/
def backfillRoutes (rows : List StaticRouteIntent) (next : Nat) (body : StaticRouteIntentUpdate) :
    Except IngestError Ingested :=
  let matched := matchedEntries body.routes rows
  let pruned := prunedRows body.routes rows
  if !(residualNulls matched).isEmpty then
    .error (.backfillMissingRouteId (orderTriples (residualNulls matched)))
  else
    .ok
      { rows := (rows.filter fun row => !pruned.contains row).map (backfilledRow matched)
        nextRowId := next
        echoed := adoptedRows matched
        removed := pruned
        partition := ⟨[], [], [], orderTriples (pruned.map (·.triple)), []⟩
        cleared := false }

end NsoAdapter.StaticRoute
