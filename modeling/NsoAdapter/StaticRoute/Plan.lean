import Mathlib.Data.List.Dedup
import Mathlib.Data.Prod.Lex
import Mathlib.Data.String.Basic
import NsoAdapter.Lib.Rows
import NsoAdapter.Projection.Identity

/-! The static-route classifier (`core/static_route_plan.py`): one row snapshot
becomes the apply plan of a fragment or the removal plan of a generation, and
nothing is classified again at execution. Key sets are lists without duplicates,
in the order they are serialized in. -/

namespace NsoAdapter.StaticRoute
open Lib Projection

/-- `value or ""`. -/
def textOr : Json → String
  | .str text => text
  | _ => ""

def idOf (row : Row) : Nat :=
  match row.get "id" with
  | .num value => value.toNat
  | _ => 0

def routeIdOf (row : Row) : Option Nat :=
  match row.get "route_id" with
  | .num value => some value.toNat
  | _ => none

/-- `triple_of`, and `_row_triple` on a serialized row. -/
def tripleOf (row : Row) : Triple :=
  (textOr (row.get "vrf"), textOr (row.get "prefix"), textOr (row.get "next_hop"))

/-- A stored key is a three-element array or absent. -/
def asTriple : Json → Option Triple
  | .arr [vrf, route, nextHop] => some (textOr vrf, textOr route, textOr nextHop)
  | _ => none

def deployedOf (row : Row) : Option Triple :=
  asTriple (row.get "deployed_key")

/-- A proven predecessor key the row no longer renders. -/
def replacementOpen (row : Row) : Bool :=
  match deployedOf row with
  | none => false
  | some deployed => deployed ≠ tripleOf row

/-- Whether the renderer emits the field at this value. -/
def wireSet (field : String) (value : Json) : Bool :=
  if field = "metric" ∨ field = "tag" then value ≠ .null else value.truthy

/-- The string members of one half of a `pending_clear` carrier. -/
def clearHalf (carrier : Json) (half : String) : List String :=
  match carrier.member half with
  | .arr items => (items.filterMap fun item =>
    match item with
    | .str field => some field
    | _ => none).dedup
  | _ => []

def authorizedClearFields (carrier : Json) : List String :=
  clearHalf carrier "authorized"

/-- The authorized clears a row still owes. -/
def candidateClearFields (row : Row) : List String :=
  let fields := authorizedClearFields (row.get "pending_clear")
  if fields.isEmpty || replacementOpen row then
    []
  else
    orderBy id (fields.filter fun field => !wireSet field (row.get field))

structure Carrier where
  id : Nat
  triple : Triple
  deployed : Option Triple

def carrierOf (row : Row) : Carrier :=
  ⟨idOf row, tripleOf row, deployedOf row⟩

/-- The keys of one carrier: its own and the one that was deployed. -/
def Carrier.keys (carrier : Carrier) : List Triple :=
  carrier.triple :: carrier.deployed.toList

def tripleKey (triple : Triple) : Lex (String × Lex (String × String)) :=
  toLex (triple.1, toLex triple.2)

/-- `sorted(keys)` of a set of triples. -/
def sortedKeys (keys : List Triple) : List Triple :=
  orderBy tripleKey keys.dedup

theorem tripleKey_injective : Function.Injective tripleKey := by
  rintro ⟨vrf, route, hop⟩ ⟨vrf', route', hop'⟩ same
  exact same

@[simp] theorem mem_sortedKeys {keys : List Triple} {key : Triple} : key ∈ sortedKeys keys ↔ key ∈ keys := by
  simp [sortedKeys]

theorem sortedKeys_ordered (keys : List Triple) : (sortedKeys keys).Pairwise fun left right => tripleKey left < tripleKey right :=
  pairwise_lt_orderBy (keys.nodup_dedup.map tripleKey_injective)

theorem sortedKeys_eq_of_mem_iff {left right : List Triple} (same : ∀ key, key ∈ left ↔ key ∈ right) : sortedKeys left = sortedKeys right :=
  eq_of_pairwise_lt (sortedKeys_ordered left) (sortedKeys_ordered right) fun key => by
    rw [mem_sortedKeys, mem_sortedKeys, same]

/-- The predecessor keys a send drops and the keys its carriers still hold. -/
def replacedKeys (rows : List Row) (carriers : List Carrier) : List Triple :=
  sortedKeys ((rows.filter replacementOpen).filterMap deployedOf ++ carriers.flatMap Carrier.keys)

def carrierWatermark (carriers : List Carrier) : Nat :=
  carriers.foldl (fun highest carrier => max highest carrier.id) 0

def casOf (row : Row) : SrCas :=
  ⟨idOf row, routeIdOf row, tripleOf row, deployedOf row⟩

/-- `classify_apply_plan` with `_serialize_apply_plan`. -/
def classifyApplyPlan (allRows : List Row) (carriers : List Carrier) : SrApplyPlan :=
  let rows := allRows.filter fun row => row.get "accepted_at" ≠ .null
  { mode := if rows.any replacementOpen then .put else .patch
    rowIds := rows.map idOf
    allowedRemovalKeys := replacedKeys rows carriers
    tombstoneIds := carriers.map (·.id)
    cas := rows.map casOf
    tombstoneIdWatermark := carrierWatermark carriers }

def frozenPlan (rows tombstones : List Row) : SrApplyPlan :=
  classifyApplyPlan rows (tombstones.map carrierOf)

def freezeStaticRouteProof (tables : Tables) : SectionProof :=
  { interfaces := none, attributeEligibility := none
    apply := some (frozenPlan (tables.rows .staticRouteIntent) (tables.rows .staticRouteTombstone)) }

/-- Rebuild the carrier half over the surviving carriers. -/
def pruneApplyPlan (plan : SrApplyPlan) (rows tombstones : List Row) : SrApplyPlan :=
  let carriers := tombstones.map carrierOf
  { plan with
    allowedRemovalKeys := replacedKeys (rows.filter fun row => plan.rowIds.contains (idOf row)) carriers
    tombstoneIds := carriers.map (·.id)
    tombstoneIdWatermark := carrierWatermark carriers }

/-- One retained row of `extend_apply_plan`. -/
def extendWith (sourceCas : List SrCas) (plan : SrApplyPlan) (row : Row) : Except ProjectionError SrApplyPlan :=
  if plan.rowIds.contains (idOf row) then
    .ok plan
  else
    match sourceCas.find? fun item => item.rowId == idOf row with
    | none => .error (.retainedCasAbsent (row.get "id"))
    | some item => .ok
        { plan with
          mode := if replacementOpen row then .put else plan.mode
          rowIds := plan.rowIds ++ [idOf row]
          cas := plan.cas ++ [item]
          allowedRemovalKeys := plan.allowedRemovalKeys ++
            if replacementOpen row then (deployedOf row).toList else [] }

/-- The retained rows keep the entries they were frozen with. -/
def extendApplyPlan (desired : Option SrApplyPlan) (source : Option SrApplyPlan)
    (retained : List Row) : Except ProjectionError SrApplyPlan :=
  match desired with
  | none => .error .retainedPlanAbsent
  | some plan =>
    if retained.isEmpty then
      .ok plan
    else
      match retained.foldlM (extendWith ((source.map (·.cas)).getD [])) plan with
      | .error refused => .error refused
      | .ok extended => .ok
          { extended with
            rowIds := orderBy id extended.rowIds
            cas := orderBy (·.rowId) extended.cas
            allowedRemovalKeys := sortedKeys extended.allowedRemovalKeys }

/-- A key as it is stored: a three-element array. -/
def tripleJson (key : Triple) : Json :=
  .arr [.str key.1, .str key.2.1, .str key.2.2]

/-- Every current and deployed key of the removed rows. -/
def promotionRemovalKeys (removed : Tables) : List (String × List Json) :=
  let keys := sortedKeys ((removed.rows .staticRouteIntent).flatMap fun row =>
    tripleOf row :: (deployedOf row).toList)
  if keys.isEmpty then []
  else [("route", keys.map tripleJson)]

/-- `classify_removal_plan`. A key is superseded only by a row that renders it; a
detach or a deferred retract delivers no clear. -/
def classifyRemovalPlan (rows : List Row) (carriers : List Carrier) (allowed : List Triple)
    (clearsSuppressed : Bool) : SrRemovalPlan :=
  let authorized := allowed ++ carriers.flatMap Carrier.keys
  let rendered := rows.map tripleOf
  { authorized := sortedKeys (authorized.filter fun key => !rendered.contains key)
    claimed := sortedKeys (rendered ++ rows.filterMap deployedOf)
    tombstoneIds := carriers.map (·.id)
    clears :=
      if clearsSuppressed then []
      else rows.filterMap fun row =>
        if (candidateClearFields row).isEmpty then none
        else some ⟨idOf row, tripleOf row, candidateClearFields row⟩
    reclaimed := sortedKeys (authorized.filter fun key => rendered.contains key) }

end NsoAdapter.StaticRoute
