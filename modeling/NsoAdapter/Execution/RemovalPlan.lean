import NsoAdapter.Execution.RouteRetention

/-! The removal plan of a generation (`core/static_route_plan.py`): what the classifier authorizes,
the record it is stored as, and its reader, which certifies every recorded clear against the rows
of the stored document. -/

namespace NsoAdapter.Execution
open Lib Store Projection NsoAdapter.Core StaticRoute
open Json

def clearRecord (clear : SrClear) : Json :=
  .obj [("row_id", .num clear.rowId), ("key", tripleJson clear.key),
    ("fields", .arr (clear.fields.map .str))]

def serializeRemovalPlan (plan : SrRemovalPlan) : Json :=
  .obj [("authorized_removal_keys", .arr (plan.authorized.map tripleJson)),
    ("claimed_keys", .arr (plan.claimed.map tripleJson)),
    ("tombstone_ids", .arr (plan.tombstoneIds.map fun id => .num (id : Nat))),
    ("candidate_clears", .arr (plan.clears.map clearRecord)),
    ("reclaimed_keys", .arr (plan.reclaimed.map tripleJson))]

inductive RemovalPlanError where
  | invalidPlan
  | malformedRecord
  | clearRowAbsent (rowId : Nat)
  | clearKeyMismatch (rowId : Nat)
  | clearFieldsHeld (rowId : Nat) (fields : List String)

def unsetClearFields (row : Row) : List String :=
  (authorizedClearFields (row.get "pending_clear")).filter fun field => !wireSet field (row.get field)

def certifyClear (rows : List Row) (clear : SrClear) : Except RemovalPlanError Unit :=
  match rowById rows clear.rowId with
  | none => .error (.clearRowAbsent clear.rowId)
  | some row =>
    if clear.key ≠ tripleOf row then .error (.clearKeyMismatch clear.rowId)
    else if clear.fields.all (unsetClearFields row).contains then .ok ()
    else .error (.clearFieldsHeld clear.rowId
      (orderBy id (clear.fields.filter fun field => !(unsetClearFields row).contains field)))

def certifyClears (rows : List Row) (clears : List SrClear) : Except RemovalPlanError Unit :=
  clears.forM (certifyClear rows)

def clearFromRecord (record : Json) : Option SrClear := do
  return ⟨← (record.member "row_id").nat?, ← asTriple (record.member "key"),
    ← (record.member "fields").items? text?⟩

def removalPlanFields : List String :=
  ["authorized_removal_keys", "claimed_keys", "tombstone_ids", "candidate_clears", "reclaimed_keys"]

def requireRecord {Value : Type} (read : Option Value) : Except RemovalPlanError Value :=
  match read with
  | some value => .ok value
  | none => .error .malformedRecord

/-- `hydrate_static_route_removal_plan` of a record, over the rows of its document. -/
def hydrateStaticRouteRemovalPlan (rows : List Row) (record : Json) : Except RemovalPlanError SrRemovalPlan :=
  if !record.hasExactly removalPlanFields then
    .error .invalidPlan
  else do
    let clears ← requireRecord ((record.member "candidate_clears").items? clearFromRecord)
    certifyClears rows clears
    let authorized ← requireRecord ((record.member "authorized_removal_keys").items? asTriple)
    let claimed ← requireRecord ((record.member "claimed_keys").items? asTriple)
    let tombstoneIds ← requireRecord ((record.member "tombstone_ids").items? nat?)
    let reclaimed ← requireRecord ((record.member "reclaimed_keys").items? asTriple)
    return ⟨authorized, claimed, tombstoneIds, clears, reclaimed⟩

/-! ### The record and its reader -/

theorem tripleJson_distinct (key : Triple) : (tripleJson key).Distinct := by
  simp [tripleJson]

theorem clearRecord_distinct (clear : SrClear) : (clearRecord clear).Distinct := by
  simp [clearRecord, tripleJson_distinct]

theorem serializeRemovalPlan_distinct (plan : SrRemovalPlan) : (serializeRemovalPlan plan).Distinct := by
  have keys : ∀ (triples : List Triple), ∀ item ∈ triples.map tripleJson, item.Distinct := by
    intro triples item listed
    obtain ⟨key, _, rfl⟩ := List.mem_map.mp listed
    exact tripleJson_distinct key
  have clears : ∀ item ∈ plan.clears.map clearRecord, item.Distinct := by
    intro item listed
    obtain ⟨clear, _, rfl⟩ := List.mem_map.mp listed
    exact clearRecord_distinct clear
  have ids : ∀ item ∈ plan.tombstoneIds.map (fun id => Json.num (id : Nat)), item.Distinct := by
    intro item listed
    obtain ⟨id, _, rfl⟩ := List.mem_map.mp listed
    exact distinct_num id
  refine distinct_obj.mpr ⟨by simp, ?_⟩
  intro member listed
  simp only [List.mem_cons, List.not_mem_nil, or_false] at listed
  rcases listed with rfl | rfl | rfl | rfl | rfl
  · exact distinct_arr.mpr (keys _)
  · exact distinct_arr.mpr (keys _)
  · exact distinct_arr.mpr ids
  · exact distinct_arr.mpr clears
  · exact distinct_arr.mpr (keys _)

theorem reads_triple (key : Triple) : Reads tripleJson asTriple key := by
  intro loaded stored
  obtain ⟨loads, rfl, related⟩ := stored.arr
  cases related with
  | cons vrf rest =>
    cases rest with
    | cons route rest =>
      cases rest with
      | cons hop rest =>
        cases rest
        rw [vrf.str, route.str, hop.str]
        rfl

theorem reads_clear (clear : SrClear) : Reads clearRecord clearFromRecord clear := by
  intro loaded stored
  have part := stored.member (clearRecord_distinct clear)
  have rowId := reads_nat clear.rowId _ (part "row_id")
  have key := reads_triple clear.key _ (part "key")
  have fields := Reads.items (fun field _ => reads_text field) _ (part "fields")
  unfold clearFromRecord
  rw [rowId, key, fields]
  rfl

theorem hasExactly_stored {plan : SrRemovalPlan} {loaded : Json} (stored : Stored (serializeRemovalPlan plan) loaded) :
    loaded.hasExactly removalPlanFields = true := by
  obtain ⟨loads, rfl, names⟩ := stored.obj
  unfold Json.hasExactly
  rw [Bool.and_eq_true, List.all_eq_true, List.all_eq_true]
  constructor
  · intro name listed
    exact List.contains_iff_mem.mpr (names.mem_iff.mpr listed)
  · intro name listed
    exact List.contains_iff_mem.mpr (names.mem_iff.mp listed)

/-- What is loaded for a plan is read as the plan, once its clears are certified. -/
theorem hydrate_stored {rows : List Row} {plan : SrRemovalPlan} (certified : certifyClears rows plan.clears = .ok ()) {loaded : Json}
    (stored : Stored (serializeRemovalPlan plan) loaded) :
    hydrateStaticRouteRemovalPlan rows loaded = .ok plan := by
  have part := stored.member (serializeRemovalPlan_distinct plan)
  have clears := Reads.items (fun clear _ => reads_clear clear) _ (part "candidate_clears")
  have authorized := Reads.items (fun key _ => reads_triple key) _ (part "authorized_removal_keys")
  have claimed := Reads.items (fun key _ => reads_triple key) _ (part "claimed_keys")
  have tombstoneIds := Reads.items (fun id _ => reads_nat id) _ (part "tombstone_ids")
  have reclaimed := Reads.items (fun key _ => reads_triple key) _ (part "reclaimed_keys")
  unfold hydrateStaticRouteRemovalPlan
  rw [hasExactly_stored stored, clears, authorized, claimed, tombstoneIds, reclaimed]
  refine bind_eq_ok.mpr ⟨_, rfl, ?_⟩
  exact bind_eq_ok.mpr ⟨(), certified, rfl⟩

/-! ### The plan of a snapshot -/

theorem mem_candidateClearFields {row : Row} {field : String} (candidate : field ∈ candidateClearFields row) :
    replacementOpen row = false ∧ field ∈ unsetClearFields row := by
  unfold candidateClearFields at candidate
  dsimp only at candidate
  split at candidate
  · exact absurd candidate List.not_mem_nil
  · rename_i offered
    rw [Bool.or_eq_true, not_or] at offered
    exact ⟨Bool.eq_false_iff.mpr offered.2, mem_orderBy.mp candidate⟩

/-- A clear of the plan: the row it names, at the row's key and over unset fields of its
authorized half. -/
structure Owed (row : Row) (clear : SrClear) : Prop where
  rowId : clear.rowId = idOf row
  key : clear.key = tripleOf row
  settled : replacementOpen row = false
  authorized : ∀ field ∈ clear.fields, field ∈ authorizedClearFields (row.get "pending_clear")
  unset : ∀ field ∈ clear.fields, wireSet field (row.get field) = false

section Snapshot

variable (rows : List Row) (carriers : List Carrier) (keys : List Triple) (suppressed : Bool)

theorem authorized_unrendered {key : Triple} {row : Row} (authorized : key ∈ (classifyRemovalPlan rows carriers keys suppressed).authorized)
    (stored : row ∈ rows) : tripleOf row ≠ key := by
  intro renders
  have unrendered := (List.mem_filter.mp (mem_sortedKeys.mp authorized)).2
  rw [Bool.not_eq_true', List.contains_eq_mem, decide_eq_false_iff_not] at unrendered
  exact unrendered (List.mem_map.mpr ⟨row, stored, renders⟩)

theorem granted_iff (key : Triple) : (key ∈ (classifyRemovalPlan rows carriers keys suppressed).authorized ∨
      key ∈ (classifyRemovalPlan rows carriers keys suppressed).reclaimed) ↔
      key ∈ keys ∨ ∃ carrier ∈ carriers, carrier.triple = key ∨ carrier.deployed = some key := by
  have held : ∀ carrier : Carrier, key ∈ carrier.keys ↔ carrier.triple = key ∨ carrier.deployed = some key := by
    intro carrier
    rw [Carrier.keys, List.mem_cons, Option.mem_toList, eq_comm]
  unfold classifyRemovalPlan
  rw [mem_sortedKeys, mem_sortedKeys, List.mem_filter, List.mem_filter, ← and_or_left,
    List.mem_append, List.mem_flatMap, and_iff_left (by cases (rows.map tripleOf).contains key <;> simp)]
  simp only [held]

theorem clears_owed {clear : SrClear} (listed : clear ∈ (classifyRemovalPlan rows carriers keys suppressed).clears) :
    ∃ row ∈ rows, Owed row clear := by
  unfold classifyRemovalPlan at listed
  split at listed
  · exact absurd listed List.not_mem_nil
  obtain ⟨row, stored, named⟩ := List.mem_filterMap.mp listed
  split at named
  · cases named
  rename_i some_field
  cases named
  obtain ⟨first, found⟩ := List.exists_mem_of_ne_nil _ (mt List.isEmpty_iff.mpr some_field)
  refine ⟨row, stored, rfl, rfl, (mem_candidateClearFields found).1, ?_, ?_⟩
  · intro field owed
    exact (List.mem_filter.mp (mem_candidateClearFields owed).2).1
  · intro field owed
    simpa using (List.mem_filter.mp (mem_candidateClearFields owed).2).2

end Snapshot

theorem certifyClears_ok {rows : List Row} (unique : (rows.map idOf).Nodup)
    {clears : List SrClear} (owed : ∀ clear ∈ clears, ∃ row ∈ rows, Owed row clear) :
    certifyClears rows clears = .ok () := by
  induction clears with
  | nil => rfl
  | cons clear clears ih =>
    obtain ⟨row, stored, obligation⟩ := owed clear List.mem_cons_self
    have held : clear.fields.all (unsetClearFields row).contains = true := by
      rw [List.all_eq_true]
      intro field listed
      rw [List.contains_iff_mem]
      exact List.mem_filter.mpr ⟨obligation.authorized field listed, by
        rw [obligation.unset field listed]; rfl⟩
    have certified : certifyClear rows clear = .ok () := by
      unfold certifyClear
      rw [obligation.rowId, rowById_eq_some unique stored]
      dsimp only
      rw [if_neg (not_not_intro obligation.key), if_pos held]
    exact bind_eq_ok.mpr ⟨(), certified, ih fun other listed => owed other (List.mem_cons_of_mem _ listed)⟩

def grantedRoutes (allowed : RemovalAuthority) : List Json :=
  (((allowed.lookup .staticRoute).getD []).lookup "route").getD []

theorem mem_removalKeys {allowed : RemovalAuthority} {keys : List Triple} (valid : removalKeys allowed = .ok keys) (key : Triple) :
    key ∈ keys ↔ ∃ raw ∈ grantedRoutes allowed, routeKey raw = .ok key := by
  have read := forall₂_of_mapM valid
  constructor
  · intro listed
    exact exists_of_forall₂ read listed
  · rintro ⟨raw, granted, reads⟩
    obtain ⟨found, listed, same⟩ := exists_of_forall₂ read.flip granted
    rw [reads] at same
    cases same
    exact listed

/-- The removal plan authorizes no key that a row renders, divides exactly the granted keys and
those of the tombstones, clears only what a row owes, and is read back from its record. -/
theorem removal_plan_classified (rows : List Row) (tombstones : List Carrier)
    (allowed : RemovalAuthority) (context : RemovalContext) (keys : List Triple)
    (valid : removalKeys allowed = .ok keys) :
    let plan := classifyRemovalPlan rows tombstones keys (context.detach || context.retractDeferred)
    (∀ key ∈ plan.authorized, ∀ row ∈ rows, tripleOf row ≠ key) ∧
    (∀ key, key ∈ plan.authorized ∨ key ∈ plan.reclaimed ↔ (∃ raw ∈ grantedRoutes allowed, routeKey raw = .ok key) ∨
      ∃ carrier ∈ tombstones, carrier.triple = key ∨ carrier.deployed = some key) ∧
    (∀ clear ∈ plan.clears, ∃ row ∈ rows, Owed row clear) ∧
    ((rows.map idOf).Nodup → ∀ loaded, Stored (serializeRemovalPlan plan) loaded →
      hydrateStaticRouteRemovalPlan rows loaded = .ok plan) := by
  refine ⟨fun key authorized row stored => authorized_unrendered _ _ _ _ authorized stored,
    fun key => by rw [granted_iff, mem_removalKeys valid], fun clear listed => clears_owed _ _ _ _ listed, ?_⟩
  intro unique loaded stored
  exact hydrate_stored (certifyClears_ok unique fun clear listed => clears_owed _ _ _ _ listed) stored

def unmetricRoute : Row :=
  [("id", .num 4), ("prefix", .str "10.0.0.0/24"), ("next_hop", .str "192.0.2.1"),
    ("pending_clear", .obj [("authorized", .arr [.str "metric"]), ("store_only", .arr [])])]

theorem removal_plan_classified_metric : let key : Triple := ("", "10.0.1.0/24", "192.0.2.1")
    let allowed : RemovalAuthority := [(.staticRoute, [("route", [tripleJson key])])]
    let plan := classifyRemovalPlan [unmetricRoute] [⟨2, tripleOf unmetricRoute, none⟩] [key] false
    plan.authorized = [key] ∧ plan.reclaimed = [tripleOf unmetricRoute] ∧
      plan.clears = [⟨4, tripleOf unmetricRoute, ["metric"]⟩] ∧
      removalKeys allowed = .ok [key] ∧
      hydrateStaticRouteRemovalPlan [unmetricRoute] (serializeRemovalPlan plan) = .ok plan := by
  intro key allowed plan
  have valid : removalKeys allowed = .ok [key] := rfl
  obtain ⟨_, _, _, reads⟩ := removal_plan_classified [unmetricRoute] [⟨2, tripleOf unmetricRoute, none⟩] allowed
    ⟨.staticRoute, [], [], [], false, false, false, []⟩ [key] valid
  refine ⟨by decide +kernel, by decide +kernel, by decide +kernel, valid, ?_⟩
  exact reads (by decide) _ ⟨serializeRemovalPlan_distinct _, rfl⟩

end NsoAdapter.Execution
