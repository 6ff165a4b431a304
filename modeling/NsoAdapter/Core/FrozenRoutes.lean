import NsoAdapter.Core.FragmentTables

/-! The static-route plan of a fragment and its rows: freezing writes a plan that selects every
accepted row and every carrier, and pruning and retention keep it so. -/

namespace NsoAdapter.Core
open Lib Projection Store StaticRoute

def accepted (row : Row) : Prop :=
  row.get "accepted_at" ≠ .null

/-- A plan that was frozen over the tables: it selects the accepted rows and the carriers, and
has the coordinates of each selected row. -/
structure FrozenPlan (tables : Tables) (plan : SrApplyPlan) : Prop where
  uniqueRows : ((tables.rows .staticRouteIntent).map idOf).Nodup
  uniqueTombstones : ((tables.rows .staticRouteTombstone).map idOf).Nodup
  rowIds : ∀ id, id ∈ plan.rowIds ↔
    ∃ row ∈ tables.rows .staticRouteIntent, accepted row ∧ idOf row = id
  tombstoneIds : ∀ id, id ∈ plan.tombstoneIds ↔
    ∃ row ∈ tables.rows .staticRouteTombstone, idOf row = id
  cas : ∀ id, id ∈ plan.cas.map (·.rowId) ↔ id ∈ plan.rowIds

variable {tables : Tables} {fragment : Fragment}

theorem FrozenPlan.freeze (uniqueRows : ((tables.rows .staticRouteIntent).map idOf).Nodup)
    (uniqueTombstones : ((tables.rows .staticRouteTombstone).map idOf).Nodup) :
    FrozenPlan tables (classifyApplyPlan (tables.rows .staticRouteIntent) ((tables.rows .staticRouteTombstone).map carrierOf)) where
  uniqueRows := uniqueRows
  uniqueTombstones := uniqueTombstones
  rowIds id := by simp [classifyApplyPlan, accepted, and_assoc]
  tombstoneIds id := by simp [classifyApplyPlan, carrierOf]
  cas id := by simp [classifyApplyPlan, casOf]

theorem FrozenPlan.prune {pruned : Tables} {plan : SrApplyPlan} (frozen : FrozenPlan tables plan)
    {existing : List Nat} (rows : pruned.rows .staticRouteIntent = tables.rows .staticRouteIntent)
    (tombstones : pruned.rows .staticRouteTombstone = (tables.rows .staticRouteTombstone).filter fun row => existing.contains (idOf row)) :
    FrozenPlan pruned (pruneApplyPlan plan (pruned.rows .staticRouteIntent) (pruned.rows .staticRouteTombstone)) where
  uniqueRows := rows ▸ frozen.uniqueRows
  uniqueTombstones := by
    rw [tombstones]
    exact frozen.uniqueTombstones.sublist (List.filter_sublist.map _)
  rowIds id := by
    rw [rows]
    exact frozen.rowIds id
  tombstoneIds id := by simp [pruneApplyPlan, carrierOf]
  cas := frozen.cas

section Retention

variable {sourceCas : List SrCas} {plan after : SrApplyPlan} {retained : List Row}

structure Extends (sourceCas : List SrCas) (plan : SrApplyPlan) (rows : List Row)
    (after : SrApplyPlan) : Prop where
  rowIds : ∀ id, id ∈ after.rowIds ↔ id ∈ plan.rowIds ∨ id ∈ rows.map idOf
  tombstoneIds : after.tombstoneIds = plan.tombstoneIds
  cas : (∀ id, id ∈ plan.cas.map (·.rowId) ↔ id ∈ plan.rowIds) →
    ∀ id, id ∈ after.cas.map (·.rowId) ↔ id ∈ after.rowIds
  recorded : ∀ row ∈ rows, idOf row ∈ plan.rowIds ∨ idOf row ∈ sourceCas.map (·.rowId)

theorem Extends.extendWith {front : List Row} {middle : SrApplyPlan} {row : Row} (before : Extends sourceCas plan front middle)
    (step : extendWith sourceCas middle row = .ok after) :
    Extends sourceCas plan (front ++ [row]) after := by
  unfold StaticRoute.extendWith at step
  split at step
  · rename_i selected
    cases step
    rw [List.contains_iff_mem] at selected
    refine ⟨fun id => ?_, before.tombstoneIds, before.cas, ?_⟩
    · rw [before.rowIds, List.map_append, List.mem_append]
      constructor
      · rintro (planned | retained)
        · exact .inl planned
        · exact .inr (.inl retained)
      · rintro (planned | retained | last)
        · exact .inl planned
        · exact .inr retained
        · rw [List.mem_singleton.mp last]
          exact (before.rowIds _).mp selected
    · intro other member
      rcases List.mem_append.mp member with earlier | last
      · exact before.recorded other earlier
      · rw [List.mem_singleton.mp last]
        rcases (before.rowIds _).mp selected with planned | retained
        · exact .inl planned
        · obtain ⟨same, listed, sameId⟩ := List.mem_map.mp retained
          exact sameId ▸ before.recorded same listed
  · split at step
    · cases step
    rename_i item found
    cases step
    have sameId : item.rowId = idOf row := by simpa using List.find?_some found
    refine ⟨fun id => ?_, before.tombstoneIds, fun matched id => ?_, ?_⟩
    · simp only [List.mem_append, List.mem_singleton, before.rowIds, List.map_append, List.map_cons, List.map_nil, or_assoc]
    · simp only [List.map_append, List.mem_append, List.map_cons, List.map_nil, sameId, before.cas matched]
    · intro other member
      rcases List.mem_append.mp member with earlier | last
      · exact before.recorded other earlier
      · rw [List.mem_singleton.mp last, ← sameId]
        exact .inr (List.mem_map_of_mem (List.mem_of_find?_eq_some found))

theorem Extends.foldlM {front : List Row} {middle : SrApplyPlan} (before : Extends sourceCas plan front middle)
    (run : retained.foldlM (StaticRoute.extendWith sourceCas) middle = .ok after) :
    Extends sourceCas plan (front ++ retained) after := by
  induction retained generalizing front middle with
  | nil =>
    cases run
    simpa using before
  | cons row rest ih =>
    obtain ⟨next, step, run⟩ := bind_eq_ok.mp run
    simpa using ih (before.extendWith step) run

theorem extendApplyPlan_extends {source : Option SrApplyPlan} (extended : extendApplyPlan (some plan) source retained = .ok after) :
    Extends ((source.map (·.cas)).getD []) plan retained after := by
  have same : Extends ((source.map (·.cas)).getD []) plan [] plan := ⟨fun id => by simp, rfl, id, fun _ member => by cases member⟩
  unfold extendApplyPlan at extended
  dsimp only at extended
  split at extended
  · rename_i none
    cases extended
    rw [List.isEmpty_iff.mp none]
    exact same
  · split at extended
    · cases extended
    rename_i last run
    cases extended
    have loop := same.foldlM run
    refine ⟨fun id => by simpa using loop.rowIds id, loop.tombstoneIds, fun matched id => ?_, loop.recorded⟩
    simpa using loop.cas matched id

end Retention

theorem FrozenPlan.retain {combined source : Tables} {plan after sourcePlan : SrApplyPlan}
    {retained : List Row} (frozen : FrozenPlan tables plan) (origin : FrozenPlan source sourcePlan)
    (held : ∀ row ∈ retained, row ∈ source.rows .staticRouteIntent)
    (unique : ((tables.rows .staticRouteIntent ++ retained).map idOf).Nodup)
    (rows : combined.rows .staticRouteIntent = orderBy idOf (tables.rows .staticRouteIntent ++ retained))
    (tombstones : combined.rows .staticRouteTombstone = tables.rows .staticRouteTombstone)
    (extended : extendApplyPlan (some plan) (some sourcePlan) retained = .ok after) :
    FrozenPlan combined after := by
  have extension := extendApplyPlan_extends extended
  -- a retained row is accepted: the source has coordinates of accepted rows alone
  have acceptedRow : ∀ row ∈ retained, accepted row := by
    intro row member
    rcases extension.recorded row member with planned | recorded
    · obtain ⟨stored, listed, _, sameId⟩ := (frozen.rowIds _).mp planned
      rw [List.map_append] at unique
      exact absurd sameId.symm (fun same => (List.nodup_append.mp unique).2.2 _
        (List.mem_map_of_mem listed) _ (List.mem_map_of_mem member) same.symm)
    · obtain ⟨stored, listed, accepts, sameId⟩ := (origin.rowIds _).mp ((origin.cas _).mp recorded)
      rwa [List.inj_on_of_nodup_map origin.uniqueRows listed (held row member) sameId] at accepts
  refine ⟨?_, tombstones ▸ frozen.uniqueTombstones, fun id => ?_, fun id => ?_, extension.cas frozen.cas⟩
  · rw [rows]
    exact ((List.perm_insertionSort _ _).map _).nodup_iff.mpr unique
  · rw [extension.rowIds, frozen.rowIds, rows]
    constructor
    · rintro (⟨row, listed, accepts, sameId⟩ | member)
      · exact ⟨row, mem_orderBy.mpr (List.mem_append_left _ listed), accepts, sameId⟩
      · obtain ⟨row, listed, sameId⟩ := List.mem_map.mp member
        exact ⟨row, mem_orderBy.mpr (List.mem_append_right _ listed), acceptedRow row listed, sameId⟩
    · rintro ⟨row, listed, accepts, sameId⟩
      rcases List.mem_append.mp (mem_orderBy.mp listed) with stored | kept
      · exact .inl ⟨row, stored, accepts, sameId⟩
      · exact .inr (List.mem_map.mpr ⟨row, kept, sameId⟩)
  · rw [extension.tombstoneIds, frozen.tombstoneIds, tombstones]

/-! ### The producers of a fragment -/

def FrozenFragment (fragment : Fragment) : Prop :=
  ∃ plan, fragment.proof.bind (·.apply) = some plan ∧ FrozenPlan fragment.tables plan

/-- The section of a generation document: its plan was frozen over its tables. -/
def FrozenSection (body : SectionBody) : Prop :=
  ∃ plan, body.proof.bind (·.apply) = some plan ∧ FrozenPlan body.tables plan

theorem FrozenFragment.freezeFragment {live : LiveDevice} (uniqueRows : ((tables.rows .staticRouteIntent).map idOf).Nodup)
    (uniqueTombstones : ((tables.rows .staticRouteTombstone).map idOf).Nodup)
    (frozen : freezeFragment live .staticRoute tables = .ok fragment) :
    FrozenFragment fragment := by
  cases frozen
  exact ⟨_, rfl, .freeze uniqueRows uniqueTombstones⟩

private theorem rows_pruned (tables : Tables) (existing : List Nat) (table : IntentTable) : Tables.rows (tables.map fun entry =>
      if entry.1.lifecycle then (entry.1, entry.2.filter fun row => existing.contains (idOf row))
      else entry) table =
      if table.lifecycle then (tables.rows table).filter fun row => existing.contains (idOf row)
      else tables.rows table := by
  unfold Tables.rows
  induction tables with
  | nil => simp
  | cons entry rest ih =>
    obtain ⟨name, rows⟩ := entry
    by_cases same : table = name
    · subst same
      by_cases carries : table.lifecycle = true
      · simp [carries]
      · simp [carries]
    · have other : (table == name) = false := beq_false_of_ne same
      by_cases carries : name.lifecycle = true
      · simpa [carries, List.lookup_cons, other] using ih
      · simpa [carries, List.lookup_cons, other] using ih

theorem FrozenFragment.pruneConsumedCarriers (frozen : FrozenFragment fragment) (existing : List Nat) :
    FrozenFragment (pruneConsumedCarriers fragment existing) := by
  obtain ⟨plan, recorded, valid⟩ := frozen
  unfold Projection.pruneConsumedCarriers
  dsimp only
  split
  · cases proof : fragment.proof with
    | none =>
      rw [proof] at recorded
      cases recorded
    | some found =>
      rw [proof] at recorded
      have planned : found.apply = some plan := recorded
      refine ⟨_, by simp only [Option.map_some, Option.bind_some, planned]; rfl, ?_⟩
      exact valid.prune (rows_pruned fragment.tables existing .staticRouteIntent)
        (rows_pruned fragment.tables existing .staticRouteTombstone)
  · exact ⟨plan, recorded, valid⟩

theorem FrozenFragment.retainRows {desired source : Fragment} {retained : List Row}
    (frozen : FrozenFragment desired) (origin : FrozenFragment source)
    (held : ∀ row ∈ retained, row ∈ source.tables.rows .staticRouteIntent)
    (retains : retainRows desired [(.staticRouteIntent, retained)] .staticRoute (some source) =
      .ok fragment) : FrozenFragment fragment := by
  obtain ⟨plan, recorded, valid⟩ := frozen
  obtain ⟨sourcePlan, sourceRecorded, sourceValid⟩ := origin
  obtain ⟨tables, combines, retains⟩ := bind_eq_ok.mp retains
  obtain ⟨proof, extended, returned⟩ := bind_eq_ok.mp retains
  cases returned
  obtain ⟨combined, step, returned⟩ := bind_eq_ok.mp combines
  cases returned
  unfold retainTable at step
  dsimp only at step
  split at step
  swap
  · cases step
  rename_i unique
  cases step
  have rows := Tables.rows_set desired.tables .staticRouteIntent .staticRouteIntent
    (orderBy idOf (desired.tables.rows .staticRouteIntent ++ retained))
  have tombstones := Tables.rows_set desired.tables .staticRouteIntent .staticRouteTombstone
    (orderBy idOf (desired.tables.rows .staticRouteIntent ++ retained))
  unfold retainedProof at extended
  split at extended
  · -- nothing is retained
    rename_i none
    cases extended
    have empty : retained = [] := by simpa using none
    refine ⟨plan, by simpa using recorded, ?_⟩
    refine valid.retain sourceValid held unique rows tombstones ?_
    rw [empty]
    rfl
  · obtain ⟨after, extends_, returned⟩ := bind_eq_ok.mp extended
    cases returned
    have planned : (desired.proof.getD .empty).apply = some plan := by
      cases proof : desired.proof with
      | none =>
        rw [proof] at recorded
        cases recorded
      | some found =>
        rw [proof] at recorded
        exact recorded
    have sourced : (((some source).bind (·.proof)).getD .empty).apply = some sourcePlan := by
      cases proof : source.proof with
      | none =>
        rw [proof] at sourceRecorded
        cases sourceRecorded
      | some found =>
        simpa [proof] using sourceRecorded
    rw [planned, sourced] at extends_
    exact ⟨after, rfl, valid.retain sourceValid held unique rows tombstones extends_⟩

theorem FrozenFragment.composeDocument {fragments : Fragments} {document : Document}
    (frozen : FrozenFragment fragment) (distinct : fragment.tables.Distinct)
    (contributes : fragments .staticRoute = some fragment)
    (composed : composeDocument fragments = .ok document) :
    ∃ body, document.lookup .staticRoute = some body ∧ FrozenSection body := by
  have alone : contributionsTo fragments .staticRoute = [(.staticRoute, fragment)] := by
    simp [contributionsTo, ProjectionStream.all, ProjectionStream.streamSection, contributes]
  obtain ⟨body, scope, located, made⟩ := composeDocument_composes composed contributes
  refine ⟨body, located, ?_⟩
  obtain ⟨plan, recorded, valid⟩ := frozen
  rw [ProjectionStream.streamSection, alone] at made
  obtain ⟨⟨context, proof⟩, executes, returned⟩ := bind_eq_ok.mp made
  cases returned
  obtain ⟨merged, merges, executes⟩ := bind_eq_ok.mp executes
  obtain ⟨_, _, returned⟩ := bind_eq_ok.mp executes
  cases returned
  have planned : merged.apply = some plan := by
    obtain ⟨first, step, last⟩ := bind_eq_ok.mp merges
    cases last
    rw [mergeProof_apply step, recorded, Option.some_or]
  have tables : ∀ table, Tables.rows (sectionTables [(ProjectionStream.staticRoute, fragment)]) table = fragment.tables.rows table := by
    intro table
    unfold Tables.rows sectionTables
    have updated : Dict.get? (Dict.update [] fragment.tables) table = Dict.get? fragment.tables table := by
      rw [Dict.get?_update, Dict.get?_reverse distinct, Dict.get?_nil, Option.or_none]
    unfold Dict.get? at updated
    rw [List.foldl_cons, List.foldl_nil, updated]
  refine ⟨plan, ?_, ?_⟩
  · have filled : merged ≠ .empty := by
      rintro rfl
      cases planned
    simp only [if_neg filled, Option.bind_some, planned]
  · exact
      { uniqueRows := by rw [tables]; exact valid.uniqueRows
        uniqueTombstones := by rw [tables]; exact valid.uniqueTombstones
        rowIds := by rw [tables]; exact valid.rowIds
        tombstoneIds := by rw [tables]; exact valid.tombstoneIds
        cas := valid.cas }

/-- The fragments that freezing makes of well-keyed rows, and pruning and retention of those. -/
inductive Produced : Fragment → Prop where
  | frozen {live : LiveDevice} {tables : Tables} {fragment : Fragment}
      (uniqueRows : ((tables.rows .staticRouteIntent).map idOf).Nodup)
      (uniqueTombstones : ((tables.rows .staticRouteTombstone).map idOf).Nodup)
      (freezes : freezeFragment live .staticRoute tables = .ok fragment) : Produced fragment
  | pruned {fragment : Fragment} (existing : List Nat) (before : Produced fragment) :
      Produced (pruneConsumedCarriers fragment existing)
  | retained {desired source fragment : Fragment} {rows : List Row} (before : Produced desired)
      (origin : Produced source) (held : ∀ row ∈ rows, row ∈ source.tables.rows .staticRouteIntent)
      (retains : retainRows desired [(.staticRouteIntent, rows)] .staticRoute (some source) = .ok fragment) :
      Produced fragment

theorem Produced.frozenFragment (produced : Produced fragment) : FrozenFragment fragment := by
  induction produced with
  | frozen uniqueRows uniqueTombstones freezes => exact .freezeFragment uniqueRows uniqueTombstones freezes
  | pruned existing _ ih => exact ih.pruneConsumedCarriers existing
  | retained _ _ held retains ih origin => exact ih.retainRows origin held retains

/-- However its fragment came about, the plan in a composed document selects exactly the accepted
rows and the carriers of the document. -/
theorem composed_route_plan_frozen (produced : Produced fragment) (distinct : fragment.tables.Distinct)
    {fragments : Fragments} (contributes : fragments .staticRoute = some fragment) {document : Document}
    (composed : composeDocument fragments = .ok document) :
    ∃ body, document.lookup .staticRoute = some body ∧ FrozenSection body :=
  produced.frozenFragment.composeDocument distinct contributes composed

/-! A promotion that retains a withdrawn route of the authorized fragment, after one of the two
carriers of the desired fragment was consumed. -/

def routeTo (id : Int) (prefixText : String) (deployed : Json) : Row :=
  [("id", .num id), ("vrf", .str ""), ("prefix", .str prefixText), ("next_hop", .str "192.0.2.1"),
    ("accepted_at", .str "t0"), ("deployed_key", deployed)]

def keptRoute : Row := routeTo 1 "10.0.0.0/24" .null

def withdrawnRoute : Row := routeTo 2 "10.0.1.0/24" (.arr [.str "", .str "10.0.9.0/24", .str "192.0.2.1"])

def carrierTo (id : Int) (prefixText : String) : Row :=
  [("id", .num id), ("vrf", .str ""), ("prefix", .str prefixText), ("next_hop", .str "192.0.2.1"), ("deployed_key", .null)]

def frozenRoutes (routes : List Row) : Except ProjectionError Fragment :=
  freezeFragment ⟨none, fun _ => [], [], []⟩ .staticRoute [(.staticRouteIntent, routes),
    (.staticRouteTombstone, [carrierTo 5 "10.0.5.0/24", carrierTo 6 "10.0.6.0/24"])]

def retainedRoutes : Except ProjectionError Fragment := do
  let desired ← frozenRoutes [keptRoute]
  retainRows (pruneConsumedCarriers desired [6]) [(.staticRouteIntent, [withdrawnRoute])] .staticRoute
    (some (← frozenRoutes [keptRoute, withdrawnRoute]))

def routesAlone (fragment : Fragment) : Fragments := fun stream =>
  if stream = .staticRoute then some fragment else none

theorem retained_route_plan_frozen : ∃ fragment document body, retainedRoutes = .ok fragment ∧
    composeDocument (routesAlone fragment) = .ok document ∧ document.lookup .staticRoute = some body ∧
    (body.tables.rows .staticRouteIntent).map idOf = [1, 2] ∧
    (body.tables.rows .staticRouteTombstone).map idOf = [6] ∧ FrozenSection body := by
  obtain ⟨document, run⟩ : ∃ document, (retainedRoutes >>= fun fragment => composeDocument (routesAlone fragment)) = .ok document :=
    ⟨_, rfl⟩
  obtain ⟨fragment, retains, composed⟩ := bind_eq_ok.mp run
  have produced : Produced fragment := by
    obtain ⟨desired, freezes, retains⟩ := bind_eq_ok.mp retains
    obtain ⟨source, authorizes, retains⟩ := bind_eq_ok.mp retains
    have held : ∀ row ∈ [withdrawnRoute], row ∈ source.tables.rows .staticRouteIntent := by
      cases authorizes
      decide
    exact .retained (.pruned [6] (.frozen (by decide) (by decide) freezes)) (.frozen (by decide) (by decide) authorizes) held retains
  have distinct : fragment.tables.Distinct := by
    cases retains
    unfold Tables.Distinct
    decide
  obtain ⟨body, located, frozen⟩ := composed_route_plan_frozen produced distinct rfl composed
  refine ⟨fragment, document, body, retains, composed, located, ?_, ?_, frozen⟩ <;>
    (cases retains; cases composed; cases located; decide)

end NsoAdapter.Core
