import NsoAdapter.Execution.DeviceBody

/-! The incremental updates of a frozen apply plan (`core/static_route_plan.py`): pruning consumed
carriers and extending over retained rows give the plan that a freeze of the resulting rows and
carriers computes, and such a plan hydrates. -/

namespace NsoAdapter.Execution
open Lib Store Projection NsoAdapter.Core StaticRoute

def Accepted (rows : List Row) : Prop :=
  ∀ row ∈ rows, row.get "accepted_at" ≠ .null

variable {rows : List Row} {row : Row}

theorem classifyApplyPlan_of_accepted (accepted : Accepted rows) (carriers : List Carrier) : classifyApplyPlan rows carriers =
      { mode := if rows.any replacementOpen then .put else .patch
        rowIds := rows.map idOf
        allowedRemovalKeys := replacedKeys rows carriers
        tombstoneIds := carriers.map (·.id)
        cas := rows.map casOf
        tombstoneIdWatermark := carrierWatermark carriers } := by
  have all : (rows.filter fun row => row.get "accepted_at" ≠ .null) = rows :=
    List.filter_eq_self.mpr fun row member => decide_eq_true (accepted row member)
  unfold classifyApplyPlan
  rw [all]

/-! ### Pruning -/

theorem pruneApplyPlan_frozen (accepted : Accepted rows) (tombstones kept : List Row) :
    pruneApplyPlan (frozenPlan rows tombstones) rows kept = frozenPlan rows kept := by
  unfold frozenPlan
  rw [classifyApplyPlan_of_accepted accepted, classifyApplyPlan_of_accepted accepted]
  have selected : (rows.filter fun row => (rows.map idOf).contains (idOf row)) = rows := List.filter_eq_self.mpr fun row member =>
      List.contains_iff_mem.mpr (List.mem_map_of_mem member)
  unfold pruneApplyPlan
  rw [selected]

/-! ### Extending -/

def extended (plan : SrApplyPlan) (retained : List Row) : SrApplyPlan :=
  { plan with
    mode := if retained.any replacementOpen then .put else plan.mode
    rowIds := plan.rowIds ++ retained.map idOf
    cas := plan.cas ++ retained.map casOf
    allowedRemovalKeys := plan.allowedRemovalKeys ++
      (retained.filter replacementOpen).filterMap deployedOf }

theorem extendWith_new {sourceCas : List SrCas} {plan : SrApplyPlan} (new : idOf row ∉ plan.rowIds)
    (frozen : sourceCas.find? (fun item => item.rowId == idOf row) = some (casOf row)) :
    extendWith sourceCas plan row = .ok (extended plan [row]) := by
  unfold extendWith extended
  rw [if_neg (by simpa using new), frozen]
  cases opened : replacementOpen row with
  | false => simp [opened]
  | true => cases deployed : deployedOf row <;> simp [opened, deployed]

theorem extended_extended (plan : SrApplyPlan) (first second : List Row) :
    extended (extended plan first) second = extended plan (first ++ second) := by
  unfold extended
  rw [List.any_append, List.map_append, List.map_append, List.filter_append, List.filterMap_append,
    List.append_assoc, List.append_assoc, List.append_assoc]
  cases first.any replacementOpen <;> cases second.any replacementOpen <;> rfl

/-- The loop of `extend_apply_plan` over rows that the plan does not have. -/
theorem extendWith_foldlM {sourceCas : List SrCas} {retained : List Row} {plan : SrApplyPlan}
    (distinct : (plan.rowIds ++ retained.map idOf).Nodup)
    (frozen : ∀ row ∈ retained, sourceCas.find? (fun item => item.rowId == idOf row) = some (casOf row)) :
    retained.foldlM (extendWith sourceCas) plan = .ok (extended plan retained) := by
  induction retained generalizing plan with
  | nil =>
    unfold extended
    simp
    rfl
  | cons row rest ih =>
    have new : idOf row ∉ plan.rowIds := by
      intro present
      rw [List.nodup_append] at distinct
      exact distinct.2.2 _ present _ List.mem_cons_self rfl
    have later : ((extended plan [row]).rowIds ++ rest.map idOf).Nodup := by
      unfold extended
      simpa [List.append_assoc] using distinct
    rw [List.foldlM_cons, extendWith_new new (frozen row List.mem_cons_self)]
    refine (ih later fun other member => frozen other (List.mem_cons_of_mem _ member)).trans ?_
    rw [extended_extended, List.singleton_append]

theorem find?_cas_of_mem (distinct : (rows.map idOf).Nodup) (member : row ∈ rows) :
    (rows.map casOf).find? (fun item => item.rowId == idOf row) = some (casOf row) := by
  refine @find?_eq_some_of_unique SrCas _ (casOf row) Nat _ _ (·.rowId) (List.mem_map_of_mem member) ?_
  intro item listed same
  obtain ⟨other, located, rfl⟩ := List.mem_map.mp listed
  rw [List.inj_on_of_nodup_map distinct located member same]

theorem orderBy_split {split : List Row} (same : split.Perm rows)
    (ordered : (rows.map idOf).Pairwise (· < ·)) : orderBy idOf split = rows := by
  have distinct : (split.map idOf).Nodup := (same.map idOf).nodup_iff.mpr (ordered.imp fun less => less.ne)
  refine eq_of_pairwise_lt (pairwise_lt_orderBy distinct) (List.pairwise_map.mp ordered) fun row => ?_
  rw [mem_orderBy, same.mem_iff]

theorem extendApplyPlan_frozen {desired retained source : List Row} (accepted : Accepted rows) (ordered : (rows.map idOf).Pairwise (· < ·))
    (desiredOrdered : (desired.map idOf).Pairwise (· < ·)) (split : (desired ++ retained).Perm rows)
    (tombstones sourceTombstones : List Row) (sourceAccepted : Accepted source)
    (sourceDistinct : (source.map idOf).Nodup) (covered : ∀ row ∈ retained, row ∈ source) :
    extendApplyPlan (some (frozenPlan desired tombstones))
      (some (frozenPlan source sourceTombstones)) retained = .ok (frozenPlan rows tombstones) := by
  have desiredAccepted : Accepted desired := fun row member =>
    accepted row (split.mem_iff.mp (List.mem_append_left _ member))
  unfold extendApplyPlan
  dsimp only
  split
  · rename_i none
    rw [List.isEmpty_iff.mp none, List.append_nil] at split
    have same : desired = rows := by
      have sorted := orderBy_split split ordered
      rwa [orderBy_split (.refl desired) desiredOrdered] at sorted
    rw [same]
  · have distinct : ((frozenPlan desired tombstones).rowIds ++ retained.map idOf).Nodup := by
      unfold frozenPlan
      rw [classifyApplyPlan_of_accepted desiredAccepted]
      rw [← List.map_append]
      exact (split.map idOf).nodup_iff.mpr (ordered.imp fun less => less.ne)
    have frozen : ∀ row ∈ retained, (frozenPlan source sourceTombstones).cas.find?
        (fun item => item.rowId == idOf row) = some (casOf row) := by
      intro row member
      unfold frozenPlan
      rw [classifyApplyPlan_of_accepted sourceAccepted]
      exact find?_cas_of_mem sourceDistinct (covered row member)
    have run := extendWith_foldlM distinct frozen
    dsimp only [Option.map_some, Option.getD_some]
    rw [run]
    unfold frozenPlan extended
    rw [classifyApplyPlan_of_accepted desiredAccepted, classifyApplyPlan_of_accepted accepted]
    simp only [Except.ok.injEq, SrApplyPlan.mk.injEq, and_true]
    have sorted := orderBy_split split ordered
    refine ⟨?_, ?_, ?_, trivial, ?_⟩
    · have both : rows.any replacementOpen = (desired.any replacementOpen || retained.any replacementOpen) := by
        rw [← List.any_append]
        exact (split.any_eq).symm
      rw [both]
      cases desired.any replacementOpen <;> cases retained.any replacementOpen <;> rfl
    · rw [← List.map_append]
      exact (orderBy_map (fun _ => rfl) _).trans (congrArg (List.map idOf) sorted)
    · refine sortedKeys_eq_of_mem_iff fun key => ?_
      simp only [replacedKeys, mem_sortedKeys, List.mem_append, List.mem_filterMap, List.mem_filter,
        ← split.mem_iff, or_and_right, exists_or]
      exact or_right_comm
    · rw [← List.map_append]
      exact (orderBy_map (fun _ => rfl) _).trans (congrArg (List.map casOf) sorted)

/-! ### Hydration -/

theorem rowById_isSome (member : row ∈ rows) : ∃ found, rowById rows (idOf row) = some found := by
  refine Option.isSome_iff_exists.mp (List.find?_isSome.mpr ⟨row, List.mem_reverse.mpr member, ?_⟩)
  exact beq_self_eq_true _

theorem rowsByIds_total {ids : List Nat} (refused : HydrateError) (known : ∀ id ∈ ids, ∃ row ∈ rows, idOf row = id) :
    ∃ found, rowsByIds rows ids refused = .ok found := by
  induction ids with
  | nil => exact ⟨[], rfl⟩
  | cons id ids ih =>
    obtain ⟨row, member, rfl⟩ := known id List.mem_cons_self
    obtain ⟨first, located⟩ := rowById_isSome member
    obtain ⟨rest, run⟩ := ih fun other listed => known other (List.mem_cons_of_mem _ listed)
    unfold rowsByIds at run ⊢
    rw [List.mapM_cons, located, run]
    exact ⟨first :: rest, rfl⟩

def Hydrates (rows tombstones : List Row) (plan : SrApplyPlan) : Prop :=
  ∀ body : SectionBody, body.tables.rows .staticRouteIntent = rows →
    body.tables.rows .staticRouteTombstone = tombstones → body.proof.bind (·.apply) = some plan →
    ∃ hydrated, hydrateStaticRouteApplyPlan body = .ok hydrated

theorem frozenPlan_hydrates (rows tombstones : List Row) : Hydrates rows tombstones (frozenPlan rows tombstones) := by
  rintro body rfl rfl recorded
  unfold hydrateStaticRouteApplyPlan
  rw [recorded]
  generalize body.tables.rows .staticRouteIntent = rows
  generalize body.tables.rows .staticRouteTombstone = tombstones
  have rowsKnown : ∀ id ∈ (frozenPlan rows tombstones).rowIds, ∃ row ∈ rows, idOf row = id := by
    intro id listed
    obtain ⟨row, kept, same⟩ := List.mem_map.mp listed
    exact ⟨row, List.mem_of_mem_filter kept, same⟩
  have carriersKnown : ∀ id ∈ (frozenPlan rows tombstones).tombstoneIds, ∃ row ∈ tombstones, idOf row = id := by
    intro id listed
    obtain ⟨carrier, kept, same⟩ := List.mem_map.mp listed
    obtain ⟨row, located, rfl⟩ := List.mem_map.mp kept
    exact ⟨row, located, same⟩
  obtain ⟨planned, rowsRun⟩ := rowsByIds_total .rowsMismatch rowsKnown
  obtain ⟨carriers, carriersRun⟩ := rowsByIds_total .tombstonesMismatch carriersKnown
  have cas : selectedCas (frozenPlan rows tombstones) = .ok ((frozenPlan rows tombstones).cas.filter
      fun item => (frozenPlan rows tombstones).rowIds.contains item.rowId) := by
    refine if_pos (List.all_eq_true.mpr fun id listed => List.any_eq_true.mpr ?_)
    obtain ⟨row, kept, rfl⟩ := List.mem_map.mp listed
    exact ⟨casOf row, List.mem_filter.mpr ⟨List.mem_map_of_mem kept, List.contains_iff_mem.mpr listed⟩, beq_self_eq_true _⟩
  dsimp only
  rw [rowsRun, carriersRun, cas]
  exact ⟨_, rfl⟩

/-- Pruning and extending a frozen plan give the plan frozen from the result, and a section with
that plan is accepted. -/
theorem incremental_plans_are_recomputed (rows : List Row) (accepted : Accepted rows)
    (ordered : (rows.map idOf).Pairwise (· < ·)) (tombstones : List Row) :
    (∀ kept ⊆ tombstones, pruneApplyPlan (frozenPlan rows tombstones) rows kept = frozenPlan rows kept ∧
        Hydrates rows kept (pruneApplyPlan (frozenPlan rows tombstones) rows kept)) ∧
    ∀ desired retained source sourceTombstones : List Row, desired.Sublist rows → (desired ++ retained).Perm rows →
      Accepted source → (source.map idOf).Nodup → (∀ row ∈ retained, row ∈ source) →
      ∃ plan, extendApplyPlan (some (frozenPlan desired tombstones)) (some (frozenPlan source sourceTombstones)) retained = .ok plan ∧
        plan = frozenPlan rows tombstones ∧ Hydrates rows tombstones plan := by
  constructor
  · intro kept _
    rw [pruneApplyPlan_frozen accepted tombstones kept]
    exact ⟨rfl, frozenPlan_hydrates rows kept⟩
  · intro desired retained source sourceTombstones part split sourceAccepted sourceDistinct covered
    have run := extendApplyPlan_frozen accepted ordered (ordered.sublist (part.map idOf)) split
      tombstones sourceTombstones sourceAccepted sourceDistinct covered
    exact ⟨_, run, rfl, frozenPlan_hydrates rows tombstones⟩

section Scenario

/-- A route that moved from the second key to the first. -/
def movedRoute : Row :=
  [("id", .num 1), ("route_id", .num 5), ("vrf", .str ""), ("prefix", .str "10.0.0.0/24"),
    ("next_hop", .str "192.0.2.1"), ("accepted_at", .str "t0"),
    ("deployed_key", .arr [.str "", .str "10.0.1.0/24", .str "192.0.2.1"])]

def settledRoute : Row :=
  [("id", .num 2), ("route_id", .num 6), ("vrf", .str ""), ("prefix", .str "10.0.2.0/24"),
    ("next_hop", .str "192.0.2.1"), ("accepted_at", .str "t0"), ("deployed_key", .null)]

/-- A carrier of the key that the moved route still claims. -/
def carrierRow : Row :=
  [("id", .num 9), ("vrf", .str ""), ("prefix", .str "10.0.1.0/24"), ("next_hop", .str "192.0.2.1")]

/-- The key of a consumed carrier stays while a moved route claims it. -/
theorem moved_route_keeps_key : pruneApplyPlan (frozenPlan [movedRoute, settledRoute] [carrierRow]) [movedRoute, settledRoute] [] =
        frozenPlan [movedRoute, settledRoute] [] ∧
      (frozenPlan [movedRoute, settledRoute] []).allowedRemovalKeys = [("", "10.0.1.0/24", "192.0.2.1")] ∧
      ∃ plan, extendApplyPlan (some (frozenPlan [settledRoute] [carrierRow])) (some (frozenPlan [movedRoute] [])) [movedRoute] = .ok plan ∧
        plan = frozenPlan [movedRoute, settledRoute] [carrierRow] := by
  have accepted : Accepted [movedRoute, settledRoute] := by
    unfold Accepted
    decide
  have alone : Accepted [movedRoute] := by
    unfold Accepted
    decide
  obtain ⟨prunes, extension⟩ := incremental_plans_are_recomputed [movedRoute, settledRoute] accepted (by decide) [carrierRow]
  obtain ⟨plan, run, same, _⟩ := extension [settledRoute] [movedRoute] [movedRoute] []
    (List.sublist_cons_self _ _) (List.Perm.swap _ _ _) alone (by decide)
    (fun row member => member)
  exact ⟨(prunes [] (List.nil_subset _)).1, by decide +kernel, plan, run, same⟩

end Scenario

end NsoAdapter.Execution
