import NsoAdapter.Core.Adapter
import NsoAdapter.Core.RetainedEdits

/-! The result of a manual apply (`create_action_apply`): the generations it creates, the
selected streams it skips and why. Every selected stream is promoted or skipped. -/

namespace NsoAdapter.Preflight
open Lib Projection Store NsoAdapter.Core

/-- A selection: for each stream at most one push sequence or prepared revision. -/
structure Selected where
  entries : Dict ProjectionStream Nat
  distinct : (entries.map (·.1)).Nodup

namespace Selected

def keys (selected : Selected) : List ProjectionStream :=
  selected.entries.map (·.1)

/-- `{stream: revision for stream, revision in current.items() if stream not in blocks}`. -/
def without (selected : Selected) (streams : List ProjectionStream) : Selected where
  entries := selected.entries.filter fun entry => !streams.contains entry.1
  distinct := selected.distinct.sublist (List.filter_sublist.map _)

theorem mem_keys_without {selected : Selected} {streams : List ProjectionStream} {stream : ProjectionStream} :
    stream ∈ (selected.without streams).keys ↔ stream ∈ selected.keys ∧ stream ∉ streams := by
  unfold keys without
  simp only [List.mem_map, List.mem_filter, Bool.not_eq_true', List.contains_eq_mem, decide_eq_false_iff_not]
  constructor
  · rintro ⟨entry, ⟨listed, kept⟩, rfl⟩
    exact ⟨⟨entry, listed, rfl⟩, kept⟩
  · rintro ⟨⟨entry, listed, rfl⟩, kept⟩
    exact ⟨entry, ⟨listed, kept⟩, rfl⟩

theorem mem_keys {selected : Selected} {stream : ProjectionStream} : stream ∈ selected.keys ↔ (selected.entries.get? stream).isSome := by
  rw [Option.isSome_iff_ne_none, Ne, Dict.get?_eq_none]
  unfold keys
  simp [List.mem_map]

end Selected

abbrev Resolved := List (ProjectionStream × Except SkipReason Selection)

/-- The skipped streams of `_selected_promotions`. -/
def skipsOf (resolved : Resolved) : Dict ProjectionStream SkipReason :=
  resolved.filterMap fun entry =>
    match entry.2 with
    | .error reason => some (entry.1, reason)
    | .ok _ => none

def settledSkips (settled : List ProjectionStream) : Dict ProjectionStream SkipReason :=
  settled.map fun stream => (stream, .alreadyApplied)

/-- `ActionApplyResult` of `create_action_apply`, over the store it leaves. -/
structure ActionApply where
  store : PromotionStore
  generations : List DeploymentGeneration
  skipped : Dict ProjectionStream SkipReason

/-- `create_action_apply` with everything it returns. -/
def actionApply (env : Environment) (store : PromotionStore) (selected : Dict ProjectionStream Nat)
    (attemptId : Nat) : Except ApplyRefusal ActionApply := do
  let resolved ← selectedPromotions store selected
  if (promotable resolved).isEmpty then
    return ⟨store, [], skipsOf resolved⟩
  else
    match activeJob store.db store.deviceId with
    | some job => throw (.jobConflict job.id)
    | none =>
      match createApplyChain env store (promotable resolved) (some attemptId) with
      | .error refused => throw (.promotion refused)
      | .ok result =>
        return ⟨result.store, result.generations,
          (skipsOf resolved).update (settledSkips result.settled)⟩

/-- The commit policy of a generation's removal context. -/
structure ExecutionPolicy where
  context : Option RemovalContext
  retainStaticRoutes : Bool
  noNetworking : Bool

def executionPolicy (generation : DeploymentGeneration) : ExecutionPolicy where
  context := generation.removalContext
  retainStaticRoutes := !(generation.removalContext.any fun context =>
    context.force && context.scope == .staticRoute)
  noNetworking := generation.removalContext.any (·.detach)

/-! ### The selected streams of a result -/

section

variable {store : PromotionStore} {selected : Dict ProjectionStream Nat} {resolved : Resolved}

variable {stream : ProjectionStream} {reason : SkipReason}

theorem selectPromotion_stream {selector : Nat} {selection : Selection}
    (selects : selectPromotion store stream selector = .ok (.ok selection)) :
    selection.stream = stream := by
  unfold selectPromotion at selects
  split at selects
  · split at selects
    · cases selects
    · cases selects
      rfl
  · split at selects
    · cases selects
    · cases selects
    · cases selects
      rfl

structure Resolves (store : PromotionStore) (selected : Dict ProjectionStream Nat)
    (resolved : Resolved) : Prop where
  streams : resolved.map (·.1) =
    ProjectionStream.all.filter fun stream => (selected.get? stream).isSome
  each : ∀ entry ∈ resolved, ∃ selector, selected.get? entry.1 = some selector ∧
    selectPromotion store entry.1 selector = .ok entry.2

theorem selectedPromotions_resolves (resolves : selectedPromotions store selected = .ok resolved) : Resolves store selected resolved := by
  have each := forall₂_of_mapM resolves
  have entries : ∀ entry ∈ resolved, ∃ selector, selected.get? entry.1 = some selector ∧
      selectPromotion store entry.1 selector = .ok entry.2 := by
    intro entry member
    obtain ⟨item, listed, step⟩ := exists_of_forall₂ each member
    obtain ⟨outcome, selects, returned⟩ := bind_eq_ok.mp step
    cases returned
    obtain ⟨stream, _, found⟩ := List.mem_filterMap.mp listed
    obtain ⟨selector, chosen, rfl⟩ := Option.map_eq_some_iff.mp found
    exact ⟨selector, chosen, selects⟩
  refine ⟨?_, entries⟩
  have names : resolved.map (·.1) = (ProjectionStream.all.filterMap fun stream =>
      (selected.get? stream).map fun selector => (stream, selector)).map (·.1) := by
    clear resolves entries
    generalize ProjectionStream.all.filterMap _ = items at each
    induction each with
    | nil => rfl
    | cons first _ ih =>
      obtain ⟨outcome, _, returned⟩ := bind_eq_ok.mp first
      cases returned
      rw [List.map_cons, List.map_cons, ih]
  rw [names, List.map_filterMap]
  generalize ProjectionStream.all = streams
  induction streams with
  | nil => rfl
  | cons stream streams ih =>
    rw [List.filterMap_cons, List.filter_cons]
    cases found : selected.get? stream with
    | none | some => simpa [found] using ih

namespace Resolves

section

variable (resolves : Resolves store selected resolved)

include resolves

theorem mem_streams {stream : ProjectionStream} : stream ∈ resolved.map (·.1) ↔ (selected.get? stream).isSome := by
  rw [resolves.streams, List.mem_filter]
  exact and_iff_right stream.mem_all

theorem distinct : (resolved.map (·.1)).Nodup := by
  rw [resolves.streams]
  exact List.Nodup.filter _ (by decide)

theorem promotable_streams : (promotable resolved).map (·.stream) = (resolved.filter fun entry => entry.2.toOption.isSome).map (·.1) := by
  have each := resolves.each
  unfold promotable
  clear resolves
  induction resolved with
  | nil => rfl
  | cons entry rest ih =>
    have later := ih fun other member => each other (List.mem_cons_of_mem _ member)
    obtain ⟨selector, _, selects⟩ := each entry List.mem_cons_self
    cases outcome : entry.2 with
    | error reason =>
      rw [List.filterMap_cons_none (by rw [outcome]; rfl), List.filter_cons_of_neg (by rw [outcome]; exact Bool.false_ne_true)]
      exact later
    | ok selection =>
      rw [outcome] at selects
      rw [List.filterMap_cons_some (b := selection) (by rw [outcome]; rfl),
        List.filter_cons_of_pos (by rw [outcome]; rfl), List.map_cons, List.map_cons, later,
        selectPromotion_stream selects]

theorem mem_promotable {stream : ProjectionStream} : stream ∈ (promotable resolved).map (·.stream) ↔
      ∃ selection, (stream, Except.ok selection) ∈ resolved := by
  rw [resolves.promotable_streams]
  simp only [List.mem_map, List.mem_filter]
  constructor
  · rintro ⟨⟨name, outcome⟩, ⟨listed, promoted⟩, rfl⟩
    cases outcome with
    | error reason => cases promoted
    | ok selection => exact ⟨selection, listed⟩
  · rintro ⟨selection, listed⟩
    exact ⟨_, ⟨listed, rfl⟩, rfl⟩

theorem promotable_distinct : ((promotable resolved).map (·.stream)).Nodup := by
  rw [resolves.promotable_streams]
  exact resolves.distinct.sublist (List.filter_sublist.map _)

end

end Resolves

theorem mem_skipsOf : (stream, reason) ∈ skipsOf resolved ↔ (stream, Except.error reason) ∈ resolved := by
  unfold skipsOf
  rw [List.mem_filterMap]
  constructor
  · rintro ⟨⟨name, outcome⟩, listed, found⟩
    cases outcome with
    | error why =>
      cases found
      exact listed
    | ok selection => cases found
  · intro listed
    exact ⟨_, listed, rfl⟩

theorem skipsOf_distinct (distinct : (resolved.map (·.1)).Nodup) : ((skipsOf resolved).map (·.1)).Nodup := by
  have names : (skipsOf resolved).map (·.1) = (resolved.filter fun entry => entry.2.toOption.isNone).map (·.1) := by
    unfold skipsOf
    clear distinct
    induction resolved with
    | nil => rfl
    | cons entry rest ih =>
      cases outcome : entry.2 with
      | error reason => simp [outcome, Except.toOption, ih]
      | ok selection => simpa [outcome, Except.toOption] using ih
  rw [names]
  exact distinct.sublist (List.filter_sublist.map _)

theorem Resolves.skipsOf_get? (resolves : Resolves store selected resolved) :
    (skipsOf resolved).get? stream = some reason ↔ (stream, Except.error reason) ∈ resolved := by
  rw [← mem_skipsOf]
  exact ⟨Dict.mem_of_get?, Dict.get?_of_mem (skipsOf_distinct resolves.distinct)⟩

theorem update_settledSkips_get? {skips : Dict ProjectionStream SkipReason} {settled : List ProjectionStream} :
    (skips.update (settledSkips settled)).get? stream = if stream ∈ settled then some .alreadyApplied else skips.get? stream := by
  induction settled generalizing skips with
  | nil => simp [settledSkips, Dict.update]
  | cons first rest ih =>
    have shape : skips.update (settledSkips (first :: rest)) = Dict.update (skips.set first .alreadyApplied) (settledSkips rest) := rfl
    rw [shape, ih, Dict.get?_set]
    by_cases later : stream ∈ rest
    · simp [later]
    · by_cases same : first = stream
      · simp [same]
      · simp [later, same, Ne.symm same]

end

/-! ### What a chain promotes -/

def promotedStreams (generations : List DeploymentGeneration) : List ProjectionStream :=
  generations.flatMap fun generation => generation.streamRevisions.map (·.1)

section

variable {refreshed : PromotionStore} {promotions : List Promotion} {result : ActionApplyResult}
  {promotion : Promotion}

theorem positivePlan_wireEquivalent (decided : positivePlan promotion = .ok .wireEquivalent) :
    promotion.networkedWork = false ∧ hasRows promotion.detached = false := by
  unfold positivePlan at decided
  split at decided
  · rename_i idle
    simpa using idle
  · split at decided
    · cases decided
    split at decided
    · obtain ⟨changed, _, chosen⟩ := map_eq_ok.mp decided
      split at chosen <;> cases chosen
    · cases decided

theorem positivePlan_nothing (decided : positivePlan promotion = .ok .nothing) :
    promotion.networkedWork = true ∨ hasRows promotion.detached = true := by
  unfold positivePlan at decided
  split at decided
  · split at decided
    · split at decided
      · obtain ⟨unchanged, _, chosen⟩ := map_eq_ok.mp decided
        split at chosen <;> cases chosen
      · cases decided
    · cases decided
  · rename_i busy
    by_contra neither
    rw [not_or, Bool.not_eq_true, Bool.not_eq_true] at neither
    exact busy (by rw [neither.1, neither.2]; rfl)

theorem ChainRun.promoted (run : ChainRun refreshed promotions result)
    (distinct : (promotions.map (·.stream)).Nodup) (listed : promotion ∈ promotions)
    (unsettled : promotion.stream ∉ result.settled) :
    promotion.stream ∈ promotedStreams result.generations := by
  obtain ⟨_, plans, mapped, shape⟩ := planActionLinks_ok run.planned
  obtain ⟨entry, _, entryOf⟩ := exists_of_forall₂ (forall₂_of_mapM mapped).flip listed
  have decided := (plannedEntry_ok entryOf).2
  have applied (scheduled : promotion.stream ∈ run.actions.applied result.settled) :
      promotion.stream ∈ promotedStreams result.generations := by
    obtain ⟨generation, member, sends⟩ := run.sends.applied (List.ne_nil_of_mem scheduled)
    refine List.mem_flatMap.mpr ⟨generation, member, ?_⟩
    rw [sends.streams]
    exact mem_sortedStreams.mpr scheduled
  have linked (link : RemovalLink) (generation : DeploymentGeneration)
      (member : generation ∈ result.generations) (sends : LinkSends run.plan link generation)
      (same : link.stream = promotion.stream) :
      promotion.stream ∈ promotedStreams result.generations := by
    refine List.mem_flatMap.mpr ⟨generation, member, ?_⟩
    rw [sends.streams, same]
    exact List.mem_singleton.mpr rfl
  cases plan : entry.2 with
  | apply =>
    rw [plan] at decided
    refine applied ?_
    rw [shape]
    exact List.mem_append_left _ ((mem_plannedStreams distinct mapped listed).mpr decided)
  | wireEquivalent =>
    rw [plan] at decided
    refine applied ?_
    rw [shape]
    refine List.mem_append_right _ (List.mem_filter.mpr ⟨?_, ?_⟩)
    · exact (mem_plannedStreams distinct mapped listed).mpr decided
    · simpa using unsettled
  | nothing =>
    rw [plan] at decided
    rcases positivePlan_nothing decided with networked | detached
    · have link : networkedLink promotion ∈ run.actions.networkedLinks := by
        rw [shape]
        exact List.mem_map.mpr ⟨promotion, List.mem_filter.mpr ⟨listed, networked⟩, rfl⟩
      obtain ⟨generation, member, sends⟩ := run.sends.networked _ link
      exact linked _ generation member sends rfl
    · have link : detachLink promotion ∈ run.actions.detachLinks := by
        rw [shape]
        exact List.mem_map.mpr ⟨promotion, List.mem_filter.mpr ⟨listed, detached⟩, rfl⟩
      obtain ⟨generation, member, sends⟩ := run.sends.detached _ link
      exact linked _ generation member sends rfl

theorem ChainRun.unsettled (run : ChainRun refreshed promotions result)
    (distinct : (promotions.map (·.stream)).Nodup) {stream : ProjectionStream}
    (member : stream ∈ promotedStreams result.generations) :
    stream ∈ promotions.map (·.stream) ∧ stream ∉ result.settled := by
  obtain ⟨_, plans, mapped, shape⟩ := planActionLinks_ok run.planned
  obtain ⟨generation, created, lists⟩ := List.mem_flatMap.mp member
  have equivalent (settles : stream ∈ result.settled) : stream ∈ plannedStreams plans .wireEquivalent := by
    have planned := run.settled stream settles
    rwa [shape] at planned
  rcases run.sends.source generation created with ⟨link, links, sends⟩ | sends
  · rw [sends.streams] at lists
    obtain rfl := List.mem_singleton.mp lists
    rw [shape] at links
    have busy : ∃ promotion ∈ promotions, promotion.stream = link.stream ∧
        (promotion.networkedWork = true ∨ hasRows promotion.detached = true) := by
      rcases List.mem_append.mp links with removal | detach
      · obtain ⟨promotion, kept, rfl⟩ := List.mem_map.mp removal
        obtain ⟨listed, work⟩ := List.mem_filter.mp kept
        exact ⟨promotion, listed, rfl, .inl work⟩
      · obtain ⟨promotion, kept, rfl⟩ := List.mem_map.mp detach
        obtain ⟨listed, work⟩ := List.mem_filter.mp kept
        exact ⟨promotion, listed, rfl, .inr work⟩
    obtain ⟨promotion, listed, same, work⟩ := busy
    refine ⟨List.mem_map.mpr ⟨promotion, listed, same⟩, fun settles => ?_⟩
    have decided := (mem_plannedStreams distinct mapped listed).mp (same ▸ equivalent settles)
    obtain ⟨unnetworked, undetached⟩ := positivePlan_wireEquivalent decided
    rw [unnetworked, undetached] at work
    simp at work
  · rw [sends.streams] at lists
    have applied := mem_sortedStreams.mp lists
    rw [shape] at applied
    have scheduled : ∀ plan, stream ∈ plannedStreams plans plan → ∃ promotion ∈ promotions, promotion.stream = stream := by
      intro plan planned
      obtain ⟨entry, kept, rfl⟩ := List.mem_map.mp planned
      obtain ⟨promotion, listed, entryOf⟩ := exists_of_mem_mapM mapped (List.mem_filter.mp kept).1
      exact ⟨promotion, listed, (plannedEntry_ok entryOf).1.symm⟩
    rcases List.mem_append.mp applied with planned | waiting
    · obtain ⟨promotion, listed, rfl⟩ := scheduled .apply planned
      refine ⟨List.mem_map.mpr ⟨promotion, listed, rfl⟩, fun settles => ?_⟩
      have asApply := (mem_plannedStreams distinct mapped listed).mp planned
      rw [(mem_plannedStreams distinct mapped listed).mp (equivalent settles)] at asApply
      cases asApply
    · obtain ⟨planned, waits⟩ := List.mem_filter.mp waiting
      obtain ⟨promotion, listed, rfl⟩ := scheduled .wireEquivalent planned
      exact ⟨List.mem_map.mpr ⟨promotion, listed, rfl⟩, by simpa using waits⟩

end

section

variable {env : Environment} {store : PromotionStore} {selected : Dict ProjectionStream Nat}
  {attemptId : Nat} {result : ActionApply}

/-- The promoted and the skipped streams of a manual apply are the selected ones. -/
structure Partitions (selected : Dict ProjectionStream Nat) (promoted : List ProjectionStream)
    (skipped : Dict ProjectionStream SkipReason) : Prop where
  covers : ∀ stream, (selected.get? stream).isSome ↔
    stream ∈ promoted ∨ (skipped.get? stream).isSome
  disjoint : ∀ stream ∈ promoted, skipped.get? stream = none
  distinct : (skipped.map (·.1)).Nodup

theorem Resolves.partitions {resolved : Resolved} (resolves : Resolves store selected resolved) :
    Partitions selected ((promotable resolved).map (·.stream)) (skipsOf resolved) := by
  have unique : ∀ stream selection reason, (stream, Except.ok selection) ∈ resolved → (stream, Except.error reason) ∉ resolved := by
    intro stream selection reason promoted skipped
    have same := List.inj_on_of_nodup_map resolves.distinct promoted skipped rfl
    cases same
  refine ⟨?_, ?_, skipsOf_distinct resolves.distinct⟩
  · intro stream
    rw [← resolves.mem_streams, resolves.mem_promotable, Option.isSome_iff_exists]
    simp only [resolves.skipsOf_get?]
    constructor
    · intro member
      obtain ⟨⟨name, outcome⟩, listed, rfl⟩ := List.mem_map.mp member
      cases outcome with
      | error reason => exact .inr ⟨reason, listed⟩
      | ok selection => exact .inl ⟨selection, listed⟩
    · rintro (⟨selection, listed⟩ | ⟨reason, listed⟩)
      · exact List.mem_map.mpr ⟨_, listed, rfl⟩
      · exact List.mem_map.mpr ⟨_, listed, rfl⟩
  · intro stream promoted
    obtain ⟨selection, listed⟩ := resolves.mem_promotable.mp promoted
    cases skipped : (skipsOf resolved).get? stream with
    | none => rfl
    | some reason =>
      exact absurd (resolves.skipsOf_get?.mp skipped) (unique stream selection reason listed)

theorem actionApply_partitions (applied : actionApply env store selected attemptId = .ok result) :
    Partitions selected (promotedStreams result.generations) result.skipped := by
  obtain ⟨resolved, resolving, applied⟩ := bind_eq_ok.mp applied
  have resolves := selectedPromotions_resolves resolving
  have partitions := resolves.partitions
  split at applied
  · rename_i none
    cases applied
    rw [List.isEmpty_iff.mp none] at partitions
    exact partitions
  · split at applied
    · cases applied
    split at applied
    · cases applied
    rename_i chain chained
    cases applied
    obtain ⟨⟨refreshed, promotions⟩, frozen, delivered⟩ := bind_eq_ok.mp chained
    obtain ⟨pruned, _, frozen⟩ := bind_eq_ok.mp frozen
    obtain ⟨values, freezes, returned⟩ := bind_eq_ok.mp frozen
    cases returned
    obtain ⟨run⟩ := deliverPromotions_run delivered
    have streams := promotionOf_streams freezes
    have distinct : (promotions.map (·.stream)).Nodup := by
      rw [streams]
      exact resolves.promotable_distinct
    have promotes : ∀ stream, stream ∈ promotedStreams chain.generations ↔
        stream ∈ (promotable resolved).map (·.stream) ∧ stream ∉ chain.settled := by
      intro stream
      rw [← streams]
      constructor
      · exact ChainRun.unsettled run distinct
      · rintro ⟨member, unsettled⟩
        obtain ⟨promotion, listed, rfl⟩ := List.mem_map.mp member
        exact ChainRun.promoted run distinct listed unsettled
    have settles : ∀ stream ∈ chain.settled, stream ∈ (promotable resolved).map (·.stream) := by
      intro stream settled
      obtain ⟨_, plans, mapped, shape⟩ := planActionLinks_ok run.planned
      have planned := run.settled stream settled
      rw [shape] at planned
      obtain ⟨entry, kept, rfl⟩ := List.mem_map.mp planned
      obtain ⟨promotion, listed, entryOf⟩ := exists_of_mem_mapM mapped (List.mem_filter.mp kept).1
      rw [← streams, (plannedEntry_ok entryOf).1]
      exact List.mem_map_of_mem listed
    refine ⟨?_, ?_, Dict.nodup_update partitions.distinct _⟩
    · intro stream
      rw [partitions.covers stream, promotes stream, update_settledSkips_get?]
      by_cases settled : stream ∈ chain.settled
      · simp [settled, settles stream settled]
      · simp [settled]
    · intro stream member
      obtain ⟨promoted, unsettled⟩ := (promotes stream).mp member
      rw [update_settledSkips_get?, if_neg unsettled]
      exact partitions.disjoint stream promoted

end

end NsoAdapter.Preflight
