import NsoAdapter.Core.StoreOnlyIsolation
import NsoAdapter.Preflight.Plan

/-! Which streams a planning pass skips: whether a stream is skipped, and why, depends on its
own lane of the store alone, never on the rest of the selection. -/

namespace NsoAdapter.Preflight
open Lib Projection Store NsoAdapter.Core

/-- `refresh_consumed_carriers` with no selected carrier. -/
def prunedStore (store : PromotionStore) : PromotionStore :=
  store.updateStreams (fun _ => true) (pruneRow (store.deviceTombstones.map (·.id)))

theorem refreshConsumedCarriers_nil (store : PromotionStore) : refreshConsumedCarriers store [] = .ok (prunedStore store) := rfl

def laneStore (store : PromotionStore) (stream : ProjectionStream) : PromotionStore :=
  prunedStore (if stream = .staticRoute then promoteStaticRouteClears store else store)

def settles (store : PromotionStore) (selection : Selection) : Bool :=
  match promotionOf (laneStore store selection.stream) selection with
  | .error _ => false
  | .ok promotion => decide (positivePlan promotion = .ok .wireEquivalent) &&
      canSettleWireEquivalent (laneStore store selection.stream) promotion

def resolvedSkip (store : PromotionStore) (stream : ProjectionStream) (selector : Nat) : Option SkipReason :=
  match selectPromotion store stream selector with
  | .ok (.error reason) => some reason
  | _ => none

def settlesAt (store : PromotionStore) (stream : ProjectionStream) (selector : Nat) : Bool :=
  match selectPromotion store stream selector with
  | .ok (.ok selection) => settles store selection
  | _ => false

def laneSkip (store : PromotionStore) (stream : ProjectionStream) (selector : Nat) : Option SkipReason :=
  if settlesAt store stream selector then some .alreadyApplied
  else resolvedSkip store stream selector

/-! ### The settled streams of a chain -/

theorem executableHead_updateStreams (store : PromotionStore) (selected : ProjectionStream → Bool)
    (update : DeviceProjectionStream → DeviceProjectionStream) (deviceId : Nat) :
    executableHead (store.updateStreams selected update).db deviceId = executableHead store.db deviceId := rfl

theorem settleEquivalents_settled (store : PromotionStore) (promotions : List Promotion) :
    (settleEquivalents store promotions).2 = (promotions.filter (canSettleWireEquivalent store)).map (·.stream) := by
  have each : ∀ (items : List Promotion) (progress : PromotionStore × List ProjectionStream),
      (∀ promotion, canSettleWireEquivalent progress.1 promotion = canSettleWireEquivalent store promotion) →
      (items.foldl settleIfEquivalent progress).2 = progress.2 ++ (items.filter (canSettleWireEquivalent store)).map (·.stream) := by
    intro items
    induction items with
    | nil => exact fun progress _ => (List.append_nil _).symm
    | cons promotion items ih =>
      intro progress same
      rw [List.foldl_cons]
      by_cases able : canSettleWireEquivalent store promotion = true
      · have settled : settleIfEquivalent progress promotion =
            (settleWireEquivalent progress.1 promotion, progress.2 ++ [promotion.stream]) :=
          if_pos ((same promotion).trans able)
        have kept : ∀ other, canSettleWireEquivalent (settleWireEquivalent progress.1 promotion)
            other = canSettleWireEquivalent store other := fun other => same other
        rw [settled, ih (settleWireEquivalent progress.1 promotion,
          progress.2 ++ [promotion.stream]) kept, List.filter_cons_of_pos able, List.map_cons,
          List.append_assoc, List.singleton_append]
      · have unsettled : settleIfEquivalent progress promotion = progress := if_neg (by rw [same promotion]; exact able)
        rw [unsettled, ih _ same, List.filter_cons_of_neg able]
  exact (each promotions (store, []) fun _ => rfl).trans (List.nil_append _)

theorem deliverPromotions_settled {env : Environment} {refreshed : PromotionStore}
    {promotions : List Promotion} {attemptId : Option Nat} {result : ActionApplyResult}
    (delivered : deliverPromotions env refreshed promotions attemptId = .ok result) :
    ∃ plans, promotions.mapM plannedEntry = .ok plans ∧ result.settled = (promotions.filter fun promotion =>
        (plannedStreams plans .wireEquivalent).contains promotion.stream &&
          canSettleWireEquivalent refreshed promotion).map (·.stream) := by
  obtain ⟨authority, _, delivered⟩ := bind_eq_ok.mp delivered
  obtain ⟨documents, _, delivered⟩ := bind_eq_ok.mp delivered
  obtain ⟨actions, planned, delivered⟩ := bind_eq_ok.mp delivered
  obtain ⟨enqueued, _, returned⟩ := bind_eq_ok.mp delivered
  cases returned
  obtain ⟨_, plans, mapped, rfl⟩ := planActionLinks_ok planned
  refine ⟨plans, mapped, (settleEquivalents_settled refreshed _).trans ?_⟩
  rw [List.filter_filter]
  exact congrArg _ (List.filter_congr fun promotion _ => Bool.and_comm _ _)

/-! ### A stream is frozen from its own lane -/

theorem agrees_clears (store : PromotionStore) {stream : ProjectionStream} (other : stream ≠ .staticRoute) :
    Agrees [stream] (promoteStaticRouteClears store) store := by
  have untouched : ∀ table ∈ stream.streamTables, table ≠ .staticRouteIntent := by
    rintro table owned rfl
    cases stream <;> first
      | exact other rfl
      | revert owned; decide
  refine ⟨rfl, rfl, rfl, rfl, rfl, fun _ => rfl, fun _ _ => rfl, ?_, fun _ => rfl, fun _ _ => rfl, rfl⟩
  intro chosen member table owned
  obtain rfl := List.mem_singleton.mp member
  unfold rowsFor
  have rows : (promoteStaticRouteClears store).live.rows table = store.live.rows table := by
    by_cases carrier : table = .staticRouteTombstone
    · subst carrier
      rfl
    · rw [live_rows _ carrier, live_rows _ carrier]
      unfold promoteStaticRouteClears
      dsimp only
      rw [Function.update_of_ne (untouched table owned)]
  rw [rows]

def chainStore (store : PromotionStore) (selections : List Selection) : PromotionStore :=
  prunedStore (if selections.any fun selection => selection.stream == .staticRoute then
    promoteStaticRouteClears store else store)

theorem chainPromotions_eq (store : PromotionStore) (selections : List Selection) : chainPromotions store selections =
      (selections.mapM (promotionOf (chainStore store selections))).map fun promotions =>
        (chainStore store selections, promotions) := by
  change (selections.mapM (promotionOf (chainStore store selections)) >>= fun promotions =>
    pure (chainStore store selections, promotions)) = _
  cases selections.mapM (promotionOf (chainStore store selections)) <;> rfl

theorem promotionOf_chainStore (store : PromotionStore) {selections : List Selection}
    {selection : Selection} (listed : selection ∈ selections) :
    promotionOf (chainStore store selections) selection = promotionOf (laneStore store selection.stream) selection := by
  unfold chainStore laneStore
  by_cases route : selection.stream = .staticRoute
  · have chosen : (selections.any fun found => found.stream == .staticRoute) = true :=
      List.any_eq_true.mpr ⟨selection, listed, beq_iff_eq.mpr route⟩
    rw [if_pos chosen, if_pos route]
  · rw [if_neg route]
    split
    · have pruned := (agrees_clears store route).refreshConsumedCarriers []
      rw [refreshConsumedCarriers_nil, refreshConsumedCarriers_nil] at pruned
      cases pruned with
      | ok agrees => exact agrees.promotionOf (List.mem_singleton.mpr rfl)
    · rfl

theorem canSettle_chainStore (store : PromotionStore) (selections : List Selection) (stream : ProjectionStream) (promotion : Promotion) :
    canSettleWireEquivalent (chainStore store selections) promotion = canSettleWireEquivalent (laneStore store stream) promotion := by
  have head : ∀ cleared : PromotionStore, cleared.db = store.db → cleared.deviceId = store.deviceId →
      canSettleWireEquivalent (prunedStore cleared) promotion = canSettleWireEquivalent (prunedStore store) promotion := by
    intro cleared db deviceId
    unfold canSettleWireEquivalent prunedStore
    rw [executableHead_updateStreams, executableHead_updateStreams, db]
    unfold PromotionStore.updateStreams
    rw [deviceId]
  have either : ∀ condition : Bool, canSettleWireEquivalent (prunedStore
      (if condition = true then promoteStaticRouteClears store else store)) promotion =
        canSettleWireEquivalent (prunedStore store) promotion := by
    intro condition
    split
    · exact head _ rfl rfl
    · rfl
  unfold chainStore laneStore
  rw [either]
  by_cases route : stream = .staticRoute
  · rw [if_pos route]
    exact (head _ rfl rfl).symm
  · rw [if_neg route]

theorem createApplyChain_settled {env : Environment} {store : PromotionStore}
    {selections : List Selection} {attemptId : Option Nat} {result : ActionApplyResult}
    (distinct : (selections.map (·.stream)).Nodup)
    (chained : createApplyChain env store selections attemptId = .ok result) :
    (∀ stream ∈ result.settled, stream ∈ selections.map (·.stream)) ∧
      ∀ selection ∈ selections, selection.stream ∈ result.settled ↔ settles store selection = true := by
  unfold createApplyChain at chained
  rw [chainPromotions_eq] at chained
  obtain ⟨⟨refreshed, promotions⟩, frozen, delivered⟩ := bind_eq_ok.mp chained
  obtain ⟨values, freezes, returned⟩ := map_eq_ok.mp frozen
  cases returned
  obtain ⟨plans, mapped, settled⟩ := deliverPromotions_settled delivered
  have streams := promotionOf_streams freezes
  have unique : (promotions.map (·.stream)).Nodup := streams ▸ distinct
  rw [settled]
  refine ⟨fun stream member => ?_, fun selection listed => ?_⟩
  · rw [← streams]
    exact (List.filter_sublist.map _).subset member
  obtain ⟨promotion, promoted, freeze⟩ := exists_of_forall₂ (forall₂_of_mapM freezes).flip listed
  have sameStream := promotionOf_stream freeze
  rw [promotionOf_chainStore store listed] at freeze
  unfold settles
  rw [freeze]
  dsimp only
  rw [← canSettle_chainStore store selections, Bool.and_eq_true, decide_eq_true_eq,
    ← mem_plannedStreams unique mapped promoted, List.mem_map]
  constructor
  · rintro ⟨found, kept, same⟩
    obtain ⟨member, able⟩ := List.mem_filter.mp kept
    have identical := List.inj_on_of_nodup_map unique member promoted (same.trans sameStream.symm)
    subst identical
    rw [Bool.and_eq_true] at able
    exact ⟨List.contains_iff_mem.mp able.1, able.2⟩
  · rintro ⟨planned, able⟩
    refine ⟨promotion, List.mem_filter.mpr ⟨promoted, ?_⟩, sameStream⟩
    rw [Bool.and_eq_true]
    exact ⟨List.contains_iff_mem.mpr planned, able⟩

section

variable {env : Environment} {store : PromotionStore} {selected : Dict ProjectionStream Nat}
  {attemptId : Nat}

theorem Resolves.skipsOf_eq {resolved : Resolved} (resolves : Resolves store selected resolved) (stream : ProjectionStream) :
    (skipsOf resolved).get? stream = (selected.get? stream).bind fun selector => resolvedSkip store stream selector := by
  cases chosen : selected.get? stream with
  | none =>
    rw [Option.bind_none, Dict.get?_eq_none]
    rintro ⟨name, reason⟩ member rfl
    have listed := List.mem_map_of_mem (f := Prod.fst) (mem_skipsOf.mp member)
    rw [resolves.mem_streams, chosen] at listed
    cases listed
  | some selector =>
    have listed : stream ∈ resolved.map (·.1) := resolves.mem_streams.mpr (by rw [chosen]; rfl)
    obtain ⟨⟨name, outcome⟩, member, rfl⟩ := List.mem_map.mp listed
    obtain ⟨found, same, selects⟩ := resolves.each _ member
    rw [chosen] at same
    cases same
    unfold resolvedSkip
    rw [Option.bind_some]
    rw [selects]
    cases outcome with
    | error reason => exact resolves.skipsOf_get?.mpr member
    | ok selection =>
      exact resolves.partitions.disjoint _ (resolves.mem_promotable.mpr ⟨selection, member⟩)

theorem actionApply_skipped {result : ActionApply} (applied : actionApply env store selected attemptId = .ok result)
    (stream : ProjectionStream) :
    result.skipped.get? stream = (selected.get? stream).bind fun selector => laneSkip store stream selector := by
  obtain ⟨resolved, resolving, applied⟩ := bind_eq_ok.mp applied
  have resolves := selectedPromotions_resolves resolving
  have skipped := resolves.skipsOf_eq stream
  -- Whether the lane settles is read off the selection that the stream resolves to.
  have lane (settled : List ProjectionStream) (each : ∀ selection ∈ promotable resolved,
        selection.stream ∈ settled ↔ settles store selection = true)
      (within : ∀ name ∈ settled, name ∈ (promotable resolved).map (·.stream)) :
      (if stream ∈ settled then some SkipReason.alreadyApplied
        else (skipsOf resolved).get? stream) =
        (selected.get? stream).bind fun selector => laneSkip store stream selector := by
    rw [skipped]
    cases chosen : selected.get? stream with
    | none =>
      have absent : stream ∉ settled := by
        intro member
        have covered := (resolves.partitions.covers stream).mpr (.inl (within stream member))
        rw [chosen] at covered
        cases covered
      rw [if_neg absent]
      rfl
    | some selector =>
      rw [Option.bind_some, Option.bind_some]
      unfold laneSkip settlesAt
      have listed : stream ∈ resolved.map (·.1) := resolves.mem_streams.mpr (by rw [chosen]; rfl)
      obtain ⟨⟨name, outcome⟩, member, rfl⟩ := List.mem_map.mp listed
      obtain ⟨found, same, selects⟩ := resolves.each _ member
      rw [chosen] at same
      cases same
      rw [selects]
      cases outcome with
      | error reason =>
        have absent : name ∉ settled := by
          intro settles
          obtain ⟨selection, promoted⟩ := resolves.mem_promotable.mp (within name settles)
          cases List.inj_on_of_nodup_map resolves.distinct promoted member rfl
        rw [if_neg absent]
        rfl
      | ok selection =>
        have promoted : selection ∈ promotable resolved := List.mem_filterMap.mpr ⟨_, member, rfl⟩
        have settled := each selection promoted
        rw [selectPromotion_stream selects] at settled
        exact if_congr settled rfl rfl
  split at applied
  · rename_i none
    cases applied
    refine (if_neg (List.not_mem_nil)).symm.trans (lane [] ?_ nofun)
    intro selection member
    rw [List.isEmpty_iff.mp none] at member
    cases member
  · split at applied
    · cases applied
    split at applied
    · cases applied
    rename_i chain chained
    cases applied
    rw [update_settledSkips_get?]
    obtain ⟨within, each⟩ := createApplyChain_settled resolves.promotable_distinct chained
    exact lane chain.settled each within

end

end NsoAdapter.Preflight
