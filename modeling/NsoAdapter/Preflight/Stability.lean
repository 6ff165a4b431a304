import Mathlib.Data.List.Sublists
import NsoAdapter.Preflight.LoopProperties
import NsoAdapter.Preflight.Settlement

/-! Staleness that a preflight invents. Over a store that does not change, two passes report
one stream alike unless the later one ends in a context conflict and the stream settles as
wire equivalent: a conflict reports no settled stream. -/

namespace NsoAdapter.Preflight
open Lib Projection Store NsoAdapter.Core StaticRoute
open Execution

/-- The identifier sequences, which a rolled-back transaction leaves advanced. -/
structure Numbers where
  jobId : Nat
  generationId : Nat
  cohort : Nat
  pendingClearId : Nat

/-- The same rows with other sequences. -/
def renumbered (store : PromotionStore) (numbers : Numbers) : PromotionStore :=
  { store with
    db := { store.db with
      nextJobId := numbers.jobId
      nextGenerationId := numbers.generationId }
    nextPendingClearId := numbers.pendingClearId
    nextCohort := numbers.cohort }

/-- Every planning transaction of a call finds the same rows and the device as it was read. -/
structure Call.Unchanged (call : Call) (store : PromotionStore) : Prop where
  rows : ∀ index, ∃ numbers, (call.moment index).store = renumbered store numbers
  context : ∀ index, (call.moment index).context = call.device

def reportedSkips : Except ContextConflict PlannedChain → Dict ProjectionStream SkipReason
  | .error conflict => conflict.skipped
  | .ok planned => planned.skipped

/-- Whether creating the chain of a selection raises `InterfaceProofConflict`. -/
def conflictsOver (encoders : Encoders) (moment : Moment) (selected : Dict ProjectionStream Nat) : Bool :=
  match actionApply (encoders.environment moment.now) (prunedStore moment.store) selected
      moment.attemptId with
  | .error refused => (ApplyRefusal.conflictStreams refused).isSome
  | .ok _ => false

/-! ### What a pass reports -/

section

variable (store : PromotionStore)

include store

theorem laneStore_renumbered (numbers : Numbers) (stream : ProjectionStream) :
    laneStore (prunedStore (renumbered store numbers)) stream = renumbered (laneStore (prunedStore store) stream) numbers := by
  unfold laneStore
  split <;> rfl

theorem selectPromotion_renumbered (numbers : Numbers) (stream : ProjectionStream) (selector : Nat) :
    selectPromotion (prunedStore (renumbered store numbers)) stream selector = selectPromotion (prunedStore store) stream selector := rfl

theorem promotionOf_renumbered (numbers : Numbers) (selection : Selection) :
    promotionOf (renumbered store numbers) selection = promotionOf store selection := rfl

theorem canSettle_renumbered (numbers : Numbers) (promotion : Promotion) :
    canSettleWireEquivalent (renumbered store numbers) promotion = canSettleWireEquivalent store promotion := rfl

theorem laneSkip_renumbered (numbers : Numbers) (stream : ProjectionStream) (selector : Nat) :
    laneSkip (prunedStore (renumbered store numbers)) stream selector = laneSkip (prunedStore store) stream selector := by
  unfold laneSkip settlesAt resolvedSkip settles
  simp only [selectPromotion_renumbered, laneStore_renumbered, promotionOf_renumbered, canSettle_renumbered]

end

variable {stream : ProjectionStream} {selector : Nat} {planned : PlannedChain} {next : LoopState}

theorem laneSkip_of_resolvedSkip {store : PromotionStore} {reason : SkipReason}
    (skipped : resolvedSkip store stream selector = some reason) :
    laneSkip store stream selector = some reason := by
  unfold laneSkip
  rw [skipped]
  unfold resolvedSkip at skipped
  split at skipped
  · rename_i found selects
    unfold settlesAt
    rw [selects]
    rfl
  · cases skipped

section

variable {encoders : Encoders} {moment : Moment} {expected : DeviceContext} {live : ServiceState}
  {selected : Dict ProjectionStream Nat} {store : PromotionStore}

theorem planActionApply_reports {numbers : Numbers} (rows : moment.store = renumbered store numbers)
    {outcome : Except ContextConflict PlannedChain}
    (plans : planActionApply encoders moment expected live selected = .ok outcome)
    (stream : ProjectionStream) :
    (reportedSkips outcome).get? stream = (selected.get? stream).bind fun selector =>
      if conflictsOver encoders moment selected then resolvedSkip (prunedStore store) stream selector
      else laneSkip (prunedStore store) stream selector := by
  obtain ⟨refreshed, baseline, creation, refreshes, _, creates, captures⟩ := planActionApply_ok plans
  rw [refreshConsumedCarriers_nil] at refreshes
  cases refreshes
  cases creation with
  | error conflict =>
    cases captures
    have conflicts : conflictsOver encoders moment selected = true := by
      unfold planCreation at creates
      unfold conflictsOver
      split at creates
      · cases creates
      rename_i refused raised
      rw [raised]
      dsimp only
      split at creates
      · cases creates
      · rename_i streams named
        rw [named]
        rfl
    obtain ⟨resolved, streams, resolving, rfl⟩ := planCreation_conflict creates
    have skips := (selectedPromotions_resolves resolving).skipsOf_eq stream
    rw [conflicts, rows] at *
    exact skips
  | ok result =>
    obtain ⟨links, _, returned⟩ := bind_eq_ok.mp captures
    cases returned
    have applied := planCreation_planned creates
    have conflicts : conflictsOver encoders moment selected = false := by
      unfold conflictsOver
      rw [applied]
    have skips := actionApply_skipped applied stream
    simp only [rows, laneSkip_renumbered] at skips
    rw [conflicts]
    exact skips

end

/-! ### What a conflict hides -/

theorem laneSkip_of_settlesAt {store : PromotionStore} (settled : settlesAt store stream selector = true) :
    laneSkip store stream selector = some .alreadyApplied ∧ resolvedSkip store stream selector = none := by
  refine ⟨if_pos settled, ?_⟩
  unfold settlesAt at settled
  unfold resolvedSkip
  split at settled
  · rename_i selection selects
    rw [selects]
  · cases settled

/-! ### Results that report no changed inputs -/

/-- A result that does not report changed inputs. -/
def Outcome.Unmoved (outcome : Outcome) : Prop :=
  ∀ result, outcome = .finished result → result.details.error ≠ some .inputsChanged

variable {store : PromotionStore} {state : LoopState} {selected : Selected} {slack : Nat}
  (call : Call)

theorem finish_unmoved {status : Status} {details : Details} (other : details.error ≠ some .inputsChanged := by intro same; cases same) :
    (call.finish state status details).Unmoved := by
  intro result finished
  cases finished
  exact other

/-! No dry run reports changed inputs. -/

variable {link : PlannedLink} {nso : Nso} {calls : Nat}
  {report : Except ContextConflict PlannedChain}

theorem judgeAnswer_unmoved {answer : DryRunAnswer} (judged : judgeAnswer link answer = .error (.error .inputsChanged)) : False := by
  unfold judgeAnswer at judged
  split at judged
  all_goals try cases judged
  split at judged <;> cases judged

theorem dryRunFormats_unmoved {formats : List DryRunFormat}
    (run : (dryRunFormats nso link formats calls).1 = .error (.error .inputsChanged)) : False := by
  induction formats generalizing calls with
  | nil => cases run
  | cons format rest ih =>
    unfold dryRunFormats at run
    split at run
    · rename_i outcome judged
      cases run
      exact judgeAnswer_unmoved judged
    · split at run
      · rename_i outcome later ended
        exact ih ((congrArg Prod.fst ended).trans run)
      · cases run

theorem dryRunLink_unmoved {order : Nat} (run : (dryRunLink nso order link calls).1 = .error .inputsChanged) : False := by
  unfold dryRunLink at run
  split at run
  · dsimp only at run
    split at run
    · rename_i outcome later ended
      exact dryRunFormats_unmoved ((congrArg Prod.fst ended).trans (congrArg Except.error run))
    · cases run
  · cases run

theorem dryRunLinks_unmoved {links : List (PlannedLink × Nat)} {previous : Option (Containers × Bool)}
    (run : (dryRunLinks nso links previous calls).1 = .error .inputsChanged) : False := by
  induction links generalizing previous calls with
  | nil => cases run
  | cons entry rest ih =>
    unfold dryRunLinks at run
    dsimp only at run
    split at run
    · exact ih run
    · split at run
      · split at run
        · cases run
        · exact ih run
      · exact dryRunLink_unmoved run

theorem finishRun_unmoved : (call.finishRun state planned (dryRunChain call.nso planned calls).1).Unmoved := by
  unfold Call.finishRun
  split
  · exact finish_unmoved call
  · exact finish_unmoved call
  · exact finish_unmoved call
  · rename_i error ended
    refine finish_unmoved call fun same => ?_
    cases same
    exact dryRunLinks_unmoved ended

theorem diagnose_unmoved (unchanged : call.Unchanged store) (records : List AttributedRefusal) :
    (call.diagnose state records).2.Unmoved := by
  unfold Call.diagnose
  dsimp only
  split
  · rename_i stale
    exact absurd stale (planBaseline_ne_stale (unchanged.context _) _)
  · exact fun result finished => nomatch finished
  · split
    · exact finish_unmoved call
    · rename_i error ended
      refine finish_unmoved call fun same => ?_
      cases same
      exact dryRunLinks_unmoved ended
    · exact finish_unmoved call
    · exact finish_unmoved call

/-! ### One pass -/

/-- What a pass does once it has noted its skips: it ends with unmoved inputs or drops streams. -/
def Proceeds (noted : LoopState) (result : LoopState × Option Outcome) : Prop :=
  (∃ outcome, result.2 = some outcome ∧ outcome.Unmoved) ∨
    ∃ dryRuns blocks, result = Call.drop { noted with dryRuns } blocks

theorem Outcome.Unmoved.proceeds {outcome : Outcome} (unmoved : outcome.Unmoved)
    (noted ended : LoopState) : Proceeds noted (ended, some outcome) :=
  .inl ⟨outcome, rfl, unmoved⟩

theorem judge_proceeds (unchanged : call.Unchanged store) (planned : PlannedChain) : Proceeds state (call.judge state planned) := by
  unfold Call.judge
  dsimp only
  split
  · split
    · exact (diagnose_unmoved call unchanged _).proceeds _ _
    · exact .inr ⟨_, _, rfl⟩
  · exact (finishRun_unmoved call).proceeds _ _

theorem plannedPass_proceeds (unchanged : call.Unchanged store) (kept : skipsMoved state.skips planned.skipped = false) :
    Proceeds { state with skips := state.skips.update planned.skipped } (call.plannedPass state planned) := by
  unfold Call.plannedPass
  rw [kept]
  dsimp only
  rw [if_neg Bool.false_ne_true]
  split
  · refine Outcome.Unmoved.proceeds ?_ _ _
    exact fun result finished => nomatch finished
  · split
    · refine Outcome.Unmoved.proceeds (finish_unmoved call ?_) _ _
      exact nofun
    · split
      · refine Outcome.Unmoved.proceeds (finish_unmoved call ?_) _ _
        exact nofun
      · split
        · exact judge_proceeds call unchanged planned
        · exact .inr ⟨_, _, rfl⟩

theorem conflictPass_proceeds {conflict : ContextConflict} (kept : skipsMoved state.skips conflict.skipped = false) :
    Proceeds { state with skips := state.skips.update conflict.skipped } (call.conflictPass state conflict) := by
  unfold Call.conflictPass
  rw [kept]
  rw [if_neg Bool.false_ne_true]
  split
  · refine Outcome.Unmoved.proceeds (finish_unmoved call ?_) _ _
    exact nofun
  · exact .inr ⟨_, _, rfl⟩

def Call.enter (state : LoopState) : LoopState :=
  { state with attempts := state.attempts ++ [⟨state.current, []⟩] }

/-- What the planner answers the pass after `state`. -/
def Call.planOf (state : LoopState) : Except PlanError (Except ContextConflict PlannedChain) :=
  planActionApply call.encoders (call.moment state.plans) call.device call.live
    state.current.entries

def LoopState.note (state : LoopState) (report : Except ContextConflict PlannedChain) : LoopState :=
  { state with skips := state.skips.update (reportedSkips report) }

theorem runPass_cases (unchanged : call.Unchanged store) : (∃ report, call.planOf state = .ok report ∧
      skipsMoved state.skips (reportedSkips report) = true ∧
      (call.runPass (Call.enter state)).2 = some (call.inputsMoved { Call.enter state with plans := state.plans + 1 })) ∨
    (∃ report, call.planOf state = .ok report ∧ skipsMoved state.skips (reportedSkips report) = false ∧
      Proceeds ({ Call.enter state with plans := state.plans + 1 }.note report) (call.runPass (Call.enter state))) ∨
    (∃ error, call.planOf state = .error error ∧ (call.runPass (Call.enter state)).2 = some (.raised error)) := by
  unfold Call.runPass
  split
  · rename_i stale
    exact absurd stale (planActionApply_ne_stale (unchanged.context _) _ _)
  · rename_i error _ raised
    exact .inr (.inr ⟨error, raised, rfl⟩)
  · rename_i conflict planned
    cases moved : skipsMoved state.skips conflict.skipped with
    | true =>
      refine .inl ⟨_, planned, moved, ?_⟩
      exact congrArg Prod.snd (if_pos moved)
    | false => exact .inr (.inl ⟨_, planned, moved, conflictPass_proceeds call moved⟩)
  · rename_i chain planned
    cases moved : skipsMoved state.skips chain.skipped with
    | true =>
      refine .inl ⟨_, planned, moved, ?_⟩
      exact congrArg Prod.snd (if_pos moved)
    | false => exact .inr (.inl ⟨_, planned, moved, plannedPass_proceeds call unchanged moved⟩)

/-! ### The skips of the loop -/

/-- What the loop has skipped its lanes explain; nothing is skipped without the baseline. -/
structure Explained (store : PromotionStore) (state : LoopState) : Prop where
  each : ∀ entry ∈ state.skips, ∃ selector,
    state.current.entries.get? entry.1 = some selector ∧
      laneSkip (prunedStore store) entry.1 selector = some entry.2
  baseline : state.skips ≠ [] → ∃ proofs,
    baselineProofs (prunedStore store).authorized = .ok proofs

/-- The pass after `state` hides a settlement: creating the chain of its selection raises a
conflict, and the selection has a stream that settles and that an earlier pass skipped. -/
def Call.Hides (store : PromotionStore) (state : LoopState) : Prop :=
  conflictsOver call.encoders (call.moment state.plans) state.current.entries = true ∧
    ∃ entry ∈ state.current.entries, (state.skips.get? entry.1).isSome = true ∧
      settlesAt (prunedStore store) entry.1 entry.2 = true

theorem reported_get? (unchanged : call.Unchanged store) (planned : call.planOf state = .ok report) (stream : ProjectionStream) :
    (reportedSkips report).get? stream = (state.current.entries.get? stream).bind fun selector =>
        if conflictsOver call.encoders (call.moment state.plans) state.current.entries then
          resolvedSkip (prunedStore store) stream selector
        else laneSkip (prunedStore store) stream selector := by
  obtain ⟨numbers, rows⟩ := unchanged.rows state.plans
  exact planActionApply_reports rows planned stream

theorem reported_distinct (planned : call.planOf state = .ok report) : ((reportedSkips report).map (·.1)).Nodup := by
  cases report with
  | error conflict => exact (planActionApply_within planned).distinct
  | ok chain => exact (planActionApply_partitions planned).distinct

theorem Explained.moved_iff (explained : Explained store state) (unchanged : call.Unchanged store)
    (planned : call.planOf state = .ok report) :
    skipsMoved state.skips (reportedSkips report) = true ↔ call.Hides store state := by
  constructor
  · intro moved
    obtain ⟨entry, member, differs⟩ := List.any_eq_true.mp moved
    obtain ⟨selector, chosen, lane⟩ := explained.each entry member
    rw [reported_get? call unchanged planned, chosen, Option.bind_some] at differs
    have recorded : (state.skips.get? entry.1).isSome = true := by
      rw [Option.isSome_iff_ne_none]
      exact fun absent => Dict.get?_eq_none.mp absent entry member rfl
    split at differs
    · rename_i conflicts
      refine ⟨conflicts, (entry.1, selector), Dict.mem_of_get? chosen, recorded, ?_⟩
      by_contra unsettled
      unfold laneSkip at lane
      rw [if_neg unsettled] at lane
      rw [lane] at differs
      simp at differs
    · rw [lane] at differs
      simp at differs
  · rintro ⟨conflicts, entry, member, recorded, settled⟩
    obtain ⟨reason, skipped⟩ := Option.isSome_iff_exists.mp recorded
    refine List.any_eq_true.mpr ⟨(entry.1, reason), Dict.mem_of_get? skipped, ?_⟩
    have chosen := Dict.get?_of_mem state.current.distinct member
    rw [reported_get? call unchanged planned, chosen, Option.bind_some, if_pos conflicts, (laneSkip_of_settlesAt settled).2]
    rfl

theorem Explained.note (explained : Explained store state) (unchanged : call.Unchanged store) (planned : call.planOf state = .ok report) :
    Explained store (state.note report) := by
  constructor
  · intro entry member
    rcases Dict.mem_update member with earlier | now
    · exact explained.each entry earlier
    · have reported := Dict.get?_of_mem (reported_distinct call planned) now
      rw [reported_get? call unchanged planned] at reported
      obtain ⟨selector, chosen, skipped⟩ := Option.bind_eq_some_iff.mp reported
      refine ⟨selector, chosen, ?_⟩
      split at skipped
      · exact laneSkip_of_resolvedSkip skipped
      · exact skipped
  · intro _
    obtain ⟨refreshed, baseline, _, refreshes, proves, _⟩ := planActionApply_ok planned
    obtain ⟨numbers, rows⟩ := unchanged.rows state.plans
    rw [refreshConsumedCarriers_nil, rows] at refreshes
    cases refreshes
    exact ⟨baseline, proves⟩

theorem Explained.dropped (explained : Explained store state) {blocks : Blocks}
    (valid : next.Valid selected slack) (dropped : Call.drop state blocks = (next, none)) :
    Explained store next := by
  unfold Call.drop at dropped
  split at dropped
  · cases dropped
  cases dropped
  refine ⟨fun entry member => ?_, explained.baseline⟩
  obtain ⟨selector, chosen, lane⟩ := explained.each entry member
  refine ⟨selector, ?_, lane⟩
  have recorded : (state.skips.get? entry.1).isSome = true := by
    rw [Option.isSome_iff_ne_none]
    exact fun absent => Dict.get?_eq_none.mp absent entry member rfl
  have kept := (Selected.mem_keys_without.mp (valid.skips entry.1 recorded)).2
  dsimp only [Selected.without]
  rw [Dict.get?_filter fun stream => !(blocks.map (·.1)).contains stream, chosen]
  simp [kept]

/-! ### A pass that hides a settlement -/

theorem selectPromotion_ne_conflict (rows : PromotionStore) (stream : ProjectionStream)
    (selector : Nat) {refused : ApplyRefusal} {streams : List ProjectionStream}
    (conflicts : ApplyRefusal.conflictStreams refused = some streams) :
    selectPromotion rows stream selector ≠ .error refused := by
  intro raised
  unfold selectPromotion at raised
  split at raised
  · split at raised <;> cases raised
  split at raised
  · rename_i other resolving
    cases raised
    unfold resolveReceiptSelection at resolving
    split at resolving
    · repeat' split at resolving
      all_goals try cases resolving
      cases conflicts
    · cases resolving
  · cases raised
  · cases raised

theorem planCreation_of_conflict {encoders : Encoders} {moment : Moment} {chosen : Dict ProjectionStream Nat}
    (conflicts : conflictsOver encoders moment chosen = true) :
    ∃ conflict, planCreation encoders moment (prunedStore moment.store) chosen = .ok (.error conflict) := by
  unfold conflictsOver at conflicts
  split at conflicts
  swap
  · cases conflicts
  rename_i refused raised
  obtain ⟨streams, named⟩ := Option.isSome_iff_exists.mp conflicts
  have resolves : ∃ resolved, selectedPromotions (prunedStore moment.store) chosen = .ok resolved := by
    cases resolving : selectedPromotions (prunedStore moment.store) chosen with
    | ok resolved => exact ⟨resolved, rfl⟩
    | error other =>
      unfold actionApply at raised
      rw [resolving] at raised
      cases raised
      refine absurd resolving (mapM_ne_error (fun entry => bind_ne_error ?_ nofun) _)
      exact selectPromotion_ne_conflict _ _ _ named
  obtain ⟨resolved, resolving⟩ := resolves
  refine ⟨contextConflict streams resolved, ?_⟩
  unfold planCreation
  rw [raised]
  dsimp only
  rw [named]
  rw [resolving]
  rfl

theorem Explained.planOf_of_hides (explained : Explained store state) (unchanged : call.Unchanged store) (hides : call.Hides store state) :
    ∃ report, call.planOf state = .ok report := by
  obtain ⟨conflicts, entry, _, recorded, _⟩ := hides
  obtain ⟨reason, skipped⟩ := Option.isSome_iff_exists.mp recorded
  obtain ⟨proofs, proves⟩ := explained.baseline (List.ne_nil_of_mem (Dict.mem_of_get? skipped))
  obtain ⟨conflict, creates⟩ := planCreation_of_conflict conflicts
  obtain ⟨numbers, rows⟩ := unchanged.rows state.plans
  have same : (prunedStore (call.moment state.plans).store).authorized = (prunedStore store).authorized := by
    rw [rows]
    rfl
  refine ⟨.error conflict, ?_⟩
  unfold Call.planOf planActionApply
  rw [if_neg (not_not.mpr (unchanged.context _)), refreshConsumedCarriers_nil]
  refine bind_eq_ok.mpr ⟨_, rfl, ?_⟩
  refine bind_eq_ok.mpr ⟨proofs, same ▸ proves, ?_⟩
  exact bind_eq_ok.mpr ⟨_, creates, rfl⟩

/-! ### The passes of one call -/

def Call.passes (selected : Selected) : TransitionSystem LoopState Unit where
  initial state := (certifiedStaticRouteSection call.live).inconclusive = false ∧
    state = Call.start selected
  step _ state :=
    if state.current.keys.isEmpty && !state.streams.isEmpty then none
    else match call.runPass (Call.enter state) with
      | (next, none) => some next
      | (_, some _) => none

/-- A state that the loop of this call visits: it keeps a part of the selection, skips nothing
before a stream was dropped, and the run goes on from it. -/
structure Call.Visits (store : PromotionStore) (selected : Selected) (state : LoopState) :
    Prop where
  valid : state.Valid selected 0
  explained : Explained store state
  part : state.current.entries.Sublist selected.entries
  lost : state.skips ≠ [] → state.current.entries ≠ selected.entries
  goesOn : ∃ fuel, state.current.keys.length < fuel ∧
    call.runSelectedPreflight selected = call.runLoop selected.keys.length fuel state

theorem LoopState.Valid.entered_passes (valid : state.Valid selected 0) :
    Passes selected state.current.keys.length (call.runPass (Call.enter state)) := by
  refine LoopState.Valid.runPass call valid.enter ?_
  rw [List.length_append]
  exact Nat.succ_le_succ valid.plans

theorem runLoop_succ (valid : state.Valid selected 0) (fuel : Nat) :
    call.runLoop selected.keys.length (fuel + 1) state = if state.current.keys.isEmpty && !state.streams.isEmpty then
        (Call.enter state, call.finish (Call.enter state) .refused {})
      else match call.runPass (Call.enter state) with
        | (next, some outcome) => (next, outcome)
        | (next, none) => call.runLoop selected.keys.length fuel next := by
  have bound := valid.bound
  exact if_neg (by omega)

/-- A pass that does not end the run notes the skips of its report and drops streams. -/
theorem runPass_dropped (unchanged : call.Unchanged store) (passed : call.runPass (Call.enter state) = (next, none)) :
    ∃ report dryRuns blocks, call.planOf state = .ok report ∧ Call.drop
      { ({ Call.enter state with plans := state.plans + 1 } : LoopState).note report with dryRuns } blocks = (next, none) := by
  rcases runPass_cases call unchanged with ⟨_, _, _, ended⟩ | ⟨report, planned, _, proceeds⟩ | ⟨_, _, ended⟩
  · rw [passed] at ended
    cases ended
  · rcases proceeds with ⟨outcome, ended, _⟩ | ⟨dryRuns, blocks, dropped⟩
    · rw [passed] at ended
      cases ended
    · exact ⟨report, dryRuns, blocks, planned, dropped.symm.trans passed⟩
  · rw [passed] at ended
    cases ended

theorem drop_keeps {blocks : Blocks} (dropped : Call.drop state blocks = (next, none)) :
    next.skips = state.skips ∧ next.current.entries.Sublist state.current.entries := by
  unfold Call.drop at dropped
  split at dropped
  · cases dropped
  cases dropped
  exact ⟨rfl, List.filter_sublist⟩

theorem Explained.runPass (explained : Explained store state) (unchanged : call.Unchanged store)
    (valid : next.Valid selected 0) (passed : call.runPass (Call.enter state) = (next, none)) :
    Explained store next := by
  obtain ⟨report, dryRuns, blocks, planned, dropped⟩ := runPass_dropped call unchanged passed
  have noted := explained.note call unchanged planned
  have again : Explained store { ({ Call.enter state with
      plans := state.plans + 1 } : LoopState).note report with dryRuns } :=
    ⟨noted.each, noted.baseline⟩
  exact again.dropped valid dropped

theorem Call.Visits.of_reachable (unchanged : call.Unchanged store)
    (reached : (call.passes selected).Reachable state) : call.Visits store selected state := by
  refine reached.invariant ?_ ?_
  · rintro start ⟨conclusive, rfl⟩
    refine ⟨start_valid selected, ⟨nofun, fun some => absurd rfl some⟩, .refl _, fun some => absurd rfl some, _,
      Nat.lt_succ_self _, ?_⟩
    unfold Call.runSelectedPreflight
    rw [conclusive]
    rfl
  · intro _ before after visits stepped
    dsimp only [Call.passes] at stepped
    split at stepped
    · cases stepped
    rename_i continues
    split at stepped
    · rename_i next passed
      cases stepped
      have passes := visits.valid.entered_passes call
      rw [passed] at passes
      obtain ⟨fuel, enough, run⟩ := visits.goesOn
      obtain ⟨fuel, rfl⟩ := Nat.exists_eq_succ_of_ne_zero (Nat.ne_of_gt (Nat.zero_lt_of_lt enough))
      have shrinks := passes.shrinks rfl
      dsimp only at shrinks
      obtain ⟨_, _, _, _, dropped⟩ := runPass_dropped call unchanged passed
      refine ⟨passes.continues rfl, visits.explained.runPass call unchanged (passes.continues rfl) passed,
        (drop_keeps dropped).2.trans visits.part, fun _ whole => ?_, fuel, ?_, ?_⟩
      · have fits := visits.part.length_le
        rw [← whole] at fits
        unfold Selected.keys at shrinks
        rw [List.length_map, List.length_map] at shrinks
        omega
      · omega
      · rw [run, Nat.succ_eq_add_one, runLoop_succ call visits.valid, if_neg continues, passed]
    · cases stepped

theorem Call.Visits.moved (unchanged : call.Unchanged store) (visits : call.Visits store selected state) (hides : call.Hides store state) :
    ¬ (call.runSelectedPreflight selected).2.Unmoved := by
  obtain ⟨report, planned⟩ := visits.explained.planOf_of_hides call unchanged hides
  have moved := (visits.explained.moved_iff call unchanged planned).mpr hides
  obtain ⟨fuel, enough, run⟩ := visits.goesOn
  obtain ⟨fuel, rfl⟩ := Nat.exists_eq_succ_of_ne_zero (Nat.ne_of_gt (Nat.zero_lt_of_lt enough))
  obtain ⟨_, entry, member, _⟩ := hides
  have selects : state.current.keys.isEmpty = false := List.isEmpty_eq_false_iff.mpr (List.ne_nil_of_mem (List.mem_map_of_mem member))
  have ended : (call.runPass (Call.enter state)).2 = some (call.inputsMoved { Call.enter state with plans := state.plans + 1 }) := by
    rcases @runPass_cases store state call unchanged with ⟨_, _, _, ended⟩ | ⟨other, again, kept, _⟩ | ⟨error, again, _⟩
    · exact ended
    · rw [planned] at again
      cases again
      rw [moved] at kept
      cases kept
    · rw [planned] at again
      cases again
  have finished : (call.runSelectedPreflight selected).2 = call.inputsMoved { Call.enter state with plans := state.plans + 1 } := by
    rw [run, Nat.succ_eq_add_one, runLoop_succ call visits.valid, selects]
    split
    · contradiction
    · split
      · rename_i next outcome passed
        rw [passed] at ended
        exact Option.some.inj ended
      · rename_i next passed
        rw [passed] at ended
        cases ended
  rw [finished]
  exact fun unmoved => unmoved _ rfl rfl

/-- No part of the selection that lost a stream both conflicts and keeps a stream that settles as
wire equivalent. -/
def Call.Discloses (store : PromotionStore) (selected : Selected) : Prop :=
  ∀ index part, part.Sublist selected.entries → part ≠ selected.entries →
    conflictsOver call.encoders (call.moment index) part = true →
    ∀ entry ∈ part, settlesAt (prunedStore store) entry.1 entry.2 = false

theorem Call.Visits.shown (visits : call.Visits store selected state) (discloses : call.Discloses store selected) :
    ¬ call.Hides store state := by
  rintro ⟨conflicts, entry, member, recorded, settled⟩
  obtain ⟨reason, skipped⟩ := Option.isSome_iff_exists.mp recorded
  have lost := visits.lost (List.ne_nil_of_mem (Dict.mem_of_get? skipped))
  rw [discloses _ _ visits.part lost conflicts entry member] at settled
  cases settled

variable {call}

def addressRef : RowRef := ⟨"ip", "192.0.2.3/31"⟩

def addressRefused : DryRunAnswer :=
  .refusal [⟨"ip", addressRef, none, "duplicate", "1", "duplicate address", none⟩]

end NsoAdapter.Preflight
