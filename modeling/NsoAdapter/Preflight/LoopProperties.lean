import NsoAdapter.Preflight.Loop

/-! The candidate loop ends within its bound, none of its assertions fails, and a ready result
partitions the selection into admitted, skipped and blocked streams. -/

namespace NsoAdapter.Preflight
open Lib Projection Store NsoAdapter.Core StaticRoute
open Execution

def BlockedIn (streams : Dict ProjectionStream Verdict) (stream : ProjectionStream) : Prop :=
  ∃ verdict, streams.get? stream = some verdict ∧ verdict.blocked = true

/-- No stream that an attempt dropped is selected by a later one. -/
def Ordered (attempts : List Attempt) : Prop :=
  attempts.Pairwise fun earlier later => ∀ stream ∈ earlier.dropped, stream ∉ later.selection.keys

/-- What holds of the loop between two passes; `slack` is one while a pass is being made. -/
structure LoopState.Valid (selected : Selected) (slack : Nat) (state : LoopState) : Prop where
  covers : ∀ stream, stream ∈ selected.keys ↔
    stream ∈ state.current.keys ∨ BlockedIn state.streams stream
  apart : ∀ stream ∈ state.current.keys, ¬ BlockedIn state.streams stream
  skips : ∀ stream, (state.skips.get? stream).isSome → stream ∈ state.current.keys
  dropped : ∀ attempt ∈ state.attempts, ∀ stream ∈ attempt.dropped, stream ∉ state.current.keys
  ordered : Ordered state.attempts
  bound : state.attempts.length + state.current.keys.length ≤ selected.keys.length + slack
  plans : state.plans ≤ state.attempts.length

/-! ### The attempts and the verdicts -/

theorem recordDropped_cases (attempts : List Attempt) (dropped : List ProjectionStream) :
    attempts = [] ∧ Call.recordDropped attempts dropped = [] ∨ ∃ front last, attempts = front ++ [last] ∧
        Call.recordDropped attempts dropped = front ++ [{ last with dropped }] := by
  rcases List.eq_nil_or_concat attempts with rfl | ⟨front, last, rfl⟩
  · exact .inl ⟨rfl, rfl⟩
  · refine .inr ⟨front, last, List.concat_eq_append, ?_⟩
    unfold Call.recordDropped
    simp

theorem recordDropped_length (attempts : List Attempt) (dropped : List ProjectionStream) :
    (Call.recordDropped attempts dropped).length = attempts.length := by
  rcases recordDropped_cases attempts dropped with ⟨rfl, same⟩ | ⟨front, last, rfl, same⟩
  · rw [same]
  · rw [same, List.length_append, List.length_append]
    rfl

variable {attempts : List Attempt} {streams : Dict ProjectionStream Verdict}
  {stream : ProjectionStream} {records : List AttributedRefusal} {current : List ProjectionStream}

theorem mem_recordDropped {dropped : List ProjectionStream} {attempt : Attempt} (member : attempt ∈ Call.recordDropped attempts dropped) :
    attempt ∈ attempts ∨ attempt.dropped = dropped := by
  rcases recordDropped_cases attempts dropped with ⟨rfl, same⟩ | ⟨front, last, rfl, same⟩
  · rw [same] at member
    cases member
  · rw [same] at member
    rcases List.mem_append.mp member with earlier | now
    · exact .inl (List.mem_append_left _ earlier)
    · rw [List.mem_singleton.mp now]
      exact .inr rfl

theorem Ordered.recordDropped (ordered : Ordered attempts) (dropped : List ProjectionStream) :
    Ordered (Call.recordDropped attempts dropped) := by
  rcases recordDropped_cases attempts dropped with ⟨rfl, same⟩ | ⟨front, last, rfl, same⟩
  · rw [same]
    exact ordered
  · rw [same]
    obtain ⟨earlier, _, toLast⟩ := List.pairwise_append.mp ordered
    refine List.pairwise_append.mpr ⟨earlier, List.pairwise_singleton _ _, ?_⟩
    intro attempt member final listed
    rw [List.mem_singleton.mp listed]
    exact toLast attempt member last (List.mem_singleton.mpr rfl)

theorem blockedIn_update {blocks : Blocks} (blocking : ∀ entry ∈ blocks, entry.2.blocked = true) :
    BlockedIn (streams.update blocks) stream ↔ stream ∈ blocks.map (·.1) ∨ BlockedIn streams stream := by
  unfold BlockedIn
  rw [Dict.get?_update]
  cases found : Dict.get? blocks.reverse stream with
  | some verdict =>
    have member := List.mem_reverse.mp (Dict.mem_of_get? found)
    refine ⟨fun _ => .inl (List.mem_map.mpr ⟨_, member, rfl⟩), fun _ => ?_⟩
    exact ⟨verdict, rfl, blocking _ member⟩
  | none =>
    have absent : stream ∉ blocks.map (·.1) := by
      intro listed
      obtain ⟨entry, member, same⟩ := List.mem_map.mp listed
      exact Dict.get?_eq_none.mp found entry (List.mem_reverse.mpr member) same
    simp [absent]

theorem blockedIn_update_admitted {admitted : Dict ProjectionStream Nat} :
    BlockedIn (streams.update (admitted.map fun entry => (entry.1, Verdict.admitted))) stream ↔
      stream ∉ admitted.map (·.1) ∧ BlockedIn streams stream := by
  unfold BlockedIn
  rw [Dict.get?_update]
  cases found : Dict.get? (admitted.map fun entry =>
      (entry.1, Verdict.admitted)).reverse stream with
  | some verdict =>
    obtain ⟨entry, member, same⟩ := List.mem_map.mp (List.mem_reverse.mp (Dict.mem_of_get? found))
    cases same
    refine ⟨?_, fun kept => absurd (List.mem_map_of_mem member) kept.1⟩
    rintro ⟨verdict, found, blocks⟩
    cases found
    cases blocks
  | none =>
    have absent : stream ∉ admitted.map (·.1) := by
      intro listed
      obtain ⟨entry, member, same⟩ := List.mem_map.mp listed
      exact Dict.get?_eq_none.mp found _ (List.mem_reverse.mpr (List.mem_map_of_mem member)) same
    simp [absent]

variable {selected : Selected} {slack : Nat} {state : LoopState}

/-! ### What the steps of a pass keep -/

theorem start_valid (selected : Selected) : (Call.start selected).Valid selected 0 := by
  have unjudged : ∀ stream, ¬ BlockedIn (Call.start selected).streams stream := by
    rintro stream ⟨verdict, found, blocked⟩
    have member : (stream, verdict) ∈ (selected.entries.map fun entry =>
        (entry.1, Verdict.notEvaluated)) := Dict.mem_of_get? found
    obtain ⟨entry, _, same⟩ := List.mem_map.mp member
    cases same
    cases blocked
  constructor
  · intro stream
    exact ⟨.inl, fun either => either.resolve_right (unjudged stream)⟩
  · exact fun stream _ => unjudged stream
  · exact fun stream skipped => nomatch skipped
  · exact fun attempt member => nomatch member
  · exact .nil
  · exact le_of_eq (Nat.zero_add _)
  · exact le_refl 0

theorem LoopState.Valid.enter (valid : state.Valid selected 0) : LoopState.Valid selected 1
      { state with attempts := state.attempts ++ [⟨state.current, []⟩] } := by
  constructor
  · exact valid.covers
  · exact valid.apart
  · exact valid.skips
  · intro attempt member
    rcases List.mem_append.mp member with earlier | now
    · exact valid.dropped attempt earlier
    · rw [List.mem_singleton.mp now]
      exact fun stream dropped => nomatch dropped
  · refine List.pairwise_append.mpr ⟨valid.ordered, List.pairwise_singleton _ _, ?_⟩
    intro attempt member last listed
    rw [List.mem_singleton.mp listed]
    exact valid.dropped attempt member
  · have bound := valid.bound
    rw [List.length_append]
    simp only [List.length_singleton]
    omega
  · have plans := valid.plans
    dsimp only
    rw [List.length_append]
    omega

theorem LoopState.Valid.note (valid : state.Valid selected slack)
    {skips : Dict ProjectionStream SkipReason} (distinct : (skips.map (·.1)).Nodup)
    (within : ∀ stream, (skips.get? stream).isSome → stream ∈ state.current.keys) :
    LoopState.Valid selected slack { state with skips := state.skips.update skips } := by
  refine ⟨valid.covers, valid.apart, ?_, valid.dropped, valid.ordered, valid.bound, valid.plans⟩
  intro stream skipped
  rw [Dict.get?_update_of_nodup distinct] at skipped
  cases now : skips.get? stream with
  | some reason => exact within stream (by rw [now]; rfl)
  | none =>
    rw [now, Option.none_or] at skipped
    exact valid.skips stream skipped

/-- The blocks of a pass: promoted streams of its selection. -/
structure Droppable (state : LoopState) (blocks : Blocks) : Prop where
  selected : ∀ entry ∈ blocks, entry.1 ∈ state.current.keys
  blocking : ∀ entry ∈ blocks, entry.2.blocked = true
  unskipped : ∀ entry ∈ blocks, state.skips.get? entry.1 = none

theorem LoopState.Valid.drop (valid : state.Valid selected 1) {blocks : Blocks}
    (droppable : Droppable state blocks) (nonempty : blocks ≠ []) :
    ∃ next, Call.drop state blocks = (next, none) ∧ next.Valid selected 0 ∧
      next.current.keys.length < state.current.keys.length := by
  have allowed : (blocks.isEmpty || blocks.any fun entry =>
      !state.current.keys.contains entry.1) = false := by
    rw [Bool.or_eq_false_iff]
    refine ⟨List.isEmpty_eq_false_iff.mpr nonempty, List.any_eq_false.mpr fun entry member => ?_⟩
    simp [droppable.selected entry member]
  have smaller : (state.current.without (blocks.map (·.1))).keys.length < state.current.keys.length := by
    obtain ⟨entry, member⟩ := List.exists_mem_of_ne_nil blocks nonempty
    obtain ⟨found, listed, same⟩ := List.mem_map.mp (droppable.selected entry member)
    unfold Selected.keys Selected.without
    rw [List.length_map, List.length_map]
    refine List.length_filter_lt_length_iff_exists.mpr ⟨found, listed, ?_⟩
    simp only [Bool.not_eq_true', List.contains_eq_mem, decide_eq_false_iff_not, not_not]
    exact List.mem_map.mpr ⟨entry, member, same.symm⟩
  refine ⟨_, by unfold Call.drop; rw [allowed]; rfl, ?_, smaller⟩
  have blocked (stream : ProjectionStream) : BlockedIn (state.streams.update blocks) stream ↔
        stream ∈ blocks.map (·.1) ∨ BlockedIn state.streams stream :=
    blockedIn_update droppable.blocking
  constructor
  · intro stream
    dsimp only [Call.block]
    rw [Selected.mem_keys_without, blocked stream, valid.covers stream]
    constructor
    · rintro (kept | earlier)
      · by_cases dropped : stream ∈ blocks.map (·.1)
        · exact .inr (.inl dropped)
        · exact .inl ⟨kept, dropped⟩
      · exact .inr (.inr earlier)
    · rintro (⟨kept, _⟩ | dropped | earlier)
      · exact .inl kept
      · obtain ⟨entry, member, rfl⟩ := List.mem_map.mp dropped
        exact .inl (droppable.selected entry member)
      · exact .inr earlier
  · intro stream kept
    obtain ⟨kept, undropped⟩ := Selected.mem_keys_without.mp kept
    dsimp only [Call.block]
    rw [blocked stream]
    rintro (dropped | earlier)
    · exact undropped dropped
    · exact valid.apart stream kept earlier
  · intro stream skipped
    refine Selected.mem_keys_without.mpr ⟨valid.skips stream skipped, fun dropped => ?_⟩
    obtain ⟨entry, member, rfl⟩ := List.mem_map.mp dropped
    rw [show ({ Call.block state blocks with
      current := state.current.without (blocks.map (·.1)) } : LoopState).skips =
        state.skips from rfl, droppable.unskipped entry member] at skipped
    cases skipped
  · intro attempt member stream dropped kept
    obtain ⟨kept, undropped⟩ := Selected.mem_keys_without.mp kept
    rcases mem_recordDropped member with earlier | now
    · exact valid.dropped attempt earlier stream dropped kept
    · rw [now] at dropped
      exact undropped (mem_sortedStreams.mp dropped)
  · exact valid.ordered.recordDropped _
  · have bound := valid.bound
    dsimp only [Call.block]
    rw [recordDropped_length]
    omega
  · dsimp only [Call.block]
    rw [recordDropped_length]
    exact valid.plans

/-! ### How a pass ends -/

def PreflightResult.Admits (result : PreflightResult) (stream : ProjectionStream) : Prop :=
  stream ∈ result.admittedSelection.map (·.1)

def PreflightResult.Skips (result : PreflightResult) (stream : ProjectionStream) : Prop :=
  (result.skips.get? stream).isSome

def PreflightResult.Blocks (result : PreflightResult) (stream : ProjectionStream) : Prop :=
  BlockedIn result.streams stream

/-- The selected streams are the disjoint union of the admitted, the skipped and the blocked
ones, and the plan promotes the admitted ones. -/
structure PreflightResult.Partitions (result : PreflightResult) (selected : Selected)
    (plan : PlannedChain) : Prop where
  covers : ∀ stream, stream ∈ selected.keys ↔
    result.Admits stream ∨ result.Skips stream ∨ result.Blocks stream
  unskipped : ∀ stream, result.Admits stream → ¬ result.Skips stream
  unblocked : ∀ stream, result.Admits stream → ¬ result.Blocks stream
  disjoint : ∀ stream, result.Skips stream → ¬ result.Blocks stream
  promotes : ∀ stream, stream ∈ plan.promoted ↔ result.Admits stream

structure Ends (selected : Selected) (run : LoopState × Outcome) : Prop where
  faultless : ∀ fault, run.2 ≠ .fault fault
  attempts : run.1.attempts.length ≤ selected.keys.length + 1
  plans : run.1.plans ≤ selected.keys.length + 1
  ordered : Ordered run.1.attempts
  recorded : ∀ result, run.2 = .finished result → result.attempts = run.1.attempts
  unadmitted : ∀ result, run.2 = .finished result → ∀ attempt ∈ result.attempts,
    ∀ stream ∈ attempt.dropped, ¬ result.Admits stream
  ready : ∀ result, run.2 = .finished result → result.status = .ready →
    ∃ plan, result.plan = some plan ∧ result.Partitions selected plan

structure Bounded (selected : Selected) (state : LoopState) : Prop where
  attempts : state.attempts.length ≤ selected.keys.length + 1
  plans : state.plans ≤ selected.keys.length + 1
  ordered : Ordered state.attempts

theorem LoopState.Valid.bounded (valid : state.Valid selected slack) (pass : slack ≤ 1) : Bounded selected state := by
  have bound := valid.bound
  have plans := valid.plans
  exact ⟨by omega, by omega, valid.ordered⟩

variable (call : Call)

theorem finish_faultless (state : LoopState) (status : Status) (details : Details) (fault : LoopFault) :
    call.finish state status details ≠ .fault fault := by
  intro same
  cases same

section

variable (bounded : Bounded selected state)

include bounded

theorem Bounded.finish {status : Status} (unready : status ≠ .ready) (details : Details) :
    Ends selected (state, call.finish state status details) := by
  refine ⟨finish_faultless call state _ _, bounded.attempts, bounded.plans, bounded.ordered, ?_, ?_, ?_⟩
  · intro result finished
    cases finished
    rfl
  · intro result finished attempt _ stream _ admitted
    cases finished
    unfold PreflightResult.Admits at admitted
    simp [unready] at admitted
  · intro result finished ready
    cases finished
    exact absurd ready unready

theorem Bounded.raise (error : PlanError) : Ends selected (state, .raised error) := by
  refine ⟨nofun, bounded.attempts, bounded.plans, bounded.ordered, ?_, ?_, ?_⟩
  · intro result finished
    cases finished
  · intro result finished
    cases finished
  · intro result finished
    cases finished

theorem Bounded.moved : Ends selected (state, call.inputsMoved state) := bounded.finish call (by decide) _

theorem Bounded.dryRuns (dryRuns : Nat) : Bounded selected { state with dryRuns } := ⟨bounded.attempts, bounded.plans, bounded.ordered⟩

end

theorem LoopState.Valid.diagnose (valid : state.Valid selected 1) (nonempty : state.current.keys ≠ []) (records : List AttributedRefusal) :
    Ends selected (call.diagnose state records) := by
  have planning : Bounded selected { state with plans := state.plans + 1 } := by
    have bound := valid.bound
    have plans := valid.plans
    have some := List.length_pos_of_ne_nil nonempty
    exact ⟨by dsimp only; omega, by dsimp only; omega, valid.ordered⟩
  unfold Call.diagnose
  dsimp only
  split
  · exact planning.moved call
  · exact planning.raise _
  · rename_i baseline _
    have ended := planning.dryRuns (dryRunChain call.nso baseline state.dryRuns).2
    split
    · exact ended.finish call (by decide) _
    · exact ended.finish call (by decide) _
    · exact ended.finish call (by decide) _
    · exact ended.finish call (by decide) _

theorem skips_confirmed {earlier later : Dict ProjectionStream SkipReason}
    (distinct : (later.map (·.1)).Nodup) (kept : skipsMoved earlier later = false)
    (stream : ProjectionStream) : (earlier.update later).get? stream = later.get? stream := by
  rw [Dict.get?_update_of_nodup distinct]
  cases now : later.get? stream with
  | some reason => rfl
  | none =>
    rw [Option.none_or]
    cases before : earlier.get? stream with
    | none => rfl
    | some reason =>
      have unmoved := List.any_eq_false.mp kept _ (Dict.mem_of_get? before)
      rw [now] at unmoved
      exact absurd rfl unmoved

/-- An accepted plan: its skips are the loop's, its promoted streams are selected. -/
structure Accepted (state : LoopState) (planned : PlannedChain) : Prop where
  partitions : Partitions state.current.entries planned.promoted planned.skipped
  skips : ∀ stream, state.skips.get? stream = planned.skipped.get? stream

variable {planned : PlannedChain} {entry : ProjectionStream × Verdict}

theorem LoopState.Valid.ready (valid : state.Valid selected 1) (accepted : Accepted state planned) (deltas : List Delta) :
    Ends selected (state, call.finish state .ready { plan := some planned, deltas }) := by
  have bounded := valid.bounded (le_refl 1)
  have covers (stream : ProjectionStream) : stream ∈ state.current.keys ↔ stream ∈ planned.promoted ∨ (state.skips.get? stream).isSome := by
    rw [Selected.mem_keys, accepted.partitions.covers stream, accepted.skips stream]
  have admitted (stream : ProjectionStream) : stream ∈ (state.current.entries.filter fun entry =>
        (state.skips.get? entry.1).isNone).map (·.1) ↔ stream ∈ planned.promoted := by
    simp only [List.mem_map, List.mem_filter]
    constructor
    · rintro ⟨entry, ⟨listed, unskipped⟩, rfl⟩
      rcases (covers entry.1).mp (List.mem_map_of_mem listed) with promoted | skipped
      · exact promoted
      · rw [Option.isSome_iff_ne_none] at skipped
        exact absurd (Option.isNone_iff_eq_none.mp unskipped) skipped
    · intro promoted
      obtain ⟨entry, listed, rfl⟩ := List.mem_map.mp ((covers stream).mpr (.inl promoted))
      refine ⟨entry, ⟨listed, ?_⟩, rfl⟩
      rw [accepted.skips, accepted.partitions.disjoint _ promoted]
      rfl
  have blocked (stream : ProjectionStream) : BlockedIn (state.streams.update ((state.current.entries.filter fun entry =>
        (state.skips.get? entry.1).isNone).map fun entry => (entry.1, Verdict.admitted))) stream ↔
        stream ∉ planned.promoted ∧ BlockedIn state.streams stream := by
    rw [blockedIn_update_admitted, admitted stream]
  refine ⟨finish_faultless call state _ _, bounded.attempts, bounded.plans, bounded.ordered, ?_, ?_, ?_⟩
  · intro result finished
    cases finished
    rfl
  · intro result finished attempt member stream dropped admits
    cases finished
    have promoted := (admitted stream).mp admits
    exact valid.dropped attempt member stream dropped ((covers stream).mpr (.inl promoted))
  · intro result finished _
    cases finished
    refine ⟨planned, rfl, ?_, ?_, ?_, ?_, ?_⟩
    · intro stream
      unfold PreflightResult.Admits PreflightResult.Skips PreflightResult.Blocks
      dsimp only
      rw [if_pos rfl, admitted stream, valid.covers stream, covers stream]
      rw [blocked stream]
      by_cases promoted : stream ∈ planned.promoted
      · simp [promoted]
      · simp [promoted]
    · intro stream admits skipped
      unfold PreflightResult.Skips at skipped
      rw [accepted.skips, accepted.partitions.disjoint _ ((admitted stream).mp admits)] at skipped
      cases skipped
    · exact fun stream admits blocks => ((blocked stream).mp blocks).1 ((admitted stream).mp admits)
    · intro stream skipped blocks
      exact valid.apart stream (valid.skips stream skipped) ((blocked stream).mp blocks).2
    · exact fun stream => (admitted stream).symm

/-! ### One pass -/

/-- A pass over `size` streams ends the loop or leaves a valid state with fewer of them. -/
structure Passes (selected : Selected) (size : Nat) (result : LoopState × Option Outcome) :
    Prop where
  continues : result.2 = none → result.1.Valid selected 0
  shrinks : result.2 = none → result.1.current.keys.length < size
  ends : ∀ outcome, result.2 = some outcome → Ends selected (result.1, outcome)

theorem Ends.passes {outcome : Outcome} {size : Nat} (ends : Ends selected (state, outcome)) :
    Passes selected size (state, some outcome) := by
  refine ⟨nofun, nofun, ?_⟩
  intro found same
  cases same
  exact ends

theorem LoopState.Valid.passes (valid : state.Valid selected 1) {blocks : Blocks}
    (droppable : Droppable state blocks) (nonempty : blocks ≠ []) :
    Passes selected state.current.keys.length (Call.drop state blocks) := by
  obtain ⟨next, dropped, later, smaller⟩ := valid.drop droppable nonempty
  rw [dropped]
  exact ⟨fun _ => later, fun _ => smaller, fun _ ended => nomatch ended⟩

theorem LoopState.Valid.dryRuns (valid : state.Valid selected slack) (dryRuns : Nat) :
    LoopState.Valid selected slack { state with dryRuns } :=
  ⟨valid.covers, valid.apart, valid.skips, valid.dropped, valid.ordered, valid.bound, valid.plans⟩

theorem Accepted.droppable (accepted : Accepted state planned) {blocks : Blocks} (promoted : ∀ entry ∈ blocks, entry.1 ∈ planned.promoted)
    (blocking : ∀ entry ∈ blocks, entry.2.blocked = true) : Droppable state blocks := by
  refine ⟨fun entry member => ?_, blocking, fun entry member => ?_⟩
  · rw [Selected.mem_keys]
    exact (accepted.partitions.covers entry.1).mpr (.inl (promoted entry member))
  · rw [accepted.skips]
    exact accepted.partitions.disjoint entry.1 (promoted entry member)

theorem mem_refusalBlocks (member : entry ∈ refusalBlocks records current) : entry.1 ∈ current ∧ entry.2.blocked = true := by
  obtain ⟨stream, _, found⟩ := List.mem_filterMap.mp member
  split at found
  · rename_i selected
    cases found
    exact ⟨selected, rfl⟩
  · cases found

theorem mem_contextBlocks (member : entry ∈ contextBlocks planned) : entry.1 ∈ planned.promoted ∧ entry.2.blocked = true := by
  unfold contextBlocks at member
  dsimp only at member
  split at member
  · cases member
  obtain ⟨stream, promoted, found⟩ := List.mem_filterMap.mp member
  split at found
  · cases found
    exact ⟨mem_sortedStreams.mp promoted, rfl⟩
  · cases found

theorem mem_guardBlocks (member : entry ∈ guardBlocks planned current) : entry.1 ∈ current ∧ entry.2.blocked = true := by
  obtain ⟨stream, named, rfl⟩ := List.mem_map.mp member
  refine ⟨?_, rfl⟩
  obtain ⟨key, orphaned, names⟩ := List.mem_flatMap.mp (mem_sortedStreams.mp named)
  obtain ⟨link, _, orphaned⟩ := List.mem_flatMap.mp orphaned
  obtain ⟨label, _, orphaned⟩ := List.mem_flatMap.mp orphaned
  obtain ⟨parts, _, rfl⟩ := List.mem_map.mp orphaned
  obtain ⟨contribution, kept, rfl⟩ := List.mem_map.mp names
  have answers := (List.mem_filter.mp kept).2
  rw [Bool.and_eq_true] at answers
  exact List.contains_iff_mem.mp answers.2

theorem dryRunChain_refused {nso : Nso} {calls : Nat}
    (refused : (dryRunChain nso planned calls).1 = .refused records) : planned.links ≠ [] := by
  intro none
  unfold dryRunChain at refused
  rw [none] at refused
  cases refused

theorem LoopState.Valid.judge (valid : state.Valid selected 1) (accepted : Accepted state planned)
    (nonempty : planned.links ≠ [] → state.current.keys ≠ []) :
    Passes selected state.current.keys.length (call.judge state planned) := by
  have ended := valid.dryRuns (dryRunChain call.nso planned state.dryRuns).2
  have bounded := ended.bounded (le_refl 1)
  have again : Accepted { state with dryRuns := (dryRunChain call.nso planned state.dryRuns).2 }
      planned := ⟨accepted.partitions, accepted.skips⟩
  unfold Call.judge
  dsimp only
  split
  · rename_i records refused
    split
    · exact (ended.diagnose call (nonempty (dryRunChain_refused refused)) records).passes
    · rename_i some
      refine ended.passes (again.droppable ?_ ?_) (fun none => some (List.isEmpty_iff.mpr none))
      · exact fun entry member => (mem_refusalBlocks member).1
      · exact fun entry member => (mem_refusalBlocks member).2
  · rename_i outcome unrefused
    refine Ends.passes ?_
    cases run : (dryRunChain call.nso planned state.dryRuns).1 with
    | refused records => exact absurd run (unrefused records)
    | ready deltas => exact ended.ready call again deltas
    | unavailable | error => exact bounded.finish call (by decide) _

theorem LoopState.Valid.plannedPass (valid : state.Valid selected 1)
    (partitions : Partitions state.current.entries planned.promoted planned.skipped)
    (nonempty : planned.links ≠ [] → state.current.keys ≠ []) :
    Passes selected state.current.keys.length (call.plannedPass state planned) := by
  have bounded := valid.bounded (le_refl 1)
  unfold Call.plannedPass
  split
  · exact (bounded.moved call).passes
  rename_i kept
  rw [Bool.not_eq_true] at kept
  have noted := valid.note partitions.distinct fun stream skipped => by
    rw [Selected.mem_keys]
    exact (partitions.covers stream).mpr (.inr skipped)
  have accepted : Accepted { state with skips := state.skips.update planned.skipped } planned :=
    ⟨partitions, skips_confirmed partitions.distinct kept⟩
  have notedBounded := noted.bounded (le_refl 1)
  dsimp only
  split
  · rename_i unknown
    obtain ⟨stream, promoted, outside⟩ := List.any_eq_true.mp unknown
    have current : stream ∈ state.current.keys := by
      rw [Selected.mem_keys]
      exact (partitions.covers stream).mpr (.inl promoted)
    simp [current] at outside
  · split
    · exact (notedBounded.finish call (by decide) _).passes
    split
    · refine Ends.passes (Bounded.finish call ?_ (by decide) _)
      refine ⟨?_, notedBounded.plans, notedBounded.ordered.recordDropped _⟩
      dsimp only [Call.block]
      rw [recordDropped_length]
      exact notedBounded.attempts
    · split
      · exact noted.judge call accepted nonempty
      rename_i some
      refine noted.passes (accepted.droppable ?_ ?_) (fun none => some (List.isEmpty_iff.mpr none))
      · intro entry member
        rcases Dict.mem_update member with context | guarded
        · exact (mem_contextBlocks context).1
        · exact (mem_guardBlocks guarded).1
      · intro entry member
        rcases Dict.mem_update member with context | guarded
        · exact (mem_contextBlocks context).2
        · exact (mem_guardBlocks guarded).2

theorem LoopState.Valid.conflictPass (valid : state.Valid selected 1) {conflict : ContextConflict}
    (within : conflict.Within state.current.entries) :
    Passes selected state.current.keys.length (call.conflictPass state conflict) := by
  have bounded := valid.bounded (le_refl 1)
  unfold Call.conflictPass
  split
  · exact (bounded.moved call).passes
  rename_i kept
  rw [Bool.not_eq_true] at kept
  have noted := valid.note within.distinct fun stream skipped => by
    rw [Selected.mem_keys]
    exact within.skipped stream skipped
  split
  · exact ((noted.bounded (le_refl 1)).finish call (by decide) _).passes
  rename_i some
  refine noted.passes ⟨?_, ?_, ?_⟩ ?_
  · intro entry member
    obtain ⟨stream, blocked, rfl⟩ := List.mem_map.mp member
    rw [Selected.mem_keys]
    exact (within.blocked stream blocked).1
  · intro entry member
    obtain ⟨stream, _, rfl⟩ := List.mem_map.mp member
    rfl
  · intro entry member
    obtain ⟨stream, blocked, rfl⟩ := List.mem_map.mp member
    exact (skips_confirmed within.distinct kept stream).trans (within.blocked stream blocked).2
  · intro none
    exact some (List.isEmpty_iff.mpr (List.map_eq_nil_iff.mp none))

theorem LoopState.Valid.runPass (valid : state.Valid selected 1) (plans : state.plans + 1 ≤ state.attempts.length) :
    Passes selected state.current.keys.length (call.runPass state) := by
  have planning : LoopState.Valid selected 1 { state with plans := state.plans + 1 } :=
    ⟨valid.covers, valid.apart, valid.skips, valid.dropped, valid.ordered, valid.bound, plans⟩
  have bounded := planning.bounded (le_refl 1)
  unfold Call.runPass
  split
  · exact (bounded.moved call).passes
  · exact (bounded.raise _).passes
  · rename_i conflict conflicts
    exact planning.conflictPass call (planActionApply_within conflicts)
  · rename_i planned plan
    refine planning.plannedPass call (planActionApply_partitions plan) fun linked none => ?_
    rw [List.map_eq_nil_iff.mp none] at plan
    exact linked (planActionApply_empty plan)

/-! ### The loop -/

theorem runLoop_ends (fuel : Nat) (state : LoopState) (valid : state.Valid selected 0) (enough : state.current.keys.length < fuel) :
    Ends selected (call.runLoop selected.keys.length fuel state) := by
  induction fuel generalizing state with
  | zero => omega
  | succ fuel ih =>
    have bound := valid.bound
    have entered := valid.enter
    unfold Call.runLoop
    split
    · omega
    dsimp only
    split
    · exact (entered.bounded (le_refl 1)).finish call (by decide) _
    have planned : state.plans + 1 ≤ (state.attempts ++ [Attempt.mk state.current []]).length := by
      rw [List.length_append]
      exact Nat.succ_le_succ valid.plans
    have passes := entered.runPass call planned
    split
    · rename_i next outcome ended
      rw [ended] at passes
      exact passes.ends outcome rfl
    · rename_i next continued
      rw [continued] at passes
      have shrinks := passes.shrinks rfl
      exact ih next (passes.continues rfl) (by dsimp only at shrinks; omega)

/-- For every selection, every store each planning transaction finds and every answer: the loop
makes at most one pass more than it has streams, fails none of its assertions, never takes up a
dropped stream again, and a ready result partitions the selection. -/
theorem preflight_candidate_loop (selected : Selected) : (call.runSelectedPreflight selected).1.attempts.length ≤ selected.keys.length + 1 ∧
    (call.runSelectedPreflight selected).1.plans ≤ selected.keys.length + 1 ∧
    (∀ fault, (call.runSelectedPreflight selected).2 ≠ .fault fault) ∧
    Ordered (call.runSelectedPreflight selected).1.attempts ∧
    ∀ result, (call.runSelectedPreflight selected).2 = .finished result →
      result.attempts = (call.runSelectedPreflight selected).1.attempts ∧
      (∀ attempt ∈ result.attempts, ∀ stream ∈ attempt.dropped, ¬ result.Admits stream) ∧
      (result.status = .ready → ∃ plan, result.plan = some plan ∧ result.Partitions selected plan) := by
  have ends : Ends selected (call.runSelectedPreflight selected) := by
    unfold Call.runSelectedPreflight
    split
    · exact ((start_valid selected).bounded (Nat.zero_le 1)).finish call (by decide) _
    · exact runLoop_ends call _ _ (start_valid selected) (Nat.lt_succ_self _)
  exact ⟨ends.attempts, ends.plans, ends.faultless, ends.ordered, fun result finished =>
    ⟨ends.recorded result finished, ends.unadmitted result finished, ends.ready result finished⟩⟩

end NsoAdapter.Preflight
