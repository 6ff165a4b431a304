import NsoAdapter.Refresh.EngineInvariant

/-! Mirror rows and their terminal declaration are published together, on every path of the
refresh engine. -/

namespace NsoAdapter.Refresh
open Lib

section Steps

variable {engine after : Engine} {session : Nat} {run : RefreshRun}

/-- A step of one session commits nothing and touches no other refresh. -/
structure Engine.Moves (engine : Engine) (session : Nat) (run : RefreshRun) (after : Engine) :
    Prop where
  others : ∀ other, other ≠ session → after.refreshes other = engine.refreshes other
  keeps : ∃ later, after.refreshes session = some later ∧ (run.raised = true → later.raised = true)

theorem Engine.moves_advance {registry : Registry} {later : RefreshRun} {materialized : ReadFamily → Nat → Option (List Json)}
    (keeps : run.raised = true → later.raised = true) :
    engine.Moves session run { engine.advance session registry later with materialized } where
  others := fun other differs => by simp [Engine.advance, differs]
  keeps := ⟨later, by simp [Engine.advance], keeps⟩

variable {registry later : Registry}

variable {attemptId : Nat} {family : ReadFamily} {stored : Bool}

variable {request : StageRequest} {outcome : ReadOutcome} {rows : List Json} {lost : Bool}

theorem Registry.stage_store (staged : registry.stage session attemptId request = some later) : later.store = registry.store := by
  obtain ⟨_, _, _, _, _, rfl⟩ := Registry.stage_some staged
  rfl

theorem Registry.rollbackNested_store (rolled : registry.rollbackNested session = some later) : later.store = registry.store := by
  obtain ⟨_, _, rfl⟩ := Option.map_eq_some_iff.mp rolled
  rfl

theorem Registry.recordRead_store {sourceEpoch : Option Nat}
    (recorded : registry.recordRead session family outcome sourceEpoch = some later) :
    later.store = registry.store := by
  simp only [Registry.recordRead, Option.ite_none_right_eq_some] at recorded
  obtain ⟨_, ⟨⟩⟩ := recorded
  rfl

theorem Registry.acquireFence_store (acquired : registry.acquireFence session family = some later) : later.store = registry.store := by
  simp only [Registry.acquireFence, Option.ite_none_right_eq_some] at acquired
  obtain ⟨_, ⟨⟩⟩ := acquired
  rfl

theorem Registry.nested_store {nested : Registry} (begun : registry.beginNested session = some nested)
    (wrote : nested.materialize session family rows = some later) :
    later.store = registry.store := by
  simp only [Registry.materialize, Option.ite_none_right_eq_some] at wrote
  obtain ⟨_, ⟨⟩⟩ := wrote
  unfold Registry.beginNested at begun
  dsimp only at begun
  split at begun
  · cases begun
  · cases begun
    rfl

theorem Engine.discard_moves {written : Registry} (discarded : engine.discard session run attemptId written = some after) :
    after.registry.store = written.store ∧ engine.Moves session run after ∧
      ∃ failed, after.refreshes session = some failed ∧ failed.raised = true := by
  obtain ⟨registry, rolled, rfl⟩ := Option.map_eq_some_iff.mp discarded
  exact ⟨Registry.rollbackNested_store rolled, Engine.moves_advance fun _ => rfl, _, Function.update_self .., rfl⟩

theorem Engine.publish_moves {outcome : Materialized} (published : engine.publish session run attemptId outcome lost = some after) :
    after.registry.store = engine.registry.store ∧ engine.Moves session run after := by
  obtain ⟨row, located, published⟩ := Option.bind_eq_some_iff.mp published
  split at published
  · obtain ⟨nested, begun, published⟩ := Option.bind_eq_some_iff.mp published
    cases outcome with
    | raised rows =>
      obtain ⟨written, wrote, discarded⟩ := Option.bind_eq_some_iff.mp published
      obtain ⟨kept, moves, _⟩ := Engine.discard_moves discarded
      exact ⟨kept.trans (Registry.nested_store begun wrote), moves⟩
    | wrote rows rowCount observation =>
      obtain ⟨written, wrote, published⟩ := Option.bind_eq_some_iff.mp published
      have first := Registry.nested_store begun wrote
      unfold Engine.materialize at published
      split at published
      · obtain ⟨kept, moves, _⟩ := Engine.discard_moves published
        exact ⟨kept.trans first, moves⟩
      · rename_i staged stages
        have second := (Registry.stage_store stages).trans first
        split at published
        · obtain ⟨registry, statements, rfl⟩ := Option.map_eq_some_iff.mp published
          obtain ⟨back, rolled, superseding⟩ := Option.bind_eq_some_iff.mp statements
          refine ⟨?_, Engine.moves_advance fun raised => raised⟩
          exact (Registry.stage_store superseding).trans ((Registry.rollbackNested_store rolled).trans second)
        · cases published
          exact ⟨second, Engine.moves_advance fun raised => raised⟩
  · obtain ⟨registry, superseding, rfl⟩ := Option.map_eq_some_iff.mp published
    exact ⟨Registry.stage_store superseding, Engine.moves_advance fun raised => raised⟩

theorem Engine.publish_raised (published : engine.publish session run attemptId (.raised rows) lost = some after) :
    ∃ later, after.refreshes session = some later ∧
      (later.raised = true ∨ later.phase = .superseding attemptId false) := by
  obtain ⟨row, located, published⟩ := Option.bind_eq_some_iff.mp published
  split at published
  · obtain ⟨nested, begun, published⟩ := Option.bind_eq_some_iff.mp published
    obtain ⟨written, wrote, discarded⟩ := Option.bind_eq_some_iff.mp published
    obtain ⟨_, _, failed, at_, raised⟩ := Engine.discard_moves discarded
    exact ⟨failed, at_, .inl raised⟩
  · obtain ⟨registry, superseding, rfl⟩ := Option.map_eq_some_iff.mp published
    exact ⟨_, Function.update_self .., .inr rfl⟩

theorem Engine.reportResult_moves {raises : Bool}
    (reported : engine.reportResult session run attemptId request raises stored = some after) :
    after.registry.store = engine.registry.store ∧ engine.Moves session run after := by
  unfold Engine.reportResult at reported
  split at reported
  · obtain ⟨registry, statements, rfl⟩ := Option.map_eq_some_iff.mp reported
    obtain ⟨fenced, held, staged⟩ := Option.bind_eq_some_iff.mp statements
    exact ⟨(Registry.stage_store staged).trans (Registry.acquireFence_store held), Engine.moves_advance fun raised => raised⟩
  · cases reported
    exact ⟨rfl, Engine.moves_advance fun raised => raised⟩

theorem Engine.report_moves (reported : engine.report session run stored = some after) :
    after.registry.store = engine.registry.store ∧ engine.Moves session run after := by
  unfold Engine.report at reported
  split at reported
  · exact Engine.reportResult_moves reported
  · cases reported
    exact ⟨rfl, Engine.moves_advance fun raised => raised⟩
  · exact Engine.reportResult_moves reported
  · cases reported

theorem Engine.fence_moves {attemptId : Option Nat} {acquired : Bool} (fenced : engine.fence session run attemptId acquired = some after) :
    after.registry.store = engine.registry.store ∧ engine.Moves session run after := by
  unfold Engine.fence at fenced
  split at fenced
  · cases fenced
  · cases fenced
    exact ⟨rfl, Engine.moves_advance fun raised => raised⟩
  · split at fenced
    · obtain ⟨registry, held, rfl⟩ := Option.map_eq_some_iff.mp fenced
      exact ⟨Registry.acquireFence_store held, Engine.moves_advance fun raised => raised⟩
    · cases fenced
      exact ⟨rfl, Engine.moves_advance fun raised => raised⟩

theorem Engine.recover_moves (recovered : engine.recover session run stored = some after) :
    after.registry.store = engine.registry.store ∧ engine.Moves session run after := by
  unfold Engine.recover at recovered
  split at recovered
  · obtain ⟨registry, recorded, rfl⟩ := Option.map_eq_some_iff.mp recovered
    exact ⟨Registry.recordRead_store recorded, Engine.moves_advance fun raised => raised⟩
  · cases recovered
    exact ⟨rfl, Engine.moves_advance fun raised => raised⟩

theorem Engine.start_store {sourceEpoch : Nat} (started : engine.start session family outcome sourceEpoch stored = some after) :
    after.registry.store = engine.registry.store ∧ engine.refreshes session = none ∧
      ∀ other, other ≠ session → after.refreshes other = engine.refreshes other := by
  unfold Engine.start at started
  split at started
  · cases started
  rename_i idle
  split at started
  · obtain ⟨registry, recorded, rfl⟩ := Option.map_eq_some_iff.mp started
    exact ⟨Registry.recordRead_store recorded, idle, fun other differs => by simp [Engine.advance, differs]⟩
  · cases started
    exact ⟨rfl, idle, fun other differs => by simp [Engine.advance, differs]⟩

def Engine.Publishes (engine after : Engine) (event : EngineEvent) : Prop :=
  ∃ session run attemptId, event = .commit session true ∧ engine.refreshes session = some run ∧
    run.phase = .publishing attemptId ∧
    after.refreshes session = some { run with phase := .finished (.published attemptId) }

theorem Engine.Valid.commit_body {durable : Bool} (valid : engine.Valid) (at_ : engine.refreshes session = some run)
    (committed : engine.commit session run durable = some after) :
    engine.Moves session run after ∧ (engine.Publishes after (.commit session durable) ∨
        ∀ family, (engine.registry.store.publication family).SameBody (after.registry.store.publication family)) := by
  unfold Engine.commit at committed
  have bodies : (∀ attemptId, run.phase ≠ .publishing attemptId) → ∀ family, (engine.registry.store.publication family).SameBody
        ((engine.registry.commit session).store.publication family) := by
    intro idle family
    rcases (RefreshRun.Valid.committed valid at_ family).2 with same | ⟨attemptId, phase⟩
    · exact same
    · exact absurd phase (idle attemptId)
  split at committed
  · rename_i attemptId phase
    cases committed
    cases durable with
    | true =>
      refine ⟨Engine.moves_advance fun raised => raised, .inl ?_⟩
      exact ⟨session, run, attemptId, rfl, at_, phase, by simp [Engine.advance]⟩
    | false => exact ⟨Engine.moves_advance fun _ => rfl, .inr fun family => .refl _⟩
  · rename_i attemptId guarded phase
    cases committed
    cases durable with
    | true =>
      refine ⟨Engine.moves_advance fun raised => raised, .inr ?_⟩
      exact bodies (by simp [phase])
    | false =>
      cases guarded with
      | true => exact ⟨Engine.moves_advance fun _ => rfl, .inr fun family => .refl _⟩
      | false => exact ⟨Engine.moves_advance fun raised => raised, .inr fun family => .refl _⟩
  · rename_i attemptId raises phase
    cases committed
    cases durable with
    | true =>
      refine ⟨Engine.moves_advance fun raised => raised, .inr ?_⟩
      exact bodies (by simp [phase])
    | false => exact ⟨Engine.moves_advance fun raised => raised, .inr fun family => .refl _⟩
  · cases committed

def EngineEvent.Rekeys : EngineEvent → Prop
  | .rekey .. => True
  | _ => False

theorem Engine.Valid.step_bodies {event : EngineEvent} (valid : engine.Valid) (stepped : Engine.step event engine = some after) :
    (event.Rekeys ∨ engine.Publishes after event ∨
      ∀ family, (engine.registry.store.publication family).SameBody (after.registry.store.publication family)) ∧
    ∀ session run, engine.refreshes session = some run → run.raised = true →
      ∃ later, after.refreshes session = some later ∧ later.raised = true := by
  have marked : ∀ {session run}, engine.refreshes session = some run →
      engine.Moves session run after → ∀ other found, engine.refreshes other = some found →
        found.raised = true → ∃ later, after.refreshes other = some later ∧ later.raised = true := by
    intro session run at_ moves other found located raised
    by_cases same : other = session
    · subst same
      rw [at_] at located
      cases located
      obtain ⟨later, now, keeps⟩ := moves.keeps
      exact ⟨later, now, keeps raised⟩
    · exact ⟨found, (moves.others other same).trans located, raised⟩
  have unchanged : after.registry.store = engine.registry.store → ∀ family,
      (engine.registry.store.publication family).SameBody (after.registry.store.publication family) := by
    intro same family
    rw [same]
    exact .refl _
  cases event with
  | start session family outcome sourceEpoch stored =>
    obtain ⟨same, idle, others⟩ := Engine.start_store stepped
    refine ⟨.inr (.inr (unchanged same)), fun other found located raised => ?_⟩
    have differs : other ≠ session := by
      rintro rfl
      rw [idle] at located
      cases located
    exact ⟨found, (others other differs).trans located, raised⟩
  | fence session acquired =>
    obtain ⟨run, at_, stepped⟩ := Option.bind_eq_some_iff.mp stepped
    cases phase : run.phase <;> rw [phase] at stepped <;> try cases stepped
    obtain ⟨same, moves⟩ := Engine.fence_moves stepped
    exact ⟨.inr (.inr (unchanged same)), marked at_ moves⟩
  | publish session materialized lost =>
    obtain ⟨run, at_, stepped⟩ := Option.bind_eq_some_iff.mp stepped
    cases phase : run.phase <;> rw [phase] at stepped <;> try cases stepped
    obtain ⟨same, moves⟩ := Engine.publish_moves stepped
    exact ⟨.inr (.inr (unchanged same)), marked at_ moves⟩
  | report session stored =>
    obtain ⟨run, at_, stepped⟩ := Option.bind_eq_some_iff.mp stepped
    obtain ⟨same, moves⟩ := Engine.report_moves stepped
    exact ⟨.inr (.inr (unchanged same)), marked at_ moves⟩
  | recover session stored =>
    obtain ⟨run, at_, stepped⟩ := Option.bind_eq_some_iff.mp stepped
    cases phase : run.phase <;> rw [phase] at stepped <;> try cases stepped
    obtain ⟨same, moves⟩ := Engine.recover_moves stepped
    exact ⟨.inr (.inr (unchanged same)), marked at_ moves⟩
  | commit session durable =>
    obtain ⟨run, at_, stepped⟩ := Option.bind_eq_some_iff.mp stepped
    obtain ⟨moves, body⟩ := valid.commit_body at_ stepped
    exact ⟨.inr body, marked at_ moves⟩
  | rekey nsoInstance nsoDeviceName =>
    obtain ⟨registry, rekeyed, rfl⟩ := Option.map_eq_some_iff.mp stepped
    exact ⟨.inl trivial, fun session run at_ raised => ⟨run, at_, raised⟩⟩

/-- In every committed state a family's mirror rows are those materialized for the attempt its
payload names. Only the commit that ends a refresh as published, and a re-key, change them. A
materializer that raised makes its refresh end by raising, with a terminal attempt recorded unless
that failed. -/
theorem atomic_mirror_publication : (∀ engine, engineSystem.Reachable engine → ∀ family,
      match (engine.registry.store.publication family).payload with
      | none => (engine.registry.store.publication family).mirror = []
      | some attemptId => engine.materialized family attemptId = some (engine.registry.store.publication family).mirror) ∧
    (∀ before after event, engineSystem.Reachable before → engineSystem.step event before = some after →
      event.Rekeys ∨ before.Publishes after event ∨
        ∀ family, (after.registry.store.publication family).mirror = (before.registry.store.publication family).mirror ∧
          (after.registry.store.publication family).observations = (before.registry.store.publication family).observations) ∧
    (∀ before after session run attemptId rows lost, engineSystem.Reachable before →
      before.refreshes session = some run → run.phase = .fenced attemptId →
      engineSystem.step (.publish session (.raised rows) lost) before = some after →
      ∃ later, after.refreshes session = some later ∧
        (later.raised = true ∨ later.phase = .superseding attemptId false)) ∧
    (∀ before after event session run, engineSystem.Reachable before →
      engineSystem.step event before = some after → before.refreshes session = some run →
      run.raised = true → ∃ later, after.refreshes session = some later ∧ later.raised = true) ∧
    (∀ engine session run refreshEnd, engineSystem.Reachable engine →
      engine.refreshes session = some run → run.raised = true →
      run.phase = .finished refreshEnd → ∃ recording, refreshEnd = .raised recording ∧
        ∀ attemptId, recording = .terminal attemptId →
          ∃ row, engine.registry.store.attempts attemptId = some row ∧ row.result ≠ none) := by
  refine ⟨?_, ?_, ?_, ?_, ?_⟩
  · intro engine reached family
    exact (engine_valid_of_reachable reached).mirror family
  · intro before after event reached stepped
    refine (engine_valid_of_reachable reached).step_bodies stepped |>.1.imp_right ?_
    exact fun body => body.imp_right fun same family => ⟨(same family).1, (same family).2.1⟩
  · intro before after session run attemptId rows lost reached at_ fenced stepped
    obtain ⟨found, located, published⟩ := Option.bind_eq_some_iff.mp stepped
    rw [at_] at located
    cases located
    rw [fenced] at published
    exact Engine.publish_raised published
  · intro before after event session run reached stepped at_ raised
    exact ((engine_valid_of_reachable reached).step_bodies stepped).2 session run at_ raised
  · intro engine session run refreshEnd reached at_ raised finished
    have own := (engine_valid_of_reachable reached).refreshes session run at_
    have raising := own.raising raised
    rw [finished] at raising
    cases refreshEnd with
    | raised recording =>
      refine ⟨recording, rfl, fun attemptId terminal => own.ended attemptId ?_⟩
      rw [finished, terminal]
    | published | superseded | kept => exact raising.elim

/-- A read is published, then the materializer of a second one raises after it wrote a row. -/
def failingSecondRead : List EngineEvent :=
  [.start 10 .vlan (.present .null) 1 true, .fence 10 true,
    .publish 10 (.wrote [.num 7] (some 1) (some ⟨.vlan, .null, .null⟩)) false, .commit 10 true,
    .start 11 .vlan (.present .null) 1 true, .fence 11 true, .publish 11 (.raised [.num 9]) false,
    .report 11 true, .commit 11 true]

theorem atomic_mirror_publication_failing_second_read :
    ∃ engine, engineSystem.trace failingSecondRead (.fresh ("nso", "r1")) = some engine ∧
      (engine.registry.store.publication .vlan).pointer = some ⟨2, some 1⟩ ∧
      engine.materialized .vlan 1 = some (engine.registry.store.publication .vlan).mirror := by
  have found : (engineSystem.trace failingSecondRead (.fresh ("nso", "r1"))).any (fun engine =>
      (engine.registry.store.publication .vlan).pointer == some ⟨2, some 1⟩) = true := by
    decide +kernel
  obtain ⟨engine, traced, pointed⟩ := (Option.any_eq_true _ _).mp found
  have starts : engineSystem.Reachable (.fresh ("nso", "r1")) := .initial ⟨("nso", "r1"), rfl⟩
  have shown := atomic_mirror_publication.1 engine (starts.trace traced) .vlan
  have pointer := beq_iff_eq.mp pointed
  have payload : (engine.registry.store.publication .vlan).payload = some 1 := by
    simp [Publication.payload, pointer]
  rw [payload] at shown
  exact ⟨engine, traced, pointer, shown⟩

end Steps

end NsoAdapter.Refresh
