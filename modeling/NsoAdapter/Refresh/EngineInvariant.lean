import NsoAdapter.Refresh.Engine
import NsoAdapter.Refresh.PublicationHistory

/-! The invariant of the refresh engine: what each phase of a refresh has staged, and that the
mirror rows are those of the published attempt. -/

namespace NsoAdapter.Refresh
open Lib

/-! ### What a transaction shows of the mirrors -/

def Publication.SameBody (before after : Publication) : Prop :=
  after.mirror = before.mirror ∧ after.observations = before.observations ∧
    after.payload = before.payload

theorem Publication.SameBody.refl (publication : Publication) : publication.SameBody publication := ⟨rfl, rfl, rfl⟩

theorem Publication.SameBody.trans {first second third : Publication} (left : first.SameBody second)
    (right : second.SameBody third) : first.SameBody third :=
  ⟨right.1.trans left.1, right.2.1.trans left.2.1, right.2.2.trans left.2.2⟩

/-- The transaction has published no body. -/
def Writes.Quiet (store : OutcomeStore) (writes : Writes) : Prop :=
  ∀ family publication, writes.staged family = some publication →
    (store.publication family).SameBody publication

/-- The mirror rows are those materialized for the attempt that the payload names. -/
def Publication.Matches (materialized : Nat → Option (List Json)) (publication : Publication) : Prop :=
  match publication.payload with
  | none => publication.mirror = []
  | some attemptId => materialized attemptId = some publication.mirror

theorem Publication.Matches.sameBody {materialized : Nat → Option (List Json)}
    {before after : Publication} (matched : before.Matches materialized)
    (same : before.SameBody after) : after.Matches materialized := by
  obtain ⟨mirror, _, payload⟩ := same
  unfold Publication.Matches at matched ⊢
  rw [payload, mirror]
  exact matched

section Writes

variable {store : OutcomeStore} {writes : Writes} {holding otherHolding : ReadFamily → Prop}
  {bound : Nat}

theorem Writes.Quiet.nothing : Writes.nothing.Quiet store := by
  simp [Writes.Quiet, Writes.nothing]

theorem Writes.Quiet.view (quiet : writes.Quiet store) (family : ReadFamily) :
    (store.publication family).SameBody (store.view writes family) := by
  unfold OutcomeStore.view
  cases staged : writes.staged family with
  | none => exact .refl _
  | some publication => exact quiet family publication staged

variable {publication : Publication} {row : RefreshOutcome} {staged : StagedResult}

theorem stageResult_sameBody {epoch : Nat} {request : StageRequest} (withheld : request.publishes = false)
    (run : stageResult epoch publication row request = .ok staged) :
    publication.SameBody staged.publication := by
  rcases stageResult_cases run with ⟨_, rfl⟩ | ⟨_, _, _, mirror, _, wrote⟩ | ⟨_, _, _, same, _⟩
  · exact .refl _
  · rcases wrote with ⟨publishes, _⟩ | ⟨_, advanced, observations⟩
    · rw [withheld] at publishes
      cases publishes
    · exact ⟨mirror, observations, by simp [Publication.payload, advanced]⟩
  · rw [same]
    exact .refl _

theorem Writes.Quiet.stage {request : StageRequest} (quiet : writes.Quiet store) (withheld : request.publishes = false)
    (run : stageResult store.epoch (store.view writes row.family) row request = .ok staged) :
    (writes.stage staged request).Quiet store := by
  intro family publication at_
  rcases Writes.stage_staged_cases at_ with ⟨rfl, rfl⟩ | ⟨_, before⟩
  · rw [(stageResult_row run).2.1]
    exact (quiet.view row.family).trans (stageResult_sameBody withheld run)
  · exact quiet family publication before

theorem Writes.Sound.apply_publication {other : Writes}
    (sound : other.Sound store bound otherHolding) (committed : writes.Sound store bound holding)
    (families : ∀ family, holding family → ¬ otherHolding family) {family : ReadFamily}
    (staged : other.staged family = some publication) :
    (store.apply writes).publication family = store.publication family := by
  have free : writes.staged family = none := by
    cases wrote : writes.staged family with
    | none => rfl
    | some _ =>
      exact absurd (sound.fenced family publication staged) (families family (committed.fenced family _ wrote))
  simp [OutcomeStore.apply, OutcomeStore.view, free]

theorem Writes.Sound.apply_terminal (committed : writes.Sound store bound holding) {id : Nat}
    (terminal : ∃ row, store.attempts id = some row ∧ row.result ≠ none) :
    ∃ row, (store.apply writes).attempts id = some row ∧ row.result ≠ none := by
  obtain ⟨row, located, finished⟩ := terminal
  cases own : writes.attempts id with
  | none => exact ⟨row, by simp [OutcomeStore.apply, OutcomeStore.seen, own, located], finished⟩
  | some written =>
    refine ⟨written, by simp [OutcomeStore.apply, OutcomeStore.seen, own], fun fresh => ?_⟩
    rw [committed.inserted id written own fresh] at located
    cases located

end Writes

/-! ### The invariant of a refresh -/

/-- Phases in which an exception of the guarded span is on its way to the caller. -/
def Phase.Raising : Phase → Prop
  | .failing _ | .recovering | .reporting _ true | .finished (.raised _) => True
  | _ => False

structure RefreshRun.Valid (store : OutcomeStore) (writes : Writes)
    (materialized : ReadFamily → Nat → Option (List Json)) (run : RefreshRun) : Prop where
  attempted : ∀ attemptId, run.phase = .recorded (some attemptId) ∨ run.phase = .fenced attemptId →
    ∃ row, writes.attempts attemptId = some row ∧ row.family = run.family
  quiet : (∀ attemptId, run.phase ≠ .publishing attemptId) → writes.Quiet store
  publishing : ∀ attemptId, run.phase = .publishing attemptId →
    ∀ family publication, writes.staged family = some publication →
      (store.publication family).SameBody publication ∨
        family = run.family ∧ publication.payload = some attemptId ∧
          materialized run.family attemptId = some publication.mirror
  reporting : ∀ attemptId raises, run.phase = .reporting attemptId raises →
    ∃ row, store.seen writes attemptId = some row ∧ row.result ≠ none
  ended : ∀ attemptId, run.phase = .finished (.raised (.terminal attemptId)) →
    ∃ row, store.attempts attemptId = some row ∧ row.result ≠ none
  raising : run.raised = true → run.phase.Raising

structure Engine.Valid (engine : Engine) : Prop where
  registry : engine.registry.Sound
  mirror : ∀ family,
    (engine.registry.store.publication family).Matches (engine.materialized family)
  idle : ∀ session, engine.refreshes session = none → engine.registry.transactions session = none
  refreshes : ∀ session run, engine.refreshes session = some run →
    run.Valid engine.registry.store (engine.registry.transaction session).writes
      engine.materialized

/-- Statements of one session: nothing is committed, and the other transactions stay. -/
structure Registry.Local (session : Nat) (before after : Registry) : Prop where
  sound : after.Sound
  store : after.store = before.store
  others : ∀ other, other ≠ session → after.transactions other = before.transactions other

section Local

variable {registry after : Registry} {session : Nat}

theorem Registry.Local.trans {middle : Registry} (first : Registry.Local session registry middle)
    (second : Registry.Local session middle after) : Registry.Local session registry after where
  sound := second.sound
  store := second.store.trans first.store
  others := fun other differs => (second.others other differs).trans (first.others other differs)

theorem Registry.transaction_put (opened : Transaction) : (registry.put session opened).transaction session = opened := by
  simp [Registry.transaction, Registry.put]

theorem Registry.put_others (opened : Transaction) (other : Nat) (differs : other ≠ session) :
    (registry.put session opened).transactions other = registry.transactions other := by
  simp [Registry.put, differs]

variable {attemptId : Nat} {request : StageRequest}

theorem Registry.stage_local (sound : registry.Sound) (staged : registry.stage session attemptId request = some after) :
    Registry.Local session registry after := by
  have kept := sound.stage staged
  obtain ⟨_, _, _, _, _, rfl⟩ := Registry.stage_some staged
  exact ⟨kept, rfl, Registry.put_others _⟩

theorem Registry.stage_terminal (sound : registry.Sound) (staged : registry.stage session attemptId request = some after) :
    ∃ row, after.store.seen (after.transaction session).writes attemptId = some row ∧ row.result ≠ none := by
  obtain ⟨row, result, located, _, run, rfl⟩ := Registry.stage_some staged
  obtain ⟨sameId, _, _, terminal⟩ := stageResult_row run
  obtain ⟨named, _⟩ := (sound.transaction session).writes.seen_numbered sound.store located
  rw [Registry.transaction_put]
  refine ⟨result.row, ?_, terminal⟩
  rw [← named, ← sameId]
  exact Writes.stage_seen_self

theorem Registry.stage_quiet (quiet : (registry.transaction session).writes.Quiet registry.store) (withheld : request.publishes = false)
    (staged : registry.stage session attemptId request = some after) :
    (after.transaction session).writes.Quiet after.store := by
  obtain ⟨row, result, _, _, run, rfl⟩ := Registry.stage_some staged
  rw [Registry.transaction_put]
  exact quiet.stage withheld run

section

variable (sound : registry.Sound)

include sound

theorem Registry.acquireFence_local {family : ReadFamily} (acquired : registry.acquireFence session family = some after) :
    Registry.Local session registry after ∧ after.transaction session = registry.transaction session := by
  have kept := sound.acquireFence acquired
  unfold Registry.acquireFence at acquired
  split at acquired
  · cases acquired
    exact ⟨⟨kept, rfl, Registry.put_others _⟩, Registry.transaction_put _⟩
  · cases acquired

theorem Registry.recordRead_local {family : ReadFamily} {outcome : ReadOutcome} {sourceEpoch : Option Nat}
    (recorded : registry.recordRead session family outcome sourceEpoch = some after) :
    Registry.Local session registry after ∧
      (after.transaction session).writes.staged = (registry.transaction session).writes.staged ∧
      ∃ row, (after.transaction session).writes.attempts registry.nextAttempt = some row ∧ row.family = family := by
  have kept := sound.recordRead recorded
  unfold Registry.recordRead at recorded
  dsimp only at recorded
  split at recorded
  · cases recorded
    refine ⟨⟨kept, rfl, Registry.put_others _⟩, ?_, ?_⟩
    · simp [Registry.transaction, Registry.put]
    · refine ⟨recordReadOutcome registry.nextAttempt family outcome (sourceEpoch.getD registry.store.epoch), ?_, rfl⟩
      simp [Registry.transaction, Registry.put, Writes.insert, recordReadOutcome]
  · cases recorded

theorem Registry.close_local (session : Nat) : Registry.Local session registry (registry.close session) ∧
      (registry.close session).transaction session = .begun := by
  refine ⟨⟨sound.close, rfl, fun other differs => ?_⟩, ?_⟩
  · rw [Registry.transactions_close, if_neg differs]
  · simp [Registry.transaction, Registry.close]

theorem Registry.nested_local {nested written : Registry} {family : ReadFamily} {rows : List Json}
    (begun : registry.beginNested session = some nested)
    (wrote : nested.materialize session family rows = some written) :
    Registry.Local session registry written ∧
      (written.transaction session).writes = (registry.transaction session).writes.putPublication family
          { registry.store.view (registry.transaction session).writes family with mirror := rows } ∧
      ∃ saved, (written.transaction session).savepoint = some saved ∧
        saved.writes = (registry.transaction session).writes := by
  have keptNested := sound.beginNested begun
  have keptWritten := keptNested.materialize wrote
  unfold Registry.beginNested at begun
  dsimp only at begun
  split at begun
  · cases begun
  cases begun
  unfold Registry.materialize at wrote
  split at wrote
  · cases wrote
    refine ⟨⟨keptWritten, rfl, fun other differs => ?_⟩, ?_, ?_⟩
    · rw [Registry.put_others _ other differs, Registry.put_others _ other differs]
    · rw [Registry.transaction_put, Registry.transaction_put]
      rfl
    · rw [Registry.transaction_put, Registry.transaction_put]
      exact ⟨_, rfl, rfl⟩
  · cases wrote

theorem Registry.rollbackNested_local (rolled : registry.rollbackNested session = some after) : Registry.Local session registry after ∧
      ∃ saved, (registry.transaction session).savepoint = some saved ∧
        (after.transaction session).writes = saved.writes := by
  have kept := sound.rollbackNested rolled
  obtain ⟨saved, at_, rfl⟩ := Option.map_eq_some_iff.mp rolled
  refine ⟨⟨kept, rfl, Registry.put_others _⟩, saved, at_, ?_⟩
  have own : (registry.put session ⟨saved.writes, none⟩).transaction session = ⟨saved.writes, none⟩ := Registry.transaction_put _
  exact congrArg Transaction.writes own

end

theorem Registry.stage_savepoint (staged : registry.stage session attemptId request = some after) :
    (after.transaction session).savepoint = (registry.transaction session).savepoint := by
  obtain ⟨_, _, _, _, _, rfl⟩ := Registry.stage_some staged
  rw [Registry.transaction_put]

theorem Registry.Local.transaction (here : Registry.Local session registry after) {other : Nat}
    (differs : other ≠ session) : after.transaction other = registry.transaction other := by
  unfold Registry.transaction
  rw [here.others other differs]

end Local

section Runs

variable {store : OutcomeStore} {writes : Writes} {run : RefreshRun}
  {materialized : ReadFamily → Nat → Option (List Json)}

theorem Writes.Quiet.congr {other : Writes} (quiet : writes.Quiet store) (same : other.staged = writes.staged) : other.Quiet store := by
  intro family publication staged
  rw [same] at staged
  exact quiet family publication staged

theorem RefreshRun.Valid.ofQuiet (quiet : writes.Quiet store) (attempted : ∀ attemptId,
      run.phase = .recorded (some attemptId) ∨ run.phase = .fenced attemptId →
        ∃ row, writes.attempts attemptId = some row ∧ row.family = run.family)
    (reporting : ∀ attemptId raises, run.phase = .reporting attemptId raises →
      ∃ row, store.seen writes attemptId = some row ∧ row.result ≠ none)
    (ended : ∀ attemptId, run.phase = .finished (.raised (.terminal attemptId)) →
      ∃ row, store.attempts attemptId = some row ∧ row.result ≠ none)
    (raising : run.raised = true → run.phase.Raising) :
    run.Valid store writes materialized where
  attempted := attempted
  quiet := fun _ => quiet
  publishing := fun _ _ family publication staged => .inl (quiet family publication staged)
  reporting := reporting
  ended := ended
  raising := raising

theorem RefreshRun.Valid.applyOther {bound : Nat} {committed : Writes}
    {holding otherHolding : ReadFamily → Prop} (valid : run.Valid store writes materialized)
    (sound : writes.Sound store bound otherHolding) (commits : committed.Sound store bound holding)
    (families : ∀ family, holding family → ¬ otherHolding family) :
    run.Valid (store.apply committed) writes materialized := by
  refine ⟨valid.attempted, fun idle family publication staged => ?_, fun attemptId publishing family
    publication staged => ?_, fun attemptId raises reporting => ?_, fun attemptId ended => ?_,
    valid.raising⟩
  · rw [sound.apply_publication commits families staged]
    exact valid.quiet idle family publication staged
  · rw [sound.apply_publication commits families staged]
    exact valid.publishing attemptId publishing family publication staged
  · obtain ⟨row, located, terminal⟩ := valid.reporting attemptId raises reporting
    rcases Option.or_eq_some_iff.mp located with own | ⟨unwritten, stored⟩
    · exact ⟨row, by simp [OutcomeStore.seen, own], terminal⟩
    · obtain ⟨later, locatedLater, terminalLater⟩ := commits.apply_terminal ⟨row, stored, terminal⟩
      refine ⟨later, ?_, terminalLater⟩
      unfold OutcomeStore.seen
      rw [unwritten, Option.none_or]
      exact locatedLater
  · exact commits.apply_terminal (valid.ended attemptId ended)

end Runs

section Steps

variable {engine after : Engine} {session : Nat} {run : RefreshRun}

theorem Engine.Valid.advance (valid : engine.Valid) {registry : Registry} {materialized : ReadFamily → Nat → Option (List Json)}
    (here : Registry.Local session engine.registry registry)
    (own : run.Valid engine.registry.store (registry.transaction session).writes materialized)
    (others : ∀ other found, other ≠ session → engine.refreshes other = some found →
      found.Valid engine.registry.store (engine.registry.transaction other).writes materialized)
    (mirror : ∀ family, (engine.registry.store.publication family).Matches (materialized family)) :
    { engine.advance session registry run with materialized }.Valid := by
  refine ⟨here.sound, fun family => ?_, fun other idle => ?_, fun other found at_ => ?_⟩
  · show (registry.store.publication family).Matches (materialized family)
    rw [here.store]
    exact mirror family
  · have differs : other ≠ session := by
      rintro rfl
      simp [Engine.advance] at idle
    have before : engine.refreshes other = none := by
      simpa [Engine.advance, differs] using idle
    exact (here.others other differs).trans (valid.idle other before)
  · show found.Valid registry.store (registry.transaction other).writes materialized
    rw [here.store]
    by_cases same : other = session
    · subst same
      obtain rfl : run = found := by simpa [Engine.advance] using at_
      exact own
    · rw [here.transaction same]
      refine others other found same ?_
      simpa [Engine.advance, same] using at_

theorem Engine.Valid.advanceQuiet (valid : engine.Valid) {registry : Registry} (here : Registry.Local session engine.registry registry)
    (own : run.Valid engine.registry.store (registry.transaction session).writes engine.materialized) :
    (engine.advance session registry run).Valid :=
  valid.advance here own (fun other found _ at_ => valid.refreshes other found at_) valid.mirror

theorem Engine.Valid.abandon (valid : engine.Valid) {finish : RefreshEnd} (unrecorded : ∀ attemptId, finish ≠ .raised (.terminal attemptId))
    (raising : run.raised = true → (Phase.finished finish).Raising) :
    (engine.abandon session run finish).Valid := by
  obtain ⟨here, begun⟩ := Registry.close_local valid.registry session
  refine valid.advanceQuiet here (.ofQuiet ?_ (by simp) (by simp) (fun attemptId ended => ?_) raising)
  · rw [begun]
    exact .nothing
  · exact absurd (Phase.finished.inj ended) (unrecorded attemptId)

theorem Engine.Valid.begun (valid : engine.Valid) (idle : engine.refreshes session = none) :
    engine.registry.transaction session = .begun := by
  unfold Registry.transaction
  rw [valid.idle session idle]
  rfl

variable {stored : Bool} {attemptId : Nat}

section

variable (valid : engine.Valid)

include valid

theorem Engine.Valid.start {family : ReadFamily} {outcome : ReadOutcome} {sourceEpoch : Nat}
    (started : engine.start session family outcome sourceEpoch stored = some after) :
    after.Valid := by
  unfold Engine.start at started
  split at started
  · cases started
  rename_i idle
  have begun := valid.begun idle
  split at started
  · obtain ⟨registry, recorded, rfl⟩ := Option.map_eq_some_iff.mp started
    obtain ⟨here, same, row, located, inFamily⟩ := Registry.recordRead_local valid.registry recorded
    refine valid.advanceQuiet here (.ofQuiet (Writes.Quiet.nothing.congr ?_) (fun attemptId phase => ?_) (by simp) (by simp) (by simp))
    · rw [same, begun]
      rfl
    · obtain rfl : engine.registry.nextAttempt = attemptId := by simpa using phase
      exact ⟨row, located, inFamily⟩
  · cases started
    obtain ⟨here, closed⟩ := Registry.close_local valid.registry session
    refine valid.advanceQuiet here (.ofQuiet ?_ (by simp) (by simp) (by simp) (by simp))
    rw [closed]
    exact .nothing

theorem Engine.Valid.fence {attemptId : Option Nat} {acquired : Bool}
    (at_ : engine.refreshes session = some run) (recorded : run.phase = .recorded attemptId)
    (fenced : engine.fence session run attemptId acquired = some after) : after.Valid := by
  have own := valid.refreshes session run at_
  unfold Engine.fence at fenced
  split at fenced
  · cases fenced
  · cases fenced
    exact valid.abandon (by simp) fun _ => trivial
  · split at fenced
    · obtain ⟨registry, held, rfl⟩ := Option.map_eq_some_iff.mp fenced
      obtain ⟨here, same⟩ := Registry.acquireFence_local valid.registry held
      refine valid.advanceQuiet here (.ofQuiet ?_ (fun found phase => ?_) (by simp) (by simp) fun raised => ?_)
      · rw [same]
        exact own.quiet (by simp [recorded])
      · rw [same]
        refine own.attempted found (.inl ?_)
        rw [recorded]
        simpa using phase
      · have raising := own.raising raised
        rw [recorded] at raising
        exact raising.elim
    · cases fenced
      exact valid.abandon (by simp) fun _ => trivial

theorem Engine.Valid.reportResult {request : StageRequest} {raises : Bool}
    (quiet : (engine.registry.transaction session).writes.Quiet engine.registry.store) (withheld : request.publishes = false)
    (raising : run.raised = true → raises = true)
    (reported : engine.reportResult session run attemptId request raises stored = some after) :
    after.Valid := by
  unfold Engine.reportResult at reported
  split at reported
  · obtain ⟨registry, statements, rfl⟩ := Option.map_eq_some_iff.mp reported
    obtain ⟨fenced, held, staged⟩ := Option.bind_eq_some_iff.mp statements
    obtain ⟨first, same⟩ := Registry.acquireFence_local valid.registry held
    have second := Registry.stage_local first.sound staged
    have here := first.trans second
    refine valid.advanceQuiet here (.ofQuiet ?_ (by simp) (fun reportedId raised phase => ?_) (by simp) fun raised => ?_)
    · rw [← here.store]
      refine Registry.stage_quiet ?_ withheld staged
      rw [same, first.store]
      exact quiet
    · cases phase
      rw [← here.store]
      exact Registry.stage_terminal first.sound staged
    · rw [raising raised]
      trivial
  · cases reported
    refine valid.abandon ?_ fun raised => ?_
    · cases raises <;> simp [RefreshEnd.reported]
    · rw [raising raised]
      trivial

theorem Engine.Valid.report (at_ : engine.refreshes session = some run)
    (reported : engine.report session run stored = some after) : after.Valid := by
  have own := valid.refreshes session run at_
  unfold Engine.report at reported
  split at reported
  · rename_i attemptId phase
    exact valid.reportResult (own.quiet (by simp [phase])) rfl (fun _ => rfl) reported
  · rename_i phase _
    cases reported
    refine valid.abandon (by simp) fun raised => ?_
    have raising := own.raising raised
    rw [phase] at raising
    exact raising.elim
  · rename_i phase _
    refine valid.reportResult (own.quiet (by simp [phase])) rfl (fun raised => ?_) reported
    have raising := own.raising raised
    rw [phase] at raising
    exact raising.elim
  · cases reported

theorem Engine.Valid.recover (at_ : engine.refreshes session = some run) (recovering : run.phase = .recovering)
    (recovered : engine.recover session run stored = some after) : after.Valid := by
  have own := valid.refreshes session run at_
  unfold Engine.recover at recovered
  split at recovered
  · obtain ⟨registry, recorded, rfl⟩ := Option.map_eq_some_iff.mp recovered
    obtain ⟨here, same, _⟩ := Registry.recordRead_local valid.registry recorded
    exact valid.advanceQuiet here (.ofQuiet ((own.quiet (by simp [recovering])).congr same) (by simp) (by simp) (by simp) fun _ => trivial)
  · cases recovered
    exact valid.abandon (by simp) fun _ => trivial

theorem Engine.Valid.discard {written : Registry} (quiet : (engine.registry.transaction session).writes.Quiet engine.registry.store)
    (here : Registry.Local session engine.registry written)
    (saves : ∃ saved, (written.transaction session).savepoint = some saved ∧
      saved.writes = (engine.registry.transaction session).writes)
    (discarded : engine.discard session run attemptId written = some after) : after.Valid := by
  obtain ⟨registry, rolled, rfl⟩ := Option.map_eq_some_iff.mp discarded
  obtain ⟨back, saved, savedAt, restored⟩ := Registry.rollbackNested_local here.sound rolled
  obtain ⟨kept, keptAt, same⟩ := saves
  rw [keptAt] at savedAt
  cases savedAt
  refine valid.advanceQuiet (here.trans back) (.ofQuiet ?_ (by simp) (by simp) (by simp) fun _ => trivial)
  rw [restored, same]
  exact quiet

end

theorem Registry.stage_selected {registry staged : Registry} {request : StageRequest}
    (sound : registry.Sound) (publishes : request.publishes = true)
    (run : registry.stage session attemptId request = some staged)
    (selected : registry.selects session attemptId request = true) :
    ∃ row publication, registry.store.seen (registry.transaction session).writes attemptId = some row ∧
      (staged.transaction session).writes.staged =
        Function.update (registry.transaction session).writes.staged row.family (some publication) ∧
      publication.payload = some attemptId ∧
      publication.mirror = (registry.store.view (registry.transaction session).writes row.family).mirror ∧
      registry.fence row.family = some session ∧
      ∀ payload, (registry.store.publication row.family).payload = some payload → payload < attemptId := by
  obtain ⟨row, result, located, held, made, rfl⟩ := Registry.stage_some run
  have valid := (sound.transaction session).writes
  obtain ⟨named, _⟩ := valid.seen_numbered sound.store located
  obtain ⟨viewed, extends_⟩ := valid.view sound.store row.family
  have chosen : result.selected = true := by
    simpa [Registry.selects, located, made, Except.toOption] using selected
  obtain ⟨_, sameFamily, _, _⟩ := stageResult_row made
  refine ⟨row, result.publication, located, ?_, ?_⟩
  · rw [Registry.transaction_put, ← sameFamily]
    rfl
  rcases stageResult_cases made with ⟨_, rfl⟩ | ⟨_, _, _, mirror, newer, wrote⟩ | ⟨_, _, unselected, _⟩
  · cases chosen
  · rcases wrote with ⟨_, advanced, _⟩ | ⟨withheld, _⟩
    · refine ⟨by simp [Publication.payload, advanced, named], mirror, held, fun payload has => ?_⟩
      obtain ⟨pointer, pointed, revision⟩ := Publication.payload_eq_some.mp has
      obtain ⟨later, pointedLater, _, payloads⟩ := extends_ pointer pointed
      obtain ⟨newest, hasNewest, le⟩ := payloads payload revision
      have bound := viewed.revision later newest pointedLater hasNewest
      have lt := newer later pointedLater
      omega
    · rw [publishes] at withheld
      cases withheld
  · rw [unselected] at chosen
    cases chosen

section

variable (valid : engine.Valid)

include valid

theorem Engine.Valid.materialized {registry : Registry} {rows : List Json} (here : Registry.Local session engine.registry registry)
    (held : registry.fence run.family = some session)
    (newer : ∀ payload, (engine.registry.store.publication run.family).payload = some payload →
      payload < attemptId) (own : ∀ family publication,
      (registry.transaction session).writes.staged family = some publication →
        (engine.registry.store.publication family).SameBody publication ∨
          family = run.family ∧ publication.payload = some attemptId ∧ publication.mirror = rows)
    (quiet : run.raised = false) :
    { engine.advance session registry { run with phase := .publishing attemptId } with
      materialized := Function.update engine.materialized run.family
        (Function.update (engine.materialized run.family) attemptId (some rows)) }.Valid := by
  refine valid.advance here ⟨by simp, fun idle => absurd rfl (idle attemptId), fun published phase
    family publication staged => ?_, by simp, by simp, by simp [quiet]⟩
    (fun other found differs at_ => ?_) fun family => ?_
  · cases phase
    rcases own family publication staged with same | ⟨isOwn, payload, mirror⟩
    · exact .inl same
    · exact .inr ⟨isOwn, payload, by simp [mirror]⟩
  · have before := valid.refreshes other found at_
    refine ⟨before.attempted, before.quiet, fun published phase family publication staged => ?_,
      before.reporting, before.ended, before.raising⟩
    rcases before.publishing published phase family publication staged with same | ⟨isOwn, payload, mirror⟩
    · exact .inl same
    refine .inr ⟨isOwn, payload, ?_⟩
    -- the two publishing sessions hold different fences
    have apart : found.family ≠ run.family := by
      intro same
      have stagedNow : (registry.transaction other).writes.staged family = some publication := by
        rw [here.transaction differs]
        exact staged
      have theirs := (here.sound.transaction other).writes.fenced family publication stagedNow
      rw [isOwn, same] at theirs
      rw [held] at theirs
      exact differs (Option.some.inj theirs).symm
    simpa [apart] using mirror
  · by_cases same : family = run.family
    · rw [same]
      have matched := valid.mirror run.family
      unfold Publication.Matches at matched ⊢
      cases has : (engine.registry.store.publication run.family).payload with
      | none =>
        rw [has] at matched
        exact matched
      | some payload =>
        rw [has] at matched
        have other : payload ≠ attemptId := Nat.ne_of_lt (newer payload has)
        simpa [other] using matched
    · simpa [same] using valid.mirror family

theorem Engine.Valid.publish {outcome : Materialized} {lost : Bool}
    (at_ : engine.refreshes session = some run) (fenced : run.phase = .fenced attemptId)
    (published : engine.publish session run attemptId outcome lost = some after) : after.Valid := by
  have own := valid.refreshes session run at_
  have quiet := own.quiet (by simp [fenced])
  have calm : run.raised = false := by
    cases raised : run.raised with
    | false => rfl
    | true =>
      have raising := own.raising raised
      rw [fenced] at raising
      exact raising.elim
  obtain ⟨row, located, published⟩ := Option.bind_eq_some_iff.mp published
  split at published
  · obtain ⟨nested, begun, published⟩ := Option.bind_eq_some_iff.mp published
    cases outcome with
    | raised rows =>
      obtain ⟨written, wrote, discarded⟩ := Option.bind_eq_some_iff.mp published
      obtain ⟨here, _, saves⟩ := Registry.nested_local valid.registry begun wrote
      exact valid.discard quiet here saves discarded
    | wrote rows rowCount observation =>
      obtain ⟨written, wrote, published⟩ := Option.bind_eq_some_iff.mp published
      obtain ⟨here, stagedRows, saves⟩ := Registry.nested_local valid.registry begun wrote
      unfold Engine.materialize at published
      split at published
      · exact valid.discard quiet here saves published
      rename_i staged run_
      have local_ := here.trans (Registry.stage_local here.sound run_)
      split at published
      · obtain ⟨registry, statements, rfl⟩ := Option.map_eq_some_iff.mp published
        obtain ⟨back, rolled, superseding⟩ := Option.bind_eq_some_iff.mp statements
        obtain ⟨undone, saved, savedAt, restored⟩ := Registry.rollbackNested_local local_.sound rolled
        obtain ⟨kept, keptAt, same⟩ := saves
        rw [Registry.stage_savepoint run_, keptAt] at savedAt
        cases savedAt
        have last := Registry.stage_local undone.sound superseding
        have all := (local_.trans undone).trans last
        refine valid.advanceQuiet all (.ofQuiet ?_ (by simp) (by simp) (by simp) (by simp [calm]))
        rw [← all.store]
        refine Registry.stage_quiet ?_ rfl superseding
        rw [restored, same, (local_.trans undone).store]
        exact quiet
      · rename_i selected
        cases published
        have chosen : written.selects session attemptId ⟨run.outcome.publishedResult, true, rowCount, some true, observation⟩ = true := by
          simp only [Bool.or_eq_true, Bool.not_eq_true', not_or, Bool.not_eq_false] at selected
          exact selected.2
        obtain ⟨found, publication, seen, stagedNow, payload, mirror, held, newer⟩ := Registry.stage_selected here.sound rfl run_ chosen
        obtain ⟨first, firstAt, inFamily⟩ := own.attempted attemptId (.inr fenced)
        have isFirst : first = found := by
          rw [stagedRows] at seen
          simpa [OutcomeStore.seen, firstAt] using seen
        subst isFirst
        rw [inFamily] at stagedNow mirror held newer
        refine valid.materialized local_ ?_ ?_ (fun family shown staged_ => ?_) calm
        · obtain ⟨_, _, _, _, _, rfl⟩ := Registry.stage_some run_
          exact held
        · rw [← here.store]
          exact newer
        · rw [stagedNow] at staged_
          by_cases same : family = run.family
          · subst same
            rw [Function.update_self] at staged_
            cases staged_
            refine .inr ⟨rfl, payload, ?_⟩
            rw [mirror, stagedRows]
            simp [OutcomeStore.view, Writes.putPublication]
          · rw [Function.update_of_ne same, stagedRows] at staged_
            refine .inl (quiet family shown ?_)
            simpa [Writes.putPublication, same] using staged_
  · obtain ⟨registry, superseding, rfl⟩ := Option.map_eq_some_iff.mp published
    have here := Registry.stage_local valid.registry superseding
    refine valid.advanceQuiet here (.ofQuiet ?_ (by simp) (by simp) (by simp) (by simp [calm]))
    rw [← here.store]
    exact Registry.stage_quiet quiet rfl superseding

theorem RefreshRun.Valid.committed (at_ : engine.refreshes session = some run) (family : ReadFamily) :
    ((engine.registry.store.apply (engine.registry.transaction session).writes).publication family).Matches (engine.materialized family) ∧
    ((engine.registry.store.publication family).SameBody
        ((engine.registry.store.apply (engine.registry.transaction session).writes).publication family) ∨
      ∃ attemptId, run.phase = .publishing attemptId) := by
  have own := valid.refreshes session run at_
  show (engine.registry.store.view (engine.registry.transaction session).writes family).Matches _ ∧
    ((engine.registry.store.publication family).SameBody
      (engine.registry.store.view (engine.registry.transaction session).writes family) ∨ _)
  by_cases publishes : ∃ attemptId, run.phase = .publishing attemptId
  · refine ⟨?_, .inr publishes⟩
    obtain ⟨attemptId, phase⟩ := publishes
    unfold OutcomeStore.view
    cases staged : (engine.registry.transaction session).writes.staged family with
    | none => exact valid.mirror family
    | some publication =>
      rcases own.publishing attemptId phase family publication staged with same | ⟨rfl, payload, mirror⟩
      · exact (valid.mirror family).sameBody same
      · show publication.Matches _
        unfold Publication.Matches
        rw [payload]
        exact mirror
  · have quiet := own.quiet fun attemptId phase => publishes ⟨attemptId, phase⟩
    exact ⟨(valid.mirror family).sameBody (quiet.view family), .inl (quiet.view family)⟩

theorem Engine.Valid.done {finish : RefreshEnd} (at_ : engine.refreshes session = some run)
    (terminal : ∀ attemptId, finish = .raised (.terminal attemptId) →
      ∃ row, engine.registry.store.seen (engine.registry.transaction session).writes attemptId = some row ∧ row.result ≠ none)
    (raising : run.raised = true → (Phase.finished finish).Raising) :
    (engine.advance session (engine.registry.commit session) { run with phase := .finished finish }).Valid := by
  have sound := valid.registry
  have others : ∀ other, other ≠ session → (engine.registry.commit session).transactions other = engine.registry.transactions other := by
    intro other differs
    have closed : (engine.registry.close session).transactions other = _ := Registry.transactions_close other
    rw [if_neg differs] at closed
    exact closed
  refine ⟨sound.commit, fun family => (RefreshRun.Valid.committed valid at_ family).1, fun other idle => ?_, fun other found located => ?_⟩
  · have differs : other ≠ session := by
      rintro rfl
      simp [Engine.advance] at idle
    refine (others other differs).trans (valid.idle other ?_)
    simpa [Engine.advance, differs] using idle
  · by_cases same : other = session
    · subst same
      obtain rfl : { run with phase := .finished finish } = found := by
        simpa [Engine.advance] using located
      have begun : (engine.registry.commit other).transaction other = .begun := by
        simp [Registry.transaction, Registry.commit, Registry.close]
      refine .ofQuiet ?_ (by simp) (by simp) (fun attemptId ended => ?_) raising
      · show ((engine.registry.commit other).transaction other).writes.Quiet _
        rw [begun]
        exact .nothing
      · exact terminal attemptId (Phase.finished.inj ended)
    · have before : engine.refreshes other = some found := by
        simpa [Engine.advance, same] using located
      have kept : (engine.registry.commit session).transaction other = engine.registry.transaction other := by
        unfold Registry.transaction
        rw [others other same]
      show found.Valid _ ((engine.registry.commit session).transaction other).writes _
      rw [kept]
      refine (valid.refreshes other found before).applyOther (sound.transaction other).writes
        (sound.transaction session).writes fun family mine theirs => ?_
      rw [mine] at theirs
      exact same (Option.some.inj theirs).symm

theorem Engine.Valid.lost : (engine.advance session (engine.registry.close session)
      { run with phase := .recovering, raised := true }).Valid := by
  obtain ⟨here, begun⟩ := Registry.close_local valid.registry session
  refine valid.advanceQuiet here (.ofQuiet ?_ (by simp) (by simp) (by simp) fun _ => trivial)
  rw [begun]
  exact .nothing

theorem Engine.Valid.commit {durable : Bool} (at_ : engine.refreshes session = some run)
    (committed : engine.commit session run durable = some after) : after.Valid := by
  have own := valid.refreshes session run at_
  have calm : ¬ run.phase.Raising → ∀ finish : RefreshEnd, run.raised = true → (Phase.finished finish).Raising :=
    fun quiet _ raised => absurd (own.raising raised) quiet
  unfold Engine.commit at committed
  split at committed
  · rename_i attemptId phase
    cases committed
    cases durable with
    | true => exact valid.done at_ (by simp) (calm (by simp [phase, Phase.Raising]) _)
    | false => exact valid.lost
  · rename_i attemptId guarded phase
    cases committed
    cases durable with
    | true => exact valid.done at_ (by simp) (calm (by simp [phase, Phase.Raising]) _)
    | false =>
      cases guarded with
      | true => exact valid.lost
      | false => exact valid.abandon (by simp) fun _ => trivial
  · rename_i attemptId raises phase
    cases committed
    have raising : ∀ recording, run.raised = true → (Phase.finished (.reported raises recording)).Raising := by
      intro recording raised
      have known := own.raising raised
      rw [phase] at known
      cases raises with
      | true => trivial
      | false => exact known.elim
    cases durable with
    | true =>
      refine valid.done at_ (fun found ended => ?_) (raising _)
      have isAttempt : found = attemptId := by
        cases raises <;> simp [RefreshEnd.reported] at ended
        exact ended.symm
      exact isAttempt ▸ own.reporting attemptId raises phase
    | false =>
      refine valid.abandon (fun found => ?_) (raising _)
      cases raises <;> simp [RefreshEnd.reported]
  · cases committed

theorem Engine.Valid.rekey {nsoInstance nsoDeviceName : Option String} {registry : Registry}
    (rekeyed : engine.registry.rekey nsoInstance nsoDeviceName = some registry) :
    { engine with registry }.Valid := by
  have sound := valid.registry.rekey rekeyed
  obtain ⟨free, rfl | ⟨target, rfl⟩⟩ := Registry.rekey_some rekeyed
  · exact valid
  have unstaged : ∀ session family, (engine.registry.transaction session).writes.staged family = none := by
    intro session family
    cases staged : (engine.registry.transaction session).writes.staged family with
    | none => rfl
    | some publication =>
      have held := (valid.registry.transaction session).writes.fenced family publication staged
      rw [free family] at held
      cases held
  refine ⟨sound, fun family => rfl, valid.idle, fun session run at_ => ?_⟩
  have own := valid.refreshes session run at_
  show run.Valid _ (engine.registry.transaction session).writes _
  refine ⟨own.attempted, fun _ family publication staged => ?_, fun _ _ family publication staged =>
    ?_, own.reporting, own.ended, own.raising⟩
  · rw [unstaged session family] at staged
    cases staged
  · rw [unstaged session family] at staged
    cases staged

theorem Engine.Valid.step {event : EngineEvent} (stepped : Engine.step event engine = some after) : after.Valid := by
  cases event with
  | start session family outcome sourceEpoch stored => exact valid.start stepped
  | fence session acquired =>
    obtain ⟨run, at_, stepped⟩ := Option.bind_eq_some_iff.mp stepped
    cases phase : run.phase <;> rw [phase] at stepped <;> try cases stepped
    exact valid.fence at_ phase stepped
  | publish session materialized lost =>
    obtain ⟨run, at_, stepped⟩ := Option.bind_eq_some_iff.mp stepped
    cases phase : run.phase <;> rw [phase] at stepped <;> try cases stepped
    exact valid.publish at_ phase stepped
  | report session stored =>
    obtain ⟨run, at_, stepped⟩ := Option.bind_eq_some_iff.mp stepped
    exact valid.report at_ stepped
  | recover session stored =>
    obtain ⟨run, at_, stepped⟩ := Option.bind_eq_some_iff.mp stepped
    cases phase : run.phase <;> rw [phase] at stepped <;> try cases stepped
    exact valid.recover at_ phase stepped
  | commit session durable =>
    obtain ⟨run, at_, stepped⟩ := Option.bind_eq_some_iff.mp stepped
    exact valid.commit at_ stepped
  | rekey nsoInstance nsoDeviceName =>
    obtain ⟨registry, rekeyed, rfl⟩ := Option.map_eq_some_iff.mp stepped
    exact valid.rekey rekeyed

end

theorem engine_valid_of_reachable (reached : engineSystem.Reachable engine) : engine.Valid := by
  refine reached.invariant ?_ ?_
  · rintro _ ⟨identity, rfl⟩
    exact ⟨.fresh identity, fun family => rfl, fun _ _ => rfl, by simp [Engine.fresh]⟩
  · intro event before after valid stepped
    exact valid.step stepped

end Steps

end NsoAdapter.Refresh
