import NsoAdapter.Refresh.Publication

/-! The invariant of the registry, kept by every event, and what it says of whole runs. -/

namespace NsoAdapter.Refresh
open Lib

structure Transaction.Sound (registry : Registry) (session : Nat) (transaction : Transaction) :
    Prop where
  writes : transaction.writes.Sound registry.store registry.nextAttempt
    fun family => registry.fence family = some session
  saved : ∀ saved, transaction.savepoint = some saved →
    saved.writes.Sound registry.store registry.nextAttempt fun family => saved.held family = true
  held : ∀ saved, transaction.savepoint = some saved → ∀ family, saved.held family = true →
    registry.fence family = some session
  grown : ∀ saved, transaction.savepoint = some saved → ∀ id, saved.writes.attempts id ≠ none →
    transaction.writes.attempts id ≠ none

def Transaction.Knows (transaction : Transaction) (row : RefreshOutcome) : Prop :=
  (∃ id, transaction.writes.attempts id = some row) ∨
    ∃ saved, transaction.savepoint = some saved ∧ ∃ id, saved.writes.attempts id = some row

def Registry.Knows (registry : Registry) (row : RefreshOutcome) : Prop :=
  (∃ id, registry.store.attempts id = some row) ∨
    ∃ session transaction, registry.transactions session = some transaction ∧ transaction.Knows row

structure Registry.Sound (registry : Registry) : Prop where
  store : registry.store.Sound registry.nextAttempt
  transactions : ∀ session transaction, registry.transactions session = some transaction →
    transaction.Sound registry session
  apart : ∀ first second left right id, first ≠ second →
    registry.transactions first = some left → registry.transactions second = some right →
    left.writes.attempts id ≠ none → right.writes.attempts id ≠ none →
    registry.store.attempts id ≠ none
  bounded : ∀ family payload, (family, payload) ∈ registry.store.history →
    payload < registry.nextAttempt
  ahead : ∀ row, registry.Knows row → registry.store.Ahead row

section Keeps

variable {registry after : Registry} {session : Nat} {opened : Transaction}

theorem Transaction.Sound.mono (sound : opened.Sound registry session)
    (store : after.store = registry.store) (next : registry.nextAttempt ≤ after.nextAttempt)
    (fence : ∀ family, registry.fence family = some session → after.fence family = some session) :
    opened.Sound after session := by
  refine ⟨?_, fun saved at_ => ?_, fun saved at_ family held => ?_, sound.grown⟩
  · rw [store]
    exact (sound.writes.next next).holds fence
  · rw [store]
    exact (sound.saved saved at_).next next
  · exact fence family (sound.held saved at_ family held)

theorem Transaction.Sound.begun (valid : registry.store.Sound registry.nextAttempt) : Transaction.begun.Sound registry session where
  writes := .nothing valid.ordered
  saved := by simp [Transaction.begun]
  held := by simp [Transaction.begun]
  grown := by simp [Transaction.begun]

variable {row : RefreshOutcome} {family : ReadFamily} {event : RefreshEvent}

theorem Transaction.not_knows_begun : ¬ Transaction.begun.Knows row := by
  simp [Transaction.Knows, Transaction.begun, Writes.nothing]

theorem Registry.Sound.transaction (sound : registry.Sound) (session : Nat) : (registry.transaction session).Sound registry session := by
  rcases registry.transaction_cases session with found | ⟨_, begun⟩
  · exact sound.transactions session _ found
  · rw [begun]
    exact .begun sound.store

theorem Registry.knows_transaction (registry : Registry) (session : Nat)
    (known : (registry.transaction session).Knows row) : registry.Knows row := by
  rcases registry.transaction_cases session with found | ⟨_, begun⟩
  · exact .inr ⟨session, _, found, known⟩
  · rw [begun] at known
    exact absurd known Transaction.not_knows_begun

variable {other id attemptId : Nat} {found : Transaction} {request : StageRequest}

theorem Registry.Sound.apart_transaction (sound : registry.Sound) (differs : other ≠ session)
    (at_ : registry.transactions other = some found)
    (own : (registry.transaction session).writes.attempts id ≠ none)
    (theirs : found.writes.attempts id ≠ none) : registry.store.attempts id ≠ none := by
  rcases registry.transaction_cases session with located | ⟨_, begun⟩
  · exact sound.apart session other _ found id differs.symm located at_ own theirs
  · rw [begun] at own
    exact absurd rfl own

theorem Registry.seen_known (located : registry.store.seen (registry.transaction session).writes id = some row) : registry.Knows row := by
  rcases Option.or_eq_some_iff.mp located with own | ⟨_, stored⟩
  · exact registry.knows_transaction session (.inl ⟨id, own⟩)
  · exact .inl ⟨id, stored⟩

section

variable (sound : registry.Sound)

include sound

theorem Registry.Sound.put (valid : opened.Sound registry session)
    (apart : ∀ other found id, other ≠ session → registry.transactions other = some found →
      opened.writes.attempts id ≠ none → found.writes.attempts id ≠ none →
      registry.store.attempts id ≠ none)
    (ahead : ∀ row, opened.Knows row → registry.store.Ahead row) :
    (registry.put session opened).Sound := by
  refine ⟨sound.store, fun other found at_ => ?_, fun first second left right id differs atLeft
    atRight wroteLeft wroteRight => ?_, sound.bounded, fun row known => ?_⟩
  · rw [Registry.transactions_put] at at_
    split at at_
    · rename_i same
      cases at_
      subst same
      exact valid.mono rfl (le_refl _) fun _ held => held
    · exact (sound.transactions other found at_).mono rfl (le_refl _) fun _ held => held
  · rw [Registry.transactions_put] at atLeft atRight
    split at atLeft
    · rename_i sameLeft
      cases atLeft
      rw [if_neg (fun sameRight => differs (sameLeft.trans sameRight.symm))] at atRight
      exact apart second right id (fun same => differs (sameLeft.trans same.symm)) atRight wroteLeft wroteRight
    · split at atRight
      · rename_i sameRight
        cases atRight
        exact apart first left id (sameRight ▸ differs) atLeft wroteRight wroteLeft
      · exact sound.apart first second left right id differs atLeft atRight wroteLeft wroteRight
  · rcases known with stored | ⟨other, found, at_, known⟩
    · exact sound.ahead row (.inl stored)
    · rw [Registry.transactions_put] at at_
      split at at_
      · cases at_
        exact ahead row known
      · exact sound.ahead row (.inr ⟨other, found, at_, known⟩)

theorem Registry.Sound.fence {fence : ReadFamily → Option Nat}
    (keeps : ∀ session transaction, registry.transactions session = some transaction →
      transaction.Sound { registry with fence } session) : { registry with fence }.Sound where
  store := sound.store
  transactions := keeps
  apart := sound.apart
  bounded := sound.bounded
  ahead := sound.ahead

theorem Registry.Sound.stage (staged : registry.stage session attemptId request = some after) : after.Sound := by
  obtain ⟨row, result, located, held, run, rfl⟩ := Registry.stage_some staged
  have valid := sound.transaction session
  have known := Registry.seen_known located
  have rowAhead := sound.ahead row known
  obtain ⟨sameId, sameFamily, sameEpoch, _⟩ := stageResult_row run
  obtain ⟨named, _⟩ := valid.writes.seen_numbered sound.store located
  refine sound.put ⟨valid.writes.stage sound.store located held rowAhead run, valid.saved, valid.held, fun saved at_ id wrote => ?_⟩ ?_ ?_
  · have before := valid.grown saved at_ id wrote
    by_cases same : id = result.row.id
    · simp [Writes.stage, Writes.insert, Writes.putPublication, same]
    · simpa [Writes.stage, Writes.insert, Writes.putPublication, same] using before
  · intro other found id differs at_ wrote theirs
    by_cases same : id = result.row.id
    · subst same
      rw [sameId, named] at theirs ⊢
      rcases Option.or_eq_some_iff.mp located with own | ⟨_, stored⟩
      · exact sound.apart_transaction differs at_ (by simp [own]) theirs
      · simp [stored]
    · refine sound.apart_transaction differs at_ ?_ theirs
      simpa [Writes.stage, Writes.insert, Writes.putPublication, same] using wrote
  · rintro other (⟨id, wrote⟩ | ⟨saved, at_, wrote⟩)
    · rcases Writes.stage_attempts_cases wrote with ⟨_, rfl⟩ | ⟨_, before⟩
      · intro payload listed current
        rw [sameFamily] at listed
        rw [sameEpoch] at current
        rw [sameId, sameFamily]
        exact rowAhead payload listed current
      · exact sound.ahead other (registry.knows_transaction session (.inl ⟨id, before⟩))
    · exact sound.ahead other (registry.knows_transaction session (.inr ⟨saved, at_, wrote⟩))

theorem Registry.Sound.materialize {rows : List Json} (written : registry.materialize session family rows = some after) : after.Sound := by
  unfold Registry.materialize at written
  split at written
  · rename_i held
    cases written
    have valid := sound.transaction session
    refine sound.put ⟨valid.writes.materialize sound.store held rows, valid.saved, valid.held, valid.grown⟩ ?_ ?_
    · intro other found id differs at_ wrote theirs
      exact sound.apart_transaction differs at_ wrote theirs
    · intro row known
      exact sound.ahead row (registry.knows_transaction session known)
  · cases written

theorem Registry.Sound.beginNested (begun : registry.beginNested session = some after) : after.Sound := by
  unfold Registry.beginNested at begun
  dsimp only at begun
  split at begun
  · cases begun
  cases begun
  have valid := sound.transaction session
  refine sound.put ⟨valid.writes, ?_, ?_, ?_⟩ ?_ ?_
  · rintro saved ⟨⟩
    exact valid.writes.holds fun family held => by simpa using held
  · rintro saved ⟨⟩ family held
    simpa using held
  · rintro saved ⟨⟩ id wrote
    exact wrote
  · intro other found id differs at_ wrote theirs
    exact sound.apart_transaction differs at_ wrote theirs
  · rintro row (wrote | ⟨saved, ⟨⟩, wrote⟩)
    · exact sound.ahead row (registry.knows_transaction session (.inl wrote))
    · exact sound.ahead row (registry.knows_transaction session (.inl wrote))

theorem Registry.Sound.rollbackNested (rolled : registry.rollbackNested session = some after) : after.Sound := by
  obtain ⟨saved, at_, rfl⟩ := Option.map_eq_some_iff.mp rolled
  have valid := sound.transaction session
  have restored : (registry.put session ⟨saved.writes, none⟩).Sound := by
    refine sound.put ⟨(valid.saved saved at_).holds (valid.held saved at_), by simp, by simp,
      by simp⟩ ?_ ?_
    · intro other found id differs located wrote theirs
      exact sound.apart_transaction differs located (valid.grown saved at_ id wrote) theirs
    · rintro row (wrote | ⟨_, ⟨⟩, _⟩)
      exact sound.ahead row (registry.knows_transaction session (.inr ⟨saved, at_, wrote⟩))
  refine restored.fence fun other found located => ?_
  rw [Registry.transactions_put] at located
  split at located
  · rename_i same
    cases located
    subst same
    refine ⟨(valid.saved saved at_).holds fun family held => ?_, by simp, by simp, by simp⟩
    have mine := valid.held saved at_ family held
    simp [held, mine]
  · rename_i differs
    refine (sound.transactions other found located).mono rfl (le_refl _) fun family held => ?_
    simp [held, differs]

theorem Registry.Sound.acquireFence (acquired : registry.acquireFence session family = some after) : after.Sound := by
  unfold Registry.acquireFence at acquired
  split at acquired
  swap
  · cases acquired
  rename_i free
  cases acquired
  have valid := sound.transaction session
  have begun : (registry.put session (registry.transaction session)).Sound := by
    refine sound.put valid ?_ ?_
    · intro other found id differs at_ wrote theirs
      exact sound.apart_transaction differs at_ wrote theirs
    · intro row known
      exact sound.ahead row (registry.knows_transaction session known)
  refine begun.fence fun other found at_ => ?_
  refine (begun.transactions other found at_).mono rfl (le_refl _) fun held own => ?_
  by_cases same : held = family
  · subst same
    have mine : registry.fence held = some other := own
    rcases free with none | theirs
    · rw [none] at mine
      cases mine
    · rw [theirs] at mine
      simpa using mine
  · simpa [same, Registry.put] using own

theorem Registry.Sound.recordRead {outcome : ReadOutcome} {sourceEpoch : Option Nat}
    (recorded : registry.recordRead session family outcome sourceEpoch = some after) :
    after.Sound := by
  unfold Registry.recordRead at recorded
  dsimp only at recorded
  split at recorded
  swap
  · cases recorded
  rename_i reached
  cases recorded
  have valid := sound.transaction session
  have unknown : ∀ other found, registry.transactions other = some found → found.writes.attempts registry.nextAttempt = none := by
    intro other found at_
    cases located : found.writes.attempts registry.nextAttempt with
    | none => rfl
    | some row =>
      exact absurd ((sound.transactions other found at_).writes.numbered _ _ located).2.1 (lt_irrefl _)
  refine ⟨sound.store.next (Nat.le_succ _), fun other found at_ => ?_, fun first second left right id
    differs atLeft atRight wroteLeft wroteRight => ?_, fun other payload listed =>
    (sound.bounded other payload listed).trans (Nat.lt_succ_self _), fun row known => ?_⟩
  · have located : (registry.put session _).transactions other = some found := at_
    rw [Registry.transactions_put] at located
    split at located
    · rename_i same
      cases located
      subst same
      refine ⟨valid.writes.insert sound.store rfl reached, fun saved saves =>
        (valid.saved saved saves).next (Nat.le_succ _), valid.held, fun saved saves id wrote => ?_⟩
      have before := valid.grown saved saves id wrote
      by_cases same : id = registry.nextAttempt
      · simp [Writes.insert, recordReadOutcome, same]
      · simpa [Writes.insert, recordReadOutcome, same] using before
    · exact (sound.transactions other found located).mono rfl (Nat.le_succ _) fun _ held => held
  · have locatedLeft : (registry.put session _).transactions first = some left := atLeft
    have locatedRight : (registry.put session _).transactions second = some right := atRight
    rw [Registry.transactions_put] at locatedLeft locatedRight
    split at locatedLeft
    · rename_i sameLeft
      cases locatedLeft
      have other : second ≠ session := fun same => differs (sameLeft.trans same.symm)
      rw [if_neg other] at locatedRight
      by_cases same : id = registry.nextAttempt
      · subst same
        exact absurd (unknown second right locatedRight) wroteRight
      · refine sound.apart_transaction other locatedRight ?_ wroteRight
        simpa [Writes.insert, recordReadOutcome, same] using wroteLeft
    · rename_i otherLeft
      split at locatedRight
      · cases locatedRight
        by_cases same : id = registry.nextAttempt
        · subst same
          exact absurd (unknown first left locatedLeft) wroteLeft
        · refine sound.apart_transaction otherLeft locatedLeft ?_ wroteLeft
          simpa [Writes.insert, recordReadOutcome, same] using wroteRight
      · exact sound.apart first second left right id differs locatedLeft locatedRight wroteLeft wroteRight
  · rcases known with stored | ⟨other, found, at_, known⟩
    · exact sound.ahead row (.inl stored)
    have located : (registry.put session _).transactions other = some found := at_
    rw [Registry.transactions_put] at located
    split at located
    · cases located
      rcases known with ⟨id, wrote⟩ | saved
      · rcases Writes.insert_attempts_cases wrote with ⟨_, rfl⟩ | ⟨_, before⟩
        · exact fun payload listed _ => .inl (sound.bounded family payload listed)
        · exact sound.ahead row (registry.knows_transaction session (.inl ⟨id, before⟩))
      · exact sound.ahead row (registry.knows_transaction session (.inr saved))
    · exact sound.ahead row (.inr ⟨other, found, located, known⟩)

theorem Registry.Sound.close : (registry.close session).Sound := by
  have others : ∀ other found, (registry.close session).transactions other = some found →
      other ≠ session ∧ registry.transactions other = some found := by
    intro other found at_
    rw [Registry.transactions_close] at at_
    split at at_
    · cases at_
    · rename_i differs
      exact ⟨differs, at_⟩
  refine ⟨sound.store, fun other found at_ => ?_, fun first second left right id differs atLeft
    atRight => ?_, sound.bounded, fun row known => ?_⟩
  · obtain ⟨differs, before⟩ := others other found at_
    refine (sound.transactions other found before).mono rfl (le_refl _) fun family held => ?_
    simp [Registry.close, held, differs]
  · exact sound.apart first second left right id differs (others first left atLeft).2 (others second right atRight).2
  · rcases known with stored | ⟨other, found, at_, known⟩
    · exact sound.ahead row (.inl stored)
    · exact sound.ahead row (.inr ⟨other, found, (others other found at_).2, known⟩)

theorem Registry.Sound.commit_other (differs : other ≠ session) (at_ : registry.transactions other = some found) :
    found.Sound { registry with
      store := registry.store.apply (registry.transaction session).writes } other := by
  have valid := sound.transactions other found at_
  have committed := (sound.transaction session).writes
  have families : ∀ family, registry.fence family = some session → ¬ registry.fence family = some other := by
    intro family mine theirs
    rw [mine] at theirs
    exact differs (Option.some.inj theirs).symm
  refine ⟨valid.writes.applyOther committed families fun id own theirs =>
    sound.apart_transaction differs at_ own theirs, fun saved saves => ?_, valid.held, valid.grown⟩
  refine (valid.saved saved saves).applyOther committed (fun family mine held => ?_)
    fun id own theirs => sound.apart_transaction differs at_ own (valid.grown saved saves id theirs)
  exact families family mine (valid.held saved saves family held)

theorem Registry.Sound.commit : (registry.commit session).Sound := by
  have valid := sound.transaction session
  have closed : (registry.close session).Sound := sound.close
  refine ⟨valid.writes.apply sound.store, fun other found at_ => ?_, fun first second left right id
    differs atLeft atRight wroteLeft wroteRight => ?_, fun family payload listed => ?_, fun row
    known => ?_⟩
  · have located : (registry.close session).transactions other = some found := at_
    rw [Registry.transactions_close] at located
    split at located
    · cases located
    rename_i differs
    refine (sound.commit_other differs located).mono rfl (le_refl _) fun family held => ?_
    have theirs : registry.fence family = some other := held
    simp [Registry.commit, Registry.close, theirs, differs]
  · have known := closed.apart first second left right id differs atLeft atRight wroteLeft wroteRight
    obtain ⟨stored, before⟩ := Option.ne_none_iff_exists'.mp known
    have kept : registry.store.attempts id = some stored := before
    simp [Registry.commit, OutcomeStore.apply, OutcomeStore.seen, kept]
  · rcases List.mem_append.mp listed with before | own
    · exact sound.bounded family payload before
    · obtain ⟨publication, pointer, staged, pointed, le⟩ := valid.writes.published family payload own
      obtain ⟨found, located, _⟩ := (valid.writes.staged family publication staged).1.pointed pointer pointed
      exact le.trans_lt (valid.writes.seen_numbered sound.store located).2.1
  · have before : registry.Knows row := by
      rcases known with ⟨id, stored⟩ | ⟨other, found, at_, knows⟩
      · exact Registry.seen_known stored
      · have located : (registry.close session).transactions other = some found := at_
        rw [Registry.transactions_close] at located
        split at located
        · cases located
        · exact .inr ⟨other, found, located, knows⟩
    intro payload listed current
    obtain ⟨_, grown⟩ := valid.writes.view sound.store row.family
    rcases List.mem_append.mp listed with old | own
    · rcases sound.ahead row before payload old current with lt | ⟨pointer, pointed, le⟩
      · exact .inl lt
      · obtain ⟨later, pointedLater, leLater, _⟩ := grown pointer pointed
        exact .inr ⟨later, pointedLater, le.trans leLater⟩
    · obtain ⟨publication, pointer, staged, pointed, le⟩ := valid.writes.published row.family payload own
      refine .inr ⟨pointer, ?_, le⟩
      simpa [Registry.commit, OutcomeStore.apply, OutcomeStore.view, staged] using pointed

theorem Registry.Sound.rekey {nsoInstance nsoDeviceName : Option String}
    (rekeyed : registry.rekey nsoInstance nsoDeviceName = some after) : after.Sound := by
  obtain ⟨free, rfl | ⟨target, rfl⟩⟩ := Registry.rekey_some rekeyed
  · exact sound
  have unheld : ∀ session family, ¬ registry.fence family = some session := by
    intro session family held
    rw [free family] at held
    cases held
  refine ⟨sound.store.rekey target, fun other found at_ => ?_, sound.apart, sound.bounded, fun row known payload _ current => ?_⟩
  · have valid := sound.transactions other found at_
    refine ⟨valid.writes.rekey (unheld other) target, fun saved saves => ?_, valid.held, valid.grown⟩
    exact (valid.saved saved saves).rekey (fun family held => unheld other family (valid.held saved saves family held)) target
  · -- no attempt can name the new epoch yet
    have reached : row.sourceEpoch ≤ registry.store.epoch := by
      rcases known with ⟨id, stored⟩ | ⟨other, found, at_, ⟨id, wrote⟩ | ⟨saved, saves, id, wrote⟩⟩
      · exact (sound.store.numbered id row stored).2.2
      · exact ((sound.transactions other found at_).writes.numbered id row wrote).2.2
      · exact (((sound.transactions other found at_).saved saved saves).numbered id row wrote).2.2
    exact absurd current (Nat.ne_of_lt (Nat.lt_succ_of_le reached))

theorem Registry.Sound.step (stepped : Registry.step event registry = some after) : after.Sound := by
  cases event with
  | recordRead session family outcome sourceEpoch => exact sound.recordRead stepped
  | acquireFence session family => exact sound.acquireFence stepped
  | stage session attemptId request => exact sound.stage stepped
  | materialize session family rows => exact sound.materialize stepped
  | beginNested session => exact sound.beginNested stepped
  | rollbackNested session => exact sound.rollbackNested stepped
  | commit session =>
    cases stepped
    exact sound.commit
  | rollback session =>
    cases stepped
    exact sound.close
  | rekey nsoInstance nsoDeviceName => exact sound.rekey stepped

end

theorem Registry.Sound.fresh (identity : String × String) : (Registry.fresh identity).Sound where
  store :=
    { numbered := by simp [Registry.fresh]
      publication := fun _ => .empty
      payload := by simp [Registry.fresh, Publication.empty, Publication.payload]
      ordered := List.Pairwise.nil }
  transactions := by simp [Registry.fresh]
  apart := by simp [Registry.fresh]
  bounded := by simp [Registry.fresh]
  ahead := by simp [Registry.fresh, Registry.Knows]

theorem sound_of_reachable (reached : refreshSystem.Reachable registry) : registry.Sound := by
  refine reached.invariant ?_ ?_
  · rintro _ ⟨identity, rfl⟩
    exact .fresh identity
  · intro event before after sound stepped
    exact sound.step stepped

theorem Registry.step_store (stepped : Registry.step event registry = some after) : after.store = registry.store ∨
      (∃ session, event = .commit session ∧ after.store = registry.store.apply (registry.transaction session).writes) ∨
      ∃ nsoInstance nsoDeviceName target, event = .rekey nsoInstance nsoDeviceName ∧
        after.store = registry.store.rekey target := by
  cases event with
  | recordRead session family outcome sourceEpoch =>
    simp only [Registry.step, Registry.recordRead, Option.ite_none_right_eq_some] at stepped
    obtain ⟨_, ⟨⟩⟩ := stepped
    exact .inl rfl
  | acquireFence session family =>
    simp only [Registry.step, Registry.acquireFence, Option.ite_none_right_eq_some] at stepped
    obtain ⟨_, ⟨⟩⟩ := stepped
    exact .inl rfl
  | stage session attemptId request =>
    obtain ⟨_, _, _, _, _, rfl⟩ := Registry.stage_some stepped
    exact .inl rfl
  | materialize session family rows =>
    simp only [Registry.step, Registry.materialize, Option.ite_none_right_eq_some] at stepped
    obtain ⟨_, ⟨⟩⟩ := stepped
    exact .inl rfl
  | beginNested session =>
    simp only [Registry.step, Registry.beginNested] at stepped
    split at stepped
    · cases stepped
    · cases stepped
      exact .inl rfl
  | rollbackNested session =>
    obtain ⟨_, _, rfl⟩ := Option.map_eq_some_iff.mp stepped
    exact .inl rfl
  | commit session =>
    cases stepped
    exact .inr (.inl ⟨session, rfl, rfl⟩)
  | rollback session =>
    cases stepped
    exact .inl rfl
  | rekey nsoInstance nsoDeviceName =>
    obtain ⟨_, rfl | ⟨target, rfl⟩⟩ := Registry.rekey_some stepped
    · exact .inl rfl
    · exact .inr (.inr ⟨nsoInstance, nsoDeviceName, target, rfl, rfl⟩)

/-- An event that is not a re-key. -/
def RefreshEvent.KeepsSource : RefreshEvent → Prop
  | .rekey .. => False
  | _ => True

/-- Nothing that a family published is taken back. -/
def Registry.ExtendsAt (family : ReadFamily) (before after : Registry) : Prop :=
  (before.store.publication family).Extends (after.store.publication family)

def Registry.HistoryGrows (before after : Registry) : Prop :=
  before.store.history <+: after.store.history

theorem Registry.Sound.extends (sound : registry.Sound) (keeps : event.KeepsSource)
    (stepped : Registry.step event registry = some after) (family : ReadFamily) :
    registry.ExtendsAt family after := by
  unfold Registry.ExtendsAt
  rcases Registry.step_store stepped with same | ⟨session, _, committed⟩ | ⟨_, _, _, rfl, _⟩
  · rw [same]
    exact .refl _
  · rw [committed]
    exact ((sound.transaction session).writes.view sound.store family).2
  · exact keeps.elim

theorem Registry.history_prefix (stepped : Registry.step event registry = some after) : registry.HistoryGrows after := by
  unfold Registry.HistoryGrows
  rcases Registry.step_store stepped with same | ⟨session, _, committed⟩ | ⟨_, _, _, _, rekeyed⟩
  · exact same ▸ List.prefix_rfl
  · rw [committed]
    exact List.prefix_append ..
  · exact rekeyed ▸ List.prefix_rfl

theorem extends_of_steps (reached : refreshSystem.Reachable registry)
    (taken : refreshSystem.StepsUnder RefreshEvent.KeepsSource registry after)
    (family : ReadFamily) : registry.ExtendsAt family after := by
  refine taken.related (sound_of_reachable reached) ?_ ?_ ?_ ?_
  · exact fun event before after sound stepped => sound.step stepped
  · exact fun state => .refl _
  · exact fun first second third left right => left.trans right
  · exact fun event before after keeps sound stepped => sound.extends keeps stepped family

theorem payload_le_of_steps (reached : refreshSystem.Reachable registry) (taken : refreshSystem.Steps registry after) {payload later : Nat}
    (has : (registry.store.publication family).payload = some payload)
    (hasLater : (after.store.publication family).payload = some later) : payload ≤ later := by
  have listed : registry.HistoryGrows after := by
    refine taken.related (sound_of_reachable reached) ?_ ?_ ?_ ?_
    · exact fun _ _ _ sound stepped => sound.step stepped
    · exact fun _ => List.prefix_rfl
    · exact fun _ _ _ left right => left.trans right
    · exact fun _ _ _ _ stepped => Registry.history_prefix stepped
  have earlier := ((sound_of_reachable reached).store.payload family payload has).1
  have newest := (sound_of_reachable (reached.steps taken)).store.payload family later hasLater
  exact newest.2 payload (List.IsPrefix.subset listed earlier)

theorem Registry.stage_superseded (sound : registry.Sound)
    (located : registry.store.seen (registry.transaction session).writes attemptId = some row)
    (staged : registry.stage session attemptId request = some after)
    (late : row.sourceEpoch ≠ registry.store.epoch ∨ ∃ pointer,
      (registry.store.view (registry.transaction session).writes row.family).pointer = some pointer ∧
        row.id < pointer.attemptId) :
    after.store.seen (after.transaction session).writes attemptId = some row.supersede ∧
      ∀ family, after.store.view (after.transaction session).writes family =
        registry.store.view (registry.transaction session).writes family := by
  obtain ⟨found, result, at_, _, run, rfl⟩ := Registry.stage_some staged
  rw [located] at at_
  cases at_
  have old : superseded registry.store.epoch (registry.store.view (registry.transaction session).writes row.family).pointer row = true := by
    rcases late with moved | ⟨pointer, pointed, lt⟩
    · simp [superseded, moved.symm]
    · simp [superseded, pointed, lt]
  obtain ⟨named, _⟩ := (sound.transaction session).writes.seen_numbered sound.store located
  rcases stageResult_cases run with ⟨_, rfl⟩ | ⟨current, _⟩ | ⟨current, _⟩
  · have own : (registry.put session { registry.transaction session with
        writes := (registry.transaction session).writes.stage
          ⟨row.supersede, registry.store.view (registry.transaction session).writes row.family,
            false⟩ request }).transaction session =
        { registry.transaction session with
          writes := (registry.transaction session).writes.stage
            ⟨row.supersede, registry.store.view (registry.transaction session).writes row.family,
              false⟩ request } := by
      simp [Registry.transaction, Registry.put]
    rw [own]
    refine ⟨?_, fun family => ?_⟩
    · rw [← named]
      exact Writes.stage_seen_self
    · by_cases same : family = row.family
      · subst same
        simp [OutcomeStore.view, Writes.stage, Writes.putPublication, RefreshOutcome.supersede, Registry.put]
      · simp [OutcomeStore.view, Writes.stage, Writes.putPublication, RefreshOutcome.supersede, Registry.put, same]
  · rw [old] at current
    cases current
  · rw [old] at current
    cases current

theorem getCurrentPublication_ok {store : OutcomeStore} {bound : Nat} (valid : store.Sound bound) (observed : family ∈ observers) :
    ∃ found, getCurrentPublication store.attempts (store.publication family) store.epoch = .ok found := by
  unfold getCurrentPublication
  cases pointed : (store.publication family).pointer with
  | none => exact ⟨_, rfl⟩
  | some pointer =>
    obtain ⟨row, located, _⟩ := (valid.publication family).pointed pointer pointed
    dsimp only
    rw [located]
    cases has : pointer.payloadRevision with
    | none =>
      have unmatched : (store.publication family).observations.filter (fun stored =>
          some stored.revision == none && stored.sourceEpoch == store.epoch) = [] := by
        simp
      rw [unmatched]
      exact ⟨_, rfl⟩
    | some payload =>
      obtain ⟨observation, only, revision, epoch⟩ := (valid.publication family).observed observed
        payload (Publication.payload_eq_some.mpr ⟨pointer, pointed, has⟩)
      rw [only]
      exact ⟨some (row, some payload, some observation), by simp [revision, epoch]⟩

/-- Between two re-keys a family's pointer and payload never go back. An attempt of another source,
or older than the pointed one, changes no publication. A payload is the newest attempt that
published, and of an observed family it has one observation of the device's source. -/
theorem read_publication_monotone : (∀ before after, refreshSystem.Reachable before →
      refreshSystem.StepsUnder RefreshEvent.KeepsSource before after →
      ∀ family pointer, (before.store.publication family).pointer = some pointer →
        ∃ later, (after.store.publication family).pointer = some later ∧ pointer.attemptId ≤ later.attemptId ∧
          ∀ payload, pointer.payloadRevision = some payload → ∃ newer, later.payloadRevision = some newer ∧ payload ≤ newer) ∧
    (∀ registry, refreshSystem.Reachable registry → ∀ family pointer, (registry.store.publication family).pointer = some pointer →
        ∃ row, registry.store.attempts pointer.attemptId = some row ∧ row.family = family ∧ row.result ≠ none) ∧
    (∀ before after session attemptId request row, refreshSystem.Reachable before →
      before.store.seen (before.transaction session).writes attemptId = some row →
      before.stage session attemptId request = some after →
      (row.sourceEpoch ≠ before.store.epoch ∨ ∃ pointer,
        (before.store.view (before.transaction session).writes row.family).pointer = some pointer ∧
          row.id < pointer.attemptId) →
      after.store.seen (after.transaction session).writes attemptId = some row.supersede ∧
        ∀ family, after.store.view (after.transaction session).writes family =
          before.store.view (before.transaction session).writes family) ∧
    (∀ registry, refreshSystem.Reachable registry → ∀ family payload, (registry.store.publication family).payload = some payload →
        (family, payload) ∈ registry.store.history) ∧
    (∀ before after, refreshSystem.Reachable before → refreshSystem.Steps before after →
      ∀ family payload later, (before.store.publication family).payload = some payload →
        (after.store.publication family).payload = some later → payload ≤ later) ∧
    (∀ registry, refreshSystem.Reachable registry → ∀ family ∈ observers,
      (∀ payload, (registry.store.publication family).payload = some payload → ∃ observation,
        (registry.store.publication family).observations = [observation] ∧
          observation.revision = payload ∧ observation.sourceEpoch = registry.store.epoch) ∧
      ∃ found, getCurrentPublication registry.store.attempts (registry.store.publication family) registry.store.epoch = .ok found) := by
  refine ⟨?_, ?_, ?_, ?_, ?_, ?_⟩
  · intro before after reached taken family
    exact extends_of_steps reached taken family
  · intro registry reached family
    exact ((sound_of_reachable reached).store.publication family).pointed
  · intro before after session attemptId request row reached located staged late
    exact Registry.stage_superseded (sound_of_reachable reached) located staged late
  · intro registry reached family payload has
    exact ((sound_of_reachable reached).store.payload family payload has).1
  · intro before after reached taken family payload later has hasLater
    exact payload_le_of_steps reached taken has hasLater
  · intro registry reached family observed
    have valid := (sound_of_reachable reached).store
    exact ⟨(valid.publication family).observed observed, getCurrentPublication_ok valid observed⟩

/-- Two reads finish in the other order, the device is re-keyed and read again. -/
def lateReads : List RefreshEvent :=
  [.recordRead 10 .vlan (.present .null) none, .recordRead 11 .vlan (.present .null) none] ++
    recordResult 11 .vlan 2 ⟨.replaced, true, some 0, none, some ⟨.vlan, .null, .null⟩⟩ ++
    recordResult 10 .vlan 1 ⟨.error, false, none, none, none⟩ ++
    [.rekey none (some "r2"), .recordRead 12 .vlan .absentAuthoritative none] ++
    recordResult 12 .vlan 3 ⟨.cleared, true, none, none, some ⟨.vlan, .null, .null⟩⟩

theorem read_publication_monotone_late_reads : ∃ registry, refreshSystem.trace lateReads (.fresh ("nso", "r1")) = some registry ∧
      (registry.store.attempts 1).bind (·.result) = some .superseded ∧
      (registry.store.publication .vlan).pointer = some ⟨3, some 3⟩ ∧
      ((ReadFamily.vlan, 3) ∈ registry.store.history) ∧
      ∃ found, getCurrentPublication registry.store.attempts (registry.store.publication .vlan) registry.store.epoch = .ok found := by
  have found : (refreshSystem.trace lateReads (.fresh ("nso", "r1"))).any (fun registry =>
      (registry.store.attempts 1).bind (·.result) == some .superseded &&
        (registry.store.publication .vlan).pointer == some ⟨3, some 3⟩) = true := by
    decide +kernel
  obtain ⟨registry, traced, facts⟩ := (Option.any_eq_true _ _).mp found
  simp only [Bool.and_eq_true, beq_iff_eq] at facts
  have starts : refreshSystem.Reachable (.fresh ("nso", "r1")) := .initial ⟨("nso", "r1"), rfl⟩
  have reached : refreshSystem.Reachable registry := starts.trace traced
  obtain ⟨_, _, _, listed, _, observed⟩ := read_publication_monotone
  refine ⟨registry, traced, facts.1, facts.2, listed registry reached .vlan 3 ?_, ?_⟩
  · exact Publication.payload_eq_some.mpr ⟨_, facts.2, rfl⟩
  · exact (observed registry reached .vlan (by decide)).2

end Keeps

end NsoAdapter.Refresh
