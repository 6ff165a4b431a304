import Mathlib.Order.Nat
import NsoAdapter.Refresh.Registry

/-! The publications of a device along every interleaving of refreshes and re-keys. -/

namespace NsoAdapter.Refresh
open Lib

/-- The pointer names a terminal attempt of the family, the payload is not newer, and of an observed
family it has one observation, at its revision and of the current source. -/
structure Publication.Sound (epoch : Nat) (attempts : Nat → Option RefreshOutcome)
    (family : ReadFamily) (publication : Publication) : Prop where
  pointed : ∀ pointer, publication.pointer = some pointer → ∃ row,
    attempts pointer.attemptId = some row ∧ row.family = family ∧ row.result ≠ none
  revision : ∀ pointer payload, publication.pointer = some pointer →
    pointer.payloadRevision = some payload → payload ≤ pointer.attemptId
  observed : family ∈ observers → ∀ payload, publication.payload = some payload → ∃ observation,
    publication.observations = [observation] ∧ observation.revision = payload ∧
      observation.sourceEpoch = epoch

/-- Neither the pointer nor the payload goes back. -/
def Publication.Extends (before after : Publication) : Prop :=
  ∀ pointer, before.pointer = some pointer → ∃ later, after.pointer = some later ∧
    pointer.attemptId ≤ later.attemptId ∧
    ∀ payload, pointer.payloadRevision = some payload → ∃ newer,
      later.payloadRevision = some newer ∧ payload ≤ newer

theorem Publication.Extends.refl (publication : Publication) : publication.Extends publication :=
  fun pointer pointed => ⟨pointer, pointed, le_refl _, fun payload has => ⟨payload, has, le_refl _⟩⟩

theorem Publication.Extends.trans {first second third : Publication}
    (left : first.Extends second) (right : second.Extends third) : first.Extends third := by
  intro pointer pointed
  obtain ⟨middle, pointedMiddle, ordered, payloads⟩ := left pointer pointed
  obtain ⟨last, pointedLast, orderedLast, payloadsLast⟩ := right middle pointedMiddle
  refine ⟨last, pointedLast, ordered.trans orderedLast, fun payload has => ?_⟩
  obtain ⟨newer, hasNewer, le⟩ := payloads payload has
  obtain ⟨newest, hasNewest, leNewest⟩ := payloadsLast newer hasNewer
  exact ⟨newest, hasNewest, le.trans leNewest⟩

theorem Publication.payload_eq_some {publication : Publication} {payload : Nat} :
    publication.payload = some payload ↔ ∃ pointer, publication.pointer = some pointer ∧
      pointer.payloadRevision = some payload :=
  Option.bind_eq_some_iff

section Stage

variable {epoch : Nat} {attempts later : Nat → Option RefreshOutcome} {family : ReadFamily}
  {publication : Publication}

theorem Publication.Sound.empty : Publication.empty.Sound epoch attempts family where
  pointed := by simp [Publication.empty]
  revision := by simp [Publication.empty]
  observed := by simp [Publication.empty, Publication.payload]

theorem Publication.Sound.mono (sound : publication.Sound epoch attempts family)
    (keeps : ∀ id row, attempts id = some row → row.result ≠ none → ∃ kept,
      later id = some kept ∧ kept.family = row.family ∧ kept.result ≠ none) :
    publication.Sound epoch later family := by
  refine ⟨fun pointer pointed => ?_, sound.revision, sound.observed⟩
  obtain ⟨row, located, inFamily, terminal⟩ := sound.pointed pointer pointed
  obtain ⟨kept, locatedLater, same, terminalLater⟩ := keeps _ row located terminal
  exact ⟨kept, locatedLater, same.trans inFamily, terminalLater⟩

variable {row : RefreshOutcome} {request : StageRequest} {staged : StagedResult}

theorem stageResult_row (run : stageResult epoch publication row request = .ok staged) :
    staged.row.id = row.id ∧ staged.row.family = row.family ∧
      staged.row.sourceEpoch = row.sourceEpoch ∧ staged.row.result ≠ none := by
  rcases stageResult_cases run with ⟨_, rfl⟩ | ⟨_, same, _⟩ | ⟨_, same, _⟩
  · simp [RefreshOutcome.supersede]
  · rw [same]
    simp [RefreshOutcome.finish]
  · rw [same]
    simp [RefreshOutcome.finish]

theorem superseded_eq_false {pointer : Option RefreshOutcomePointer}
    (current : superseded epoch pointer row = false) : epoch = row.sourceEpoch := by
  simp only [superseded, Bool.or_eq_false_iff, bne_eq_false_iff_eq] at current
  exact current.1

theorem stageResult_extends (sound : publication.Sound epoch attempts family)
    (run : stageResult epoch publication row request = .ok staged) :
    publication.Extends staged.publication := by
  rcases stageResult_cases run with ⟨_, rfl⟩ | ⟨_, _, _, _, newer, writes⟩ | ⟨_, _, _, same, _⟩
  · exact .refl _
  · intro pointer pointed
    have older := newer pointer pointed
    rcases writes with ⟨_, advanced, _⟩ | ⟨_, advanced, _⟩
    · refine ⟨_, advanced, older.le, fun payload has => ⟨row.id, rfl, ?_⟩⟩
      exact (sound.revision pointer payload pointed has).trans older.le
    · refine ⟨_, advanced, older.le, fun payload has => ⟨payload, ?_, le_refl _⟩⟩
      simpa [Publication.payload, pointed] using has
  · rw [same]
    exact .refl _

theorem stageResult_sound (sound : publication.Sound epoch attempts row.family)
    (run : stageResult epoch publication row request = .ok staged)
    (located : later row.id = some staged.row)
    (others : ∀ id, id ≠ row.id → later id = attempts id) :
    staged.publication.Sound epoch later row.family := by
  obtain ⟨_, sameFamily, _, terminal⟩ := stageResult_row run
  have moved : publication.Sound epoch later row.family := by
    refine ⟨fun pointer pointed => ?_, sound.revision, sound.observed⟩
    by_cases same : pointer.attemptId = row.id
    · exact ⟨staged.row, same ▸ located, sameFamily, terminal⟩
    · rw [others _ same]
      exact sound.pointed pointer pointed
  rcases stageResult_cases run with ⟨_, rfl⟩ | ⟨current, _, _, _, newer, writes⟩ | ⟨_, _, _, same, _⟩
  · exact moved
  · rcases writes with ⟨_, advanced, required, observations⟩ | ⟨_, advanced, kept⟩
    · refine ⟨fun pointer pointed => ?_, fun pointer payload pointed has => ?_, fun observed payload has => ?_⟩
      · rw [advanced] at pointed
        cases pointed
        exact ⟨staged.row, located, sameFamily, terminal⟩
      · rw [advanced] at pointed
        cases pointed
        cases has
        exact le_refl _
      · have isRow : payload = row.id := by
          simpa [Publication.payload, advanced, eq_comm] using has
        rcases observations with ⟨absent, _⟩ | ⟨observation, written⟩
        · have given := required observed
          rw [absent] at given
          cases given
        · exact ⟨_, written, isRow.symm, (superseded_eq_false current).symm⟩
    · refine ⟨fun pointer pointed => ?_, fun pointer payload pointed has => ?_, fun observed payload has => ?_⟩
      · rw [advanced] at pointed
        cases pointed
        exact ⟨staged.row, located, sameFamily, terminal⟩
      · rw [advanced] at pointed
        cases pointed
        obtain ⟨before, pointedBefore, hasBefore⟩ := Publication.payload_eq_some.mp has
        exact (sound.revision before payload pointedBefore hasBefore).trans (newer before pointedBefore).le
      · rw [kept]
        refine sound.observed observed payload ?_
        simpa [Publication.payload, advanced] using has
  · rw [same]
    exact moved

end Stage

/-! ### The writes of one transaction -/

/-- No attempt published before an older one of its family. -/
def InOrder (history : List (ReadFamily × Nat)) : Prop :=
  history.Pairwise fun earlier later => earlier.1 = later.1 → earlier.2 < later.2

def Latest (history : List (ReadFamily × Nat)) (family : ReadFamily) (payload : Nat) : Prop :=
  (family, payload) ∈ history ∧ ∀ other, (family, other) ∈ history → other ≤ payload

structure OutcomeStore.Sound (store : OutcomeStore) (next : Nat) : Prop where
  numbered : ∀ id row, store.attempts id = some row →
    row.id = id ∧ id < next ∧ row.sourceEpoch ≤ store.epoch
  publication : ∀ family, (store.publication family).Sound store.epoch store.attempts family
  payload : ∀ family payload, (store.publication family).payload = some payload →
    Latest store.history family payload
  ordered : InOrder store.history

/-- The writes of a transaction that holds some fences. A row without a result is one that the
transaction inserted; a family it wrote is one it holds. -/
structure Writes.Sound (store : OutcomeStore) (next : Nat) (holds : ReadFamily → Prop)
    (writes : Writes) : Prop where
  numbered : ∀ id row, writes.attempts id = some row →
    row.id = id ∧ id < next ∧ row.sourceEpoch ≤ store.epoch
  inserted : ∀ id row, writes.attempts id = some row → row.result = none → store.attempts id = none
  agrees : ∀ id row stored, writes.attempts id = some row → store.attempts id = some stored →
    stored.family = row.family
  fenced : ∀ family publication, writes.staged family = some publication → holds family
  staged : ∀ family publication, writes.staged family = some publication →
    publication.Sound store.epoch (store.seen writes) family ∧
      (store.publication family).Extends publication
  payload : ∀ family publication payload, writes.staged family = some publication →
    publication.payload = some payload → Latest (store.history ++ writes.published) family payload
  published : ∀ family id, (family, id) ∈ writes.published → ∃ publication pointer,
    writes.staged family = some publication ∧ publication.pointer = some pointer ∧
      id ≤ pointer.attemptId
  ordered : InOrder (store.history ++ writes.published)

section Writes

variable {store : OutcomeStore} {bound : Nat} {holding : ReadFamily → Prop} {writes : Writes}

theorem Writes.Sound.nothing (ordered : InOrder store.history) : Writes.nothing.Sound store bound holding where
  numbered := by simp [Writes.nothing]
  inserted := by simp [Writes.nothing]
  agrees := by simp [Writes.nothing]
  fenced := by simp [Writes.nothing]
  staged := by simp [Writes.nothing]
  payload := by simp [Writes.nothing]
  published := by simp [Writes.nothing]
  ordered := by simpa [Writes.nothing] using ordered

section

variable (sound : writes.Sound store bound holding)

include sound

theorem Writes.Sound.next {later : Nat} (le : bound ≤ later) : writes.Sound store later holding :=
  { sound with
    numbered := fun id row located =>
      ⟨(sound.numbered id row located).1, (sound.numbered id row located).2.1.trans_le le,
        (sound.numbered id row located).2.2⟩ }

theorem Writes.Sound.holds {more : ReadFamily → Prop} (keeps : ∀ family, holding family → more family) : writes.Sound store bound more :=
  { sound with
    fenced := fun family publication staged => keeps family (sound.fenced family publication staged) }

theorem Writes.Sound.view (valid : store.Sound bound) (family : ReadFamily) :
    (store.view writes family).Sound store.epoch (store.seen writes) family ∧
      (store.publication family).Extends (store.view writes family) := by
  unfold OutcomeStore.view
  cases staged : writes.staged family with
  | some publication => exact sound.staged family publication staged
  | none =>
    refine ⟨(valid.publication family).mono fun id row located terminal => ?_, .refl _⟩
    unfold OutcomeStore.seen
    cases written : writes.attempts id with
    | none => exact ⟨row, located, rfl, terminal⟩
    | some own =>
      refine ⟨own, rfl, (sound.agrees id own row written located).symm, fun fresh => ?_⟩
      rw [sound.inserted id own written fresh] at located
      cases located

theorem Writes.Sound.view_payload (valid : store.Sound bound) {family : ReadFamily} {payload : Nat}
    (has : (store.view writes family).payload = some payload) :
    Latest (store.history ++ writes.published) family payload := by
  unfold OutcomeStore.view at has
  cases staged : writes.staged family with
  | some publication =>
    rw [staged] at has
    exact sound.payload family publication payload staged has
  | none =>
    rw [staged] at has
    obtain ⟨listed, newest⟩ := valid.payload family payload has
    refine ⟨List.mem_append_left _ listed, fun other published => ?_⟩
    rcases List.mem_append.mp published with before | own
    · exact newest other before
    · obtain ⟨_, _, located, _⟩ := sound.published family other own
      rw [staged] at located
      cases located

theorem Writes.Sound.seen_numbered (valid : store.Sound bound) {id : Nat} {row : RefreshOutcome}
    (located : store.seen writes id = some row) :
    row.id = id ∧ id < bound ∧ row.sourceEpoch ≤ store.epoch := by
  rcases Option.or_eq_some_iff.mp located with own | ⟨_, stored⟩
  · exact sound.numbered id row own
  · exact valid.numbered id row stored

theorem Writes.Sound.insert (valid : store.Sound bound) {row : RefreshOutcome}
    (isNext : row.id = bound) (epoch : row.sourceEpoch ≤ store.epoch) :
    (writes.insert row).Sound store (bound + 1) holding := by
  have unknown : store.attempts bound = none := by
    cases located : store.attempts bound with
    | none => rfl
    | some stored => exact absurd (valid.numbered bound stored located).2.1 (lt_irrefl _)
  have unwritten : writes.attempts bound = none := by
    cases located : writes.attempts bound with
    | none => rfl
    | some own => exact absurd (sound.numbered bound own located).2.1 (lt_irrefl _)
  refine ⟨fun id found located => ?_, fun id found located fresh => ?_, fun id found stored located
    storedAt => ?_, sound.fenced, fun family publication staged => ?_, sound.payload,
    sound.published, sound.ordered⟩
  · rcases Writes.insert_attempts_cases located with ⟨rfl, rfl⟩ | ⟨_, before⟩
    · exact ⟨rfl, by omega, epoch⟩
    · obtain ⟨named, lt, le⟩ := sound.numbered id found before
      exact ⟨named, by omega, le⟩
  · rcases Writes.insert_attempts_cases located with ⟨rfl, rfl⟩ | ⟨_, before⟩
    · rw [isNext]
      exact unknown
    · exact sound.inserted id found before fresh
  · rcases Writes.insert_attempts_cases located with ⟨rfl, rfl⟩ | ⟨_, before⟩
    · rw [isNext, unknown] at storedAt
      cases storedAt
    · exact sound.agrees id found stored before storedAt
  · obtain ⟨published, extends_⟩ := sound.staged family publication staged
    refine ⟨published.mono fun id found located terminal => ?_, extends_⟩
    have other : id ≠ row.id := by
      rintro rfl
      rw [isNext, OutcomeStore.seen, unwritten, unknown] at located
      cases located
    refine ⟨found, ?_, rfl, terminal⟩
    unfold OutcomeStore.seen Writes.insert
    simpa [other, OutcomeStore.seen] using located

theorem Writes.Sound.materialize (valid : store.Sound bound) {family : ReadFamily} (held : holding family) (rows : List Json) :
    (writes.putPublication family { store.view writes family with mirror := rows }).Sound store bound holding := by
  obtain ⟨viewed, extends_⟩ := sound.view valid family
  refine ⟨sound.numbered, sound.inserted, sound.agrees, fun other publication staged => ?_,
    fun other publication staged => ?_, fun other publication payload staged has => ?_,
    fun other id listed => ?_, sound.ordered⟩
  · rcases Writes.putPublication_staged_cases staged with ⟨rfl, _⟩ | ⟨_, before⟩
    · exact held
    · exact sound.fenced other publication before
  · rcases Writes.putPublication_staged_cases staged with ⟨rfl, rfl⟩ | ⟨_, before⟩
    · exact ⟨⟨viewed.pointed, viewed.revision, viewed.observed⟩, extends_⟩
    · exact sound.staged other publication before
  · rcases Writes.putPublication_staged_cases staged with ⟨rfl, rfl⟩ | ⟨_, before⟩
    · exact sound.view_payload valid has
    · exact sound.payload other publication payload before has
  · obtain ⟨publication, pointer, staged, pointed, le⟩ := sound.published other id listed
    by_cases same : other = family
    · subst same
      refine ⟨_, pointer, Function.update_self .., ?_, le⟩
      simpa [OutcomeStore.view, staged] using pointed
    · exact ⟨publication, pointer, by simp [Writes.putPublication, same, staged], pointed, le⟩

end

/-- The attempts that published before cannot be newer than a row that may still publish. -/
def OutcomeStore.Ahead (store : OutcomeStore) (row : RefreshOutcome) : Prop :=
  ∀ payload, (row.family, payload) ∈ store.history → row.sourceEpoch = store.epoch →
    payload < row.id ∨ ∃ pointer, (store.publication row.family).pointer = some pointer ∧
      payload ≤ pointer.attemptId

section StageWrites

variable {row : RefreshOutcome} {request : StageRequest} {staged : StagedResult} {id : Nat}

theorem Writes.stage_attempts_cases {found : RefreshOutcome} {other : Nat}
    (located : (writes.stage staged request).attempts other = some found) :
    other = staged.row.id ∧ found = staged.row ∨ other ≠ staged.row.id ∧ writes.attempts other = some found := by
  have inserted : (writes.insert staged.row).attempts other = some found := located
  exact Writes.insert_attempts_cases inserted

theorem Writes.stage_staged_cases {other : ReadFamily} {publication : Publication}
    (located : (writes.stage staged request).staged other = some publication) :
    other = staged.row.family ∧ publication = staged.publication ∨
      other ≠ staged.row.family ∧ writes.staged other = some publication := by
  have put : (writes.putPublication staged.row.family staged.publication).staged other = some publication := located
  exact Writes.putPublication_staged_cases put

theorem Writes.Sound.older (sound : writes.Sound store bound holding) (valid : store.Sound bound)
    (ahead : store.Ahead row) (current : row.sourceEpoch = store.epoch)
    (newer : ∀ pointer, (store.view writes row.family).pointer = some pointer →
      pointer.attemptId < row.id) {payload : Nat}
    (listed : (row.family, payload) ∈ store.history ++ writes.published) : payload < row.id := by
  rcases List.mem_append.mp listed with before | own
  · rcases ahead payload before current with lt | ⟨pointer, pointed, le⟩
    · exact lt
    · obtain ⟨later, pointedLater, leLater, _⟩ := (sound.view valid row.family).2 pointer pointed
      exact (le.trans leLater).trans_lt (newer later pointedLater)
  · obtain ⟨publication, pointer, stagedAt, pointed, le⟩ := sound.published row.family payload own
    refine le.trans_lt (newer pointer ?_)
    simpa [OutcomeStore.view, stagedAt] using pointed

theorem Writes.stage_seen_self : store.seen (writes.stage staged request) staged.row.id = some staged.row := by
  simp [OutcomeStore.seen, Writes.stage, Writes.insert, Writes.putPublication]

theorem Writes.stage_seen_other (other : id ≠ staged.row.id) : store.seen (writes.stage staged request) id = store.seen writes id := by
  simp [OutcomeStore.seen, Writes.stage, Writes.insert, Writes.putPublication, other]

theorem Writes.Sound.stage (sound : writes.Sound store bound holding) (valid : store.Sound bound)
    (located : store.seen writes id = some row) (held : holding row.family)
    (ahead : store.Ahead row)
    (run : stageResult store.epoch (store.view writes row.family) row request = .ok staged) :
    (writes.stage staged request).Sound store bound holding := by
  obtain ⟨sameId, sameFamily, sameEpoch, terminal⟩ := stageResult_row run
  obtain ⟨named, lt, le⟩ := sound.seen_numbered valid located
  obtain ⟨viewed, extends_⟩ := sound.view valid row.family
  have grown := stageResult_extends viewed run
  refine ⟨fun other found at_ => ?_, fun other found at_ fresh => ?_, fun other found stored at_
    storedAt => ?_, fun family publication at_ => ?_, fun family publication at_ => ?_,
    fun family publication payload at_ has => ?_, fun family payload listed => ?_, ?_⟩
  · rcases Writes.stage_attempts_cases at_ with ⟨rfl, rfl⟩ | ⟨_, before⟩
    · exact ⟨rfl, by omega, sameEpoch ▸ le⟩
    · exact sound.numbered other found before
  · rcases Writes.stage_attempts_cases at_ with ⟨rfl, rfl⟩ | ⟨_, before⟩
    · exact absurd fresh terminal
    · exact sound.inserted other found before fresh
  · rcases Writes.stage_attempts_cases at_ with ⟨rfl, rfl⟩ | ⟨_, before⟩
    · rw [sameId, named] at storedAt
      rw [sameFamily]
      rcases Option.or_eq_some_iff.mp located with own | ⟨_, committed⟩
      · exact sound.agrees id row stored own storedAt
      · rw [committed] at storedAt
        cases storedAt
        rfl
    · exact sound.agrees other found stored before storedAt
  · rcases Writes.stage_staged_cases at_ with ⟨rfl, _⟩ | ⟨_, before⟩
    · exact sameFamily ▸ held
    · exact sound.fenced family publication before
  · rcases Writes.stage_staged_cases at_ with ⟨rfl, rfl⟩ | ⟨_, before⟩
    · rw [sameFamily]
      refine ⟨stageResult_sound viewed run ?_ fun other differs => ?_, extends_.trans grown⟩
      · rw [← sameId]
        exact Writes.stage_seen_self
      · exact Writes.stage_seen_other (by rwa [sameId])
    · obtain ⟨published, extendsOther⟩ := sound.staged family publication before
      refine ⟨published.mono fun other found at_ finished => ?_, extendsOther⟩
      by_cases same : other = staged.row.id
      · subst same
        rw [sameId, named, located] at at_
        cases at_
        exact ⟨staged.row, Writes.stage_seen_self, sameFamily, terminal⟩
      · exact ⟨found, by rwa [Writes.stage_seen_other same], rfl, finished⟩
  · have withheld : ∀ other, Latest (store.history ++ writes.published) other payload →
        (other = row.family → staged.selected = false ∨ request.publishes = false) →
        Latest (store.history ++ (writes.stage staged request).published) other payload := by
      intro other newest quiet
      rw [Writes.stage, ← List.append_assoc]
      refine ⟨List.mem_append_left _ newest.1, fun entry listed => ?_⟩
      rcases List.mem_append.mp listed with before | own
      · exact newest.2 entry before
      split at own
      · rename_i chosen
        obtain ⟨selected, publishes⟩ := by simpa using chosen
        obtain ⟨rfl, rfl⟩ : other = staged.row.family ∧ entry = staged.row.id := by
          simpa using own
        rcases quiet sameFamily with unselected | unpublished
        · rw [unselected] at selected
          cases selected
        · rw [unpublished] at publishes
          cases publishes
      · cases own
    rcases Writes.stage_staged_cases at_ with ⟨rfl, rfl⟩ | ⟨differs, before⟩
    · rw [sameFamily]
      rcases stageResult_cases run with ⟨_, rfl⟩ | ⟨current, _, selected, _, newer, wrote⟩ | ⟨_, _, unselected, same, _⟩
      · exact withheld _ (sound.view_payload valid has) fun _ => .inl rfl
      · rcases wrote with ⟨publishes, advanced, _⟩ | ⟨unpublished, advanced, _⟩
        · have isRow : payload = row.id := by
            simpa [Publication.payload, advanced, eq_comm] using has
          rw [Writes.stage, ← List.append_assoc, selected, publishes, sameFamily, sameId, isRow]
          refine ⟨by simp, fun entry listed => ?_⟩
          rcases List.mem_append.mp listed with before | own
          · exact (sound.older valid ahead (superseded_eq_false current).symm newer before).le
          · simp at own
            exact own.le
        · refine withheld _ (sound.view_payload valid ?_) fun _ => .inr unpublished
          simpa [Publication.payload, advanced] using has
      · rw [same] at has
        exact withheld _ (sound.view_payload valid has) fun _ => .inl unselected
    · refine withheld _ (sound.payload family publication payload before has) fun same => ?_
      exact absurd (same.trans sameFamily.symm) differs
  · rcases List.mem_append.mp listed with before | own
    · obtain ⟨publication, pointer, at_, pointed, order⟩ := sound.published family payload before
      by_cases same : family = staged.row.family
      · have viewedAt : (store.view writes row.family).pointer = some pointer := by
          rw [← sameFamily, ← same]
          simpa [OutcomeStore.view, at_] using pointed
        obtain ⟨later, pointedLater, orderLater, _⟩ := grown pointer viewedAt
        exact ⟨staged.publication, later, by simp [Writes.stage, Writes.putPublication, same], pointedLater, order.trans orderLater⟩
      · exact ⟨publication, pointer, by simp [Writes.stage, Writes.putPublication, same, at_], pointed, order⟩
    · split at own
      · rename_i chosen
        obtain ⟨selected, publishes⟩ := by simpa using chosen
        obtain ⟨rfl, rfl⟩ : family = staged.row.family ∧ payload = staged.row.id := by
          simpa using own
        rcases stageResult_cases run with ⟨_, rfl⟩ | ⟨_, _, _, _, _, wrote⟩ | ⟨_, _, unselected, _⟩
        · cases selected
        · rcases wrote with ⟨_, advanced, _⟩ | ⟨withheld, _⟩
          · exact ⟨staged.publication, _, by simp [Writes.stage, Writes.putPublication], advanced, sameId.le⟩
          · rw [publishes] at withheld
            cases withheld
        · rw [unselected] at selected
          cases selected
      · cases own
  · rw [Writes.stage, ← List.append_assoc]
    refine List.pairwise_append.mpr ⟨sound.ordered, ?_, fun earlier listed later added same => ?_⟩
    · split
      · exact List.pairwise_singleton ..
      · exact List.Pairwise.nil
    · split at added
      · rename_i chosen
        obtain ⟨selected, _⟩ := by simpa using chosen
        obtain rfl : later = (staged.row.family, staged.row.id) := by simpa using added
        obtain ⟨family, payload⟩ := earlier
        subst same
        rcases stageResult_cases run with ⟨_, rfl⟩ | ⟨current, _, _, _, newer, _⟩ | ⟨_, _, unselected, _⟩
        · cases selected
        · rw [sameId]
          refine sound.older valid ahead (superseded_eq_false current).symm newer ?_
          rwa [sameFamily] at listed
        · rw [unselected] at selected
          cases selected
      · cases added

end StageWrites

theorem Writes.Sound.apply (sound : writes.Sound store bound holding) (valid : store.Sound bound) : (store.apply writes).Sound bound where
  numbered := fun _ _ located => sound.seen_numbered valid located
  publication := fun family => (sound.view valid family).1
  payload := fun _ _ has => sound.view_payload valid has
  ordered := sound.ordered

theorem Writes.Sound.applyOther {other : Writes} {otherHolding : ReadFamily → Prop}
    (sound : other.Sound store bound otherHolding) (committed : writes.Sound store bound holding)
    (families : ∀ family, holding family → ¬ otherHolding family)
    (attempts : ∀ id, writes.attempts id ≠ none → other.attempts id ≠ none → store.attempts id ≠ none) :
    other.Sound (store.apply writes) bound otherHolding := by
  have untouched : ∀ family, otherHolding family → writes.staged family = none := by
    intro family held
    cases staged : writes.staged family with
    | none => rfl
    | some publication => exact absurd held (families family (committed.fenced _ _ staged))
  refine ⟨sound.numbered, fun id row located fresh => ?_, fun id row stored located storedAt => ?_,
    sound.fenced, fun family publication staged => ?_, fun family publication payload staged has => ?_,
    sound.published, ?_⟩
  · have before := sound.inserted id row located fresh
    cases own : writes.attempts id with
    | none => simp [OutcomeStore.apply, OutcomeStore.seen, own, before]
    | some written =>
      exact absurd before (attempts id (by simp [own]) (by simp [located]))
  · rcases Option.or_eq_some_iff.mp storedAt with own | ⟨_, before⟩
    · have known := attempts id (by simp [own]) (by simp [located])
      obtain ⟨earlier, at_⟩ := Option.ne_none_iff_exists'.mp known
      rw [← committed.agrees id stored earlier own at_]
      exact sound.agrees id row earlier located at_
    · exact sound.agrees id row stored located before
  · obtain ⟨published, extends_⟩ := sound.staged family publication staged
    have free := untouched family (sound.fenced family publication staged)
    refine ⟨published.mono fun id row located terminal => ?_, ?_⟩
    · rcases Option.or_eq_some_iff.mp located with own | ⟨unwritten, stored⟩
      · exact ⟨row, by simp [OutcomeStore.seen, own], rfl, terminal⟩
      cases written : writes.attempts id with
      | none =>
        refine ⟨row, ?_, rfl, terminal⟩
        simp [OutcomeStore.seen, OutcomeStore.apply, unwritten, written, stored]
      | some own =>
        refine ⟨own, ?_, (committed.agrees id own row written stored).symm, fun fresh => ?_⟩
        · simp [OutcomeStore.seen, OutcomeStore.apply, unwritten, written]
        · rw [committed.inserted id own written fresh] at stored
          cases stored
    · simpa [OutcomeStore.apply, OutcomeStore.view, free] using extends_
  · obtain ⟨listed, newest⟩ := sound.payload family publication payload staged has
    have free := untouched family (sound.fenced family publication staged)
    show Latest (store.history ++ writes.published ++ other.published) family payload
    simp only [List.mem_append, Latest] at listed newest ⊢
    refine ⟨listed.imp_left .inl, fun entry known => ?_⟩
    rcases known with (before | committedToo) | own
    · exact newest entry (.inl before)
    · obtain ⟨_, _, located, _⟩ := committed.published family entry committedToo
      rw [free] at located
      cases located
    · exact newest entry (.inr own)
  · obtain ⟨_, own, late⟩ := List.pairwise_append.mp sound.ordered
    refine List.pairwise_append.mpr ⟨committed.ordered, own, fun earlier listed later added => ?_⟩
    rcases List.mem_append.mp listed with before | written
    · exact late earlier before later added
    · intro same
      obtain ⟨_, _, staged, _⟩ := committed.published earlier.1 earlier.2 written
      obtain ⟨_, _, stagedOther, _⟩ := sound.published later.1 later.2 added
      exact absurd (sound.fenced _ _ stagedOther) (same ▸ families earlier.1 (committed.fenced _ _ staged))

theorem Writes.Sound.rekey (sound : writes.Sound store bound holding) (free : ∀ family, ¬ holding family) (identity : String × String) :
    writes.Sound (store.rekey identity) bound holding := by
  have unstaged : ∀ family publication, writes.staged family ≠ some publication :=
    fun family publication staged => free family (sound.fenced family publication staged)
  exact
    { numbered := fun id row located =>
        ⟨(sound.numbered id row located).1, (sound.numbered id row located).2.1,
          Nat.le_succ_of_le (sound.numbered id row located).2.2⟩
      inserted := sound.inserted
      agrees := sound.agrees
      fenced := sound.fenced
      staged := fun family publication staged => absurd staged (unstaged family publication)
      payload := fun family publication _ staged => absurd staged (unstaged family publication)
      published := sound.published
      ordered := sound.ordered }

theorem OutcomeStore.Sound.rekey (valid : store.Sound bound) (identity : String × String) : (store.rekey identity).Sound bound where
  numbered := fun id row located =>
    ⟨(valid.numbered id row located).1, (valid.numbered id row located).2.1, Nat.le_succ_of_le (valid.numbered id row located).2.2⟩
  publication := fun _ => .empty
  payload := by simp [OutcomeStore.rekey, Publication.empty, Publication.payload]
  ordered := valid.ordered

theorem OutcomeStore.Sound.next {later : Nat} (valid : store.Sound bound) (le : bound ≤ later) : store.Sound later :=
  { valid with
    numbered := fun id row located =>
      ⟨(valid.numbered id row located).1, (valid.numbered id row located).2.1.trans_le le,
        (valid.numbered id row located).2.2⟩ }

end Writes

end NsoAdapter.Refresh
