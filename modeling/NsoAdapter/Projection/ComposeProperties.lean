import NsoAdapter.Projection.Compose

/-! What a composed document holds: the rows of a contributing stream, under the
section the stream belongs to. -/

namespace NsoAdapter.Projection
open Lib

def Tables.Distinct (tables : Tables) : Prop :=
  (tables.map (·.1)).Nodup

theorem Tables.rows_set (tables : Tables) (table other : IntentTable) (rows : List Row) :
    Tables.rows (Dict.set tables table rows) other = if table = other then rows else tables.rows other := by
  have written : Dict.get? (Dict.set tables table rows) other = if table = other then some rows else Dict.get? tables other := Dict.get?_set
  unfold Tables.rows
  unfold Dict.get? at written
  rw [written]
  split <;> rfl

theorem ProjectionStream.mem_all (stream : ProjectionStream) : stream ∈ ProjectionStream.all := by
  cases stream <;> decide

theorem DocumentSection.mem_all (scope : DocumentSection) : scope ∈ DocumentSection.all := by
  cases scope <;> decide

variable {stream : ProjectionStream} {table : IntentTable} {fragments : Fragments}
  {contributions : List (ProjectionStream × Fragment)} {document : Document} {fragment : Fragment}

variable {other : ProjectionStream} {scope : DocumentSection} {rows : List Row}

theorem ProjectionStream.streamTables_disjoint (different : other ≠ stream)
    (sameSection : other.streamSection = stream.streamSection) (owned : table ∈ stream.streamTables) :
    table ∉ other.streamTables := by
  have each : ∀ left ∈ ProjectionStream.all, ∀ right ∈ ProjectionStream.all, right ≠ left →
      right.streamSection = left.streamSection → ∀ table ∈ left.streamTables, table ∉ right.streamTables := by decide +kernel
  exact each stream stream.mem_all other other.mem_all different sameSection table owned

theorem ProjectionStream.outOfProtocol_alone (outside : stream.outOfProtocol = true)
    (sameSection : other.streamSection = stream.streamSection) : other = stream := by
  have each : ∀ left ∈ ProjectionStream.all, ∀ right ∈ ProjectionStream.all,
      left.outOfProtocol = true → right.streamSection = left.streamSection → right = left := by decide +kernel
  exact each stream stream.mem_all other other.mem_all outside sameSection

theorem ProjectionStream.streamTables_nodup (stream : ProjectionStream) : stream.streamTables.Nodup := by
  cases stream <;> decide

theorem mem_contributionsTo {entry : ProjectionStream × Fragment} : entry ∈ contributionsTo fragments scope ↔
      entry.1.streamSection = scope ∧ fragments entry.1 = some entry.2 := by
  unfold contributionsTo
  rw [List.mem_filterMap]
  constructor
  · rintro ⟨stream, _, contributed⟩
    split at contributed
    · rename_i inside
      obtain ⟨fragment, found, rfl⟩ := Option.map_eq_some_iff.mp contributed
      exact ⟨inside, found⟩
    · cases contributed
  · rintro ⟨inside, found⟩
    refine ⟨entry.1, ProjectionStream.mem_all _, ?_⟩
    rw [if_pos inside, found]
    rfl

theorem foldl_update_get? {start : Tables} (distinct : ∀ entry ∈ contributions, entry.2.tables.Distinct)
    (agree : ∀ entry ∈ contributions, Dict.get? entry.2.tables table = none ∨
      Dict.get? entry.2.tables table = some rows) (held : Dict.get? start table = some rows ∨
      ∃ entry ∈ contributions, Dict.get? entry.2.tables table = some rows) :
    Dict.get? (contributions.foldl (fun tables entry => Dict.update tables entry.2.tables) start) table = some rows := by
  induction contributions generalizing start with
  | nil =>
    rcases held with kept | ⟨_, member, _⟩
    · exact kept
    · cases member
  | cons entry rest ih =>
    have updated : Dict.get? (Dict.update start entry.2.tables) table = (Dict.get? entry.2.tables table).or (Dict.get? start table) := by
      rw [Dict.get?_update, Dict.get?_reverse (distinct entry List.mem_cons_self)]
    refine ih (fun other member => distinct other (List.mem_cons_of_mem _ member))
      (fun other member => agree other (List.mem_cons_of_mem _ member)) ?_
    rw [updated]
    rcases agree entry List.mem_cons_self with absent | present
    · rw [absent]
      rcases held with kept | ⟨other, member, present⟩
      · exact .inl kept
      · rcases List.mem_cons.mp member with rfl | later
        · rw [absent] at present
          cases present
        · exact .inr ⟨other, later, present⟩
    · rw [present]
      exact .inl rfl

theorem composeSection_ok {entry : DocumentSection × SectionBody} (composed : composeSection scope contributions = .ok entry) :
    entry.1 = scope ∧ entry.2.tables = sectionTables contributions := by
  obtain ⟨_, _, returned⟩ := bind_eq_ok.mp composed
  cases returned
  exact ⟨rfl, rfl⟩

theorem mergeProof_apply {proof merged : SectionProof} {contribution : ProjectionStream × Fragment}
    (merges : mergeProof contributions proof contribution = .ok merged) :
    merged.apply = (contribution.2.proof.bind (·.apply)).or proof.apply := by
  unfold mergeProof at merges
  cases frozen : contribution.2.proof with
  | none =>
    rw [frozen] at merges
    cases merges
    rfl
  | some found =>
    rw [frozen] at merges
    dsimp only at merges
    split at merges
    · cases merges
      rfl
    · obtain ⟨_, _, returned⟩ := bind_eq_ok.mp merges
      cases returned
      rfl

section

variable (composed : composeDocument fragments = .ok document)

include composed

theorem composeDocument_composes (contributes : fragments stream = some fragment) :
    ∃ body scope, document.lookup stream.streamSection = some body ∧
      composeSection scope (contributionsTo fragments stream.streamSection) = .ok (scope, body) := by
  have listed : (stream, fragment) ∈ contributionsTo fragments stream.streamSection := mem_contributionsTo.mpr ⟨rfl, contributes⟩
  have present : contributors fragments stream.streamSection = some (contributionsTo fragments stream.streamSection) := by
    unfold contributors
    cases found : contributionsTo fragments stream.streamSection with
    | nil =>
      rw [found] at listed
      cases listed
    | cons => rfl
  have sections := Dict.get?_filterMap (DocumentSection.mem_all stream.streamSection) (contributors fragments)
  rw [present] at sections
  have each := (forall₂_of_mapM composed).imp fun entry made composes =>
    (⟨(composeSection_ok composes).1, entry.1, by
      rw [composes, ← (composeSection_ok composes).1]⟩ :
      made.1 = entry.1 ∧ ∃ scope, composeSection scope entry.2 = .ok (scope, made.2))
  obtain ⟨body, located, scope, made⟩ := Dict.get?_of_forall₂ (fun contributions body =>
    ∃ scope, composeSection scope contributions = .ok (scope, body)) each sections
  exact ⟨body, scope, located, made⟩

theorem composeDocument_section (contributes : fragments stream = some fragment) :
    ∃ body, document.lookup stream.streamSection = some body ∧
      body.tables = sectionTables (contributionsTo fragments stream.streamSection) := by
  obtain ⟨body, scope, located, made⟩ := composeDocument_composes composed contributes
  exact ⟨body, located, (composeSection_ok made).2⟩

theorem composeDocument_rows (contributes : fragments stream = some fragment)
    (distinct : ∀ other found, other.streamSection = stream.streamSection →
      fragments other = some found → found.tables.Distinct)
    (held : Dict.get? fragment.tables table = some rows)
    (alone : ∀ other found, other ≠ stream → other.streamSection = stream.streamSection →
      fragments other = some found → Dict.get? found.tables table = none) :
    ∃ body, document.lookup stream.streamSection = some body ∧ body.tables.rows table = rows := by
  obtain ⟨body, located, tables⟩ := composeDocument_section composed contributes
  have combined : Dict.get? (sectionTables (contributionsTo fragments stream.streamSection)) table = some rows := by
    refine foldl_update_get? ?_ ?_ (.inr ⟨(stream, fragment), ?_, held⟩)
    · rintro ⟨other, found⟩ member
      obtain ⟨inside, contributed⟩ := mem_contributionsTo.mp member
      exact distinct other found inside contributed
    · rintro ⟨other, found⟩ member
      obtain ⟨inside, contributed⟩ := mem_contributionsTo.mp member
      by_cases own : other = stream
      · rw [own, contributes] at contributed
        cases contributed
        exact .inr held
      · exact .inl (alone other found own inside contributed)
    · exact mem_contributionsTo.mpr ⟨rfl, contributes⟩
  refine ⟨body, located, ?_⟩
  unfold Tables.rows
  unfold Dict.get? at combined
  rw [tables, combined]
  rfl

end

end NsoAdapter.Projection
