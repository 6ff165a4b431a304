import NsoAdapter.Execution.OriginRecorder

/-! What the origins of an encoded document keep: one entry for each key, one logical row for
each natural row, and only rows that an encoder recorded. -/

namespace NsoAdapter.Execution
open Lib Projection

variable {protocol : RefusalProtocol}

structure OriginIndex.Keyed (index : OriginIndex) : Prop where
  bindings : (index.bindings.map (·.1)).Nodup
  unsupported : (index.unsupported.map (·.1)).Nodup
  subjects : (index.unsupportedSubjects.map (·.1)).Nodup

structure LogicalRow.OwnCarrier (logical : LogicalRow) : Prop where
  stream : logical.carrier.stream = logical.stream
  row : logical.carrier.rootRow = logical.row

namespace OriginIndex

theorem Keyed.empty : OriginIndex.empty.Keyed := ⟨List.nodup_nil, List.nodup_nil, List.nodup_nil⟩

/-- The part of an index that attribution reads is drawn from `rows`: distinct rows, each with
its carrier among them. -/
structure Recorded (index : OriginIndex) (rows : List LogicalRow) : Prop extends
    index.Keyed where
  distinct : (rows.map fun logical => (logical.stream, logical.row)).Nodup
  rooted : ∀ logical ∈ rows, ∃ root ∈ rows, root.carrier = logical.carrier ∧ root.OwnCarrier
  current : ∀ entry ∈ index.bindings, entry.2.provenance = .current
  drawn : ∀ entry ∈ index.bindings, ∀ logical ∈ entry.2.logicalRows, logical ∈ rows

variable {index after : OriginIndex} {rows : List LogicalRow}

theorem Recorded.empty : Recorded .empty [] := ⟨.empty, List.nodup_nil, fun _ member => absurd member List.not_mem_nil,
    fun _ member => absurd member List.not_mem_nil, fun _ member => absurd member List.not_mem_nil⟩

theorem Recorded.unsupport (sound : Recorded index rows) (key : OriginKey) (reason : FailureReason)
    (keep : OriginKey × OriginBinding → Bool) :
    Recorded { index with
      bindings := index.bindings.filter keep
      unsupported := index.unsupported.set key reason } rows where
  bindings := sound.bindings.sublist (List.filter_sublist.map _)
  unsupported := Dict.nodup_set sound.unsupported key reason
  subjects := sound.subjects
  distinct := sound.distinct
  rooted := sound.rooted
  current := fun entry member => sound.current entry (List.mem_of_mem_filter member)
  drawn := fun entry member => sound.drawn entry (List.mem_of_mem_filter member)

theorem Recorded.markKey (sound : Recorded index rows) (preserveCurrent : Bool) (reason : FailureReason) (key : OriginKey) :
    Recorded (index.markKey preserveCurrent reason key) rows := by
  unfold OriginIndex.markKey
  split
  · exact sound
  · exact sound.unsupport key reason _

theorem Recorded.contributions (sound : Recorded index rows) (retained : List RetainedContribution)
    (omitted : List PriorContribution) : Recorded { index with retained, omitted } rows :=
  ⟨⟨sound.bindings, sound.unsupported, sound.subjects⟩, sound.distinct, sound.rooted, sound.current, sound.drawn⟩

/-- A property of an index that marking one key and noting a contribution leave alone. -/
structure Stable (holds : OriginIndex → Prop) : Prop where
  marks : ∀ index preserveCurrent reason key, holds index →
    holds (index.markKey preserveCurrent reason key)
  contributions : ∀ (index : OriginIndex) retained omitted, holds index →
    holds { index with retained, omitted }

theorem Recorded.stable (rows : List LogicalRow) : Stable (Recorded · rows) :=
  ⟨fun _ preserveCurrent reason key sound => sound.markKey preserveCurrent reason key,
    fun _ retained omitted sound => sound.contributions retained omitted⟩

variable {holds : OriginIndex → Prop} {family : String} {row : RowRef} {reason : FailureReason}
  {preserveCurrent : Bool}

theorem markUnsupported_ok (marked : markUnsupported protocol index family row reason preserveCurrent = .ok after) :
    ∃ fields, after = (none :: fields).foldl (fun index field =>
      index.markKey preserveCurrent reason ⟨family, row, field⟩) index := by
  unfold OriginIndex.markUnsupported at marked
  split at marked
  · cases marked
  · cases marked
    exact ⟨_, rfl⟩

theorem markFields_keeps (holds : OriginIndex → Prop) (marks : ∀ index key, holds index → holds (index.markKey preserveCurrent reason key))
    (fields : List (Option String)) (initially : holds index) :
    holds (fields.foldl (fun index field =>
      index.markKey preserveCurrent reason ⟨family, row, field⟩) index) :=
  List.foldlRecOn _ _ initially fun index held _ _ => marks index _ held

theorem Stable.markUnsupported (stable : Stable holds) (initially : holds index)
    (marked : markUnsupported protocol index family row reason preserveCurrent = .ok after) :
    holds after := by
  obtain ⟨fields, rfl⟩ := markUnsupported_ok marked
  exact markFields_keeps holds (fun index => stable.marks index _ _) _ initially

theorem Stable.recordRetained (stable : Stable holds) {contribution : RetainedContribution}
    (initially : holds index) (recorded : recordRetained protocol index contribution = .ok after) :
    holds after := by
  obtain ⟨marked, first, second⟩ := bind_eq_ok.mp recorded
  have noted := stable.contributions index (index.retained ++ [contribution]) index.omitted initially
  exact stable.markUnsupported (stable.markUnsupported noted first) second

theorem Stable.recordOmission (stable : Stable holds) {contribution : PriorContribution}
    (initially : holds index) (recorded : recordOmission protocol index contribution = .ok after) :
    holds after :=
  stable.markUnsupported (stable.contributions index index.retained _ initially) recorded

end OriginIndex

/-! ### The recorder of a section -/

namespace OriginRecorder

inductive Bound (recorder : OriginRecorder) (key : OriginKey) (logicals : List LogicalRow) :
    OriginRecorder → Prop where
  | unsupported (reason : FailureReason) : Bound recorder key logicals
      { recorder with index := { recorder.index with
          unsupported := recorder.index.unsupported.set key reason } }
  | binding (binding : OriginBinding) (current : binding.provenance = .current)
      (rows : binding.logicalRows = logicals) : Bound recorder key logicals
      { recorder with index := { recorder.index with
          bindings := recorder.index.bindings.set key binding } }

variable {recorder after : OriginRecorder}

variable {key : OriginKey} {logicals : List LogicalRow} {sources : Option (List SourceRef)}
  {row : RowRef}

theorem bind_bound {construct : String} (bound : recorder.bind key logicals construct sources = .ok after) :
    Bound recorder key logicals after := by
  unfold OriginRecorder.bind at bound
  dsimp only at bound
  split at bound
  · cases bound
  split at bound
  · cases bound
    exact .unsupported .missingBinding
  · split at bound
    · cases bound
      exact .binding _ rfl rfl
    · cases bound
      exact .unsupported .mixedStream

variable {logicalRows : List LogicalRow} {fieldRows : Option (Dict String (List LogicalRow))}
  {fieldSources : Option (Dict String (List SourceRef))}

theorem emit_keeps {rows : List LogicalRow} (holds : OriginRecorder → Prop)
    (keeps : ∀ before key logicals after, holds before → (∀ logical ∈ logicals, logical ∈ rows) →
      Bound before key logicals after → holds after)
    (drawn : ∀ logical ∈ logicalRows, logical ∈ rows)
    (fieldsDrawn : ∀ dict ∈ fieldRows, ∀ entry ∈ dict, ∀ logical ∈ entry.2, logical ∈ rows)
    (initially : holds recorder)
    (emitted : emit protocol recorder row logicalRows fieldRows sources fieldSources = .ok after) :
    holds after := by
  obtain ⟨subject, _, rest⟩ := bind_eq_ok.mp emitted
  obtain ⟨bound, first, fields⟩ := bind_eq_ok.mp rest
  have whole : ∀ logical ∈ logicalRows.eraseDups, logical ∈ rows := fun logical member => drawn logical (List.mem_eraseDups.mp member)
  refine foldlM_ok holds ?_ (keeps _ _ _ _ initially whole (bind_bound first)) fields
  intro declared _ before next held stepped
  refine keeps _ _ _ _ held ?_ (bind_bound stepped)
  intro logical member
  cases given : fieldRows.bind (·.get? declared) with
  | none =>
    rw [given] at member
    exact whole logical member
  | some own =>
    rw [given] at member
    obtain ⟨dict, present, found⟩ := Option.bind_eq_some_iff.mp given
    exact fieldsDrawn dict present _ (Dict.mem_of_get? found) logical (List.mem_eraseDups.mp member)

theorem subjectOf_ok {family subject : String} {declared : Subject} (found : subjectOf protocol family subject = .ok declared) :
    protocol.subjects subject = some declared ∧ declared.family = family := by
  unfold subjectOf at found
  split at found
  · rename_i known present
    split at found
    · rename_i same
      cases found
      exact ⟨present, same⟩
    · cases found
  · cases found

variable {facts : SourceFacts} {carrier : Option SettlementOwner} {children : List SourceFacts}

theorem logical_ok (recorded : logical protocol recorder row facts carrier children = .ok after) :
    (∃ declared, protocol.subjects row.subject = some declared ∧ declared.family = recorder.family) ∧
      (∀ known ∈ recorder.contributors, (known.stream, known.row) ≠ (facts.stream, row)) ∧
      after = { recorder with
        contributors := recorder.contributors ++
          [recorder.context.contributor row facts carrier children] } := by
  obtain ⟨declared, found, rest⟩ := bind_eq_ok.mp recorded
  split at rest
  · cases rest
  rename_i fresh
  cases rest
  refine ⟨⟨declared, subjectOf_ok found⟩, fun known member same => fresh ?_, rfl⟩
  obtain ⟨sameStream, sameRow⟩ := Prod.mk.inj same
  refine List.any_eq_true.mpr ⟨known, member, ?_⟩
  rw [sameStream, sameRow, beq_self_eq_true, beq_self_eq_true, Bool.and_self]

/-- The invariant of a section's recorder, where every row that its encoder records is `good`. -/
structure Sound (protocol : RefusalProtocol) (context : OriginContext) (good : LogicalRow → Prop)
    (recorder : OriginRecorder) : Prop extends
    recorder.index.Recorded recorder.contributors where
  context : recorder.context = context
  declared : ∀ logical ∈ recorder.contributors, ∃ declared,
    protocol.subjects logical.row.subject = some declared ∧ declared.family = recorder.family
  good : ∀ logical ∈ recorder.contributors, good logical

variable {context : OriginContext} {good : LogicalRow → Prop}

theorem Sound.bound (sound : recorder.Sound protocol context good) (drawn : ∀ logical ∈ logicals, logical ∈ recorder.contributors)
    (bound : Bound recorder key logicals after) : after.Sound protocol context good := by
  cases bound with
  | unsupported reason =>
    exact ⟨⟨⟨sound.bindings, Dict.nodup_set sound.unsupported key reason, sound.subjects⟩,
      sound.distinct, sound.rooted, sound.current, sound.drawn⟩, sound.context, sound.declared,
      sound.good⟩
  | binding binding current rows =>
    refine ⟨⟨⟨Dict.nodup_set sound.bindings key binding, sound.unsupported, sound.subjects⟩,
      sound.distinct, sound.rooted, ?_, ?_⟩, sound.context, sound.declared, sound.good⟩
    · intro entry member
      rcases Dict.mem_set member with old | rfl
      · exact sound.current entry old
      · exact current
    · intro entry member
      rcases Dict.mem_set member with old | rfl
      · exact sound.drawn entry old
      · exact rows ▸ drawn

theorem Bound.kept (bound : Bound recorder key logicals after) :
    after.contributors = recorder.contributors ∧ after.family = recorder.family := by
  cases bound <;> exact ⟨rfl, rfl⟩

theorem Bound.mem_keys {other : OriginKey} (bound : Bound recorder key logicals after) (known : other = key ∨ other ∈ recorder.index.keys) :
    other ∈ after.index.keys := by
  unfold OriginIndex.keys at known ⊢
  rw [List.mem_append] at known
  rw [List.mem_append]
  cases bound with
  | unsupported | binding =>
    rw [Dict.mem_keys_set]
    tauto

theorem Sound.emit (sound : recorder.Sound protocol context good) (drawn : ∀ logical ∈ logicalRows, logical ∈ recorder.contributors)
    (fieldsDrawn : ∀ dict ∈ fieldRows, ∀ entry ∈ dict, ∀ logical ∈ entry.2, logical ∈ recorder.contributors)
    (emitted : OriginRecorder.emit protocol recorder row logicalRows fieldRows sources fieldSources =
      .ok after) : after.Sound protocol context good := by
  refine (emit_keeps (fun state => state.Sound protocol context good ∧
    state.contributors = recorder.contributors) ?_ drawn fieldsDrawn ⟨sound, rfl⟩ emitted).1
  intro before key logicals next held drawn bound
  exact ⟨held.1.bound (held.2 ▸ drawn) bound, bound.kept.1.trans held.2⟩

theorem emit_mem_keys (emitted : OriginRecorder.emit protocol recorder row logicalRows fieldRows sources fieldSources = .ok after) :
    (⟨recorder.family, row, none⟩ : OriginKey) ∈ after.index.keys ∧
      after.contributors = recorder.contributors ∧ after.family = recorder.family := by
  obtain ⟨subject, _, rest⟩ := bind_eq_ok.mp emitted
  obtain ⟨bound, first, fields⟩ := bind_eq_ok.mp rest
  have start := bind_bound first
  refine foldlM_ok (fun state : OriginRecorder =>
    (⟨recorder.family, row, none⟩ : OriginKey) ∈ state.index.keys ∧
      state.contributors = recorder.contributors ∧ state.family = recorder.family)
    ?_ ⟨start.mem_keys (.inl rfl), start.kept⟩ fields
  intro declared _ before next held stepped
  have step := bind_bound stepped
  exact ⟨step.mem_keys (.inr held.1), step.kept.1.trans held.2.1, step.kept.2.trans held.2.2⟩

theorem Sound.logical (sound : recorder.Sound protocol context good)
    (carried : ∀ owner ∈ carrier, ∃ known ∈ recorder.contributors, known.carrier = owner)
    (new : good (context.contributor row facts carrier children))
    (recorded : OriginRecorder.logical protocol recorder row facts carrier children = .ok after) :
    after.Sound protocol context good := by
  obtain ⟨declared, fresh, rfl⟩ := logical_ok recorded
  have same := sound.context
  subst same
  refine ⟨⟨sound.toKeyed, ?_, ?_, sound.current, ?_⟩, rfl, ?_, ?_⟩
  · rw [List.map_append, List.map_singleton, List.nodup_append]
    refine ⟨sound.distinct, List.pairwise_singleton _ _, ?_⟩
    intro known member new single
    obtain ⟨logical, present, rfl⟩ := List.mem_map.mp member
    exact List.mem_singleton.mp single ▸ fresh logical present
  · intro logical member
    rcases List.mem_append.mp member with old | single
    · obtain ⟨root, present, rest⟩ := sound.rooted logical old
      exact ⟨root, List.mem_append_left _ present, rest⟩
    · obtain rfl := List.mem_singleton.mp single
      cases carrier with
      | none => exact ⟨_, List.mem_append_right _ List.mem_cons_self, rfl, rfl, rfl⟩
      | some owner =>
        obtain ⟨known, present, rfl⟩ := carried owner rfl
        obtain ⟨root, listed, rest⟩ := sound.rooted known present
        exact ⟨root, List.mem_append_left _ listed, rest⟩
  · exact fun entry member logical own =>
      List.mem_append_left _ (sound.drawn entry member logical own)
  · intro logical member
    rcases List.mem_append.mp member with old | single
    · exact sound.declared logical old
    · obtain rfl := List.mem_singleton.mp single
      exact declared
  · intro logical member
    rcases List.mem_append.mp member with old | single
    · exact sound.good logical old
    · obtain rfl := List.mem_singleton.mp single
      exact new

theorem mem_rowsAt {places : List Nat} {logical : LogicalRow}
    (member : logical ∈ recorder.rowsAt places) : logical ∈ recorder.contributors := by
  obtain ⟨place, _, found⟩ := List.mem_filterMap.mp member
  exact List.mem_of_getElem? found

end OriginRecorder

/-- Every row that an emission records is `good`, given that the carrier it names is. -/
def Emission.Yields (context : OriginContext) (good : LogicalRow → Prop) : Emission → Prop
  | .logical row facts none children => good (context.contributor row facts none children)
  | .logical row facts (some _) children =>
    ∀ known, good known → good (context.contributor row facts (some known.carrier) children)
  | .emit .. | .unsupportedSubject _ | .markUnsupported _ => True

namespace OriginRecorder

variable {recorder after : OriginRecorder} {context : OriginContext} {good : LogicalRow → Prop}

theorem Sound.perform (sound : recorder.Sound protocol context good) {emission : Emission} (yields : emission.Yields context good)
    (performed : OriginRecorder.perform protocol recorder emission = .ok after) :
    after.Sound protocol context good := by
  cases emission with
  | logical row facts carrier children =>
    cases carrier with
    | none => exact sound.logical (fun _ absent => by cases absent) yields performed
    | some place =>
      unfold OriginRecorder.perform at performed
      dsimp only at performed
      split at performed
      · cases performed
        exact sound
      · rename_i known found
        have present := List.mem_of_getElem? found
        refine sound.logical ?_ (yields known (sound.good known present)) performed
        rintro owner ⟨⟩
        exact ⟨known, present, rfl⟩
  | emit row rows fieldRows sources fieldSources =>
    refine sound.emit (fun _ => mem_rowsAt) ?_ performed
    intro dict present entry member logical own
    obtain ⟨named, _, rfl⟩ := Option.map_eq_some_iff.mp present
    obtain ⟨place, _, rfl⟩ := List.mem_map.mp member
    exact mem_rowsAt own
  | unsupportedSubject subject =>
    cases performed
    exact ⟨⟨⟨sound.bindings, sound.unsupported, Dict.nodup_set sound.subjects subject _⟩,
      sound.distinct, sound.rooted, sound.current, sound.drawn⟩, sound.context, sound.declared,
      sound.good⟩
  | markUnsupported row =>
    obtain ⟨index, marked, returned⟩ := bind_eq_ok.mp performed
    cases returned
    exact ⟨(OriginIndex.Recorded.stable _).markUnsupported sound.toRecorded marked, sound.context, sound.declared, sound.good⟩

end OriginRecorder

/-! ### The origins of a document -/

def OriginIndex.Speaks (protocol : RefusalProtocol) (index : OriginIndex) (logical : LogicalRow) : Prop :=
  ∃ declared, protocol.subjects logical.row.subject = some declared ∧
    (⟨declared.family, ⟨declared.family, protocol.familyKey declared.family⟩, none⟩ : OriginKey) ∈
      index.keys

variable {context : OriginContext} {good : LogicalRow → Prop}

theorem SectionRun.recorded {run : SectionRun} {recorder : OriginRecorder}
    (yields : ∀ emission ∈ run.emissions, emission.Yields context good)
    (recorded : run.record protocol context = .ok recorder) :
    recorder.Sound protocol context good ∧
      ∀ logical ∈ recorder.contributors, recorder.index.Speaks protocol logical := by
  obtain ⟨performed, loop, finished⟩ := bind_eq_ok.mp recorded
  have sound : performed.Sound protocol context good := by
    refine foldlM_ok (OriginRecorder.Sound protocol context good) ?_ ?_ loop
    · exact fun emission member before after held => held.perform (yields emission member)
    · exact ⟨.empty, rfl, fun _ member => absurd member List.not_mem_nil, fun _ member => absurd member List.not_mem_nil⟩
  unfold OriginRecorder.finish at finished
  split at finished
  · rename_i none
    cases finished
    refine ⟨sound, ?_⟩
    rw [List.isEmpty_iff.mp none]
    exact fun _ member => absurd member List.not_mem_nil
  · obtain ⟨key, rows, family⟩ := OriginRecorder.emit_mem_keys finished
    have kept := sound.emit (fun _ member => member) (fun _ absent => by cases absent) finished
    refine ⟨kept, fun logical member => ?_⟩
    obtain ⟨declared, known, same⟩ := kept.declared logical member
    refine ⟨declared, known, ?_⟩
    rw [same, family]
    exact key

namespace OriginIndex

variable {index other after : OriginIndex} {rows more : List LogicalRow}

theorem mem_keys_merge (merged : index.merge other = .ok after) {key : OriginKey} :
    key ∈ after.keys ↔ key ∈ index.keys ∨ key ∈ other.keys := by
  unfold merge at merged
  split at merged
  · cases merged
  cases merged
  unfold keys
  simp only [List.mem_append, Dict.mem_keys_update]
  tauto

theorem Recorded.merge (sound : Recorded index rows) (further : Recorded other more)
    (spoken : ∀ logical ∈ rows, index.Speaks protocol logical)
    (furtherSpoken : ∀ logical ∈ more, other.Speaks protocol logical)
    (merged : index.merge other = .ok after) : Recorded after (rows ++ more) := by
  unfold OriginIndex.merge at merged
  split at merged
  · cases merged
  rename_i disjoint
  cases merged
  refine ⟨⟨Dict.nodup_update sound.bindings _, Dict.nodup_update sound.unsupported _, Dict.nodup_update sound.subjects _⟩, ?_, ?_, ?_, ?_⟩
  · rw [List.map_append, List.nodup_append]
    refine ⟨sound.distinct, further.distinct, ?_⟩
    intro left leftMember right rightMember same
    obtain ⟨first, firstMember, rfl⟩ := List.mem_map.mp leftMember
    obtain ⟨second, secondMember, rfl⟩ := List.mem_map.mp rightMember
    obtain ⟨declared, known, key⟩ := spoken first firstMember
    obtain ⟨declaredTwice, knownTwice, keyTwice⟩ := furtherSpoken second secondMember
    rw [(Prod.mk.inj same).2, knownTwice] at known
    cases known
    exact disjoint (List.any_eq_true.mpr ⟨_, key, List.contains_iff_mem.mpr keyTwice⟩)
  · intro logical member
    rcases List.mem_append.mp member with first | second
    · obtain ⟨root, present, rest⟩ := sound.rooted logical first
      exact ⟨root, List.mem_append_left _ present, rest⟩
    · obtain ⟨root, present, rest⟩ := further.rooted logical second
      exact ⟨root, List.mem_append_right _ present, rest⟩
  · intro entry member
    rcases Dict.mem_update member with first | second
    · exact sound.current entry first
    · exact further.current entry second
  · intro entry member logical own
    rcases Dict.mem_update member with first | second
    · exact List.mem_append_left _ (sound.drawn entry first logical own)
    · exact List.mem_append_right _ (further.drawn entry second logical own)

theorem Speaks.mono {logical : LogicalRow} (spoken : index.Speaks protocol logical)
    (more : ∀ key ∈ index.keys, key ∈ after.keys) : after.Speaks protocol logical := by
  obtain ⟨declared, known, key⟩ := spoken
  exact ⟨declared, known, more _ key⟩

end OriginIndex

theorem EncoderRun.recorded {run : EncoderRun} {index : OriginIndex}
    (yields : ∀ encoder ∈ run.sections, ∀ emission ∈ encoder.emissions, emission.Yields run.context good)
    (origins : run.origins protocol = .ok index) :
    ∃ rows, index.Recorded rows ∧ ∀ logical ∈ rows, good logical := by
  obtain ⟨merged, sections, rest⟩ := bind_eq_ok.mp origins
  obtain ⟨kept, retained, omitted⟩ := bind_eq_ok.mp rest
  obtain ⟨rows, sound, _, all⟩ : ∃ rows, merged.Recorded rows ∧
      (∀ logical ∈ rows, merged.Speaks protocol logical) ∧ ∀ logical ∈ rows, good logical := by
    refine foldlM_ok (fun index : OriginIndex => ∃ rows, index.Recorded rows ∧
      (∀ logical ∈ rows, index.Speaks protocol logical) ∧ ∀ logical ∈ rows, good logical)
      ?_ ⟨[], .empty, fun _ member => absurd member List.not_mem_nil, fun _ member => absurd member List.not_mem_nil⟩ sections
    intro encoder member before after held stepped
    obtain ⟨rows, sound, spoken, all⟩ := held
    obtain ⟨recorder, recorded, joined⟩ := bind_eq_ok.mp stepped
    obtain ⟨own, ownSpoken⟩ := encoder.recorded (yields encoder member) recorded
    refine ⟨rows ++ recorder.contributors, sound.merge own.toRecorded spoken ownSpoken joined, ?_, ?_⟩
    · intro logical listed
      rcases List.mem_append.mp listed with first | second
      · exact (spoken logical first).mono fun key known =>
          (OriginIndex.mem_keys_merge joined).mpr (.inl known)
      · exact (ownSpoken logical second).mono fun key known =>
          (OriginIndex.mem_keys_merge joined).mpr (.inr known)
    · intro logical listed
      rcases List.mem_append.mp listed with first | second
      · exact all logical first
      · exact own.good logical second
  refine ⟨rows, ?_, all⟩
  have stable := OriginIndex.Recorded.stable rows
  refine foldlM_ok (·.Recorded rows) (fun _ _ _ _ => stable.recordOmission) ?_ omitted
  exact foldlM_ok (·.Recorded rows) (fun _ _ _ _ => stable.recordRetained) sound retained

end NsoAdapter.Execution
