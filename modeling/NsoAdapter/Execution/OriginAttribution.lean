import NsoAdapter.Execution.EvidenceRecords

/-! Attribution. Every construct an encoder emits, and every declared field of it, is bound to
the rows its `emit` names or is unsupported, and a refusal is attributed to the rows that
contributed the refused construct. -/

namespace NsoAdapter.Execution
open Lib Projection

/-- Constructs and fields in the order they were emitted, each with the rows named for it. -/
abbrev Emitted := List (OriginKey × List LogicalRow)

section Emitted

variable (protocol : RefusalProtocol)

def OriginRecorder.constructs (recorder : OriginRecorder) (row : RowRef)
    (logicalRows : List LogicalRow) (fieldRows : Option (Dict String (List LogicalRow))) : Emitted :=
  let logicals := logicalRows.eraseDups
  let fields := ((protocol.subjects row.subject).map (·.fields)).getD []
  (⟨recorder.family, row, none⟩, logicals) :: fields.map fun declared =>
    (⟨recorder.family, row, some declared⟩,
      ((fieldRows.bind (·.get? declared)).map List.eraseDups).getD logicals)

def OriginRecorder.emitted (recorder : OriginRecorder) : Emission → Emitted
  | .emit row rows fieldRows _ _ => recorder.constructs protocol row (recorder.rowsAt rows)
      (fieldRows.map (List.map fun entry => (entry.1, recorder.rowsAt entry.2)))
  | .logical .. | .unsupportedSubject _ | .markUnsupported _ => []

/-- What an encoder emits from a recorder on, the construct of the family last. -/
def OriginRecorder.emittedFrom (recorder : OriginRecorder) : List Emission → Emitted
  | [] => if recorder.contributors.isEmpty then []
      else recorder.constructs protocol ⟨recorder.family, protocol.familyKey recorder.family⟩
        recorder.contributors none
  | emission :: later => recorder.emitted protocol emission ++
      match recorder.perform protocol emission with
      | .ok next => next.emittedFrom later
      | .error _ => []

def EncoderRun.emitted (run : EncoderRun) : Emitted :=
  run.sections.flatMap fun encoder =>
    (OriginRecorder.mk encoder.family run.context .empty []).emittedFrom protocol encoder.emissions

end Emitted

/-- Every emitted construct is bound to its rows or unsupported, never both and never twice. -/
structure OriginIndex.Attributes (index : OriginIndex) (emitted : Emitted) : Prop where
  apart : ∀ key ∈ index.bindings.map (·.1), key ∉ index.unsupported.map (·.1)
  complete : ∀ entry ∈ emitted, entry.1 ∈ index.keys
  bound : ∀ entry ∈ index.bindings, (entry.1, entry.2.logicalRows) ∈ emitted
  once : (emitted.map (·.1)).Nodup

variable {protocol : RefusalProtocol} {index other after : OriginIndex} {emitted more : Emitted}

namespace OriginIndex.Attributes

theorem empty : OriginIndex.empty.Attributes [] := by
  constructor <;> simp [OriginIndex.empty]

theorem markKey (attributes : index.Attributes emitted) (preserveCurrent : Bool) (reason : FailureReason) (key : OriginKey) :
    (index.markKey preserveCurrent reason key).Attributes emitted := by
  unfold OriginIndex.markKey
  split
  · exact attributes
  constructor
  case apart =>
    intro other bound unsupported
    obtain ⟨entry, kept, rfl⟩ := List.mem_map.mp bound
    obtain ⟨present, different⟩ := List.mem_filter.mp kept
    rcases Dict.mem_keys_set.mp unsupported with same | before
    · simp [same] at different
    · exact attributes.apart _ (List.mem_map_of_mem present) before
  case complete =>
    intro entry listed
    have known := attributes.complete entry listed
    simp only [OriginIndex.keys, List.mem_append, Dict.mem_keys_set] at known ⊢
    by_cases same : entry.1 = key
    · exact .inr (.inl same)
    · refine known.imp (fun bound => ?_) .inr
      obtain ⟨binding, present, named⟩ := List.mem_map.mp bound
      exact List.mem_map.mpr ⟨binding, List.mem_filter.mpr ⟨present, by simpa [named]⟩, named⟩
  case bound => exact fun entry kept => attributes.bound entry (List.mem_of_mem_filter kept)
  case once => exact attributes.once

theorem stable (emitted : Emitted) : OriginIndex.Stable (·.Attributes emitted) :=
  ⟨fun _ preserveCurrent reason key held => held.markKey preserveCurrent reason key,
    fun _ _ _ held => ⟨held.apart, held.complete, held.bound, held.once⟩⟩

theorem merge (attributes : index.Attributes emitted) (further : other.Attributes more)
    (merged : index.merge other = .ok after) : after.Attributes (emitted ++ more) := by
  have keys := fun key => @OriginIndex.mem_keys_merge index other after merged key
  unfold OriginIndex.merge at merged
  split at merged
  · cases merged
  rename_i disjoint
  have apart : ∀ key ∈ index.keys, key ∉ other.keys := fun key known too =>
    disjoint (List.any_eq_true.mpr ⟨key, known, List.contains_iff_mem.mpr too⟩)
  cases merged
  constructor
  case apart =>
    intro key bound unsupported
    have own := attributes.apart key
    have theirs := further.apart key
    have split := apart key
    simp only [OriginIndex.keys, List.mem_append] at split
    rw [Dict.mem_keys_update] at bound unsupported
    tauto
  case complete =>
    intro entry listed
    rcases List.mem_append.mp listed with own | theirs
    · exact (keys _).mpr (.inl (attributes.complete entry own))
    · exact (keys _).mpr (.inr (further.complete entry theirs))
  case bound =>
    intro entry member
    rcases Dict.mem_update member with own | theirs
    · exact List.mem_append_left _ (attributes.bound entry own)
    · exact List.mem_append_right _ (further.bound entry theirs)
  case once =>
    rw [List.map_append, List.nodup_append]
    refine ⟨attributes.once, further.once, ?_⟩
    rintro key own _ theirs rfl
    obtain ⟨entry, listed, rfl⟩ := List.mem_map.mp own
    obtain ⟨twin, listedTwin, same⟩ := List.mem_map.mp theirs
    exact apart _ (attributes.complete entry listed) (same ▸ further.complete twin listedTwin)

end OriginIndex.Attributes

namespace OriginRecorder

variable {recorder next : OriginRecorder} {key : OriginKey} {logicals : List LogicalRow}

theorem bind_fresh {construct : String} {sources : Option (List SourceRef)}
    (bound : recorder.bind key logicals construct sources = .ok next) :
    key ∉ recorder.index.keys := by
  unfold OriginRecorder.bind at bound
  dsimp only at bound
  split at bound
  · cases bound
  rename_i absent
  simp only [Bool.or_eq_true, not_or, Bool.not_eq_true, Option.isSome_eq_false_iff, Option.isNone_iff_eq_none, Dict.get?_eq_none] at absent
  intro known
  rcases List.mem_append.mp known with bound | unsupported
  · obtain ⟨entry, member, same⟩ := List.mem_map.mp bound
    exact absent.1 entry member same
  · obtain ⟨entry, member, same⟩ := List.mem_map.mp unsupported
    exact absent.2 entry member same

theorem Bound.attributes (bound : Bound recorder key logicals next)
    (fresh : key ∉ recorder.index.keys) (attributes : recorder.index.Attributes emitted) :
    next.index.Attributes (emitted ++ [(key, logicals)]) := by
  have unknown := fresh
  simp only [OriginIndex.keys, List.mem_append, not_or] at unknown
  constructor
  case complete =>
    intro entry listed
    refine bound.mem_keys ?_
    rcases List.mem_append.mp listed with before | new
    · exact .inr (attributes.complete entry before)
    · exact .inl (congrArg Prod.fst (List.mem_singleton.mp new))
  case once =>
    rw [List.map_append, List.map_singleton, List.nodup_append]
    refine ⟨attributes.once, List.pairwise_singleton _ _, fun known before new single same => fresh ?_⟩
    obtain ⟨entry, listed, rfl⟩ := List.mem_map.mp before
    have isKey : new = key := List.mem_singleton.mp single
    rw [← isKey, ← same]
    exact attributes.complete entry listed
  case apart =>
    intro other own unsupported
    cases bound with
    | unsupported reason =>
      rcases Dict.mem_keys_set.mp unsupported with rfl | before
      · exact unknown.1 own
      · exact attributes.apart other own before
    | binding binding _ _ =>
      rcases Dict.mem_keys_set.mp own with rfl | before
      · exact unknown.2 unsupported
      · exact attributes.apart other before unsupported
  case bound =>
    intro entry member
    cases bound with
    | unsupported reason => exact List.mem_append_left _ (attributes.bound entry member)
    | binding binding _ rows =>
      rcases Dict.mem_set member with before | rfl
      · exact List.mem_append_left _ (attributes.bound entry before)
      · exact List.mem_append_right _ (List.mem_singleton.mpr (by rw [rows]))

theorem emit_attributes {row : RowRef} {logicalRows : List LogicalRow}
    {fieldRows : Option (Dict String (List LogicalRow))} {sources : Option (List SourceRef)}
    {fieldSources : Option (Dict String (List SourceRef))}
    (attributes : recorder.index.Attributes emitted)
    (run : emit protocol recorder row logicalRows fieldRows sources fieldSources = .ok next) :
    next.index.Attributes (emitted ++ recorder.constructs protocol row logicalRows fieldRows) := by
  obtain ⟨subject, found, rest⟩ := bind_eq_ok.mp run
  obtain ⟨bound, first, fields⟩ := bind_eq_ok.mp rest
  have start := (bind_bound first).attributes (bind_fresh first) attributes
  have family : bound.family = recorder.family := (bind_bound first).kept.2
  -- Along the fields, the constructs bound so far are the first ones of the emission.
  rw [OriginRecorder.constructs, (subjectOf_ok found).1, List.append_cons, Option.map_some, Option.getD_some]
  generalize emitted ++ [_] = emitted at start ⊢
  generalize subject.fields = declared at fields ⊢
  clear first rest
  induction declared generalizing bound emitted with
  | nil =>
    cases fields
    simpa using start
  | cons field declared ih =>
    obtain ⟨middle, one, later⟩ := bind_eq_ok.mp fields
    have step := (bind_bound one).attributes (bind_fresh one) start
    rw [family] at step
    simpa using ih middle ((bind_bound one).kept.2.trans family) _ step later

theorem perform_attributes {emission : Emission} (attributes : recorder.index.Attributes emitted)
    (performed : perform protocol recorder emission = .ok next) :
    next.index.Attributes (emitted ++ recorder.emitted protocol emission) := by
  cases emission with
  | emit row rows fieldRows sources fieldSources => exact emit_attributes attributes performed
  | logical row facts carrier children =>
    rw [OriginRecorder.emitted, List.append_nil]
    cases carrier with
    | none =>
      obtain ⟨_, _, rfl⟩ := logical_ok performed
      exact attributes
    | some place =>
      unfold OriginRecorder.perform at performed
      dsimp only at performed
      split at performed
      · cases performed
        exact attributes
      · obtain ⟨_, _, rfl⟩ := logical_ok performed
        exact attributes
  | unsupportedSubject subject =>
    cases performed
    rw [OriginRecorder.emitted, List.append_nil]
    exact ⟨attributes.apart, attributes.complete, attributes.bound, attributes.once⟩
  | markUnsupported row =>
    obtain ⟨index, marked, returned⟩ := bind_eq_ok.mp performed
    cases returned
    rw [OriginRecorder.emitted, List.append_nil]
    exact (OriginIndex.Attributes.stable emitted).markUnsupported attributes marked

theorem record_attributes {emissions : List Emission} (attributes : recorder.index.Attributes emitted)
    (recorded : (emissions.foldlM (perform protocol) recorder >>= finish protocol) = .ok next) :
    next.index.Attributes (emitted ++ recorder.emittedFrom protocol emissions) := by
  induction emissions generalizing recorder emitted with
  | nil =>
    unfold OriginRecorder.emittedFrom
    have finished : finish protocol recorder = .ok next := recorded
    unfold OriginRecorder.finish at finished
    split at finished
    · rename_i none
      cases finished
      simpa [none] using attributes
    · rename_i some
      simpa [some] using emit_attributes attributes finished
  | cons emission emissions ih =>
    rw [List.foldlM_cons, bind_assoc] at recorded
    obtain ⟨middle, performed, later⟩ := bind_eq_ok.mp recorded
    rw [OriginRecorder.emittedFrom, performed, ← List.append_assoc]
    exact ih (perform_attributes attributes performed) later

end OriginRecorder

theorem sections_attributes {sections : List SectionRun} {context : OriginContext} (attributes : index.Attributes emitted)
    (run : sections.foldlM (fun (index : OriginIndex) encoder => do
      let recorder ← encoder.record protocol context
      index.merge recorder.index) index = .ok after) :
    after.Attributes (emitted ++ sections.flatMap fun encoder =>
      (OriginRecorder.mk encoder.family context .empty []).emittedFrom protocol encoder.emissions) := by
  induction sections generalizing index emitted with
  | nil =>
    cases run
    simpa using attributes
  | cons encoder sections ih =>
    obtain ⟨merged, first, later⟩ := bind_eq_ok.mp run
    obtain ⟨recorder, recorded, joined⟩ := bind_eq_ok.mp first
    have own := OriginRecorder.record_attributes (.empty) recorded
    rw [List.flatMap_cons, ← List.append_assoc]
    exact ih (attributes.merge own joined) later

theorem EncoderRun.attributes {run : EncoderRun} (origins : run.origins protocol = .ok index) :
    index.Attributes (run.emitted protocol) := by
  obtain ⟨merged, sections, rest⟩ := bind_eq_ok.mp origins
  obtain ⟨kept, retained, omitted⟩ := bind_eq_ok.mp rest
  have sectioned : merged.Attributes (run.emitted protocol) := sections_attributes .empty sections
  have stable := OriginIndex.Attributes.stable (run.emitted protocol)
  refine foldlM_ok (·.Attributes (run.emitted protocol)) (fun _ _ _ _ => stable.recordOmission) ?_ omitted
  exact foldlM_ok (·.Attributes (run.emitted protocol)) (fun _ _ _ _ => stable.recordRetained) sectioned retained

theorem resolveRefusal_bound {refusal : Refusal} {site : AttributedRefusal} (resolved : resolveRefusal index refusal = .ok site) :
    site.refusal = refusal ∧ site.logicalRows ≠ [] ∧ ∃ binding, (⟨refusal.family, refusal.row, refusal.field⟩, binding) ∈ index.bindings ∧
        site.logicalRows = binding.logicalRows := by
  unfold resolveRefusal at resolved
  dsimp only at resolved
  split at resolved
  · cases resolved
  · cases resolved
  rename_i found
  split_ifs at resolved with _ _ named
  cases resolved
  refine ⟨rfl, ?_, _, Dict.mem_of_get? found, rfl⟩
  simp only [Bool.or_eq_true, List.isEmpty_iff, not_or] at named
  exact named.1.1

/-- Origins are complete and unambiguous, and a refusal is attributed to contributing rows. -/
theorem origin_attribution (protocol : RefusalProtocol) (run : EncoderRun) (index : OriginIndex)
    (origins : run.origins protocol = .ok index) :
    index.Attributes (run.emitted protocol) ∧
    (∀ contribution after, index.recordRetained protocol contribution = .ok after →
      after.Attributes (run.emitted protocol)) ∧
    (∀ contribution after, index.recordOmission protocol contribution = .ok after →
      after.Attributes (run.emitted protocol)) ∧
    (∀ (other : EncoderRun) further after, other.origins protocol = .ok further → index.merge further = .ok after →
      after.Attributes (run.emitted protocol ++ other.emitted protocol)) ∧
    ∀ refusals sites, resolveRefusals refusals index = .ok sites →
      sites.map (·.refusal) = refusals ∧ ∀ site ∈ sites, site.logicalRows ≠ [] ∧
        (⟨site.refusal.family, site.refusal.row, site.refusal.field⟩, site.logicalRows) ∈ run.emitted protocol := by
  have attributes := EncoderRun.attributes origins
  have stable := OriginIndex.Attributes.stable (run.emitted protocol)
  refine ⟨attributes, fun _ _ => stable.recordRetained attributes, fun _ _ => stable.recordOmission attributes,
    fun other further after theirs => attributes.merge (EncoderRun.attributes theirs), ?_⟩
  intro refusals sites resolved
  have each := forall₂_of_mapM resolved
  constructor
  · clear resolved
    induction each with
    | nil => rfl
    | cons first _ ih => rw [List.map_cons, (resolveRefusal_bound first).1, ih]
  · intro site member
    obtain ⟨refusal, _, found⟩ := exists_of_forall₂ each member
    obtain ⟨rfl, named, binding, bound, rows⟩ := resolveRefusal_bound found
    exact ⟨named, rows ▸ attributes.bound _ bound⟩

theorem vlan_attribution : ∃ index, vlanRun.origins vlanProtocol = .ok index ∧
    index.Attributes (vlanRun.emitted vlanProtocol) ∧ (vlanRun.emitted vlanProtocol).length = 3 := by
  have ran : (vlanRun.origins vlanProtocol).toOption.any (fun _ => true) = true := by decide +kernel
  obtain ⟨index, origins, _⟩ := toOption_any_eq_true ran
  exact ⟨index, origins, (origin_attribution vlanProtocol vlanRun index origins).1, by decide +kernel⟩

/-- The calls of `encode_vlan` for two VLANs. -/
def vlanPair : EncoderRun :=
  ⟨⟨⟨none, [], [], none⟩, []⟩, [⟨"vlan",
    [.logical ⟨"vlan.vlan", "10"⟩ ⟨.vlan, "vlan_intent", some 1, "c10", none, true⟩ none [],
      .emit ⟨"vlan.vlan", "10"⟩ [0] none none none,
      .logical ⟨"vlan.vlan", "20"⟩ ⟨.vlan, "vlan_intent", some 2, "c20", none, true⟩ none [],
      .emit ⟨"vlan.vlan", "20"⟩ [1] none none none]⟩], [], []⟩

/-- The construct of a family is bound to every row of the family. -/
theorem family_bound_to_two_rows : ∃ index : OriginIndex, ∃ entry ∈ index.bindings, vlanPair.origins vlanProtocol = .ok index ∧
      entry.2.logicalRows.map (·.row) = [⟨"vlan.vlan", "10"⟩, ⟨"vlan.vlan", "20"⟩] := by
  have ran : (vlanPair.origins vlanProtocol).toOption.any (fun index => index.bindings.any fun entry =>
      entry.2.logicalRows.map (·.row) = [⟨"vlan.vlan", "10"⟩, ⟨"vlan.vlan", "20"⟩]) = true := by
    decide +kernel
  obtain ⟨index, origins, found⟩ := toOption_any_eq_true ran
  obtain ⟨entry, member, rows⟩ := List.any_eq_true.mp found
  exact ⟨index, entry, member, origins, of_decide_eq_true rows⟩

end NsoAdapter.Execution
