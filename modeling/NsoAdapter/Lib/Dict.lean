import Mathlib.Data.List.Induction

/-! Dictionaries that keep insertion order, as association lists: a write to a
present key keeps the entry's place, a write to a new key appends it. -/

namespace NsoAdapter.Lib

abbrev Dict (Key Value : Type) := List (Key × Value)

namespace Dict

variable {Key Value : Type} [DecidableEq Key]

def get? (dict : Dict Key Value) (key : Key) : Option Value :=
  List.lookup key dict

def set (dict : Dict Key Value) (key : Key) (value : Value) : Dict Key Value :=
  match dict with
  | [] => [(key, value)]
  | entry :: rest =>
    if entry.1 = key then (key, value) :: rest else entry :: set rest key value

/-- `dict.setdefault(key, value)`. -/
def setDefault (dict : Dict Key Value) (key : Key) (value : Value) : Dict Key Value :=
  if (dict.get? key).isSome then dict else dict.set key value

/-- `dict.update(other)`. -/
def update (dict other : Dict Key Value) : Dict Key Value :=
  other.foldl (fun merged entry => merged.set entry.1 entry.2) dict

variable {key : Key}

@[simp] theorem get?_nil : get? ([] : Dict Key Value) key = none := rfl

variable {entry : Key × Value}

theorem get?_cons {rest : Dict Key Value} : get? (entry :: rest) key = if entry.1 = key then some entry.2 else get? rest key := by
  obtain ⟨name, value⟩ := entry
  rw [get?, get?, List.lookup_cons]
  by_cases same : name = key
  · simp [same]
  · simp [same, beq_false_of_ne (Ne.symm same)]

variable {dict : Dict Key Value} {value : Value}

theorem get?_set {other : Key} : (dict.set key value).get? other = if key = other then some value else dict.get? other := by
  induction dict with
  | nil => simp [set, get?_cons]
  | cons entry rest ih =>
    by_cases same : entry.1 = key
    · rw [set, if_pos same, get?_cons, get?_cons]
      by_cases wanted : key = other
      · simp [wanted]
      · simp [wanted, same]
    · rw [set, if_neg same, get?_cons, get?_cons, ih]
      by_cases wanted : key = other
      · subst wanted
        simp [same]
      · simp [wanted]

variable {other : Dict Key Value}

theorem get?_update : (dict.update other).get? key = (get? other.reverse key).or (dict.get? key) := by
  induction other using List.reverseRecOn generalizing dict with
  | nil => simp [update]
  | append_singleton front entry ih =>
    have shape : dict.update (front ++ [entry]) = (dict.update front).set entry.1 entry.2 := by
      simp [update, List.foldl_append]
    rw [shape, get?_set, List.reverse_append, List.reverse_singleton, List.singleton_append, get?_cons]
    split
    · rfl
    · exact ih

theorem mem_of_get? (found : dict.get? key = some value) : (key, value) ∈ dict := by
  induction dict with
  | nil => cases found
  | cons entry rest ih =>
    rw [get?_cons] at found
    split at found
    · rename_i same
      cases found
      exact same ▸ List.mem_cons_self
    · exact List.mem_cons_of_mem _ (ih found)

theorem mem_set (member : entry ∈ dict.set key value) : entry ∈ dict ∨ entry = (key, value) := by
  induction dict with
  | nil => exact .inr (List.mem_singleton.mp member)
  | cons first rest ih =>
    rw [set] at member
    split at member
    · rcases List.mem_cons.mp member with rfl | later
      · exact .inr rfl
      · exact .inl (List.mem_cons_of_mem _ later)
    · rcases List.mem_cons.mp member with rfl | later
      · exact .inl List.mem_cons_self
      · exact (ih later).imp_left (List.mem_cons_of_mem _)

theorem mem_keys_set {other : Key} : other ∈ (dict.set key value).map (·.1) ↔ other = key ∨ other ∈ dict.map (·.1) := by
  induction dict with
  | nil => simp [set]
  | cons first rest ih =>
    rw [set]
    split
    · rename_i same
      rw [List.map_cons, List.map_cons, List.mem_cons, List.mem_cons, same]
      tauto
    · rw [List.map_cons, List.mem_cons, ih, List.map_cons, List.mem_cons]
      tauto

theorem mem_keys_update : key ∈ (dict.update other).map (·.1) ↔ key ∈ dict.map (·.1) ∨ key ∈ other.map (·.1) := by
  unfold update
  induction other generalizing dict with
  | nil => simp
  | cons entry rest ih =>
    rw [List.foldl_cons, ih, mem_keys_set, List.map_cons, List.mem_cons]
    tauto

theorem nodup_set (distinct : (dict.map (·.1)).Nodup) (key : Key) (value : Value) : ((dict.set key value).map (·.1)).Nodup := by
  induction dict with
  | nil => simp [set]
  | cons first rest ih =>
    rw [List.map_cons, List.nodup_cons] at distinct
    rw [set]
    split
    · rename_i same
      rw [List.map_cons, List.nodup_cons]
      exact ⟨same ▸ distinct.1, distinct.2⟩
    · rename_i other
      rw [List.map_cons, List.nodup_cons]
      refine ⟨fun repeated => ?_, ih distinct.2⟩
      obtain ⟨entry, member, same⟩ := List.mem_map.mp repeated
      rcases mem_set member with kept | rfl
      · exact distinct.1 (List.mem_map.mpr ⟨entry, kept, same⟩)
      · exact other same.symm

theorem nodup_update (distinct : (dict.map (·.1)).Nodup) (other : Dict Key Value) : ((dict.update other).map (·.1)).Nodup := by
  induction other generalizing dict with
  | nil => exact distinct
  | cons entry rest ih => exact ih (nodup_set distinct entry.1 entry.2)

theorem mem_update (member : entry ∈ dict.update other) : entry ∈ dict ∨ entry ∈ other := by
  induction other generalizing dict with
  | nil => exact .inl member
  | cons first rest ih =>
    rcases ih member with written | later
    · rcases mem_set written with kept | rfl
      · exact .inl kept
      · exact .inr List.mem_cons_self
    · exact .inr (List.mem_cons_of_mem _ later)

theorem get?_eq_none : dict.get? key = none ↔ ∀ entry ∈ dict, entry.1 ≠ key := by
  induction dict with
  | nil => simp
  | cons entry rest ih =>
    rw [get?_cons]
    by_cases same : entry.1 = key
    · simp [same]
    · simp [same, ih]

theorem set_of_get?_eq_none (absent : dict.get? key = none) (value : Value) : dict.set key value = dict ++ [(key, value)] := by
  induction dict with
  | nil => rfl
  | cons entry rest ih =>
    rw [get?_cons] at absent
    split at absent
    · cases absent
    · rename_i other
      rw [set, if_neg other, ih absent]
      rfl

theorem update_of_nodup_append (distinct : ((dict ++ other).map (·.1)).Nodup) : dict.update other = dict ++ other := by
  induction other generalizing dict with
  | nil => rw [List.append_nil, update, List.foldl_nil]
  | cons entry rest ih =>
    have absent : dict.get? entry.1 = none := by
      refine get?_eq_none.mpr fun present member same => ?_
      rw [List.map_append, List.nodup_append] at distinct
      exact distinct.2.2 _ (List.mem_map_of_mem member) _ List.mem_cons_self same
    have written : dict.set entry.1 entry.2 = dict ++ [entry] := set_of_get?_eq_none absent _
    have shape : dict ++ [entry] ++ rest = dict ++ entry :: rest := by
      rw [List.append_assoc, List.singleton_append]
    calc dict.update (entry :: rest) = update (dict ++ [entry]) rest := by
          rw [update, List.foldl_cons, written, update]
      _ = dict ++ entry :: rest := by rw [ih (shape ▸ distinct), shape]

theorem get?_filter (keep : Key → Bool) : get? (dict.filter fun entry => keep entry.1) key = if keep key then dict.get? key else none := by
  induction dict with
  | nil => simp
  | cons entry rest ih =>
    by_cases kept : keep entry.1 = true
    · rw [List.filter_cons, if_pos kept, get?_cons, get?_cons, ih]
      by_cases same : entry.1 = key
      · subst same
        simp [kept]
      · simp [same]
    · rw [List.filter_cons, if_neg kept, get?_cons, ih]
      by_cases same : entry.1 = key
      · subst same
        simp [kept]
      · simp [same]

theorem get?_of_mem (distinct : (dict.map (·.1)).Nodup) (member : (key, value) ∈ dict) : dict.get? key = some value := by
  induction dict with
  | nil => cases member
  | cons entry rest ih =>
    rw [List.map_cons, List.nodup_cons] at distinct
    rw [get?_cons]
    rcases List.mem_cons.mp member with rfl | later
    · exact if_pos rfl
    · have other : entry.1 ≠ key := by
        rintro rfl
        exact distinct.1 (List.mem_map.mpr ⟨_, later, rfl⟩)
      rw [if_neg other]
      exact ih distinct.2 later

theorem get?_reverse (distinct : (dict.map (·.1)).Nodup) : get? dict.reverse key = dict.get? key := by
  cases found : dict.get? key with
  | none =>
    refine get?_eq_none.mpr fun entry member => ?_
    exact get?_eq_none.mp found entry (List.mem_reverse.mp member)
  | some value =>
    refine get?_of_mem ?_ (List.mem_reverse.mpr (mem_of_get? found))
    rw [List.map_reverse]
    exact (List.reverse_perm _).nodup_iff.mpr distinct

theorem get?_update_of_nodup (distinct : (other.map (·.1)).Nodup) : (dict.update other).get? key = (other.get? key).or (dict.get? key) := by
  rw [get?_update, get?_reverse distinct]

theorem get?_filterMap {keys : List Key} (member : key ∈ keys) (value : Key → Option Value) :
    get? (keys.filterMap fun name => (value name).map fun found => (name, found)) key = value key := by
  induction keys with
  | nil => cases member
  | cons name rest ih =>
    by_cases same : name = key
    · subst same
      cases found : value name with
      | some result => simp [found, get?_cons]
      | none =>
        rw [List.filterMap_cons_none (by simp [found])]
        refine get?_eq_none.mpr fun entry listed => ?_
        obtain ⟨other, _, image⟩ := List.mem_filterMap.mp listed
        rintro rfl
        cases own : value other with
        | none => simp [own] at image
        | some result =>
          simp only [own, Option.map_some, Option.some.injEq] at image
          rw [← image, own] at found
          cases found
    · have later : key ∈ rest := (List.mem_cons.mp member).resolve_left (Ne.symm same)
      cases found : value name with
      | none => rw [List.filterMap_cons_none (by simp [found])]; exact ih later
      | some result =>
        rw [List.filterMap_cons_some (by simp [found]; rfl), get?_cons, if_neg same]
        exact ih later

theorem get?_of_forall₂ {Image : Type} (related : Value → Image → Prop) {images : Dict Key Image}
    (each : List.Forall₂ (fun entry image => image.1 = entry.1 ∧ related entry.2 image.2) dict images)
    (found : dict.get? key = some value) :
    ∃ image, images.get? key = some image ∧ related value image := by
  induction each with
  | nil => cases found
  | cons first _ ih =>
    rw [get?_cons] at found ⊢
    rw [first.1]
    split at found
    · rename_i same
      cases found
      exact ⟨_, if_pos same, first.2⟩
    · rename_i other
      rw [if_neg other]
      exact ih found

theorem get?_perm {left right : Dict Key Value} (distinct : (right.map (·.1)).Nodup)
    (same : left.Perm right) : left.get? key = right.get? key := by
  have names : (left.map (·.1)).Nodup := (same.map (·.1)).nodup_iff.mpr distinct
  cases found : right.get? key with
  | none =>
    exact get?_eq_none.mpr fun entry member => get?_eq_none.mp found entry (same.mem_iff.mp member)
  | some value => exact get?_of_mem names (same.mem_iff.mpr (mem_of_get? found))

theorem get?_map {Image : Type} (image : Value → Image) :
    get? (dict.map fun entry => (entry.1, image entry.2)) key = (dict.get? key).map image := by
  induction dict with
  | nil => rfl
  | cons entry rest ih =>
    rw [List.map_cons, get?_cons, get?_cons, ih]
    split <;> rfl

end Dict

end NsoAdapter.Lib
