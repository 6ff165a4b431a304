import NsoAdapter.Core.Content

/-! What a merge can express (`core/removal.py`). `lost_content` decides whether an edit
of a nested row value is one that a merge of the new value into the old carries out. The
merge, and the agreement it is to reach, are stated here in their own terms. -/

namespace NsoAdapter.Core.MergeContent

open Lib

/-! ### Merging a value into another -/

/-- The list entry of an identity; of two entries with one identity the later. -/
def entryOf (items : List Json) (identity : Option String × Json) : Option Json :=
  items.reverse.find? fun entry => entryIdentity entry = identity

mutual

/-- A merge of `after` into `before`: set leaves overwrite, and list entries are united by identity.
-/
def merge (before after : Json) : Json :=
  match before, after with
  | .obj members, .obj changed =>
    .obj (mergeMembers members changed ++
      changed.filter fun entry => (members.lookup entry.1).isNone)
  | .arr items, .arr changed =>
    .arr (mergeItems items changed ++
      changed.filter fun entry => decide (entryIdentity entry ∉ items.map entryIdentity))
  | kept, _ => if after = .null ∨ after = .str "" then kept else after

def mergeMembers (members changed : List (String × Json)) : List (String × Json) :=
  match members with
  | [] => []
  | (key, value) :: rest =>
    (key, merge value (Json.member (.obj changed) key)) :: mergeMembers rest changed

def mergeItems (items changed : List Json) : List Json :=
  match items with
  | [] => []
  | item :: rest =>
    merge item ((entryOf changed (entryIdentity item)).getD .null) :: mergeItems rest changed

end

/-- A leaf that is unset: absent or null, the empty string, or false. -/
def Unset (value : Json) : Prop :=
  value = .null ∨ value = .str "" ∨ value = .bool false

/-- Equality up to the order of lists and up to leaves unset on both sides. -/
inductive Agrees : Json → Json → Prop where
  | unset {left right : Json} : Unset left → Unset right → Agrees left right
  | same {value : Json} : Agrees value value
  | obj {left right : List (String × Json)} :
      (∀ key, Agrees (Json.member (.obj left) key) (Json.member (.obj right) key)) →
      Agrees (.obj left) (.obj right)
  | arr {left reordered right : List Json} :
      List.Forall₂ Agrees left reordered → reordered.Perm right → Agrees (.arr left) (.arr right)

/-- No object names a member twice and no list holds two entries with one identity. -/
inductive WellKeyed : Json → Prop where
  | null : WellKeyed .null
  | bool {value : Bool} : WellKeyed (.bool value)
  | num {value : Int} : WellKeyed (.num value)
  | str {value : String} : WellKeyed (.str value)
  | obj {members : List (String × Json)} :
      (members.map (·.1)).Nodup → (∀ entry ∈ members, WellKeyed entry.2) → WellKeyed (.obj members)
  | arr {items : List Json} :
      (items.map entryIdentity).Nodup → (∀ item ∈ items, WellKeyed item) → WellKeyed (.arr items)

/-- A leaf on both sides keeps its JSON type or becomes null; an unset null may become anything, a
container one of the other kind. -/
inductive KeepsTypes : Json → Json → Prop where
  | added {after : Json} : KeepsTypes .null after
  | nulled {before : Json} : KeepsTypes before .null
  | bool {before after : Bool} : KeepsTypes (.bool before) (.bool after)
  | num {before after : Int} : KeepsTypes (.num before) (.num after)
  | str {before after : String} : KeepsTypes (.str before) (.str after)
  | obj {members changed : List (String × Json)} :
      (∀ entry ∈ members, KeepsTypes entry.2 (Json.member (.obj changed) entry.1)) →
      KeepsTypes (.obj members) (.obj changed)
  | arr {items changed : List Json} :
      (∀ item ∈ items, ∀ entry ∈ changed, entryIdentity entry = entryIdentity item →
        KeepsTypes item entry) →
      KeepsTypes (.arr items) (.arr changed)
  | objArr {members : List (String × Json)} {changed : List Json} :
      KeepsTypes (.obj members) (.arr changed)
  | arrObj {items : List Json} {changed : List (String × Json)} :
      KeepsTypes (.arr items) (.obj changed)

/-! ### Positions in a value -/

inductive Step where
  | member (key : String)
  | entry (identity : Option String × Json)

def child : Json → Step → Option Json
  | .obj members, .member key => members.lookup key
  | .arr items, .entry identity => entryOf items identity
  | _, _ => none

def follow : Json → List Step → Option Json
  | value, [] => some value
  | value, step :: path => (child value step).bind (follow · path)

/-! ### What is not lost -/

variable {before after : Json} {members : List (String × Json)} {items : List Json} {key : String}

theorem unset_of_kept (kept : lostContent before .null = false) : Unset before := by
  unfold lostContent isCleared at kept
  simp only [Bool.or_eq_false_iff] at kept
  have cleared := kept.1
  split at cleared
  · assumption
  · simp at cleared

theorem lostMembers_eq_false : lostMembers members after = false ↔
      ∀ entry ∈ members, lostContent entry.2 (after.member entry.1) = false := by
  induction members with
  | nil => simp [lostMembers]
  | cons entry members ih =>
    rw [lostMembers, Bool.or_eq_false_iff, ih, List.forall_mem_cons]

theorem lostItems_eq_false {remaining : List Json} : lostItems items remaining = false ↔
      ∀ item ∈ items, ∃ survivor, entryOf remaining (entryIdentity item) = some survivor ∧
        lostContent item survivor = false := by
  induction items with
  | nil => simp [lostItems]
  | cons item items ih =>
    rw [lostItems, Bool.or_eq_false_iff, ih, List.forall_mem_cons]
    unfold entryOf
    cases List.find? (fun entry => decide (entryIdentity entry = entryIdentity item)) remaining.reverse <;> simp

theorem kept_obj (kept : lostContent (.obj members) after = false) : (∃ changed, after = .obj changed ∧ lostMembers members after = false) ∨
      members = [] ∧ ∀ changed, after ≠ .obj changed := by
  unfold lostContent at kept
  simp only [Bool.or_eq_false_iff] at kept
  cases after with
  | obj changed => exact .inl ⟨changed, rfl, kept.2⟩
  | _ => exact .inr ⟨by simpa using kept.2, fun _ same => by cases same⟩

theorem kept_arr (kept : lostContent (.arr items) after = false) :
    (∃ remaining, after = .arr remaining ∧ lostItems items remaining = false) ∨
      items = [] ∧ ∀ remaining, after ≠ .arr remaining := by
  unfold lostContent at kept
  simp only [Bool.or_eq_false_iff] at kept
  cases after with
  | arr remaining => exact .inl ⟨remaining, rfl, kept.2⟩
  | _ => exact .inr ⟨by simpa using kept.2, fun _ same => by cases same⟩

variable {value : Json} {changed : List (String × Json)}

theorem mem_of_lookup (found : members.lookup key = some value) : (key, value) ∈ members := by
  obtain ⟨before, after, split, -⟩ := List.lookup_eq_some_iff.mp found
  exact split ▸ List.mem_append_right before List.mem_cons_self

theorem member_eq (found : members.lookup key = some value) : Json.member (.obj members) key = value := by
  simp only [Json.member, found, Option.getD_some]

theorem entryOf_some {identity : Option String × Json} {entry : Json} (found : entryOf items identity = some entry) :
    entry ∈ items ∧ entryIdentity entry = identity := by
  exact ⟨List.mem_reverse.mp (List.mem_of_find?_eq_some found), by
    simpa using List.find?_some found⟩

theorem child_unset (unset : Unset value) (step : Step) : child value step = none := by
  obtain same | same | same := unset <;> subst same <;> rfl

/-- What stands at a position of `before` is unset, or something stands at that position of
`after` that keeps its content. -/
theorem follow_kept {path : List Step} {left : Json} (types : KeepsTypes before after)
    (kept : lostContent before after = false) (stands : follow before path = some left) :
    Unset left ∨ ∃ right, follow after path = some right ∧ KeepsTypes left right ∧ lostContent left right = false := by
  induction path generalizing before after with
  | nil =>
    cases stands
    exact .inr ⟨after, rfl, types, kept⟩
  | cons step path ih =>
    obtain ⟨inner, stepped, rest⟩ := Option.bind_eq_some_iff.mp stands
    cases before with
    | obj members =>
      cases step with
      | entry identity => cases stepped
      | member key =>
        have owned := mem_of_lookup stepped
        obtain ⟨changed, rfl, members⟩ | ⟨rfl, -⟩ := kept_obj kept
        · have keptInner := lostMembers_eq_false.mp members _ owned
          cases types with
          | obj types =>
            have innerTypes := types _ owned
            cases found : changed.lookup key with
            | some next =>
              rw [member_eq found] at keptInner innerTypes
              obtain unset | ⟨right, reached, facts⟩ := ih innerTypes keptInner rest
              · exact .inl unset
              · exact .inr ⟨right, Option.bind_eq_some_iff.mpr ⟨next, found, reached⟩, facts⟩
            | none =>
              -- An absent member reads as null, so the position ends here.
              simp only [Json.member, found, Option.getD_none] at keptInner
              have unset := unset_of_kept keptInner
              cases path with
              | nil => cases rest; exact .inl unset
              | cons step path =>
                rw [follow, child_unset unset] at rest
                cases rest
        · cases owned
    | arr items =>
      cases step with
      | member key => cases stepped
      | entry identity =>
        obtain ⟨owned, rfl⟩ := entryOf_some stepped
        obtain ⟨remaining, rfl, entries⟩ | ⟨rfl, -⟩ := kept_arr kept
        · obtain ⟨next, found, keptInner⟩ := lostItems_eq_false.mp entries _ owned
          obtain ⟨present, identified⟩ := entryOf_some found
          cases types with
          | arr types =>
            obtain unset | ⟨right, reached, facts⟩ := ih (types _ owned _ present identified) keptInner rest
            · exact .inl unset
            · exact .inr ⟨right, Option.bind_eq_some_iff.mpr ⟨next, found, reached⟩, facts⟩
        · cases owned
    | null | bool _ | num _ | str _ => cases stepped

/-- A leaf that keeps its content is not emptied. -/
theorem kept_leaf (types : KeepsTypes before after) (kept : lostContent before after = false) (emptied : after = .null ∨ after = .str "") :
    Unset before := by
  obtain rfl | rfl := emptied
  · exact unset_of_kept kept
  · cases types with
    | added => exact .inl rfl
    | @str text =>
      by_cases empty : text = ""
      · exact .inr (.inl (empty ▸ rfl))
      · simp [lostContent, isCleared, empty] at kept

/-! ### The merge reaches the new value -/

theorem mergeMembers_eq (members changed : List (String × Json)) : mergeMembers members changed = members.map fun entry =>
      (entry.1, merge entry.2 (Json.member (.obj changed) entry.1)) := by
  induction members with
  | nil => rw [mergeMembers, List.map_nil]
  | cons entry members ih =>
    rw [mergeMembers, ih, List.map_cons]

theorem mergeItems_eq (items changed : List Json) : mergeItems items changed = items.map fun item =>
      merge item ((entryOf changed (entryIdentity item)).getD .null) := by
  induction items with
  | nil => rw [mergeItems, List.map_nil]
  | cons item items ih => rw [mergeItems, ih, List.map_cons]

theorem agrees_apart (types : KeepsTypes before after) (kept : lostContent before after = false) :
    Agrees (if after = .null ∨ after = .str "" then before else after) after := by
  split
  · rename_i emptied
    refine .unset (kept_leaf types kept emptied) ?_
    exact emptied.imp_right .inl
  · exact .same

theorem lookup_map_values (change : String × Json → Json) : (members.map fun entry => (entry.1, change entry)).lookup key =
      (members.lookup key).map fun value => change (key, value) := by
  induction members with
  | nil => rfl
  | cons entry members ih =>
    obtain ⟨name, value⟩ := entry
    rw [List.map_cons, List.lookup_cons, List.lookup_cons, ih]
    by_cases same : key = name
    · subst same; simp
    · have differs : (key == name) = false := beq_false_of_ne same
      simp only [differs]

theorem lookup_filter_new (absent : members.lookup key = none) :
    (changed.filter fun entry => (members.lookup entry.1).isNone).lookup key = changed.lookup key := by
  induction changed with
  | nil => rfl
  | cons entry changed ih =>
    obtain ⟨name, value⟩ := entry
    by_cases same : key = name
    · subst same
      simp [absent]
    · have differs : (key == name) = false := beq_false_of_ne same
      rw [List.filter_cons, List.lookup_cons, differs]
      split
      · rw [List.lookup_cons, differs]; exact ih
      · exact ih

theorem lookup_merged (members changed : List (String × Json)) (key : String) :
    ((members.map fun entry => (entry.1, merge entry.2 (Json.member (.obj changed) entry.1))) ++
        changed.filter fun entry => (members.lookup entry.1).isNone).lookup key =
      ((members.lookup key).map fun value => merge value (Json.member (.obj changed) key)).or (changed.lookup key) := by
  rw [List.lookup_append, lookup_map_values fun entry =>
    merge entry.2 (Json.member (.obj changed) entry.1)]
  cases found : members.lookup key with
  | some value => rfl
  | none => rw [lookup_filter_new found]

theorem agrees_members (each : ∀ entry ∈ members, Agrees (merge entry.2 (Json.member (.obj changed) entry.1))
      (Json.member (.obj changed) entry.1)) :
    Agrees (merge (.obj members) (.obj changed)) (.obj changed) := by
  rw [merge, mergeMembers_eq]
  refine .obj fun key => ?_
  have merged := lookup_merged members changed key
  cases found : members.lookup key with
  | some value =>
    rw [found] at merged
    rw [member_eq merged]
    exact each _ (mem_of_lookup found)
  | none =>
    rw [found] at merged
    rw [Json.member, merged]
    exact .same

/-- The entries that take the place of `items`, with those `changed` adds, are `changed`. -/
theorem survivors_perm {changed : List Json} (itemKeys : (items.map entryIdentity).Nodup) (changedKeys : (changed.map entryIdentity).Nodup)
    (each : ∀ item ∈ items, ∃ survivor, entryOf changed (entryIdentity item) = some survivor) :
    ((items.map fun item => (entryOf changed (entryIdentity item)).getD .null) ++
      changed.filter fun entry => decide (entryIdentity entry ∉ items.map entryIdentity)).Perm
      changed := by
  have identities : (items.map fun item => (entryOf changed (entryIdentity item)).getD .null).map
      entryIdentity = items.map entryIdentity := by
    rw [List.map_map]
    refine List.map_congr_left fun item owned => ?_
    obtain ⟨survivor, found⟩ := each item owned
    rw [Function.comp_apply, found]
    exact (entryOf_some found).2
  have distinct : ((items.map fun item => (entryOf changed (entryIdentity item)).getD .null) ++ changed.filter fun entry =>
        decide (entryIdentity entry ∉ items.map entryIdentity)).Nodup := by
    refine List.Nodup.of_map entryIdentity ?_
    rw [List.map_append, identities]
    refine List.nodup_append.mpr ⟨itemKeys, changedKeys.sublist (List.filter_sublist.map _), ?_⟩
    rintro identity owned other fresh rfl
    obtain ⟨entry, member, rfl⟩ := List.mem_map.mp fresh
    exact (of_decide_eq_true (List.mem_filter.mp member).2) owned
  refine (List.perm_ext_iff_of_nodup distinct changedKeys.of_map).mpr fun entry => ?_
  rw [List.mem_append, List.mem_map]
  constructor
  · rintro (⟨item, owned, rfl⟩ | fresh)
    · obtain ⟨survivor, found⟩ := each item owned
      rw [found]
      exact (entryOf_some found).1
    · exact (List.mem_filter.mp fresh).1
  · intro present
    by_cases owned : entryIdentity entry ∈ items.map entryIdentity
    · obtain ⟨item, member, identified⟩ := List.mem_map.mp owned
      obtain ⟨survivor, found⟩ := each item member
      obtain ⟨survives, named⟩ := entryOf_some found
      refine .inl ⟨item, member, ?_⟩
      rw [found]
      exact List.inj_on_of_nodup_map changedKeys survives present (named.trans identified)
    · exact .inr (List.mem_filter.mpr ⟨present, decide_eq_true owned⟩)

theorem agrees_items {changed : List Json} (itemKeys : (items.map entryIdentity).Nodup) (changedKeys : (changed.map entryIdentity).Nodup)
    (each : ∀ item ∈ items, ∃ survivor, entryOf changed (entryIdentity item) = some survivor ∧
      Agrees (merge item survivor) survivor) :
    Agrees (merge (.arr items) (.arr changed)) (.arr changed) := by
  rw [merge, mergeItems_eq]
  refine .arr (List.rel_append ?_ (List.forall₂_same.mpr fun _ _ => .same))
    (survivors_perm itemKeys changedKeys fun item owned => (each item owned).imp fun _ => And.left)
  rw [List.forall₂_map_left_iff, List.forall₂_map_right_iff, List.forall₂_same]
  intro item owned
  obtain ⟨survivor, found, agrees⟩ := each item owned
  rw [found]
  exact agrees

theorem wellKeyed_member (keyed : WellKeyed (.obj changed)) (key : String) : WellKeyed (Json.member (.obj changed) key) := by
  cases found : changed.lookup key with
  | none =>
    simp only [Json.member, found, Option.getD_none]
    exact .null
  | some value =>
    rw [member_eq found]
    cases keyed with
    | obj _ each => exact each _ (mem_of_lookup found)

theorem merge_agrees (keyed : WellKeyed before) (keyedAfter : WellKeyed after)
    (types : KeepsTypes before after) (kept : lostContent before after = false) :
    Agrees (merge before after) after := by
  induction keyed generalizing after with
  | null | bool | num | str => exact agrees_apart types kept
  | @obj members names each ih =>
    obtain ⟨changed, rfl, lost⟩ | ⟨-, apart⟩ := kept_obj kept
    · cases types with
      | obj types =>
        exact agrees_members fun entry owned => ih entry owned (wellKeyed_member keyedAfter _)
          (types entry owned) (lostMembers_eq_false.mp lost entry owned)
    · rw [merge]
      · exact agrees_apart types kept
      · intro _ changed _ same; exact absurd same (apart changed)
      · intros; contradiction
  | @arr items identities each ih =>
    obtain ⟨remaining, rfl, lost⟩ | ⟨-, apart⟩ := kept_arr kept
    · cases types with
      | arr types =>
        cases keyedAfter with
        | arr remainingKeys eachAfter =>
          refine agrees_items identities remainingKeys fun item owned => ?_
          obtain ⟨survivor, found, keptItem⟩ := lostItems_eq_false.mp lost item owned
          obtain ⟨present, identified⟩ := entryOf_some found
          exact ⟨survivor, found, ih item owned (eachAfter survivor present) (types item owned survivor present identified) keptItem⟩
    · rw [merge]
      · exact agrees_apart types kept
      · intros; contradiction
      · intro _ changed _ same; exact absurd same (apart changed)

/-- When `lost_content` is false, merging `after` over `before` yields `after` up to list order and
unset leaves; it is true as soon as a leaf or a list entry of `before` is missing in `after`. -/
theorem lost_content_sound {before after : Json} (keyed : WellKeyed before)
    (keyedAfter : WellKeyed after) (types : KeepsTypes before after) :
    (lostContent before after = false → Agrees (merge before after) after) ∧
      (∀ path left, follow before path = some left →
        (∀ members, left ≠ .obj members) → (∀ items, left ≠ .arr items) → ¬ Unset left →
        (∀ right, follow after path = some right → right = .null ∨ right = .str "") →
        lostContent before after = true) ∧
      ∀ path items item, follow before path = some (.arr items) → item ∈ items →
        (∀ remaining, follow after path = some (.arr remaining) →
          ∀ entry ∈ remaining, entryIdentity entry ≠ entryIdentity item) →
        lostContent before after = true := by
  refine ⟨merge_agrees keyed keyedAfter types, ?_, ?_⟩
  · intro path left stands _ _ isSet omitted
    by_contra kept
    obtain unset | ⟨right, reached, rightTypes, keptLeaf⟩ := follow_kept types (Bool.eq_false_of_not_eq_true kept) stands
    · exact isSet unset
    · exact isSet (kept_leaf rightTypes keptLeaf (omitted right reached))
  · intro path items item stands owned dropped
    by_contra kept
    obtain unset | ⟨right, reached, -, keptList⟩ := follow_kept types (Bool.eq_false_of_not_eq_true kept) stands
    · obtain same | same | same := unset <;> cases same
    · obtain ⟨remaining, rfl, entries⟩ | ⟨rfl, -⟩ := kept_arr keptList
      · obtain ⟨survivor, found, -⟩ := lostItems_eq_false.mp entries item owned
        obtain ⟨present, identified⟩ := entryOf_some found
        exact dropped remaining reached survivor present identified
      · cases owned

/-- A route-map term that loses its metric is edited by no merge. -/
theorem lost_content_sound_metric : lostContent (.obj [("terms", .arr [.obj [("seq", .num 10), ("metric", .num 5)]])])
      (.obj [("terms", .arr [.obj [("seq", .num 10), ("metric", .null)]])]) = true := by
  refine (lost_content_sound (.obj (by decide) ?_) (.obj (by decide) ?_) (.obj ?_)).2.1
    [.member "terms", .entry (some "seq", .str "10"), .member "metric"] (.num 5) (by decide)
    (by intro _ same; cases same) (by intro _ same; cases same) (by unfold Unset; decide) ?_
  · simp only [List.forall_mem_singleton]
    refine .arr (by decide) (List.forall_mem_singleton.mpr (.obj (by decide) ?_))
    exact List.forall_mem_cons.mpr ⟨.num, List.forall_mem_singleton.mpr .num⟩
  · simp only [List.forall_mem_singleton]
    refine .arr (by decide) (List.forall_mem_singleton.mpr (.obj (by decide) ?_))
    exact List.forall_mem_cons.mpr ⟨.num, List.forall_mem_singleton.mpr .null⟩
  · refine List.forall_mem_singleton.mpr (.arr (List.forall_mem_singleton.mpr (List.forall_mem_singleton.mpr fun _ => .obj ?_)))
    exact List.forall_mem_cons.mpr ⟨.num, List.forall_mem_singleton.mpr .nulled⟩
  · intro right stands
    have found : follow (.obj [("terms", .arr [.obj [("seq", .num 10), ("metric", .null)]])])
        [.member "terms", .entry (some "seq", .str "10"), .member "metric"] = some .null := by
      decide
    exact .inl (Option.some.inj (stands.symm.trans found))

end NsoAdapter.Core.MergeContent
