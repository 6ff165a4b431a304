import Mathlib.Data.List.Pairwise
import Mathlib.Data.List.Sort

/-! Lists read as relational tables: conditional updates, ordered selections and
their first and last rows. -/

namespace NsoAdapter.Lib

variable {Row Key : Type} [LinearOrder Key]

/-- `UPDATE ... SET ... WHERE`: rewrite the selected rows in place. -/
def updateWhere (selected : Row → Bool) (update : Row → Row) (rows : List Row) : List Row :=
  rows.map fun row => if selected row then update row else row

variable {selected : Row → Bool} {update : Row → Row} {rows : List Row} {row : Row}

theorem mem_updateWhere : row ∈ updateWhere selected update rows ↔
      ∃ old ∈ rows, (if selected old then update old else old) = row := by
  simp [updateWhere]

theorem mem_updateWhere_of_mem (member : row ∈ rows) : (if selected row then update row else row) ∈ updateWhere selected update rows :=
  mem_updateWhere.mpr ⟨row, member, rfl⟩

variable {Value : Type}

theorem map_updateWhere {column : Row → Value} (untouched : ∀ row, column (update row) = column row) (rows : List Row) :
    (updateWhere selected update rows).map column = rows.map column := by
  rw [updateWhere, List.map_map]
  refine List.map_congr_left fun row _ => ?_
  simp only [Function.comp]
  split
  · exact untouched row
  · rfl

/-- The key names one row of the table. -/
def UniqueBy {Value : Type} (key : Row → Value) (rows : List Row) : Prop :=
  ∀ left ∈ rows, ∀ right ∈ rows, key left = key right → left = right

theorem UniqueBy.map {key : Row → Value} {move : Row → Row} (unique : UniqueBy key rows) (same : ∀ row ∈ rows, key (move row) = key row) :
    UniqueBy key (rows.map move) := by
  intro left leftMember right rightMember equal
  obtain ⟨oldLeft, leftPresent, rfl⟩ := List.mem_map.mp leftMember
  obtain ⟨oldRight, rightPresent, rfl⟩ := List.mem_map.mp rightMember
  rw [same oldLeft leftPresent, same oldRight rightPresent] at equal
  rw [unique oldLeft leftPresent oldRight rightPresent equal]

theorem UniqueBy.append {key : Row → Value} (unique : UniqueBy key rows) (fresh : ∀ other ∈ rows, key other ≠ key row) :
    UniqueBy key (rows ++ [row]) := by
  intro left leftMember right rightMember equal
  rcases List.mem_append.mp leftMember with leftOld | leftNew
  · rcases List.mem_append.mp rightMember with rightOld | rightNew
    · exact unique left leftOld right rightOld equal
    · rw [List.mem_singleton.mp rightNew] at equal
      exact absurd equal (fresh left leftOld)
  · rw [List.mem_singleton.mp leftNew] at equal ⊢
    rcases List.mem_append.mp rightMember with rightOld | rightNew
    · exact absurd equal.symm (fresh right rightOld)
    · exact (List.mem_singleton.mp rightNew).symm

theorem updateWhere_eq_self (unselected : ∀ row ∈ rows, selected row = false) : updateWhere selected update rows = rows := by
  rw [updateWhere]
  conv_rhs => rw [← List.map_id rows]
  refine List.map_congr_left fun row member => ?_
  simp [unselected row member]

theorem updateWhere_updateWhere {first second : Row → Row} (stays : ∀ row, selected row = true → selected (first row) = true) :
    updateWhere selected second (updateWhere selected first rows) = updateWhere selected (fun row => second (first row)) rows := by
  unfold updateWhere
  rw [List.map_map]
  refine List.map_congr_left fun row _ => ?_
  by_cases chosen : selected row = true
  · simp [chosen, stays row chosen]
  · simp [chosen]

theorem foldl_updateWhere {Item : Type} (selected : Item → Row → Bool) (update : Item → Row → Row) (items : List Item) (rows : List Row) :
    items.foldl (fun rows item => updateWhere (selected item) (update item) rows) rows = rows.map fun row =>
        items.foldl (fun row item => if selected item row then update item row else row) row := by
  induction items generalizing rows with
  | nil => simp
  | cons item items ih =>
    rw [List.foldl_cons, ih, updateWhere, List.map_map]
    rfl

theorem find?_eq_some_of_unique [BEq Value] [LawfulBEq Value] {key : Row → Value} (member : row ∈ rows)
    (unique : ∀ other ∈ rows, key other = key row → other = row) :
    rows.find? (fun other => key other == key row) = some row := by
  cases found : rows.find? (fun other => key other == key row) with
  | none =>
    have missed := List.find?_eq_none.mp found row member
    simp at missed
  | some other =>
    have sameKey := List.find?_some found
    exact congrArg some (unique other (List.mem_of_find?_eq_some found) (eq_of_beq sameKey))

/-- `ORDER BY key`, stable. -/
def orderBy (key : Row → Key) (rows : List Row) : List Row :=
  rows.insertionSort fun left right => key left ≤ key right

variable {key : Row → Key}

@[simp] theorem mem_orderBy : row ∈ orderBy key rows ↔ row ∈ rows := (List.perm_insertionSort _ rows).mem_iff

theorem orderBy_eq_nil : orderBy key rows = [] ↔ rows = [] := by
  constructor
  · intro empty
    exact List.eq_nil_iff_forall_not_mem.mpr fun row member =>
      List.not_mem_nil (empty ▸ mem_orderBy.mpr member)
  · rintro rfl
    rfl

theorem orderBy_map {Image : Type} {image : Image → Key} {update : Row → Image}
    (sameKey : ∀ row, image (update row) = key row) (rows : List Row) :
    orderBy image (rows.map update) = (orderBy key rows).map update := by
  refine (List.map_insertionSort _ _ update rows ?_).symm
  intro left _ right _
  rw [sameKey, sameKey]

private theorem pairwise_orderBy (key : Row → Key) (rows : List Row) :
    (orderBy key rows).Pairwise fun left right => key left ≤ key right := by
  have total : Std.Total fun left right : Row => key left ≤ key right := ⟨fun left right => le_total (key left) (key right)⟩
  have transitive : IsTrans Row fun left right => key left ≤ key right := ⟨fun _ _ _ => le_trans⟩
  exact List.pairwise_insertionSort _ rows

theorem pairwise_ne_orderBy (distinct : (rows.map key).Nodup) : (orderBy key rows).Pairwise fun left right => key left ≠ key right := by
  have ordered : ((orderBy key rows).map key).Nodup := ((List.perm_insertionSort _ rows).map key).nodup_iff.mpr distinct
  exact List.pairwise_map.mp ordered

theorem pairwise_lt_orderBy (distinct : (rows.map key).Nodup) : (orderBy key rows).Pairwise fun left right => key left < key right :=
  ((pairwise_orderBy key rows).and (pairwise_ne_orderBy distinct)).imp fun both =>
    lt_of_le_of_ne both.1 both.2

theorem eq_of_pairwise_lt {left right : List Row} (leftOrdered : left.Pairwise fun first second => key first < key second)
    (rightOrdered : right.Pairwise fun first second => key first < key second)
    (same : ∀ row, row ∈ left ↔ row ∈ right) : left = right := by
  have apart : ∀ {rows : List Row}, (rows.Pairwise fun first second => key first < key second) →
      rows.Nodup := fun ordered => ordered.imp fun less equal => (equal ▸ less).false
  refine ((List.perm_ext_iff_of_nodup (apart leftOrdered) (apart rightOrdered)).mpr same).eq_of_pairwise ?_ leftOrdered rightOrdered
  intro first second _ _ less more
  exact absurd (less.trans more) (lt_irrefl _)

theorem orderBy_perm {left right : List Key} (shuffled : left.Perm right) : orderBy id left = orderBy id right := by
  have sorted : (orderBy id left).Perm (orderBy id right) :=
    ((List.perm_insertionSort _ left).trans shuffled).trans (List.perm_insertionSort _ right).symm
  exact sorted.eq_of_pairwise (fun _ _ _ _ => le_antisymm) (pairwise_orderBy id left) (pairwise_orderBy id right)

theorem mem_of_head?_orderBy {first : Row} (head : (orderBy key rows).head? = some first) : first ∈ rows :=
  mem_orderBy.mp (List.mem_of_head? head)

theorem key_le_of_getLast?_orderBy {last : Row} (finish : (orderBy key rows).getLast? = some last) (member : row ∈ rows) :
    key row ≤ key last := by
  have ordered := pairwise_orderBy key rows
  obtain ⟨front, shape⟩ := List.getLast?_eq_some_iff.mp finish
  rw [shape, List.pairwise_append] at ordered
  have located : row ∈ front ++ [last] := shape ▸ mem_orderBy.mpr member
  rcases List.mem_append.mp located with earlier | final
  · exact ordered.2.2 row earlier last (by simp)
  · exact le_of_eq (congrArg key (by simpa using final))

/-- The first value that occurs twice. -/
def firstRepeated {Value : Type} [DecidableEq Value] : List Value → List Value → Option Value
  | _, [] => none
  | seen, value :: rest =>
    if seen.contains value then some value else firstRepeated (value :: seen) rest

theorem eq_of_nodup_filterMap {Item : Type} {key : Item → Option Value} {items : List Item}
    (distinct : (items.filterMap key).Nodup) {left right : Item} (leftMember : left ∈ items)
    (rightMember : right ∈ items) {value : Value} (leftKey : key left = some value)
    (rightKey : key right = some value) : left = right := by
  have apart := List.pairwise_filterMap.mp distinct
  have symmetric : Std.Symm fun left right : Item =>
      ∀ value, key left = some value → ∀ other, key right = some other → value ≠ other :=
    ⟨fun _ _ apart value found other located same => apart other located value found same.symm⟩
  by_contra different
  exact apart.forall leftMember rightMember different value leftKey value rightKey rfl

theorem nodup_of_firstRepeated [DecidableEq Value] {values : List Value} : ∀ {seen : List Value}, firstRepeated seen values = none →
      values.Nodup ∧ ∀ value ∈ values, value ∉ seen := by
  induction values with
  | nil =>
    intro seen _
    exact ⟨List.nodup_nil, fun _ member => absurd member List.not_mem_nil⟩
  | cons value rest ih =>
    intro seen none
    unfold firstRepeated at none
    split at none
    · cases none
    rename_i unseen
    obtain ⟨distinct, apart⟩ := ih none
    refine ⟨List.nodup_cons.mpr ⟨fun member => apart value member List.mem_cons_self, distinct⟩, ?_⟩
    intro other member
    rcases List.mem_cons.mp member with rfl | later
    · simpa using unseen
    · exact fun held => apart other later (List.mem_cons_of_mem _ held)

end NsoAdapter.Lib
