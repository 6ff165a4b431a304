import Mathlib.Data.String.Basic
import NsoAdapter.Lib.Dict
import NsoAdapter.Lib.Json
import NsoAdapter.Lib.Rows

/-! JSON values in a store that keeps the members of an object in an order of its own. What is
loaded has the canonical form of what was stored, and a reader that finds members by name reads
the same value from both. -/

namespace NsoAdapter.Lib

namespace Json

mutual

/-- The members of every object in the order of their names. -/
def canonical : Json → Json
  | .null => .null
  | .bool value => .bool value
  | .num value => .num value
  | .str value => .str value
  | .arr items => .arr (canonicalItems items)
  | .obj members => .obj (orderBy (·.1) (canonicalMembers members))

def canonicalItems : List Json → List Json
  | [] => []
  | item :: items => canonical item :: canonicalItems items

def canonicalMembers : List (String × Json) → List (String × Json)
  | [] => []
  | (name, value) :: members => (name, canonical value) :: canonicalMembers members

end

mutual

/-- No object has two members of one name. -/
def Distinct : Json → Prop
  | .arr items => DistinctItems items
  | .obj members => (members.map (·.1)).Nodup ∧ DistinctMembers members
  | .null | .bool _ | .num _ | .str _ => True

def DistinctItems : List Json → Prop
  | [] => True
  | item :: items => Distinct item ∧ DistinctItems items

def DistinctMembers : List (String × Json) → Prop
  | [] => True
  | (_, value) :: members => Distinct value ∧ DistinctMembers members

end

-- The equations of the two recursions, for every proof below.
attribute [local simp] canonical canonicalItems canonicalMembers Distinct DistinctItems DistinctMembers

theorem canonicalItems_eq (items : List Json) : canonicalItems items = items.map canonical := by
  induction items with
  | nil => rw [canonicalItems, List.map_nil]
  | cons item items ih => rw [canonicalItems, ih, List.map_cons]

theorem canonicalMembers_eq (members : List (String × Json)) :
    canonicalMembers members = members.map fun member => (member.1, canonical member.2) := by
  induction members with
  | nil => rw [canonicalMembers, List.map_nil]
  | cons member members ih =>
    obtain ⟨name, value⟩ := member
    rw [canonicalMembers, ih, List.map_cons]

theorem distinctItems_iff {items : List Json} : DistinctItems items ↔ ∀ item ∈ items, Distinct item := by
  induction items with
  | nil => simp [DistinctItems]
  | cons item items ih => simp [DistinctItems, ih]

variable {members : List (String × Json)}

theorem distinctMembers_iff : DistinctMembers members ↔ ∀ member ∈ members, Distinct member.2 := by
  induction members with
  | nil => simp [DistinctMembers]
  | cons member members ih =>
    obtain ⟨name, value⟩ := member
    simp [DistinctMembers, ih]

@[simp] theorem distinct_null : Distinct .null := by rw [Distinct]; trivial

@[simp] theorem distinct_num (value : Int) : Distinct (.num value) := by rw [Distinct]; trivial

@[simp] theorem distinct_str (value : String) : Distinct (.str value) := by rw [Distinct]; trivial

@[simp] theorem distinct_arr {items : List Json} : Distinct (.arr items) ↔ ∀ item ∈ items, Distinct item := by
  rw [Distinct, distinctItems_iff]

@[simp] theorem distinct_obj : Distinct (.obj members) ↔
      (members.map (·.1)).Nodup ∧ ∀ member ∈ members, Distinct member.2 := by
  rw [Distinct, distinctMembers_iff]

variable {value : Json}

theorem Distinct.member (distinct : value.Distinct) (name : String) : (value.member name).Distinct := by
  cases value with
  | obj members =>
    unfold Json.member
    dsimp only
    cases found : members.lookup name with
    | none => exact distinct_null
    | some value => exact (distinct_obj.mp distinct).2 _ (Dict.mem_of_get? found)
  | null | bool _ | num _ | str _ | arr _ => exact distinct_null

theorem lookup_canonical (names : (members.map (·.1)).Nodup) (name : String) :
    (orderBy (·.1) (canonicalMembers members)).lookup name = (members.lookup name).map canonical := by
  have images : (canonicalMembers members).map (·.1) = members.map (·.1) := by
    rw [canonicalMembers_eq, List.map_map]
    rfl
  have sorted : List.lookup name (orderBy (·.1) (canonicalMembers members)) = List.lookup name (canonicalMembers members) :=
    Dict.get?_perm (images ▸ names) (List.perm_insertionSort _ _)
  rw [sorted, canonicalMembers_eq]
  exact Dict.get?_map canonical

theorem canonical_member (distinct : value.Distinct) (name : String) : value.canonical.member name = (value.member name).canonical := by
  cases value with
  | obj members =>
    rw [canonical]
    unfold Json.member
    dsimp only
    rw [lookup_canonical (distinct_obj.mp distinct).1]
    cases members.lookup name with
    | none => rw [Option.map_none, Option.getD_none, canonical]
    | some value => rfl
  | null | bool _ | num _ | str _ | arr _ => rfl

/-- `name in value`. -/
def has (value : Json) (name : String) : Bool :=
  match value with
  | .obj members => (members.lookup name).isSome
  | _ => false

theorem canonical_has (distinct : value.Distinct) (name : String) : value.canonical.has name = value.has name := by
  cases value with
  | obj members =>
    rw [canonical]
    unfold has
    dsimp only
    rw [lookup_canonical (distinct_obj.mp distinct).1, Option.isSome_map]
  | null | bool _ | num _ | str _ | arr _ => rfl

def text? : Json → Option String
  | .str value => some value
  | _ => none

def nat? : Json → Option Nat
  | .num (.ofNat value) => some value
  | _ => none

/-- Read every item of an array. -/
def items? {Value : Type} (read : Json → Option Value) : Json → Option (List Value)
  | .arr items => items.mapM read
  | _ => none

/-- An object of exactly these members. -/
def hasExactly (names : List String) : Json → Bool
  | .obj members => names.all (members.map (·.1)).contains && (members.map (·.1)).all names.contains
  | _ => false

/-- Read a value that may be `null`. -/
def nullable? {Value : Type} (read : Json → Option Value) (value : Json) : Option (Option Value) :=
  match value with
  | .null => some none
  | value => (read value).map some

/-- What a store may return for a stored value. -/
structure Stored (value loaded : Json) : Prop where
  distinct : loaded.Distinct
  same : loaded.canonical = value.canonical

namespace Stored

variable {value loaded : Json}

theorem member (stored : Stored value loaded) (distinct : value.Distinct) (name : String) :
    Stored (value.member name) (loaded.member name) := by
  refine ⟨stored.distinct.member name, ?_⟩
  rw [← canonical_member stored.distinct, stored.same, canonical_member distinct]

theorem has (stored : Stored value loaded) (distinct : value.Distinct) (name : String) : loaded.has name = value.has name := by
  rw [← canonical_has stored.distinct, stored.same, canonical_has distinct]

theorem null (stored : Stored .null loaded) : loaded = .null := by
  have same := stored.same
  cases loaded with
  | null => rfl
  | bool _ | num _ | str _ | arr _ | obj _ =>
    simp only [canonical] at same
    cases same

theorem str {text : String} (stored : Stored (.str text) loaded) : loaded = .str text := by
  have same := stored.same
  cases loaded with
  | str _ =>
    simp only [canonical] at same
    exact same
  | null | bool _ | num _ | arr _ | obj _ =>
    simp only [canonical] at same
    cases same

theorem num {number : Int} (stored : Stored (.num number) loaded) : loaded = .num number := by
  have same := stored.same
  cases loaded with
  | num _ =>
    simp only [canonical] at same
    exact same
  | null | bool _ | str _ | arr _ | obj _ =>
    simp only [canonical] at same
    cases same

theorem arr {items : List Json} (stored : Stored (.arr items) loaded) : ∃ loads, loaded = .arr loads ∧ List.Forall₂ Stored items loads := by
  obtain ⟨distinct, same⟩ := stored
  cases loaded with
  | arr loads =>
    rw [canonical, canonical, canonicalItems_eq, canonicalItems_eq] at same
    refine ⟨loads, rfl, ?_⟩
    have each := distinct_arr.mp distinct
    clear distinct
    have images := Json.arr.inj same
    clear same
    induction loads generalizing items with
    | nil =>
      rw [List.map_nil] at images
      rw [List.map_eq_nil_iff.mp images.symm]
      exact .nil
    | cons load loads ih =>
      cases items with
      | nil => cases images
      | cons item items =>
        rw [List.map_cons, List.map_cons] at images
        obtain ⟨first, rest⟩ := List.cons.inj images
        exact .cons ⟨each load List.mem_cons_self, first⟩ (ih (fun other member => each other (List.mem_cons_of_mem _ member)) rest)
  | null | bool _ | num _ | str _ | obj _ =>
    simp only [canonical] at same
    cases same

theorem obj {members : List (String × Json)} (stored : Stored (.obj members) loaded) :
    ∃ loads, loaded = .obj loads ∧ (loads.map (·.1)).Perm (members.map (·.1)) := by
  obtain ⟨distinct, same⟩ := stored
  cases loaded with
  | obj loads =>
    refine ⟨loads, rfl, ?_⟩
    rw [canonical, canonical, canonicalMembers_eq, canonicalMembers_eq] at same
    have names : ∀ list : List (String × Json), ((orderBy (·.1) (list.map fun member =>
        (member.1, canonical member.2))).map (·.1)).Perm (list.map (·.1)) := by
      intro list
      refine ((List.perm_insertionSort _ _).map _).trans (.of_eq ?_)
      rw [List.map_map]
      rfl
    exact ((names loads).symm.trans (.of_eq (congrArg (List.map (·.1)) (Json.obj.inj same)))).trans (names members)
  | null | bool _ | num _ | str _ | arr _ =>
    simp only [canonical] at same
    cases same

end Stored

/-- Whatever a store returns for an encoded value is read as the value. -/
def Reads {Value : Type} (encode : Value → Json) (read : Json → Option Value) (value : Value) : Prop :=
  ∀ loaded, Stored (encode value) loaded → read loaded = some value

theorem reads_text (text : String) : Reads .str text? text := by
  intro loaded stored
  rw [stored.str]
  rfl

theorem reads_nat (number : Nat) : Reads (fun number : Nat => .num number) nat? number := by
  intro loaded stored
  rw [stored.num]
  rfl

variable {Value : Type}

theorem Reads.items {encode : Value → Json} {read : Json → Option Value}
    {values : List Value} (each : ∀ value ∈ values, Reads encode read value) :
    Reads (fun values => .arr (values.map encode)) (items? read) values := by
  intro loaded stored
  obtain ⟨loads, rfl, related⟩ := stored.arr
  unfold items?
  dsimp only
  clear stored
  induction values generalizing loads with
  | nil =>
    cases related
    rfl
  | cons value values ih =>
    rw [List.map_cons] at related
    cases related with
    | cons first rest =>
      rw [List.mapM_cons, each value List.mem_cons_self _ first, ih (fun other member => each other (List.mem_cons_of_mem _ member)) _ rest]
      rfl

/-- An optional value, `null` where it is absent. -/
def nullable {Value : Type} (encode : Value → Json) : Option Value → Json
  | none => .null
  | some value => encode value

theorem distinct_nullable {encode : Value → Json} {value : Option Value}
    (each : ∀ inner ∈ value, (encode inner).Distinct) : (nullable encode value).Distinct := by
  cases value with
  | none => exact distinct_null
  | some inner => exact each inner rfl

/-- Read a value that any falsy value stands for the absence of. -/
def truthy? {Value : Type} (read : Json → Option Value) (value : Json) : Option (Option Value) :=
  if value.truthy then (read value).map some else some none

theorem Reads.truthy {encode : Value → Json} {read : Json → Option Value} {value : Option Value}
    (truthy : ∀ inner ∈ value, ∀ loaded, Stored (encode inner) loaded → loaded.truthy = true)
    (each : ∀ inner ∈ value, Reads encode read inner) :
    Reads (Json.nullable encode) (truthy? read) value := by
  intro loaded stored
  unfold truthy?
  cases value with
  | none =>
    rw [stored.null]
    rfl
  | some inner =>
    rw [if_pos (truthy inner rfl loaded stored), each inner rfl loaded stored]
    rfl

/-- One of a finite set of values, by its name. -/
def named? {Value : Type} (name : Value → String) (values : List Value) (record : Json) : Option Value :=
  record.text?.bind fun text => values.find? fun value => name value == text

theorem reads_named {name : Value → String} {values : List Value} {value : Value}
    (found : values.find? (fun other => name other == name value) = some value) :
    Reads (fun value => .str (name value)) (named? name values) value := by
  intro loaded stored
  rw [stored.str]
  exact found

theorem Reads.nullable {encode : Value → Json} {read : Json → Option Value}
    {value : Option Value} (present : ∀ value, read (.null) ≠ some value)
    (each : ∀ inner ∈ value, Reads encode read inner) :
    Reads (nullable encode) (nullable? read) value := by
  intro loaded stored
  cases value with
  | none =>
    rw [stored.null]
    rfl
  | some inner =>
    have found := each inner rfl loaded stored
    unfold nullable?
    split
    · exact absurd found (present inner)
    · rw [found]
      rfl

end Json

end NsoAdapter.Lib
