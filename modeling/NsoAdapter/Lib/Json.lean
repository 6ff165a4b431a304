import Mathlib.Data.List.Basic

/-! JSON values with integer numbers and decidable equality. An object is the
list of its members. -/

namespace NsoAdapter.Lib

inductive Json where
  | null
  | bool (value : Bool)
  | num (value : Int)
  | str (value : String)
  | arr (items : List Json)
  | obj (members : List (String × Json))

namespace Json

instance : Inhabited Json := ⟨null⟩

mutual

def decEq : (left right : Json) → Decidable (left = right)
  | .null, .null => .isTrue rfl
  | .bool left, .bool right =>
    decidable_of_iff (left = right) ⟨fun same => same ▸ rfl, fun same => by cases same; rfl⟩
  | .num left, .num right =>
    decidable_of_iff (left = right) ⟨fun same => same ▸ rfl, fun same => by cases same; rfl⟩
  | .str left, .str right =>
    decidable_of_iff (left = right) ⟨fun same => same ▸ rfl, fun same => by cases same; rfl⟩
  | .arr left, .arr right =>
    match decEqItems left right with
    | .isTrue same => .isTrue (same ▸ rfl)
    | .isFalse differs => .isFalse fun same => differs (by cases same; rfl)
  | .obj left, .obj right =>
    match decEqMembers left right with
    | .isTrue same => .isTrue (same ▸ rfl)
    | .isFalse differs => .isFalse fun same => differs (by cases same; rfl)
  | .null, .bool _ | .null, .num _ | .null, .str _ | .null, .arr _ | .null, .obj _
  | .bool _, .null | .bool _, .num _ | .bool _, .str _ | .bool _, .arr _ | .bool _, .obj _
  | .num _, .null | .num _, .bool _ | .num _, .str _ | .num _, .arr _ | .num _, .obj _
  | .str _, .null | .str _, .bool _ | .str _, .num _ | .str _, .arr _ | .str _, .obj _
  | .arr _, .null | .arr _, .bool _ | .arr _, .num _ | .arr _, .str _ | .arr _, .obj _
  | .obj _, .null | .obj _, .bool _ | .obj _, .num _ | .obj _, .str _ | .obj _, .arr _ =>
    .isFalse fun same => by cases same

def decEqItems : (left right : List Json) → Decidable (left = right)
  | [], [] => .isTrue rfl
  | [], _ :: _ | _ :: _, [] => .isFalse fun same => by cases same
  | left :: lefts, right :: rights =>
    match decEq left right, decEqItems lefts rights with
    | .isTrue sameHead, .isTrue sameTail => .isTrue (sameHead ▸ sameTail ▸ rfl)
    | .isFalse differs, _ => .isFalse fun same => differs (by cases same; rfl)
    | _, .isFalse differs => .isFalse fun same => differs (by cases same; rfl)

def decEqMembers : (left right : List (String × Json)) → Decidable (left = right)
  | [], [] => .isTrue rfl
  | [], _ :: _ | _ :: _, [] => .isFalse fun same => by cases same
  | (leftKey, left) :: lefts, (rightKey, right) :: rights =>
    match decEq left right, decEqMembers lefts rights with
    | .isTrue sameHead, .isTrue sameTail =>
      decidable_of_iff (leftKey = rightKey)
        ⟨fun same => same ▸ sameHead ▸ sameTail ▸ rfl, fun same => by cases same; rfl⟩
    | .isFalse differs, _ => .isFalse fun same => differs (by cases same; rfl)
    | _, .isFalse differs => .isFalse fun same => differs (by cases same; rfl)

end

instance : DecidableEq Json := decEq

/-- The truth value of a JSON value in a boolean context. -/
def truthy : Json → Bool
  | .null => false
  | .bool value => value
  | .num value => value != 0
  | .str value => value != ""
  | .arr items => !items.isEmpty
  | .obj members => !members.isEmpty

/-- `value.get(key)` of an object; `null` for an absent member or another value. -/
def member (value : Json) (key : String) : Json :=
  match value with
  | .obj members => (members.lookup key).getD .null
  | _ => .null

end Json

end NsoAdapter.Lib
