import NsoAdapter.Lib.JsonStore

/-! When an edit loses content a merge cannot remove (`core/removal.py`) and when
it adds content (`core/generation.py`), over arbitrarily nested row values. -/

namespace NsoAdapter.Core
open Lib

/-- An owned scalar went from set to unset. -/
def isCleared (before after : Json) : Bool :=
  if before = .null ∨ before = .str "" ∨ before = .bool false then
    false
  else if after = .null then
    true
  else
    match before, after with
    | .str _, .str text => text = ""
    | _, _ => false

def entryKeyLeaves : List String :=
  ["sequence", "seq", "index", "order"]

/-- `str(value)` of a key leaf. -/
def keyText : Json → Json
  | .num value => .str (toString value)
  | .bool true => .str "True"
  | .bool false => .str "False"
  | value => value

/-- The key leaf of a keyed entry, or the entry itself with sorted keys. -/
def entryIdentity (item : Json) : Option String × Json :=
  match entryKeyLeaves.find? fun leaf => item.member leaf ≠ .null with
  | some leaf => (some leaf, keyText (item.member leaf))
  | none => (none, item.canonical)

mutual

/-- Whether `after` drops anything `before` carried. -/
def lostContent (before after : Json) : Bool :=
  isCleared before after ||
    match before with
    | .obj members =>
      match after with
      | .obj _ => lostMembers members after
      | _ => !members.isEmpty
    | .arr items =>
      match after with
      | .arr remaining => lostItems items remaining
      | _ => !items.isEmpty
    | _ => false

def lostMembers (members : List (String × Json)) (after : Json) : Bool :=
  match members with
  | [] => false
  | (key, value) :: rest => lostContent value (after.member key) || lostMembers rest after

def lostItems (items remaining : List Json) : Bool :=
  match items with
  | [] => false
  | item :: rest =>
    -- Of two entries with one identity the later one is compared.
    (match remaining.reverse.find? fun entry => entryIdentity entry = entryIdentity item with
      | none => true
      | some survivor => lostContent item survivor) || lostItems rest remaining

end

mutual

/-- Whether `after` adds content or changes a retained value to another set value. -/
def hasPositiveContent (before after : Json) : Bool :=
  match after with
  | .obj members => positiveMembers before members
  | .arr items =>
    items.any fun item =>
      match before with
      | .arr previous => !(previous.map Json.canonical).contains item.canonical
      | _ => true
  | _ => before ≠ after && after ≠ .null && after ≠ .str ""

def positiveMembers (before : Json) (members : List (String × Json)) : Bool :=
  match members with
  | [] => false
  | (key, value) :: rest =>
    hasPositiveContent (before.member key) value || positiveMembers before rest

end

end NsoAdapter.Core
