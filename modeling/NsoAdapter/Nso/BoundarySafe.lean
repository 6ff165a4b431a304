import Mathlib.Data.List.Basic

/-! JSON bodies whose numbers and literals cross no refill of NSO's read buffer
(`nso/nso_json.py`). Both loops of the source read a text piece by piece, and the pieces of
what `json.dumps` writes are known from the value. -/

namespace NsoAdapter.Nso

/-- `NSO_LEX_CHUNK`. -/
def lexChunk : Nat := 65536

def bareStart : List Char := "-0123456789tfn".toList

def bareChars : List Char := "-+.0123456789eEtruefalsn".toList

inductive Lexeme where
  | quoted (text : List Char)
  | bare (text : List Char)
  | other (char : Char)
  deriving DecidableEq

def Lexeme.text : Lexeme → List Char
  | .quoted text | .bare text => text
  | .other char => [char]

def render (lexemes : List Lexeme) : List Char :=
  lexemes.flatMap Lexeme.text

/-- How far a string reaches behind its opening quote; an escape is two characters. -/
def stringEnd : List Char → Nat
  | [] => 0
  | '"' :: _ => 1
  | ['\\'] => 2
  | '\\' :: _ :: rest => stringEnd rest + 2
  | _ :: rest => stringEnd rest + 1

/-- The pieces a loop reads, one at each turn. -/
def scan : List Char → List Lexeme
  | [] => []
  | char :: rest =>
    if char = '"' then
      .quoted (char :: rest.take (stringEnd rest)) :: scan (rest.drop (stringEnd rest))
    else if char ∈ bareStart then
      .bare (char :: rest.takeWhile (· ∈ bareChars)) :: scan (rest.dropWhile (· ∈ bareChars))
    else .other char :: scan rest
termination_by text => text.length
decreasing_by
  · exact Nat.lt_succ_of_le (List.drop_sublist _ _).length_le
  · exact Nat.lt_succ_of_le (List.dropWhile_sublist _).length_le
  · simp

def straddles (chunk pos : Nat) (token : List Char) : Bool :=
  let boundary := (pos / chunk + 1) * chunk
  pos < boundary && boundary < pos + token.length

/-- The loop of `boundary_safe_dumps`, from an output offset on. -/
def pad (pos : Nat) : List Lexeme → List Lexeme
  | [] => []
  | .bare token :: later =>
    if straddles lexChunk pos token then
      let boundary := (pos / lexChunk + 1) * lexChunk
      List.replicate (boundary - pos) (.other ' ') ++
        .bare token :: pad (boundary + token.length) later
    else .bare token :: pad (pos + token.length) later
  | lexeme :: later => lexeme :: pad (pos + lexeme.text.length) later

def straddlingFrom (chunk pos : Nat) : List Lexeme → List (Nat × List Char)
  | [] => []
  | .bare token :: later =>
    let found := straddlingFrom chunk (pos + token.length) later
    if straddles chunk pos token then (pos, token) :: found else found
  | lexeme :: later => straddlingFrom chunk (pos + lexeme.text.length) later

def straddlingBareTokens (text : List Char) (chunk : Nat) : List (Nat × List Char) :=
  straddlingFrom chunk 0 (scan text)

/-! ## `json.dumps` -/

/-- What stands behind the opening quote of a string. -/
inductive Quoted : List Char → Prop where
  | close : Quoted ['"']
  | escape {rest : List Char} (char : Char) : Quoted rest → Quoted ('\\' :: char :: rest)
  | plain {char : Char} {rest : List Char} : char ≠ '"' → char ≠ '\\' → Quoted rest →
      Quoted (char :: rest)

inductive Bare : List Char → Prop where
  | mk {first : Char} {rest : List Char} : first ∈ bareStart → (∀ char ∈ rest, char ∈ bareChars) →
      Bare (first :: rest)

inductive Value (Number : Type) where
  | null
  | bool (value : Bool)
  | number (value : Number)
  | string (value : String)
  | array (items : List (Value Number))
  | object (members : List (String × Value Number))

/-- The texts that `json.dumps` writes for the finite numbers and, with its escapes, for strings. -/
structure JsonEncoder (Number : Type) where
  numeral : Number → List Char
  bare : ∀ number, Bare (numeral number)
  quote : String → List Char
  quoted : ∀ value, Quoted (quote value)

namespace JsonEncoder

variable {Number : Type} (encoder : JsonEncoder Number)

def string (value : String) : Lexeme :=
  .quoted ('"' :: encoder.quote value)

def separator (last : Bool) : List Lexeme :=
  if last then [] else [.other ',', .other ' ']

mutual

def lexemes : Value Number → List Lexeme
  | .null => [.bare "null".toList]
  | .bool value => [.bare (if value then "true".toList else "false".toList)]
  | .number value => [.bare (encoder.numeral value)]
  | .string value => [encoder.string value]
  | .array items => .other '[' :: (itemLexemes items ++ [.other ']'])
  | .object members => .other '\x7b' :: (memberLexemes members ++ [.other '\x7d'])

def itemLexemes : List (Value Number) → List Lexeme
  | [] => []
  | item :: items => lexemes item ++ (separator items.isEmpty ++ itemLexemes items)

def memberLexemes : List (String × Value Number) → List Lexeme
  | [] => []
  | (key, value) :: members =>
    encoder.string key :: .other ':' :: .other ' ' ::
      (lexemes value ++ (separator members.isEmpty ++ memberLexemes members))

end

def dumps (value : Value Number) : List Char :=
  render (encoder.lexemes value)

def boundarySafeDumps (value : Value Number) : List Char :=
  let text := encoder.dumps value
  if text.length ≤ lexChunk then text else render (pad 0 (scan text))

end JsonEncoder

/-- What a parser reads: whitespace between the tokens is insignificant. -/
def tokens (text : List Char) : List Lexeme :=
  (scan text).filter (· ≠ .other ' ')

/-! ## Reading back -/

def Lexeme.closes : Lexeme → Prop
  | .quoted _ => True
  | .bare _ => False
  | .other char => char ∉ bareChars

/-- Pieces that are read as they were written: a number or a literal has an end. -/
inductive Readable : List Lexeme → Prop where
  | nil : Readable []
  | quoted {body : List Char} {later : List Lexeme} : Quoted body → Readable later →
      Readable (.quoted ('"' :: body) :: later)
  | bare {token : List Char} {later : List Lexeme} : Bare token →
      (∀ next ∈ later.head?, next.closes) → Readable later → Readable (.bare token :: later)
  | other {char : Char} {later : List Lexeme} : char ≠ '"' → char ∉ bareStart → Readable later →
      Readable (.other char :: later)

variable {lexemes later : List Lexeme}

theorem Quoted.stringEnd_eq {body : List Char} (quoted : Quoted body) (rest : List Char) : stringEnd (body ++ rest) = body.length := by
  induction quoted with
  | close => simp [stringEnd]
  | escape char _ ih => simp [stringEnd, ih]
  | plain notQuote notEscape _ ih =>
    rw [List.cons_append, stringEnd.eq_5 _ _ notQuote (by simp [notEscape]) (by simp [notEscape]), ih, List.length_cons]

theorem Readable.head_closes (readable : Readable later) (ends : ∀ next ∈ later.head?, next.closes) :
    ∀ char ∈ (render later).head?, char ∉ bareChars := by
  cases readable with
  | nil => simp [render]
  | quoted =>
    rintro char ⟨⟩
    decide
  | bare => exact absurd (ends _ rfl) id
  | other =>
    rintro char ⟨⟩
    exact ends _ rfl

theorem Bare.of_all {first : Char} {rest : List Char} (starts : first ∈ bareStart)
    (inside : rest.all (· ∈ bareChars)) : Bare (first :: rest) :=
  .mk starts (by simpa using inside)

theorem Bare.takeWhile {rest tail : List Char} (inside : ∀ char ∈ rest, char ∈ bareChars) (ends : ∀ char ∈ tail.head?, char ∉ bareChars) :
    (rest ++ tail).takeWhile (· ∈ bareChars) = rest ∧ (rest ++ tail).dropWhile (· ∈ bareChars) = tail := by
  induction rest with
  | nil => cases tail <;> simp_all
  | cons char rest ih => simp_all

/-- What was written piece by piece is read piece by piece. -/
theorem scan_render (readable : Readable lexemes) : scan (render lexemes) = lexemes := by
  induction readable with
  | nil => simp [render, scan]
  | @quoted body later quoted _ ih =>
    have ends := quoted.stringEnd_eq (render later)
    change scan ('"' :: (body ++ render later)) = _
    rw [scan, if_pos rfl, ends, List.take_left, List.drop_left, ih]
  | @bare token later bare closes readable ih =>
    cases bare with
    | @mk first rest starts inside =>
      have notQuote : first ≠ '"' := by
        rintro rfl
        revert starts
        decide
      obtain ⟨taken, dropped⟩ := Bare.takeWhile inside (readable.head_closes closes)
      change scan (first :: (rest ++ render later)) = _
      rw [scan, if_neg notQuote, if_pos starts, taken, dropped, ih]
  | @other char later notQuote notBare _ ih =>
    change scan (char :: render later) = _
    rw [scan, if_neg notQuote, if_neg notBare, ih]

/-! ## Padding -/

theorem head_pad {pos : Nat} (closes : ∀ next ∈ later.head?, next.closes) : ∀ next ∈ (pad pos later).head?, next.closes := by
  cases later with
  | nil => simp [pad]
  | cons lexeme later =>
    cases lexeme with
    | bare token => exact absurd (closes _ rfl) id
    | quoted text => simpa [pad] using closes
    | other char => simpa [pad] using closes

theorem Readable.spaces (readable : Readable later) (count : Nat) : Readable (List.replicate count (.other ' ') ++ later) := by
  induction count with
  | zero => exact readable
  | succ count ih => exact .other (by decide) (by decide) ih

theorem Readable.pad (readable : Readable lexemes) (pos : Nat) : Readable (pad pos lexemes) := by
  induction readable generalizing pos with
  | nil => exact .nil
  | quoted quoted _ ih => exact .quoted quoted (ih _)
  | other notQuote notBare _ ih => exact .other notQuote notBare (ih _)
  | bare token closes _ ih =>
    rw [Nso.pad]
    split
    · exact .spaces (.bare token (head_pad closes) (ih _)) _
    · exact .bare token (head_pad closes) (ih _)

theorem filter_pad (pos : Nat) (lexemes : List Lexeme) : (pad pos lexemes).filter (· ≠ .other ' ') = lexemes.filter (· ≠ .other ' ') := by
  fun_induction pad pos lexemes with
  | case1 => rfl
  | case2 pos token later _ boundary ih => simp_all
  | case3 pos token later _ ih => simp_all
  | case4 pos lexeme later _ ih => simp_all [List.filter_cons]

theorem straddlingFrom_spaces (chunk pos count : Nat) (later : List Lexeme) :
    straddlingFrom chunk pos (List.replicate count (.other ' ') ++ later) = straddlingFrom chunk (pos + count) later := by
  induction count generalizing pos with
  | zero => rfl
  | succ count ih =>
    rw [List.replicate_succ, List.cons_append, straddlingFrom, ih]
    · simp [Lexeme.text, Nat.add_comm, Nat.add_left_comm]
    · simp

theorem straddles_boundary {chunk : Nat} (lap : Nat) {token : List Char} (short : token.length ≤ chunk) :
    straddles chunk (lap * chunk) token = false := by
  by_cases positive : 0 < chunk
  · simp only [straddles, Nat.mul_div_cancel _ positive, Nat.add_mul, Nat.one_mul]
    simp
    omega
  · simp_all [straddles]

theorem straddlingFrom_pad (short : ∀ token, .bare token ∈ lexemes → token.length ≤ lexChunk) (pos : Nat) :
    straddlingFrom lexChunk pos (pad pos lexemes) = [] := by
  fun_induction pad pos lexemes with
  | case1 => rfl
  | case2 pos token later crosses boundary ih =>
    have before : pos ≤ boundary := by
      simp only [straddles, Bool.and_eq_true, decide_eq_true_eq] at crosses
      exact Nat.le_of_lt crosses.1
    have fits : straddles lexChunk boundary token = false := straddles_boundary _ (short token List.mem_cons_self)
    rw [straddlingFrom_spaces, Nat.add_sub_cancel' before, straddlingFrom, fits]
    exact ih fun token member => short token (List.mem_cons_of_mem _ member)
  | case3 pos token later fits ih =>
    rw [straddlingFrom, if_neg fits]
    exact ih fun token member => short token (List.mem_cons_of_mem _ member)
  | case4 pos lexeme later notBare ih =>
    rw [straddlingFrom]
    · exact ih fun token member => short token (List.mem_cons_of_mem _ member)
    · exact notBare

theorem straddlingFrom_short {chunk pos : Nat} (fits : pos + (render lexemes).length ≤ chunk) : straddlingFrom chunk pos lexemes = [] := by
  fun_induction straddlingFrom chunk pos lexemes with
  | case1 => rfl
  | case2 pos token later found crosses ih =>
    have reaches : chunk ≤ (pos / chunk + 1) * chunk := Nat.le_mul_of_pos_left _ (Nat.succ_pos _)
    simp [straddles, render, Lexeme.text] at crosses fits
    omega
  | case3 pos token later found crosses ih =>
    refine ih ?_
    simp [render, Lexeme.text] at fits ⊢
    omega
  | case4 pos lexeme later notBare ih =>
    refine ih ?_
    simp [render] at fits ⊢
    omega

/-- The text of the pieces, with spaces inserted right before numbers and literals only. -/
inductive Padded : List Lexeme → List Char → Prop where
  | nil : Padded [] []
  | copied {later : List Lexeme} {text : List Char} (lexeme : Lexeme) : Padded later text →
      Padded (lexeme :: later) (lexeme.text ++ text)
  | spaced {later : List Lexeme} {text : List Char} (count : Nat) (token : List Char) :
      Padded later text → Padded (.bare token :: later) (List.replicate count ' ' ++ (token ++ text))

theorem Padded.render (lexemes : List Lexeme) : Padded lexemes (render lexemes) := by
  induction lexemes with
  | nil => exact .nil
  | cons lexeme later ih => exact .copied lexeme ih

theorem Padded.pad (pos : Nat) (lexemes : List Lexeme) : Padded lexemes (Nso.render (Nso.pad pos lexemes)) := by
  fun_induction Nso.pad pos lexemes with
  | case1 => exact .nil
  | case2 pos token later _ boundary ih =>
    have spaced := Padded.spaced (boundary - pos) token ih
    simpa [Nso.render, Lexeme.text, List.flatMap_replicate] using spaced
  | case3 pos token later _ ih => exact .copied _ ih
  | case4 pos lexeme later _ ih => exact .copied _ ih

namespace JsonEncoder

variable {Number : Type} (encoder : JsonEncoder Number)

theorem closes_other {char : Char} (outside : char ∉ bareChars) : ∀ next ∈ (Lexeme.other char :: later).head?, next.closes := by
  rintro next ⟨⟩
  exact outside

theorem readable_separator (readable : Readable later) (last : Bool) : Readable (separator last ++ later) := by
  cases last with
  | true => exact readable
  | false => exact .other (by decide) (by decide) (.other (by decide) (by decide) readable)

mutual

theorem readable_lexemes (value : Value Number) {later : List Lexeme} (readable : Readable later)
    (closes : ∀ next ∈ later.head?, next.closes) : Readable (encoder.lexemes value ++ later) := by
  cases value with
  | null => exact .bare (.of_all (by decide) (by decide)) closes readable
  | bool value => cases value <;> exact .bare (.of_all (by decide) (by decide)) closes readable
  | number value => exact .bare (encoder.bare value) closes readable
  | string value => exact .quoted (encoder.quoted value) readable
  | array items =>
    rw [lexemes, List.cons_append, List.append_assoc]
    refine .other (by decide) (by decide) (readable_items items ?_ (closes_other (by decide)))
    exact .other (by decide) (by decide) readable
  | object members =>
    rw [lexemes, List.cons_append, List.append_assoc]
    refine .other (by decide) (by decide) (readable_members members ?_ (closes_other (by decide)))
    exact .other (by decide) (by decide) readable

theorem readable_items (items : List (Value Number)) {later : List Lexeme}
    (readable : Readable later) (closes : ∀ next ∈ later.head?, next.closes) :
    Readable (encoder.itemLexemes items ++ later) := by
  cases items with
  | nil => exact readable
  | cons item items =>
    rw [itemLexemes, List.append_assoc, List.append_assoc]
    refine readable_lexemes item (readable_separator (readable_items items readable closes) _) ?_
    cases items with
    | nil => exact closes
    | cons next items => exact closes_other (by decide)

theorem readable_members (members : List (String × Value Number)) {later : List Lexeme}
    (readable : Readable later) (closes : ∀ next ∈ later.head?, next.closes) :
    Readable (encoder.memberLexemes members ++ later) := by
  cases members with
  | nil => exact readable
  | cons entry members =>
    rw [memberLexemes, List.cons_append, List.cons_append, List.cons_append, List.append_assoc, List.append_assoc]
    refine .quoted (encoder.quoted _) (.other (by decide) (by decide) (.other (by decide)
      (by decide) (readable_lexemes entry.2 (readable_separator (readable_members members readable closes) _) ?_)))
    cases members with
    | nil => exact closes
    | cons next members => exact closes_other (by decide)

end

/-- A serialized body parses to the same value, differs from `json.dumps` by spaces before numbers
and literals, and has none of these across a multiple of the chunk. -/
theorem boundary_safe_json (value : Value Number) (short : ∀ token, .bare token ∈ encoder.lexemes value → token.length ≤ lexChunk) :
    (∀ parse : List Lexeme → Option (Value Number), parse (tokens (encoder.dumps value)) = some value →
        parse (tokens (encoder.boundarySafeDumps value)) = some value) ∧
    Padded (encoder.lexemes value) (encoder.boundarySafeDumps value) ∧
    straddlingBareTokens (encoder.boundarySafeDumps value) lexChunk = [] := by
  have readable : Readable (encoder.lexemes value) := by
    simpa using encoder.readable_lexemes value .nil (by simp)
  have scanned := scan_render readable
  unfold boundarySafeDumps straddlingBareTokens
  dsimp only
  split
  · rename_i fits
    refine ⟨fun _ parses => parses, .render _, ?_⟩
    rw [dumps, scanned]
    exact straddlingFrom_short (by simpa [dumps] using fits)
  · rw [dumps, scanned, scan_render (readable.pad 0)]
    refine ⟨fun parse parses => ?_, .pad 0 _, straddlingFrom_pad short 0⟩
    rw [tokens, scan_render (readable.pad 0), filter_pad, ← scanned]
    exact parses

/-- Digits and strings as `json.dumps` writes them. -/
def digits : JsonEncoder (Fin 10) where
  numeral digit := [Nat.digitChar digit]
  bare digit := .mk (by revert digit; decide) (by simp)
  quote value := value.toList.flatMap (fun char =>
    if char = '"' ∨ char = '\\' then ['\\', char] else [char]) ++ ['"']
  quoted value := by
    induction value.toList with
    | nil => exact .close
    | cons char rest ih =>
      simp only [List.flatMap_cons, List.append_assoc]
      split
      · exact .escape char ih
      · rename_i plain
        rw [not_or] at plain
        exact .plain plain.1 plain.2 ih

/-- A literal behind a text of some length. -/
def literalBehind (count : Nat) : Value (Fin 10) :=
  .array [.string (String.ofList (List.replicate count 'a')), .bool true]

theorem lexemes_literalBehind (count : Nat) : digits.lexemes (literalBehind count) =
    [.other '[', .quoted ('"' :: (List.replicate count 'a' ++ ['"'])), .other ',', .other ' ', .bare "true".toList, .other ']'] := by
  simp [literalBehind, lexemes, itemLexemes, separator, string, digits, List.flatMap_replicate]

theorem length_literalBehind (count : Nat) : (digits.dumps (literalBehind count)).length = count + 10 := by
  simp [dumps, lexemes_literalBehind, render, Lexeme.text]

theorem straddling_literalBehind (count : Nat) : straddlingBareTokens (digits.dumps (literalBehind count)) lexChunk =
    if straddles lexChunk (count + 5) "true".toList then [(count + 5, "true".toList)] else [] := by
  have readable := digits.readable_lexemes (literalBehind count) .nil (by simp)
  rw [List.append_nil] at readable
  rw [straddlingBareTokens, dumps, scan_render readable, lexemes_literalBehind]
  have start : 1 + (count + 1 + 1) + 1 + 1 = count + 5 := by omega
  simp [straddlingFrom, Lexeme.text, start]

/-- `json.dumps` writes the literal across the end of the first chunk. -/
theorem boundary_safe_json_padded :
    (digits.dumps (literalBehind 65529)).length = lexChunk + 3 ∧
    straddlingBareTokens (digits.dumps (literalBehind 65529)) lexChunk = [(65534, "true".toList)] ∧
    straddlingBareTokens (digits.boundarySafeDumps (literalBehind 65529)) lexChunk = [] := by
  refine ⟨length_literalBehind _, straddling_literalBehind _, (digits.boundary_safe_json _ fun token member => ?_).2.2⟩
  rw [lexemes_literalBehind] at member
  have literal : token = "true".toList := by
    simpa only [List.mem_cons, reduceCtorEq, false_or, Lexeme.bare.injEq, List.not_mem_nil, or_false] using member
  rw [literal]
  decide

end JsonEncoder

end NsoAdapter.Nso
