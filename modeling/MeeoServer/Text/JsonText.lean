/-
# JSON texts

How a JSON value is written and how a text is read.  Strings are strings of code units: a
surrogate by itself is written as an escape, so that every string is read back.
-/
import MeeoServer.Table.Keyed
import MeeoServer.Text.Json
import MeeoServer.Text.Units

namespace MeeoServer.Text.Json

open Table

/-! ## Writing -/

/-- `\uXXXX` -/
def unicodeEscape (n : ℕ) : List Char :=
  ['\\', 'u', Nat.digitChar (n / 0x1000), Nat.digitChar (n / 0x100 % 0x10),
    Nat.digitChar (n / 0x10 % 0x10), Nat.digitChar (n % 0x10)]

/-- The letter of an escape of two characters. -/
def shortEscape? (c : Char) : Option Char :=
  if c = '\x08' then some 'b'
  else if c = '\t' then some 't'
  else if c = '\n' then some 'n'
  else if c = '\x0C' then some 'f'
  else if c = '\r' then some 'r'
  else if c = '"' ∨ c = '\\' then some c
  else none

def quotePoint : UInt16 ⊕ Char → List Char
  | .inl u => unicodeEscape u.toNat
  | .inr c =>
    match shortEscape? c with
    | some e => ['\\', e]
    | none => if c.toNat < 0x20 then unicodeEscape c.toNat else [c]

def quote (s : Units) : List Char := '"' :: (codePoints s).flatMap quotePoint ++ ['"']

section Stringify

-- how the language writes a number
variable (numberText : ℚ → List Char)

mutual

/-- `JSON.stringify` -/
def stringify : Json Units → List Char
  | .null => ['n', 'u', 'l', 'l']
  | .bool true => ['t', 'r', 'u', 'e']
  | .bool false => ['f', 'a', 'l', 's', 'e']
  | .num n => numberText n
  | .str s => quote s
  | .arr items => '[' :: stringifyItems items ++ [']']
  | .obj fields => '{' :: stringifyFields fields ++ ['}']

def stringifyItems : List (Json Units) → List Char
  | [] => []
  | [v] => stringify v
  | v :: w :: rest => stringify v ++ ',' :: stringifyItems (w :: rest)

def stringifyFields : List (Units × Json Units) → List Char
  | [] => []
  | [(key, v)] => quote key ++ ':' :: stringify v
  | (key, v) :: w :: rest => quote key ++ ':' :: stringify v ++ ',' :: stringifyFields (w :: rest)

end

end Stringify

/-! ## Reading -/

def hexValue? (c : Char) : Option ℕ :=
  if '0' ≤ c ∧ c ≤ '9' then some (c.toNat - 0x30)
  else if 'a' ≤ c ∧ c ≤ 'f' then some (c.toNat - 0x61 + 10)
  else if 'A' ≤ c ∧ c ≤ 'F' then some (c.toNat - 0x41 + 10)
  else none

/-- The character that an escape of two characters stands for. -/
def unescape? (c : Char) : Option UInt16 :=
  if c = '"' ∨ c = '\\' ∨ c = '/' then some (.ofNat c.toNat)
  else if c = 'b' then some 0x08
  else if c = 't' then some 0x09
  else if c = 'n' then some 0x0A
  else if c = 'f' then some 0x0C
  else if c = 'r' then some 0x0D
  else none

/-- A string from behind its opening quote. -/
def stringTail : List Char → Option (Units × List Char)
  | [] => none
  | '"' :: rest => some ([], rest)
  | '\\' :: 'u' :: a :: b :: c :: d :: rest => do
    let a ← hexValue? a
    let b ← hexValue? b
    let c ← hexValue? c
    let d ← hexValue? d
    let (s, rest) ← stringTail rest
    some (.ofNat (a * 0x1000 + b * 0x100 + c * 0x10 + d) :: s, rest)
  | '\\' :: c :: rest => do
    let u ← unescape? c
    let (s, rest) ← stringTail rest
    some (u :: s, rest)
  | c :: rest =>
    if c.toNat < 0x20 ∨ c = '\\' then none
    else do
      let (s, rest) ← stringTail rest
      some (charUnits c ++ s, rest)

def skipSpace (text : List Char) : List Char :=
  text.dropWhile fun c => c = ' ' ∨ c = '\t' ∨ c = '\n' ∨ c = '\r'

/-- At least one digit. -/
def digits? (text : List Char) : Option (List Char × List Char) :=
  let (digits, rest) := text.span Char.isDigit
  if digits = [] then none else some (digits, rest)

def fraction? : List Char → Option (List Char × List Char)
  | '.' :: rest => digits? rest
  | text => some ([], text)

def exponent? : List Char → Option (ℤ × List Char)
  | c :: rest =>
    if c = 'e' ∨ c = 'E' then
      match rest with
      | '-' :: rest => (digits? rest).map fun (ds, rest) => (-(Nat.ofDigitChars 10 ds 0 : ℤ), rest)
      | '+' :: rest => (digits? rest).map fun (ds, rest) => (Nat.ofDigitChars 10 ds 0, rest)
      | rest => (digits? rest).map fun (ds, rest) => (Nat.ofDigitChars 10 ds 0, rest)
    else some (0, c :: rest)
  | [] => some (0, [])

def unsigned? (text : List Char) : Option (ℚ × List Char) := do
  let (whole, rest) ← digits? text
  if whole.head? = some '0' ∧ whole ≠ ['0'] then none
  let (part, rest) ← fraction? rest
  let (exponent, rest) ← exponent? rest
  some (Nat.ofDigitChars 10 (whole ++ part) 0 * 10 ^ (exponent - part.length), rest)

def number? : List Char → Option (ℚ × List Char)
  | '-' :: rest => (unsigned? rest).map fun (n, rest) => (-n, rest)
  | text => unsigned? text

mutual

/-- A value and what follows it.  The first argument bounds the depth of the recursion. -/
def value? : ℕ → List Char → Option (Json Units × List Char)
  | 0, _ => none
  | fuel + 1, text =>
    match skipSpace text with
    | '"' :: rest => (stringTail rest).map fun (s, rest) => (.str s, rest)
    | '[' :: rest =>
      match skipSpace rest with
      | ']' :: rest => some (.arr [], rest)
      | rest => (items? fuel rest).map fun (items, rest) => (.arr items, rest)
    | '{' :: rest =>
      match skipSpace rest with
      | '}' :: rest => some (.obj [], rest)
      | rest => (fields? fuel [] rest).map fun (fields, rest) => (.obj fields, rest)
    | 't' :: 'r' :: 'u' :: 'e' :: rest => some (.bool true, rest)
    | 'f' :: 'a' :: 'l' :: 's' :: 'e' :: rest => some (.bool false, rest)
    | 'n' :: 'u' :: 'l' :: 'l' :: rest => some (.null, rest)
    | rest => (number? rest).map fun (n, rest) => (.num n, rest)

/-- The items of an array, to its end. -/
def items? : ℕ → List Char → Option (List (Json Units) × List Char)
  | 0, _ => none
  | fuel + 1, text => do
    let (v, rest) ← value? fuel text
    match skipSpace rest with
    | ',' :: rest =>
      let (items, rest) ← items? fuel rest
      some (v :: items, rest)
    | ']' :: rest => some ([v], rest)
    | _ => none

/-- The entries of an object, to its end, after those already read; a later entry replaces the value
of an earlier one with the same key. -/
def fields? : ℕ → List (Units × Json Units) → List Char →
    Option (List (Units × Json Units) × List Char)
  | 0, _, _ => none
  | fuel + 1, read, text =>
    match skipSpace text with
    | '"' :: rest => do
      let (key, rest) ← stringTail rest
      match skipSpace rest with
      | ':' :: rest =>
        let (v, rest) ← value? fuel rest
        match skipSpace rest with
        | ',' :: rest => fields? fuel (put Prod.fst (key, v) read) rest
        | '}' :: rest => some (put Prod.fst (key, v) read, rest)
        | _ => none
      | _ => none
    | _ => none

end

/-- `JSON.parse`, or `none` for a `SyntaxError`.  No value is nested deeper than its text is
long. -/
def parse (text : List Char) : Option (Json Units) := do
  let (v, rest) ← value? (2 * text.length + 1) text
  if skipSpace rest = [] then some v else none

/-! ## Strings are read back -/

lemma hexValue?_digitChar {n : ℕ} (h : n < 0x10) : hexValue? (Nat.digitChar n) = some n := by
  revert n
  decide

section RoundTrip

variable {text rest : List Char} {s : Units}

lemma stringTail_unicodeEscape {n : ℕ} (hn : n < 0x10000)
    (h : stringTail text = some (s, rest)) :
    stringTail (unicodeEscape n ++ text) = some (.ofNat n :: s, rest) := by
  simp only [unicodeEscape, List.cons_append, List.nil_append]
  rw [stringTail, hexValue?_digitChar (by omega), hexValue?_digitChar (by omega),
    hexValue?_digitChar (by omega), hexValue?_digitChar (by omega), h]
  have hvalue : n / 0x1000 * 0x1000 + n / 0x100 % 0x10 * 0x100 + n / 0x10 % 0x10 * 0x10 +
      n % 0x10 = n := by omega
  simp only [Option.bind_eq_bind, Option.bind_some, hvalue]

lemma stringTail_escape {c : Char} {u : UInt16} (hc : c ≠ 'u') (hu : unescape? c = some u)
    (h : stringTail text = some (s, rest)) :
    stringTail ('\\' :: c :: text) = some (u :: s, rest) := by
  rw [stringTail, hu, h]
  · rfl
  · exact fun _ _ _ _ _ hu _ => hc hu

lemma stringTail_plain {c : Char} (hquote : c ≠ '"') (hback : c ≠ '\\') (hc : ¬ c.toNat < 0x20)
    (h : stringTail text = some (s, rest)) :
    stringTail (c :: text) = some (charUnits c ++ s, rest) := by
  rw [stringTail, if_neg (by simp [hc, hback]), h]
  · rfl
  · exact hquote
  · exact fun _ _ _ _ _ h _ => hback h
  · exact fun _ _ h _ => hback h

lemma unescape?_of_shortEscape? {c e : Char} (h : shortEscape? c = some e) :
    e ≠ 'u' ∧ ∃ u, unescape? e = some u ∧ charUnits c = [u] := by
  have hcases : ∀ pair ∈ [('\x08', 'b'), ('\t', 't'), ('\n', 'n'), ('\x0C', 'f'), ('\r', 'r'),
      ('"', '"'), ('\\', '\\')],
      pair.2 ≠ 'u' ∧ unescape? pair.2 = some (.ofNat pair.1.toNat) ∧
        charUnits pair.1 = [.ofNat pair.1.toNat] := by decide
  have hmem : (c, e) ∈ [('\x08', 'b'), ('\t', 't'), ('\n', 'n'), ('\x0C', 'f'), ('\r', 'r'),
      ('"', '"'), ('\\', '\\')] := by
    unfold shortEscape? at h
    split_ifs at h with h1 h2 h3 h4 h5 h6
    all_goals cases h
    all_goals first
      | subst c; decide
      | rcases h6 with rfl | rfl <;> decide
  obtain ⟨hu, hunescape, hunits⟩ := hcases _ hmem
  exact ⟨hu, _, hunescape, hunits⟩

/-- One code point, as it is quoted, is read as its units. -/
lemma stringTail_quotePoint (p : UInt16 ⊕ Char) (h : stringTail text = some (s, rest)) :
    stringTail (quotePoint p ++ text) = some (pointUnits p ++ s, rest) := by
  cases p with
  | inl u =>
    rw [quotePoint, stringTail_unicodeEscape u.toNat_lt h, UInt16.ofNat_toNat]
    rfl
  | inr c =>
    rw [quotePoint, pointUnits]
    cases hshort : shortEscape? c with
    | some e =>
      obtain ⟨he, u, hu, hunits⟩ := unescape?_of_shortEscape? hshort
      rw [hunits]
      exact stringTail_escape he hu h
    | none =>
      by_cases hcontrol : c.toNat < 0x20
      · rw [if_pos hcontrol, stringTail_unicodeEscape (by omega) h, charUnits, if_pos (by omega)]
        rfl
      · rw [if_neg hcontrol]
        exact stringTail_plain (by rintro rfl; exact absurd hshort (by decide))
          (by rintro rfl; exact absurd hshort (by decide)) hcontrol h

/-- What is quoted is read back, up to the closing quote. -/
theorem stringTail_quote (s : Units) (rest : List Char) :
    stringTail ((codePoints s).flatMap quotePoint ++ '"' :: rest) = some (s, rest) := by
  have hpoints : ∀ points : List (UInt16 ⊕ Char),
      stringTail (points.flatMap quotePoint ++ '"' :: rest) =
        some (points.flatMap pointUnits, rest) := by
    intro points
    induction points with
    | nil => rfl
    | cons p points ih =>
      rw [List.flatMap_cons, List.flatMap_cons, List.append_assoc]
      exact stringTail_quotePoint p ih
  rw [hpoints, flatMap_codePoints]

lemma quote_append (s : Units) (rest : List Char) :
    quote s ++ rest = '"' :: ((codePoints s).flatMap quotePoint ++ '"' :: rest) := by
  rw [quote, List.cons_append, List.cons_append, List.append_assoc, List.singleton_append]

lemma value?_quote (fuel : ℕ) (s : Units) (rest : List Char) :
    value? (fuel + 1) (quote s ++ rest) = some (.str s, rest) := by
  rw [quote_append, value?, show skipSpace ('"' :: _) = '"' :: _ from rfl]
  simp only [stringTail_quote, Option.map_some]

lemma value?_object (fuel : ℕ) (rest : List Char) :
    value? (fuel + 1) ('{' :: '"' :: rest) =
      (fields? fuel [] ('"' :: rest)).map fun (fields, rest) => (.obj fields, rest) := rfl

/-- An object whose only entry is a string. -/
theorem parse_stringify_single (numberText : ℚ → List Char) (key s : Units) :
    parse (stringify numberText (.obj [(key, .str s)])) = some (.obj [(key, .str s)]) := by
  set text := stringify numberText (.obj [(key, .str s)]) with htext
  have hshape : text = '{' :: (quote key ++ ':' :: (quote s ++ ['}'])) := by
    rw [htext, stringify, stringifyFields, stringify, List.cons_append, List.append_assoc,
      List.cons_append]
  obtain ⟨fuel, hfuel⟩ : ∃ fuel, 2 * text.length + 1 = fuel + 3 := by
    refine ⟨2 * text.length - 2, ?_⟩
    have hpos : 0 < text.length := by rw [hshape]; exact Nat.zero_lt_succ _
    omega
  have hfields : fields? (fuel + 2) [] (quote key ++ ':' :: (quote s ++ ['}'])) =
      some ([(key, .str s)], []) := by
    rw [quote_append, fields?, show skipSpace ('"' :: _) = '"' :: _ from rfl]
    simp only [stringTail_quote, Option.bind_eq_bind, Option.bind_some]
    rw [show skipSpace (':' :: _) = ':' :: _ from rfl]
    simp only [value?_quote, Option.bind_some]
    rfl
  rw [quote_append] at hfields
  rw [parse, hfuel, hshape, quote_append, value?_object, hfields]
  rfl

end RoundTrip

end MeeoServer.Text.Json
