/-
# Texts of JavaScript

Texts as lists of characters, with the operations on strings that the source uses: `trim` and
`\s` know the white space of JavaScript, and `toLowerCase` maps the two letters outside ASCII
whose lower case is an ASCII letter.
-/
import Mathlib.Algebra.GroupWithZero.Nat
import Mathlib.Data.List.Infix

namespace MeeoServer.JsString

/-- The characters that `trim` removes and `\s` matches. -/
def isSpace (c : Char) : Bool :=
  c.toNat ∈ [9, 10, 11, 12, 13, 32, 0xA0, 0x1680, 0x2028, 0x2029, 0x202F, 0x205F, 0x3000,
    0xFEFF] || (0x2000 ≤ c.toNat && c.toNat ≤ 0x200A)

def trim (s : List Char) : List Char :=
  ((s.dropWhile isSpace).reverse.dropWhile isSpace).reverse

def toLowerCase (s : List Char) : List Char :=
  s.flatMap fun c =>
    if c.toNat = 0x212A then ['k']
    else if c.toNat = 0x130 then ['i', Char.ofNat 0x307]
    else [c.toLower]

def includes (s t : List Char) : Bool := decide (t <:+: s)

/-- The length in units of UTF-16. -/
def length (s : List Char) : ℕ := (s.map fun c => if c.toNat < 0x10000 then 1 else 2).sum

def withoutSpaces (s : List Char) : List Char := s.filter fun c => !isSpace c

end MeeoServer.JsString
