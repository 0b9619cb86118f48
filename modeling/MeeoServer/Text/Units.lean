/-
# Strings of code units

A string of the language is a list of code units of 16 bits.  Not all of these lists are the
encoding of a text.
-/
import Mathlib.Data.List.Basic

namespace MeeoServer.Text

abbrev Units := List UInt16

instance : LawfulBEq Units := inferInstance

/-- The encoding of a text. -/
def units (s : String) : Units :=
  s.toList.flatMap fun c =>
    if c.toNat < 0x10000 then [.ofNat c.toNat]
    else [.ofNat (0xD800 + (c.toNat - 0x10000) / 0x400),
      .ofNat (0xDC00 + (c.toNat - 0x10000) % 0x400)]

/-- `toLowerCase` of a text in ASCII. -/
def asciiLower (s : Units) : Units := s.map fun u => if 65 ≤ u ∧ u ≤ 90 then u + 32 else u

/-- The text begins with `p`, which is in lower case, in any letter case. -/
def startsWith (p s : Units) : Bool := p.isPrefixOf (asciiLower s)

section StartsWith

variable {p s s' : Units} {n q i : ℕ}

lemma startsWith_iff : startsWith p s ↔ asciiLower (s.take p.length) = p := by
  rw [startsWith, List.isPrefixOf_iff_prefix, List.prefix_iff_eq_take, asciiLower, asciiLower,
    List.map_take, eq_comm]

lemma le_length_of_startsWith (h : startsWith p (s.drop q)) (hp : p ≠ []) :
    q + p.length ≤ s.length := by
  have hlength := congrArg List.length (startsWith_iff.mp h)
  have hpos := List.length_pos_of_ne_nil hp
  rw [asciiLower, List.length_map, List.length_take, List.length_drop] at hlength
  omega

/-- Whether a text begins somewhere depends on no more than the text itself. -/
lemma startsWith_congr (htake : s'.take n = s.take n) (hn : q + p.length ≤ n) :
    startsWith p (s'.drop q) ↔ startsWith p (s.drop q) := by
  have hsame : (s'.drop q).take p.length = (s.drop q).take p.length := by
    rw [List.take_drop, List.take_drop, ← Nat.min_eq_left hn, ← List.take_take, ← List.take_take,
      htake]
  rw [startsWith_iff, startsWith_iff, hsame]

/-- The units of the text. -/
lemma getElem?_of_startsWith (h : startsWith p (s.drop q)) (hi : i < p.length) :
    (asciiLower s)[q + i]? = p[i]? := by
  have htext := startsWith_iff.mp h
  conv_rhs => rw [← htext]
  rw [asciiLower, asciiLower, List.map_take, List.map_drop, List.getElem?_take_of_lt hi,
    List.getElem?_drop]

end StartsWith

/-! ## Code points -/

/-- The encoding of a character. -/
def charUnits (c : Char) : Units :=
  if c.toNat < 0x10000 then [.ofNat c.toNat]
  else [.ofNat (0xD800 + (c.toNat - 0x10000) / 0x400),
    .ofNat (0xDC00 + (c.toNat - 0x10000) % 0x400)]

/-- A unit by itself: a character, or a surrogate without its other half. -/
def point (u : UInt16) : UInt16 ⊕ Char :=
  if 0xD800 ≤ u.toNat ∧ u.toNat ≤ 0xDFFF then .inl u else .inr (.ofNat u.toNat)

/-- The characters of a string, and the surrogates that encode none. -/
def codePoints : Units → List (UInt16 ⊕ Char)
  | u :: v :: rest =>
    if (0xD800 ≤ u.toNat ∧ u.toNat ≤ 0xDBFF) ∧ 0xDC00 ≤ v.toNat ∧ v.toNat ≤ 0xDFFF then
      .inr (.ofNat (0x10000 + (u.toNat - 0xD800) * 0x400 + (v.toNat - 0xDC00))) :: codePoints rest
    else point u :: codePoints (v :: rest)
  | [u] => [point u]
  | [] => []

def pointUnits : UInt16 ⊕ Char → Units
  | .inl u => [u]
  | .inr c => charUnits c

private lemma toNat_ofNat {n : ℕ} (h : n < 0xD800 ∨ 0xDFFF < n ∧ n < 0x110000) :
    (Char.ofNat n).toNat = n := by
  rw [Char.ofNat, dif_pos h]
  rfl

lemma pointUnits_point (u : UInt16) : pointUnits (point u) = [u] := by
  have hlt := u.toNat_lt
  by_cases hsurrogate : 0xD800 ≤ u.toNat ∧ u.toNat ≤ 0xDFFF
  · rw [point, if_pos hsurrogate, pointUnits]
  · rw [point, if_neg hsurrogate, pointUnits, charUnits, toNat_ofNat (by omega),
      if_pos (by omega), UInt16.ofNat_toNat]

/-- A string is the encoding of its code points. -/
theorem flatMap_codePoints (s : Units) : (codePoints s).flatMap pointUnits = s := by
  fun_induction codePoints s with
  | case1 u v rest hpair ih =>
    obtain ⟨⟨hu, hu'⟩, hv, hv'⟩ := hpair
    rw [List.flatMap_cons, ih, pointUnits, charUnits, toNat_ofNat (by omega), if_neg (by omega)]
    have hhigh : 0xD800 + (0x10000 + (u.toNat - 0xD800) * 0x400 + (v.toNat - 0xDC00) - 0x10000) /
        0x400 = u.toNat := by omega
    have hlow : 0xDC00 + (0x10000 + (u.toNat - 0xD800) * 0x400 + (v.toNat - 0xDC00) - 0x10000) %
        0x400 = v.toNat := by omega
    rw [hhigh, hlow, UInt16.ofNat_toNat, UInt16.ofNat_toNat]
    rfl
  | case2 u v rest hpair ih => rw [List.flatMap_cons, pointUnits_point, ih]; rfl
  | case3 u => rw [List.flatMap_singleton, pointUnits_point]
  | case4 => rfl

end MeeoServer.Text
