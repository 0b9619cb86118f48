/-
# Patterns

The regular expressions of JavaScript that texts are checked with, `^…$` without groups that are
referred to, are regular expressions in the sense of formal languages.  Here are the ways to write
them that JavaScript has in addition, with what they match: classes of characters, optional parts,
bounded repetitions, and parts with a separator between them.
-/
import Mathlib.Computability.RegularExpressions

namespace MeeoServer.Text.Patterns

open RegularExpression

variable {r : RegularExpression Char} {w : List Char}

/-- `[…]`, with the characters listed. -/
def oneOf : List Char → RegularExpression Char
  | [] => 0
  | c :: l => char c + oneOf l

/-- `a-b` -/
def range (a b : Char) : List Char :=
  (List.range (b.toNat + 1 - a.toNat)).map fun i => Char.ofNat (a.toNat + i)

/-- `r?` -/
def optional (r : RegularExpression Char) : RegularExpression Char := 1 + r

/-- `r{m,m+n}` -/
def between (m n : ℕ) (r : RegularExpression Char) : RegularExpression Char :=
  r ^ m * optional r ^ n

/-- `(r d){n} r` -/
def separated (r : RegularExpression Char) (d : Char) (n : ℕ) : RegularExpression Char :=
  (r * char d) ^ n * r

lemma mem_char {c : Char} : w ∈ (char c).matches' ↔ w = [c] := by
  rw [matches'_char]
  rfl

lemma mem_add {s : RegularExpression Char} :
    w ∈ (r + s).matches' ↔ w ∈ r.matches' ∨ w ∈ s.matches' := by
  rw [matches'_add, Language.mem_add]

lemma mem_mul {s : RegularExpression Char} :
    w ∈ (r * s).matches' ↔ ∃ x ∈ r.matches', ∃ y ∈ s.matches', w = x ++ y := by
  rw [matches'_mul, Language.mem_mul]
  simp only [eq_comm]

lemma mem_pow_zero : w ∈ (r ^ 0).matches' ↔ w = [] := Iff.rfl

lemma mem_pow_succ {n : ℕ} :
    w ∈ (r ^ (n + 1)).matches' ↔ ∃ x ∈ r.matches', ∃ y ∈ (r ^ n).matches', w = x ++ y := by
  rw [matches'_pow, pow_succ', Language.mem_mul, ← matches'_pow]
  simp only [eq_comm]

lemma mem_oneOf {l : List Char} : w ∈ (oneOf l).matches' ↔ ∃ c ∈ l, w = [c] := by
  induction l with
  | nil => exact ⟨fun h => h.elim, fun ⟨_, h, _⟩ => nomatch h⟩
  | cons c l ih =>
    rw [oneOf, mem_add, ih, mem_char]
    simp

lemma mem_range {a b c : Char} (hb : b.toNat < 0xD800) :
    c ∈ range a b ↔ a.toNat ≤ c.toNat ∧ c.toNat ≤ b.toNat := by
  unfold range
  rw [List.mem_map]
  constructor
  · rintro ⟨i, hi, rfl⟩
    have hi : i < b.toNat + 1 - a.toNat := List.mem_range.mp hi
    have hvalid : (Char.ofNat (a.toNat + i)).toNat = a.toNat + i := by
      rw [Char.ofNat, dif_pos (.inl (by omega))]
      rfl
    rw [hvalid]
    omega
  · rintro ⟨ha, hb⟩
    refine ⟨c.toNat - a.toNat, List.mem_range.mpr (by omega), ?_⟩
    rw [Nat.add_sub_cancel' ha, Char.ofNat_toNat]

lemma mem_optional : w ∈ (optional r).matches' ↔ w = [] ∨ w ∈ r.matches' := by
  rw [optional, mem_add]
  rfl

section Classes

variable {l : List Char} {m n : ℕ}

/-- `[…]{n}` -/
lemma mem_oneOf_pow : w ∈ (oneOf l ^ n).matches' ↔ w.length = n ∧ ∀ c ∈ w, c ∈ l := by
  induction n generalizing w with
  | zero =>
    rw [mem_pow_zero]
    constructor
    · rintro rfl
      exact ⟨rfl, fun c hc => nomatch hc⟩
    · exact fun h => List.length_eq_zero_iff.mp h.1
  | succ n ih =>
    rw [mem_pow_succ]
    constructor
    · rintro ⟨_, hx, y, hy, rfl⟩
      obtain ⟨c, hc, rfl⟩ := mem_oneOf.mp hx
      obtain ⟨hlength, hall⟩ := ih.mp hy
      exact ⟨by simp [hlength], by simpa using ⟨hc, hall⟩⟩
    · rintro ⟨hlength, hall⟩
      obtain ⟨c, y, rfl⟩ := List.exists_cons_of_length_eq_add_one hlength
      exact ⟨[c], mem_oneOf.mpr ⟨c, hall c List.mem_cons_self, rfl⟩, y,
        ih.mpr ⟨Nat.succ.inj hlength, fun e he => hall e (List.mem_cons_of_mem c he)⟩, rfl⟩

/-- `[…]{0,n}` -/
lemma mem_optional_pow :
    w ∈ (optional (oneOf l) ^ n).matches' ↔ w.length ≤ n ∧ ∀ c ∈ w, c ∈ l := by
  induction n generalizing w with
  | zero =>
    rw [mem_pow_zero]
    constructor
    · rintro rfl
      exact ⟨le_rfl, fun c hc => nomatch hc⟩
    · exact fun h => List.length_eq_zero_iff.mp (Nat.le_zero.mp h.1)
  | succ n ih =>
    rw [mem_pow_succ]
    constructor
    · rintro ⟨x, hx, y, hy, rfl⟩
      obtain ⟨hlength, hall⟩ := ih.mp hy
      rcases mem_optional.mp hx with rfl | hx
      · exact ⟨Nat.le_succ_of_le hlength, hall⟩
      · obtain ⟨c, hc, rfl⟩ := mem_oneOf.mp hx
        exact ⟨by simpa using hlength, by simpa using ⟨hc, hall⟩⟩
    · rintro ⟨hlength, hall⟩
      cases w with
      | nil => exact ⟨[], mem_optional.mpr (.inl rfl), [], ih.mpr ⟨Nat.zero_le n, hall⟩, rfl⟩
      | cons c y =>
        refine ⟨[c], mem_optional.mpr (.inr (mem_oneOf.mpr ⟨c, hall c List.mem_cons_self, rfl⟩)),
          y, ih.mpr ⟨Nat.le_of_succ_le_succ hlength, fun e he => ?_⟩, rfl⟩
        exact hall e (List.mem_cons_of_mem c he)

/-- `[…]{m,m+n}` -/
lemma mem_between : w ∈ (between m n (oneOf l)).matches' ↔
    m ≤ w.length ∧ w.length ≤ m + n ∧ ∀ c ∈ w, c ∈ l := by
  rw [between, mem_mul]
  constructor
  · rintro ⟨x, hx, y, hy, rfl⟩
    obtain ⟨hxlength, hxall⟩ := mem_oneOf_pow.mp hx
    obtain ⟨hylength, hyall⟩ := mem_optional_pow.mp hy
    rw [List.length_append]
    refine ⟨by omega, by omega, fun c hc => ?_⟩
    exact (List.mem_append.mp hc).elim (hxall c) (hyall c)
  · rintro ⟨hm, hn, hall⟩
    refine ⟨w.take m, mem_oneOf_pow.mpr ⟨?_, fun c hc => hall c (List.mem_of_mem_take hc)⟩,
      w.drop m, mem_optional_pow.mpr ⟨?_, fun c hc => hall c (List.mem_of_mem_drop hc)⟩, ?_⟩
    · rw [List.length_take, Nat.min_eq_left hm]
    · rw [List.length_drop]
      omega
    · rw [List.take_append_drop]

end Classes

/-- **Separated parts.**  They are joined with the separator between them. -/
theorem mem_separated {d : Char} {n : ℕ} :
    w ∈ (separated r d n).matches' ↔ ∃ parts : List (List Char), parts.length = n + 1 ∧
      (∀ x ∈ parts, x ∈ r.matches') ∧ w = [d].intercalate parts := by
  unfold separated
  rw [mem_mul]
  induction n generalizing w with
  | zero =>
    simp only [mem_pow_zero]
    constructor
    · rintro ⟨_, rfl, x, hx, hw⟩
      exact ⟨[x], rfl, by simpa using hx, by simpa using hw⟩
    · rintro ⟨parts, hlength, hparts, rfl⟩
      obtain ⟨x, rfl⟩ := List.length_eq_one_iff.mp hlength
      exact ⟨[], rfl, x, hparts x (by simp), by simp⟩
  | succ n ih =>
    constructor
    · rintro ⟨_, hrepeated, y, hy, rfl⟩
      obtain ⟨_, hfirst, z, hz, rfl⟩ := mem_pow_succ.mp hrepeated
      obtain ⟨x, hx, _, hsep, rfl⟩ := mem_mul.mp hfirst
      obtain rfl := mem_char.mp hsep
      obtain ⟨parts, hlength, hparts, hrest⟩ := ih.mp ⟨z, hz, y, hy, rfl⟩
      refine ⟨x :: parts, by rw [List.length_cons, hlength], ?_, ?_⟩
      · rintro x' hx'
        rcases List.mem_cons.mp hx' with rfl | hx'
        · exact hx
        · exact hparts x' hx'
      · rw [List.intercalate_cons_of_ne_nil (List.ne_nil_of_length_eq_add_one hlength), ← hrest,
          List.append_assoc, List.append_assoc]
    · rintro ⟨parts, hlength, hparts, rfl⟩
      obtain ⟨x, parts, rfl⟩ := List.exists_cons_of_length_eq_add_one hlength
      have hlength : parts.length = n + 1 := Nat.succ.inj hlength
      obtain ⟨z, hz, y, hy, hrest⟩ := ih.mpr
        ⟨parts, hlength, fun x' hx' => hparts x' (List.mem_cons_of_mem x hx'), rfl⟩
      refine ⟨(x ++ [d]) ++ z, mem_pow_succ.mpr ⟨x ++ [d], mem_mul.mpr ⟨x,
        hparts x List.mem_cons_self, [d], mem_char.mpr rfl, rfl⟩, z, hz, rfl⟩, y, hy, ?_⟩
      rw [List.intercalate_cons_of_ne_nil (List.ne_nil_of_length_eq_add_one hlength), hrest,
        List.append_assoc, List.append_assoc, List.append_assoc]

end MeeoServer.Text.Patterns
