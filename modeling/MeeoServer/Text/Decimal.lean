/-
# Numbers in texts

A number is written in decimal and padded with zeros on the left.  It can be read back, whatever
the padding.
-/
import Mathlib.Data.List.Basic
import Mathlib.Data.String.Basic

namespace MeeoServer.Text

/-- `s.padStart(w, "0")` -/
def padStart (w : ℕ) (s : String) : String := String.ofList (s.toList.leftpad w '0')

/-- `s.slice(0, n)` -/
def sliceTo (n : ℕ) (s : String) : String := String.ofList (s.toList.take n)

lemma toList_padStart (w : ℕ) (s : String) : (padStart w s).toList = s.toList.leftpad w '0' :=
  String.toList_ofList

/-- Zeros do not change the value. -/
lemma ofDigitChars_padStart (w n : ℕ) :
    Nat.ofDigitChars 10 (padStart w n.repr).toList 0 = n := by
  rw [toList_padStart, List.leftpad, Nat.ofDigitChars_append, Nat.ofDigitChars_replicate_zero,
    Nat.mul_zero, Nat.toList_repr, Nat.ofDigitChars_ten_toDigits]

lemma padStart_repr_injective {w m n : ℕ} (h : padStart w m.repr = padStart w n.repr) : m = n := by
  rw [← ofDigitChars_padStart w m, ← ofDigitChars_padStart w n, h]

lemma isDigit_of_mem_repr {n : ℕ} {c : Char} (h : c ∈ n.repr.toList) : c.isDigit = true := by
  rw [Nat.toList_repr] at h
  exact Nat.isDigit_of_mem_toDigits (by decide) (by decide) h

lemma isDigit_of_mem_padStart {w n : ℕ} {c : Char} (h : c ∈ (padStart w n.repr).toList) :
    c.isDigit = true := by
  rw [toList_padStart, List.leftpad] at h
  rcases List.mem_append.mp h with hzero | hdigit
  · rw [List.eq_of_mem_replicate hzero]
    rfl
  · exact isDigit_of_mem_repr hdigit

/-- The length, if the number fits. -/
lemma length_padStart {w n : ℕ} (hw : 0 < w) (h : n < 10 ^ w) :
    (padStart w n.repr).toList.length = w := by
  rw [toList_padStart, List.length_leftpad, Nat.toList_repr]
  exact Nat.max_eq_left ((Nat.length_toDigits_le_iff (by decide) hw).mpr h)

/-! ## Numbers with a sign -/

lemma toList_repr_neg {z : ℤ} (h : z < 0) : z.repr.toList = '-' :: z.natAbs.repr.toList := by
  obtain ⟨n, rfl⟩ := Int.eq_negSucc_of_lt_zero h
  show ("-" ++ (n + 1).repr).toList = _
  rw [String.toList_append]
  rfl

lemma repr_of_nonneg {z : ℤ} (h : 0 ≤ z) : z.repr = z.natAbs.repr := by
  obtain ⟨n, rfl⟩ := Int.eq_ofNat_of_zero_le h
  rfl

lemma notMem_repr {z : ℤ} {c : Char} (hc : c.isDigit = false) (hsign : c ≠ '-') :
    c ∉ z.repr.toList := by
  intro h
  rcases lt_or_ge z 0 with hneg | hnonneg
  · rw [toList_repr_neg hneg] at h
    rcases List.mem_cons.mp h with rfl | h
    · exact hsign rfl
    · exact Bool.noConfusion (hc.symm.trans (isDigit_of_mem_repr h))
  · rw [repr_of_nonneg hnonneg] at h
    exact Bool.noConfusion (hc.symm.trans (isDigit_of_mem_repr h))

lemma notMem_padStart {w : ℕ} {z : ℤ} {c : Char} (hc : c.isDigit = false) (hsign : c ≠ '-') :
    c ∉ (padStart w z.repr).toList := by
  intro h
  rw [toList_padStart, List.leftpad] at h
  rcases List.mem_append.mp h with hzero | h
  · rw [List.eq_of_mem_replicate hzero] at hc
    exact Bool.noConfusion hc
  · exact notMem_repr hc hsign h

lemma repr_injective {a b : ℤ} (h : a.repr = b.repr) : a = b := by
  -- a sign is no digit
  have hsign : ∀ {y z : ℤ}, y < 0 → 0 ≤ z → y.repr ≠ z.repr := by
    intro y z hy hz heq
    have hmem : '-' ∈ z.natAbs.repr.toList := by
      rw [← repr_of_nonneg hz, ← heq, toList_repr_neg hy]
      exact List.mem_cons_self
    exact Bool.noConfusion (isDigit_of_mem_repr hmem)
  rcases lt_or_ge a 0 with ha | ha
  · rcases lt_or_ge b 0 with hb | hb
    · have htext := congrArg String.toList h
      rw [toList_repr_neg ha, toList_repr_neg hb] at htext
      have habs := padStart_repr_injective (w := 0)
        (congrArg (padStart 0) (String.toList_inj.mp (List.cons.inj htext).2))
      omega
    · exact absurd h (hsign ha hb)
  · rcases lt_or_ge b 0 with hb | hb
    · exact absurd h.symm (hsign hb ha)
    · rw [repr_of_nonneg ha, repr_of_nonneg hb] at h
      have habs := padStart_repr_injective (congrArg (padStart 0) h)
      omega

/-- A text that is long enough is not padded. -/
lemma padStart_of_length_le {w : ℕ} {s : String} (h : w ≤ s.toList.length) : padStart w s = s := by
  rw [padStart, List.leftpad, Nat.sub_eq_zero_of_le h, List.replicate_zero, List.nil_append,
    String.ofList_toList]

/-- Two digits are the width at which a sign is never separated from its number. -/
lemma padStart_two_repr_injective {a b : ℤ} (h : padStart 2 a.repr = padStart 2 b.repr) :
    a = b := by
  have hneg : ∀ {z : ℤ}, z < 0 → padStart 2 z.repr = z.repr := by
    intro z hz
    refine padStart_of_length_le ?_
    rw [toList_repr_neg hz, List.length_cons, Nat.toList_repr]
    exact Nat.succ_le_succ Nat.length_toDigits_pos
  have hpos : ∀ {z : ℤ}, 0 ≤ z → '-' ∉ (padStart 2 z.repr).toList := by
    intro z hz hmem
    rw [repr_of_nonneg hz] at hmem
    exact Bool.noConfusion (isDigit_of_mem_padStart hmem)
  have hmem : ∀ {z : ℤ}, z < 0 → '-' ∈ (padStart 2 z.repr).toList := by
    intro z hz
    rw [hneg hz, toList_repr_neg hz]
    exact List.mem_cons_self
  rcases lt_or_ge a 0 with ha | ha
  · rcases lt_or_ge b 0 with hb | hb
    · rw [hneg ha, hneg hb] at h
      exact repr_injective h
    · exact absurd (h ▸ hmem ha) (hpos hb)
  · rcases lt_or_ge b 0 with hb | hb
    · exact absurd (h.symm ▸ hmem hb) (hpos ha)
    · rw [repr_of_nonneg ha, repr_of_nonneg hb] at h
      have habs := padStart_repr_injective h
      omega

end MeeoServer.Text
