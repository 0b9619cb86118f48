/-
# Numbers with two decimals

`Number(x.toFixed(2))` and `x.toFixed(2)` of JavaScript: the nearest hundredth, and the one
further from zero if two are equally near.
-/
import MeeoServer.Numeric.Grid

namespace MeeoServer

/-- `Number(x.toFixed(2))`. -/
def fixedTwo (x : ℚ) : ℚ := if x < 0 then -roundHalfUp 100 (-x) else roundHalfUp 100 x

/-- The amounts of money in whole hundredths. -/
abbrev hundredths : AddSubgroup ℚ := grid ℚ 100

section FixedTwo

variable {x y : ℚ}

lemma fixedTwo_of_nonneg (h : 0 ≤ x) : fixedTwo x = roundHalfUp 100 x := if_neg (not_lt.mpr h)

lemma fixedTwo_mem (x : ℚ) : fixedTwo x ∈ hundredths := by
  unfold fixedTwo
  split_ifs
  · exact neg_mem (Grid.roundHalfUp_mem _)
  · exact Grid.roundHalfUp_mem _

@[simp] lemma fixedTwo_zero : fixedTwo 0 = 0 := by
  rw [fixedTwo_of_nonneg le_rfl, Grid.roundHalfUp_zero]

/-- A number with two decimals stays as it is. -/
lemma fixedTwo_of_mem (h : x ∈ hundredths) : fixedTwo x = x := by
  unfold fixedTwo
  split_ifs
  · rw [Grid.roundHalfUp_of_mem (by decide) (neg_mem h), neg_neg]
  · exact Grid.roundHalfUp_of_mem (by decide) h

lemma fixedTwo_nonneg (h : 0 ≤ x) : 0 ≤ fixedTwo x := by
  rw [fixedTwo_of_nonneg h]
  exact Grid.roundHalfUp_nonneg h

lemma fixedTwo_mono (h : x ≤ y) : fixedTwo x ≤ fixedTwo y := by
  rcases le_or_gt 0 x with hx | hx
  · rw [fixedTwo_of_nonneg hx, fixedTwo_of_nonneg (hx.trans h)]
    exact Grid.roundHalfUp_mono h
  · have hneg : fixedTwo x = -roundHalfUp 100 (-x) := if_pos hx
    have hnonneg : 0 ≤ roundHalfUp 100 (-x) := Grid.roundHalfUp_nonneg (by linarith)
    rcases le_or_gt 0 y with hy | hy
    · have hpos := fixedTwo_nonneg hy
      linarith
    · have hneg' : fixedTwo y = -roundHalfUp 100 (-y) := if_pos hy
      rw [hneg, hneg']
      exact neg_le_neg (Grid.roundHalfUp_mono (neg_le_neg h))

/-- Rounding does not go beyond an amount of money. -/
lemma fixedTwo_le (hx : 0 ≤ x) (hy : y ∈ hundredths) (h : x ≤ y) : fixedTwo x ≤ y := by
  rw [fixedTwo_of_nonneg hx]
  exact Grid.roundHalfUp_le (by decide) hy h

end FixedTwo

/-- `x.toFixed(2)`. -/
def fixedText (x : ℚ) : String :=
  let cents := ⌊|x| * 100 + 1 / 2⌋.toNat
  let sign := if x < 0 then "-" else ""
  let part := cents % 100
  let leading := if part < 10 then "0" else ""
  s!"{sign}{cents / 100}.{leading}{part}"

end MeeoServer
