/-
# Rounding to a grid

Sums of money are kept on a grid: the multiples of `1 / n`.  The grid is a subgroup, so sums
and differences stay on it, and rounding half up is the identity there.  What a computation
loses is therefore lost where a quotient or a product is rounded, and nowhere else.
-/
import Mathlib.Algebra.Group.Subgroup.ZPowers.Basic
import Mathlib.Algebra.BigOperators.Group.List.Basic
import Mathlib.Algebra.Group.Submonoid.BigOperators
import Mathlib.Data.Rat.Floor
import Mathlib.Tactic.FieldSimp
import Mathlib.Tactic.Linarith

namespace MeeoServer

variable {α : Type*} [Field α]

/-- The multiples of `1 / n`. -/
def grid (α : Type*) [Field α] (n : ℕ) : AddSubgroup α := AddSubgroup.zmultiples (1 / (n : α))

/-- Round to the nearest multiple of `1 / n`, and up if two are equally near. -/
def roundHalfUp [LinearOrder α] [FloorRing α] (n : ℕ) (x : α) : α := ⌊x * n + 1 / 2⌋ / n

namespace Grid

variable {n : ℕ}

lemma mem_grid {x : α} : x ∈ grid α n ↔ ∃ z : ℤ, (z : α) / n = x := by
  simp only [grid, AddSubgroup.mem_zmultiples_iff, zsmul_eq_mul, mul_one_div]

lemma sum_mem {l : List α} (h : ∀ x ∈ l, x ∈ grid α n) : l.sum ∈ grid α n :=
  list_sum_mem h

variable [LinearOrder α]

lemma max_mem {x y : α} (hx : x ∈ grid α n) (hy : y ∈ grid α n) : max x y ∈ grid α n := by
  rcases max_choice x y with h | h
  · rw [h]; exact hx
  · rw [h]; exact hy

lemma min_mem {x y : α} (hx : x ∈ grid α n) (hy : y ∈ grid α n) : min x y ∈ grid α n := by
  rcases min_choice x y with h | h
  · rw [h]; exact hx
  · rw [h]; exact hy

variable [FloorRing α]

lemma roundHalfUp_mem (x : α) : roundHalfUp n x ∈ grid α n :=
  mem_grid.mpr ⟨_, rfl⟩

variable [IsStrictOrderedRing α]

@[simp] lemma roundHalfUp_zero : roundHalfUp n (0 : α) = 0 := by
  have h : ⌊(1 / 2 : α)⌋ = 0 := by
    rw [Int.floor_eq_zero_iff]
    constructor <;> norm_num
  rw [roundHalfUp, zero_mul, zero_add, h, Int.cast_zero, zero_div]

lemma roundHalfUp_mono {x y : α} (h : x ≤ y) : roundHalfUp n x ≤ roundHalfUp n y := by
  have hn : (0 : α) ≤ n := n.cast_nonneg
  have hfloor : ⌊x * n + 1 / 2⌋ ≤ ⌊y * n + 1 / 2⌋ :=
    Int.floor_le_floor (add_le_add_left (mul_le_mul_of_nonneg_right h hn) _)
  exact div_le_div_of_nonneg_right (by exact_mod_cast hfloor) hn

lemma roundHalfUp_nonneg {x : α} (h : 0 ≤ x) : 0 ≤ roundHalfUp n x := by
  rw [← roundHalfUp_zero (n := n)]
  exact roundHalfUp_mono h

/-- Rounding moves nothing that is on the grid. -/
lemma roundHalfUp_of_mem (hn : n ≠ 0) {x : α} (h : x ∈ grid α n) : roundHalfUp n x = x := by
  obtain ⟨z, rfl⟩ := mem_grid.mp h
  have hn' : (n : α) ≠ 0 := Nat.cast_ne_zero.mpr hn
  have hhalf : ⌊(z : α) + 1 / 2⌋ = z := by
    rw [Int.floor_eq_iff]
    constructor <;> linarith
  rw [roundHalfUp, div_mul_cancel₀ _ hn', hhalf]

lemma roundHalfUp_le (hn : n ≠ 0) {x y : α} (hy : y ∈ grid α n) (h : x ≤ y) :
    roundHalfUp n x ≤ y := by
  rw [← roundHalfUp_of_mem hn hy]
  exact roundHalfUp_mono h

/-- A point of the grid is not above the rounded number if it is at most half a step above the
number. -/
lemma le_roundHalfUp_iff (hn : n ≠ 0) {x y : α} (hy : y ∈ grid α n) :
    y ≤ roundHalfUp n x ↔ y - 1 / (2 * n) ≤ x := by
  obtain ⟨z, rfl⟩ := mem_grid.mp hy
  have hpos : (0 : α) < n := Nat.cast_pos.mpr (Nat.pos_of_ne_zero hn)
  have hhalf : (z : α) / n - 1 / (2 * n) = (z - 1 / 2) / n := by field_simp
  rw [roundHalfUp, div_le_div_iff_of_pos_right hpos, Int.cast_le, Int.le_floor, hhalf,
    div_le_iff₀ hpos, sub_le_iff_le_add]

omit [FloorRing α] in
/-- Points of the grid are a step apart. -/
lemma le_of_lt_add (hn : n ≠ 0) {x y : α} (hx : x ∈ grid α n) (hy : y ∈ grid α n)
    (h : x < y + 1 / n) : x ≤ y := by
  obtain ⟨w, rfl⟩ := mem_grid.mp hx
  obtain ⟨z, rfl⟩ := mem_grid.mp hy
  have hpos : (0 : α) < n := Nat.cast_pos.mpr (Nat.pos_of_ne_zero hn)
  rw [← add_div, div_lt_div_iff_of_pos_right hpos] at h
  have hle : w ≤ z := Int.lt_add_one_iff.mp (by exact_mod_cast h)
  exact div_le_div_of_nonneg_right (by exact_mod_cast hle) hpos.le

/-- Rounding moves a number by half a step of the grid at most. -/
lemma abs_roundHalfUp_sub_le (hn : n ≠ 0) (x : α) : |roundHalfUp n x - x| ≤ 1 / (2 * n) := by
  have hpos : (0 : α) < n := Nat.cast_pos.mpr (Nat.pos_of_ne_zero hn)
  have hlow : x * n + 1 / 2 < ⌊x * n + 1 / 2⌋ + 1 := Int.lt_floor_add_one _
  have hhigh : (⌊x * n + 1 / 2⌋ : α) ≤ x * n + 1 / 2 := Int.floor_le _
  have hsub : roundHalfUp n x - x = (⌊x * n + 1 / 2⌋ - x * n) / n := by
    rw [roundHalfUp]
    field_simp
  have habs : |(⌊x * n + 1 / 2⌋ : α) - x * n| ≤ 1 / 2 := by
    rw [abs_le]
    constructor <;> linarith
  rw [hsub, abs_div, abs_of_pos hpos, ← div_div]
  exact div_le_div_of_nonneg_right habs hpos.le

end Grid

end MeeoServer
