/-
# Numbers in a register

A register of `w` bits holds an integer up to multiples of `2 ^ w`, as the signed number that is
left of it.  A number that is built up digit by digit in a register is the number that is built
up without one, wrapped once.
-/
import Mathlib.Data.Int.ModEq

namespace MeeoServer.Wrapping

/-- What a signed register of `w` bits holds of an integer. -/
def wrap (w : ℕ) (x : ℤ) : ℤ := x.bmod (2 ^ w)

variable {w : ℕ} {x y : ℤ}

lemma wrap_modEq (w : ℕ) (x : ℤ) : wrap w x ≡ x [ZMOD 2 ^ w] := by
  have h := Int.bmod_emod (x := x) (m := 2 ^ w)
  push_cast at h
  exact h

lemma wrap_eq_of_modEq (h : x ≡ y [ZMOD 2 ^ w]) : wrap w x = wrap w y := by
  have hemod : x % ((2 ^ w : ℕ) : ℤ) = y % ((2 ^ w : ℕ) : ℤ) := by
    push_cast
    exact h
  rw [wrap, wrap, ← Int.emod_bmod, hemod, Int.emod_bmod]

/-- A number that is built up digit by digit from `x`, in the base `b`. -/
def horner (b : ℤ) (digits : List ℤ) (x : ℤ) : ℤ := digits.foldl (fun x d => x * b + d) x

/-- **The register wraps once.**  Whether each step is wrapped, or wrapped up to multiples of
`2 ^ w` in its parts, makes no difference to the end. -/
theorem foldl_wrap {step : ℤ → ℤ → ℤ} {b : ℤ} (digits : List ℤ)
    (hstep : ∀ x d, step x d ≡ x * b + d [ZMOD 2 ^ w]) (h : x ≡ y [ZMOD 2 ^ w]) :
    digits.foldl (fun x d => wrap w (step x d)) (wrap w x) = wrap w (horner b digits y) := by
  induction digits generalizing x y with
  | nil => exact wrap_eq_of_modEq h
  | cons d digits ih =>
    refine ih ?_
    calc step (wrap w x) d
      _ ≡ wrap w x * b + d [ZMOD 2 ^ w] := hstep _ d
      _ ≡ y * b + d [ZMOD 2 ^ w] := (((wrap_modEq w x).trans h).mul_right b).add_right d

end MeeoServer.Wrapping
