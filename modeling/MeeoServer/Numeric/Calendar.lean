/-
# The calendar

Days are counted from 1 January 1970, years are those of the proleptic Gregorian calendar.  A year
begins on the day `dayFromYear`; the year of a day, its month, its date and its weekday are
computed from that.
-/
import Mathlib.Algebra.Order.Ring.Int
import Mathlib.Data.List.Basic
import Mathlib.Tactic.Linarith

namespace MeeoServer.Calendar

/-- The first day of a year: 365 days a year, one more every four years, but for the centuries,
but for every fourth of these. -/
def dayFromYear (y : ℤ) : ℤ :=
  365 * (y - 1970) + (y - 1969) / 4 - (y - 1901) / 100 + (y - 1601) / 400

def daysInYear (y : ℤ) : ℤ := dayFromYear (y + 1) - dayFromYear y

lemma daysInYear_mem (y : ℤ) : 365 ≤ daysInYear y ∧ daysInYear y ≤ 366 := by
  unfold daysInYear dayFromYear
  omega

lemma dayFromYear_add (y : ℤ) (n : ℕ) : dayFromYear y + n ≤ dayFromYear (y + n) := by
  induction n with
  | zero => simp
  | succ n ih =>
    have hyear := (daysInYear_mem (y + n)).1
    unfold daysInYear at hyear
    rw [Nat.cast_succ, ← add_assoc y]
    linarith

lemma dayFromYear_mono {y y' : ℤ} (h : y ≤ y') : dayFromYear y ≤ dayFromYear y' := by
  obtain ⟨n, rfl⟩ := Int.le.dest h
  linarith [dayFromYear_add y n, Int.natCast_nonneg n]

/-- The year of a day: the mean length of a year gives it up to one. -/
def yearFromDay (d : ℤ) : ℤ :=
  let y := 1970 + d * 400 / 146097
  if d < dayFromYear y then y - 1 else if dayFromYear (y + 1) ≤ d then y + 1 else y

/-- A year begins close to where years of the mean length would have it begin. -/
lemma dayFromYear_mean (y : ℤ) :
    146097 * (y - 1970) - 506 ≤ 400 * dayFromYear y ∧
      400 * dayFromYear y ≤ 146097 * (y - 1970) + 589 := by
  unfold dayFromYear
  omega

/-- A day lies in its year. -/
lemma yearFromDay_spec (d : ℤ) :
    dayFromYear (yearFromDay d) ≤ d ∧ d < dayFromYear (yearFromDay d + 1) := by
  have hbefore := (dayFromYear_mean (1970 + d * 400 / 146097 - 1)).2
  have hafter := (dayFromYear_mean (1970 + d * 400 / 146097 + 1 + 1)).1
  have hfloor : 146097 * (d * 400 / 146097) ≤ 400 * d ∧
      400 * d < 146097 * (d * 400 / 146097) + 146097 := by omega
  unfold yearFromDay
  dsimp only
  split
  · rename_i hlt
    rw [sub_add_cancel]
    exact ⟨by linarith, hlt⟩
  · split
    · rename_i hle
      exact ⟨hle, by linarith⟩
    · rename_i hge hlt
      exact ⟨not_lt.mp hge, not_le.mp hlt⟩

lemma yearFromDay_mono {d d' : ℤ} (h : d ≤ d') : yearFromDay d ≤ yearFromDay d' := by
  by_contra hlt
  have hyears := dayFromYear_mono (show yearFromDay d' + 1 ≤ yearFromDay d from not_le.mp hlt)
  linarith [(yearFromDay_spec d).1, (yearFromDay_spec d').2]

/-! ## Months -/

/-- The day within the year, from 0. -/
def dayWithinYear (d : ℤ) : ℤ := d - dayFromYear (yearFromDay d)

lemma dayWithinYear_mem (d : ℤ) :
    0 ≤ dayWithinYear d ∧ dayWithinYear d < daysInYear (yearFromDay d) := by
  obtain ⟨h, h'⟩ := yearFromDay_spec d
  exact ⟨by unfold dayWithinYear; linarith, by unfold dayWithinYear daysInYear; linarith⟩

/-- The day within the year on which the months after the first begin. -/
def monthStarts (y : ℤ) : List ℤ :=
  let leap := daysInYear y - 365
  [31, 59 + leap, 90 + leap, 120 + leap, 151 + leap, 181 + leap, 212 + leap, 243 + leap,
    273 + leap, 304 + leap, 334 + leap]

/-- The month of a day, from 0: so many months have begun since the first. -/
def monthFromDay (d : ℤ) : ℕ := (monthStarts (yearFromDay d)).countP (· ≤ dayWithinYear d)

/-- The day of the month, from 1. -/
def dateFromDay (d : ℤ) : ℤ :=
  dayWithinYear d - (0 :: monthStarts (yearFromDay d)).getD (monthFromDay d) 0 + 1

/-- The dates of a common year and of a leap year. -/
lemma date_mem_of_table :
    ∀ leap : ℕ, leap < 2 → ∀ x : ℕ, x < 365 + leap →
    let starts := monthStarts (if leap = 0 then 1970 else 1972)
    1 ≤ (x : ℤ) - (0 :: starts).getD (starts.countP (· ≤ (x : ℤ))) 0 + 1 ∧
      (x : ℤ) - (0 :: starts).getD (starts.countP (· ≤ (x : ℤ))) 0 + 1 ≤ 31 := by
  decide +kernel

lemma dateFromDay_mem (d : ℤ) : 1 ≤ dateFromDay d ∧ dateFromDay d ≤ 31 := by
  obtain ⟨hnonneg, hlt⟩ := dayWithinYear_mem d
  obtain ⟨x, hx⟩ := Int.eq_ofNat_of_zero_le hnonneg
  have hyear := daysInYear_mem (yearFromDay d)
  unfold dateFromDay monthFromDay
  rw [hx] at hlt ⊢
  -- there are two kinds of years
  by_cases hleap : daysInYear (yearFromDay d) = 365
  · have hstarts : monthStarts (yearFromDay d) = monthStarts 1970 := by
      unfold monthStarts
      rw [hleap]
      rfl
    rw [hstarts]
    exact date_mem_of_table 0 (by decide) x (by omega)
  · have hstarts : monthStarts (yearFromDay d) = monthStarts 1972 := by
      unfold monthStarts
      rw [show daysInYear (yearFromDay d) = 366 by omega]
      rfl
    rw [hstarts]
    exact date_mem_of_table 1 (by decide) x (by omega)

lemma monthFromDay_le (d : ℤ) : monthFromDay d ≤ 11 := List.countP_le_length

/-- Within a year, the later day is not in an earlier month. -/
lemma monthFromDay_mono {d d' : ℤ} (hyear : yearFromDay d = yearFromDay d') (h : d ≤ d') :
    monthFromDay d ≤ monthFromDay d' := by
  unfold monthFromDay dayWithinYear
  rw [hyear]
  refine List.countP_mono_left fun start _ hstart => ?_
  rw [decide_eq_true_iff] at hstart ⊢
  linarith

/-- A day is known by its year, its month and its date. -/
lemma eq_of_dateFromDay_eq {d d' : ℤ} (hyear : yearFromDay d = yearFromDay d')
    (hmonth : monthFromDay d = monthFromDay d') (hdate : dateFromDay d = dateFromDay d') :
    d = d' := by
  unfold dateFromDay dayWithinYear at hdate
  rw [hyear, hmonth] at hdate
  linarith

/-! ## Weeks -/

/-- The weekday, from 0 for Sunday: 1 January 1970 was a Thursday. -/
def weekDay (d : ℤ) : ℤ := (d + 4) % 7

/-- The number of the week from Sunday to Saturday. -/
def week (d : ℤ) : ℤ := (d + 4) / 7

end MeeoServer.Calendar
