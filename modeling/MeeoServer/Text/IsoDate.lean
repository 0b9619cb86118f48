/-
# Dates as texts

`Date.prototype.toISOString`, for points in time from 1970 on, and before.
-/
import Mathlib.Data.Int.Notation
import Mathlib.Data.Nat.Notation

namespace MeeoServer

/-- A number with leading zeros. -/
def padDigits (width n : ℕ) : String :=
  String.ofList (List.replicate (width - (toString n).length) '0') ++ toString n

/-- The year, the month and the day that lie a number of days after the first of January 1970.
Years are counted from March here, so that the leap day is the last of its year. -/
def civilDate (days : ℕ) : ℕ × ℕ × ℕ :=
  let shifted := days + 719468
  let dayOfEra := shifted % 146097
  let yearOfEra := (dayOfEra - dayOfEra / 1460 + dayOfEra / 36524 - dayOfEra / 146096) / 365
  let dayOfYear := dayOfEra - (365 * yearOfEra + yearOfEra / 4 - yearOfEra / 100)
  let monthOfYear := (5 * dayOfYear + 2) / 153
  let month := if monthOfYear < 10 then monthOfYear + 3 else monthOfYear - 9
  let year := yearOfEra + shifted / 146097 * 400
  (if month ≤ 2 then year + 1 else year, month, dayOfYear - (153 * monthOfYear + 2) / 5 + 1)

/-- `new Date(time).toISOString()`. -/
def toISOString (time : ℕ) : String :=
  let (year, month, day) := civilDate (time / 86400000)
  let clock := s!"{padDigits 2 (time / 3600000 % 24)}:{padDigits 2 (time / 60000 % 60)}"
  let seconds := s!"{padDigits 2 (time / 1000 % 60)}.{padDigits 3 (time % 1000)}"
  s!"{padDigits 4 year}-{padDigits 2 month}-{padDigits 2 day}T{clock}:{seconds}Z"

example : toISOString 1709210096789 = "2024-02-29T12:34:56.789Z" := by decide +kernel

/-- `new Date(-time).toISOString()`.  Every era of 400 years has the same number of days, so the
date is looked up some eras later. -/
def toISOStringBefore (time : ℕ) : String :=
  let days := (time + 86399999) / 86400000
  let eras := (days + 146096) / 146097
  let rest := eras * 146097 * 86400000 - time
  let (year, month, day) := civilDate (rest / 86400000)
  let year := (year : ℤ) - 400 * eras
  let yearText := if 0 ≤ year then padDigits 4 year.toNat else s!"-{padDigits 6 year.natAbs}"
  let clock := s!"{padDigits 2 (rest / 3600000 % 24)}:{padDigits 2 (rest / 60000 % 60)}"
  let seconds := s!"{padDigits 2 (rest / 1000 % 60)}.{padDigits 3 (rest % 1000)}"
  s!"{yearText}-{padDigits 2 month}-{padDigits 2 day}T{clock}:{seconds}Z"

/-- The text of a point in time before or after 1970. -/
def isoText : ℤ → String
  | .ofNat time => toISOString time
  | .negSucc time => toISOStringBefore (time + 1)

example : isoText (-1) = "1969-12-31T23:59:59.999Z" := by decide +kernel

end MeeoServer
