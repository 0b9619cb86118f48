/-
# The sales chart

`dashboard/services/dashboardAnalytics.service.ts`: the orders of a period, counted by the day, the
week or the month.  The buckets are kept under texts that name the day, the week or the month.  The
week is numbered by rounding up the days since 1 January, hours included, so that a Saturday counts
with its week at midnight only, and with the next week from then on.
-/
import MeeoServer.Dashboard.Overview
import MeeoServer.Numeric.Calendar
import MeeoServer.Table.Runs
import MeeoServer.Text.Decimal
import Mathlib.Data.List.Sort
import Mathlib.Data.Prod.Lex
import Mathlib.Data.Rat.Floor
import Mathlib.Tactic.FieldSimp

namespace MeeoServer.Dashboard

open MeeoServer.Calendar MeeoServer.Text

/-! ## Dates -/

def msPerDay : ℤ := 86400000

/-- A time that both the database and a `Date` can hold, in milliseconds: from the Julian day 0 to
the last `Date`. -/
structure Date where
  time : ℤ
  ge_first : -210866803200000 ≤ time
  le_last : time ≤ 8640000000000000

namespace Date

variable (d : Date)

def day : ℤ := d.time / msPerDay

def timeWithinDay : ℤ := d.time % msPerDay

def getFullYear : ℤ := yearFromDay d.day

def getMonth : ℕ := monthFromDay d.day

def getDate : ℕ := (dateFromDay d.day).toNat

/-- A year between 0 and 9999 has four digits, every other one a sign and six. -/
def isoYear (y : ℤ) : String :=
  if 0 ≤ y ∧ y ≤ 9999 then Text.padStart 4 y.natAbs.repr
  else (if y < 0 then "-" else "+") ++ Text.padStart 6 y.natAbs.repr

/-- The time of the day, `HH:mm:ss.sss`. -/
def isoTime : String :=
  let ms := d.timeWithinDay.toNat
  Text.padStart 2 (ms / 3600000).repr ++ ":" ++ Text.padStart 2 (ms / 60000 % 60).repr ++ ":" ++
    Text.padStart 2 (ms / 1000 % 60).repr ++ "." ++ Text.padStart 3 (ms % 1000).repr

def toISOString : String :=
  isoYear d.getFullYear ++ "-" ++ Text.padStart 2 (d.getMonth + 1).repr ++ "-" ++
    Text.padStart 2 d.getDate.repr ++ "T" ++ d.isoTime ++ "Z"

/-- The day of `new Date(d.getFullYear(), 0, 1)`, which takes a year before 100 for one of the
twentieth century. -/
def firstDayOfYear : ℤ :=
  let y := d.getFullYear
  dayFromYear (if 0 ≤ y ∧ y ≤ 99 then 1900 + y else y)

def pastDaysOfYear : ℚ := (d.time - d.firstDayOfYear * msPerDay : ℤ) / msPerDay

def weekNum : ℤ := ⌈(d.pastDaysOfYear + weekDay d.firstDayOfYear + 1) / 7⌉

end Date

/-! ## The chart -/

inductive Interval where
  | day
  | week
  | month
deriving DecidableEq

structure SalesOrder where
  status : OrderStatus
  grandTotal : Paise
  createdAt : Date

structure DataPoint where
  date : String
  revenue : Paise
  orderCount : ℕ

/-- The text that a bucket is kept under. -/
def bucketKey (interval : Interval) (order : SalesOrder) : String :=
  let d := order.createdAt
  match interval with
  | .month => d.getFullYear.repr ++ "-" ++ Text.padStart 2 (d.getMonth + 1).repr
  | .week => d.getFullYear.repr ++ "-W" ++ Text.padStart 2 d.weekNum.repr
  | .day => sliceTo 10 d.toISOString

/-- The body of the loop: a bucket that does not exist is created, and the order is added. -/
def addToBucket (interval : Interval) (bucket : Option DataPoint) (order : SalesOrder) :
    DataPoint :=
  let bucket := bucket.getD ⟨bucketKey interval order, 0, 0⟩
  { bucket with
    revenue := bucket.revenue + order.grandTotal
    orderCount := bucket.orderCount + 1 }

/-- The loop over the orders, and `Object.values` of the buckets. -/
def dataPoints (interval : Interval) (orders : List SalesOrder) : List DataPoint :=
  (Table.collect (bucketKey interval) (addToBucket interval) orders).map Prod.snd

structure SalesTrendQueryInput where
  period : Period
  interval : Interval

/-- `order.findMany` of the paid orders in the range, the oldest first. -/
def findOrders (range : DateRange) (orders : List SalesOrder) : List SalesOrder :=
  (orders.filter fun o =>
    o.status ∈ PAID_ORDER_STATUSES && range.admits o.createdAt.time).insertionSort
    fun o o' => o.createdAt.time ≤ o'.createdAt.time

def getSalesAndRevenueChart (now startOfDay : ℤ) (query : SalesTrendQueryInput)
    (orders : List SalesOrder) : List DataPoint :=
  dataPoints query.interval
    (findOrders (resolveDateRange now startOfDay ⟨some query.period, none, none⟩) orders)

/-! ## Weeks -/

/-- A Saturday, after its first instant. -/
def Date.LateSaturday (d : Date) : Prop := weekDay d.day = 6 ∧ d.timeWithinDay ≠ 0

instance (d : Date) : Decidable d.LateSaturday := inferInstanceAs (Decidable (_ ∧ _))

/-- The number of the week, seen from the first week of the year: a late Saturday is counted with
the next one. -/
lemma Date.weekNum_eq (d : Date) :
    d.weekNum = week d.day - week d.firstDayOfYear + 1 + if d.LateSaturday then 1 else 0 := by
  have hquotient : (d.pastDaysOfYear + weekDay d.firstDayOfYear + 1) / 7 =
      ((d.time - d.firstDayOfYear * msPerDay +
        (weekDay d.firstDayOfYear + 1) * msPerDay : ℤ) : ℚ) / (604800000 : ℕ) := by
    unfold Date.pastDaysOfYear msPerDay
    push_cast
    field_simp
    ring
  rw [Date.weekNum, hquotient, Rat.ceil_intCast_div_natCast]
  by_cases hlate : d.LateSaturday
  · rw [if_pos hlate]
    unfold LateSaturday at hlate
    unfold week weekDay day timeWithinDay msPerDay at *
    omega
  · rw [if_neg hlate]
    unfold LateSaturday at hlate
    unfold week weekDay day timeWithinDay msPerDay at *
    omega

/-! ## What a bucket stands for -/

/-- A bucket, without its text: the year, and a part of it. -/
def slot (interval : Interval) (order : SalesOrder) : ℤ ×ₗ ℤ :=
  let d := order.createdAt
  toLex (d.getFullYear, match interval with
    | .month => d.getMonth
    | .week => d.weekNum
    -- the tenth character of a longer year is the last of the month
    | .day => if 0 ≤ d.getFullYear ∧ d.getFullYear ≤ 9999 then dayWithinYear d.day
        else d.getMonth)

lemma Date.day_mono {d d' : Date} (h : d.time ≤ d'.time) : d.day ≤ d'.day :=
  Int.ediv_le_ediv (by decide) h

lemma Date.weekNum_mono {d d' : Date} (hyear : d.getFullYear = d'.getFullYear)
    (h : d.time ≤ d'.time) : d.weekNum ≤ d'.weekNum := by
  have hfirst : d.firstDayOfYear = d'.firstDayOfYear := by
    unfold firstDayOfYear
    rw [hyear]
  unfold Date.weekNum Date.pastDaysOfYear
  rw [hfirst]
  have hpos : (0 : ℚ) ≤ msPerDay := by decide
  gcongr

/-- The later order is not in an earlier bucket. -/
lemma slot_mono (interval : Interval) {o o' : SalesOrder}
    (h : o.createdAt.time ≤ o'.createdAt.time) : slot interval o ≤ slot interval o' := by
  have hday := Date.day_mono h
  unfold slot
  rw [Prod.Lex.toLex_le_toLex]
  rcases (yearFromDay_mono hday).lt_or_eq with hlt | hyear
  · exact Or.inl hlt
  refine Or.inr ⟨hyear, ?_⟩
  have hmonth : o.createdAt.getMonth ≤ o'.createdAt.getMonth := monthFromDay_mono hyear hday
  have hwithin : dayWithinYear o.createdAt.day ≤ dayWithinYear o'.createdAt.day := by
    unfold dayWithinYear
    rw [hyear]
    linarith
  have hyear' : o.createdAt.getFullYear = o'.createdAt.getFullYear := hyear
  cases interval with
  | month => exact Int.ofNat_le.mpr hmonth
  | week => exact Date.weekNum_mono hyear h
  | day =>
    dsimp only
    rw [hyear']
    split
    · exact hwithin
    · exact Int.ofNat_le.mpr hmonth

/-! ## The texts -/

namespace Date

variable {d d' : Date}

lemma length_month (d : Date) : (Text.padStart 2 (d.getMonth + 1).repr).toList.length = 2 := by
  have hle := monthFromDay_le d.day
  refine length_padStart (by decide) ?_
  show monthFromDay d.day + 1 < 100
  omega

lemma length_date (d : Date) : (Text.padStart 2 d.getDate.repr).toList.length = 2 := by
  have hmem := dateFromDay_mem d.day
  refine length_padStart (by decide) ?_
  show (dateFromDay d.day).toNat < 100
  omega

lemma getFullYear_mem (d : Date) : -4713 ≤ d.getFullYear ∧ d.getFullYear ≤ 275760 := by
  have hfirst : (-2440588 : ℤ) ≤ d.day := by
    have := d.ge_first
    unfold day msPerDay
    omega
  have hlast : d.day ≤ 100000000 := by
    have := d.le_last
    unfold day msPerDay
    omega
  exact ⟨yearFromDay_mono hfirst, yearFromDay_mono hlast⟩

lemma length_isoYear (d : Date) : (isoYear d.getFullYear).toList.length =
    if 0 ≤ d.getFullYear ∧ d.getFullYear ≤ 9999 then 4 else 7 := by
  obtain ⟨hge, hle⟩ := d.getFullYear_mem
  unfold isoYear
  split
  · exact length_padStart (by decide) (by norm_num; omega)
  · have hlength : (Text.padStart 6 d.getFullYear.natAbs.repr).toList.length = 6 :=
      length_padStart (by decide) (by norm_num; omega)
    rw [String.toList_append, List.length_append, hlength]
    split <;> rfl

lemma toList_isoYear {y : ℤ} (h : ¬(0 ≤ y ∧ y ≤ 9999)) : (isoYear y).toList =
    (if y < 0 then '-' else '+') :: (Text.padStart 6 y.natAbs.repr).toList := by
  rw [isoYear, if_neg h, String.toList_append]
  split <;> rfl

/-- The first character tells which kind of year it is. -/
lemma isoYear_eq_cons (y : ℤ) :
    ∃ c t, (isoYear y).toList = c :: t ∧ (c.isDigit ↔ 0 ≤ y ∧ y ≤ 9999) := by
  by_cases hy : 0 ≤ y ∧ y ≤ 9999
  · have hlength : (Text.padStart 4 y.natAbs.repr).toList.length = 4 :=
      length_padStart (by decide) (by norm_num; omega)
    rw [isoYear, if_pos hy]
    cases htext : (Text.padStart 4 y.natAbs.repr).toList with
    | nil => rw [htext] at hlength; cases hlength
    | cons c t =>
      have hdigit := isDigit_of_mem_padStart (w := 4) (n := y.natAbs) (c := c)
        (htext ▸ List.mem_cons_self)
      exact ⟨c, t, rfl, iff_of_true hdigit hy⟩
  · refine ⟨_, _, toList_isoYear hy, iff_of_false ?_ hy⟩
    split <;> decide

lemma isoYear_injective {y y' : ℤ} (h : isoYear y = isoYear y') : y = y' := by
  have htext := congrArg String.toList h
  have hkind : (0 ≤ y ∧ y ≤ 9999) ↔ 0 ≤ y' ∧ y' ≤ 9999 := by
    obtain ⟨c, t, hc, hkind⟩ := isoYear_eq_cons y
    obtain ⟨c', t', hc', hkind'⟩ := isoYear_eq_cons y'
    rw [hc, hc'] at htext
    rw [← hkind, ← hkind', (List.cons.inj htext).1]
  by_cases hy : 0 ≤ y ∧ y ≤ 9999
  · rw [isoYear, if_pos hy, isoYear, if_pos (hkind.mp hy)] at h
    have habs := padStart_repr_injective h
    omega
  · rw [toList_isoYear hy, toList_isoYear (mt hkind.mpr hy)] at htext
    obtain ⟨hsign, hnumber⟩ := List.cons.inj htext
    have habs := padStart_repr_injective (String.toList_inj.mp hnumber)
    by_cases hneg : y < 0
    · by_cases hneg' : y' < 0
      · omega
      · rw [if_pos hneg, if_neg hneg'] at hsign
        exact absurd hsign (by decide)
    · by_cases hneg' : y' < 0
      · rw [if_neg hneg, if_pos hneg'] at hsign
        exact absurd hsign (by decide)
      · omega

/-- The first ten characters of a date: to the day, or to the month if the year is a long one. -/
lemma toList_sliceTo_toISOString (d : Date) :
    (sliceTo 10 d.toISOString).toList = (isoYear d.getFullYear).toList ++
      '-' :: (Text.padStart 2 (d.getMonth + 1).repr).toList ++
        if 0 ≤ d.getFullYear ∧ d.getFullYear ≤ 9999 then
          '-' :: (Text.padStart 2 d.getDate.repr).toList
        else [] := by
  have hyear := d.length_isoYear
  have hmonth := d.length_month
  have hdate := d.length_date
  have hdash : "-".toList = ['-'] := rfl
  have htext : d.toISOString.toList =
      (isoYear d.getFullYear).toList ++ '-' :: (Text.padStart 2 (d.getMonth + 1).repr).toList ++
        ('-' :: (Text.padStart 2 d.getDate.repr).toList ++ ("T" ++ d.isoTime ++ "Z").toList) := by
    simp only [toISOString, String.toList_append, List.append_assoc, hdash, List.cons_append,
      List.nil_append]
  rw [sliceTo, String.toList_ofList, htext]
  by_cases hshort : 0 ≤ d.getFullYear ∧ d.getFullYear ≤ 9999
  · rw [if_pos hshort] at hyear ⊢
    rw [← List.append_assoc]
    refine List.take_left' ?_
    simp only [List.length_append, List.length_cons, hyear, hmonth, hdate]
  · rw [if_neg hshort] at hyear ⊢
    rw [List.append_nil]
    refine List.take_left' ?_
    simp only [List.length_append, List.length_cons, hyear, hmonth]

end Date

lemma bucketKey_month_iff {o o' : SalesOrder} :
    bucketKey .month o = bucketKey .month o' ↔ slot .month o = slot .month o' := by
  unfold bucketKey slot
  dsimp only
  rw [toLex_inj, Prod.mk.injEq, Int.natCast_inj]
  constructor
  · intro h
    have htext := congrArg String.toList h
    simp only [String.toList_append] at htext
    -- the last two characters are the month
    obtain ⟨hyear, hmonth⟩ := List.append_inj' htext
      ((Date.length_month _).trans (Date.length_month _).symm)
    have hnumber := padStart_repr_injective (String.toList_inj.mp hmonth)
    exact ⟨repr_injective (String.toList_inj.mp (List.append_cancel_right hyear)), by omega⟩
  · rintro ⟨hyear, hmonth⟩
    rw [hyear, hmonth]

lemma bucketKey_week_iff {o o' : SalesOrder} :
    bucketKey .week o = bucketKey .week o' ↔ slot .week o = slot .week o' := by
  unfold bucketKey slot
  dsimp only
  rw [toLex_inj, Prod.mk.injEq]
  constructor
  · intro h
    have hmark : "-W".toList = ['-', 'W'] := rfl
    have htext : ∀ d : Date,
        (d.getFullYear.repr ++ "-W" ++ Text.padStart 2 d.weekNum.repr).toList =
        (d.getFullYear.repr.toList ++ ['-']) ++ 'W' :: (Text.padStart 2 d.weekNum.repr).toList := by
      intro d
      simp only [String.toList_append, hmark, List.append_assoc, List.cons_append,
        List.nil_append]
    have hlists := congrArg String.toList h
    rw [htext, htext] at hlists
    -- the only `W` is the one before the number
    have hbefore : 'W' ∉ o.createdAt.getFullYear.repr.toList ++ ['-'] := by
      intro hmem
      rcases List.mem_append.mp hmem with hmem | hmem
      · exact notMem_repr (by decide) (by decide) hmem
      · exact absurd (List.mem_singleton.mp hmem) (by decide)
    have hafter : 'W' ∉ (Text.padStart 2 o.createdAt.weekNum.repr).toList :=
      notMem_padStart (by decide) (by decide)
    obtain ⟨hyear, -, hweek⟩ := (List.append_cons_inj_of_notMem hbefore hafter).mp hlists
    exact ⟨repr_injective (String.toList_inj.mp (List.append_cancel_right hyear)),
      padStart_two_repr_injective (String.toList_inj.mp hweek)⟩
  · rintro ⟨hyear, hweek⟩
    rw [hyear, hweek]

/-- Dates with the same year and the same day in it. -/
lemma Date.day_eq_iff {d d' : Date} (hyear : d.getFullYear = d'.getFullYear) :
    d.getMonth = d'.getMonth ∧ d.getDate = d'.getDate ↔
      dayWithinYear d.day = dayWithinYear d'.day := by
  have hyear' : yearFromDay d.day = yearFromDay d'.day := hyear
  constructor
  · rintro ⟨hmonth, hdate⟩
    have hpos := (dateFromDay_mem d.day).1
    have hpos' := (dateFromDay_mem d'.day).1
    have hdate' : dateFromDay d.day = dateFromDay d'.day := by
      unfold getDate at hdate
      omega
    rw [eq_of_dateFromDay_eq hyear' hmonth hdate']
  · intro h
    have hday : d.day = d'.day := by
      unfold dayWithinYear at h
      rw [hyear'] at h
      linarith
    unfold getMonth getDate
    rw [hday]
    exact ⟨rfl, rfl⟩

lemma bucketKey_day_iff {o o' : SalesOrder} :
    bucketKey .day o = bucketKey .day o' ↔ slot .day o = slot .day o' := by
  unfold bucketKey slot
  dsimp only
  generalize o.createdAt = d
  generalize o'.createdAt = d'
  rw [toLex_inj, Prod.mk.injEq, ← String.toList_inj, Date.toList_sliceTo_toISOString,
    Date.toList_sliceTo_toISOString]
  constructor
  · intro h
    have hkind : (0 ≤ d.getFullYear ∧ d.getFullYear ≤ 9999) ↔
        0 ≤ d'.getFullYear ∧ d'.getFullYear ≤ 9999 := by
      obtain ⟨c, t, hc, hkind⟩ := Date.isoYear_eq_cons d.getFullYear
      obtain ⟨c', t', hc', hkind'⟩ := Date.isoYear_eq_cons d'.getFullYear
      rw [hc, hc'] at h
      rw [← hkind, ← hkind', (List.cons.inj h).1]
    -- then the parts of the two texts have the same lengths
    have hlength := d.length_isoYear.trans ((if_congr hkind rfl rfl).trans d'.length_isoYear.symm)
    rw [List.append_assoc, List.append_assoc] at h
    obtain ⟨hyear, hrest⟩ := List.append_inj h hlength
    have hyear := Date.isoYear_injective (String.toList_inj.mp hyear)
    obtain ⟨hmonth, hdate⟩ := List.append_inj (List.cons.inj hrest).2
      (d.length_month.trans d'.length_month.symm)
    have hmonth := padStart_repr_injective (String.toList_inj.mp hmonth)
    refine ⟨hyear, ?_⟩
    rw [← hyear] at hdate ⊢
    split
    · rename_i hshort
      rw [if_pos hshort, if_pos hshort] at hdate
      have hdate := padStart_repr_injective (String.toList_inj.mp (List.cons.inj hdate).2)
      exact (Date.day_eq_iff hyear).mp ⟨by omega, hdate⟩
    · exact congrArg _ (show d.getMonth = d'.getMonth by omega)
  · rintro ⟨hyear, hpart⟩
    rw [← hyear] at hpart ⊢
    split at hpart
    · rename_i hshort
      obtain ⟨hmonth, hdate⟩ := (Date.day_eq_iff hyear).mpr hpart
      rw [hmonth, hdate]
    · rename_i hlong
      rw [if_neg hlong, if_neg hlong, Int.natCast_inj.mp hpart]

/-- The texts tell the buckets apart. -/
lemma bucketKey_eq_iff (interval : Interval) (o o' : SalesOrder) :
    bucketKey interval o = bucketKey interval o' ↔ slot interval o = slot interval o' := by
  cases interval with
  | day => exact bucketKey_day_iff
  | week => exact bucketKey_week_iff
  | month => exact bucketKey_month_iff

/-! ## What the chart shows -/

/-- A data point stands for a run of orders. -/
structure Counts (interval : Interval) (point : DataPoint) (run : List SalesOrder) : Prop where
  ne_nil : run ≠ []
  date : ∀ o ∈ run, bucketKey interval o = point.date
  revenue : point.revenue = (run.map SalesOrder.grandTotal).sum
  orderCount : point.orderCount = run.length

/-- The data points stand for the runs that the orders are cut into, in the order of time. -/
structure Charted (interval : Interval) (orders : List SalesOrder) (points : List DataPoint)
    (runs : List (List SalesOrder)) : Prop where
  flatten : runs.flatten = orders
  counts : List.Forall₂ (Counts interval) points runs
  nodup : (points.map DataPoint.date).Nodup
  total : (points.map DataPoint.orderCount).sum = orders.length
  chronological : runs.Pairwise fun r r' =>
    ∀ o ∈ r, ∀ o' ∈ r', o.createdAt.time < o'.createdAt.time

/-- The orders fall in the same year, and in the same week from Sunday to Saturday. -/
def SameWeek (o o' : SalesOrder) : Prop :=
  o.createdAt.getFullYear = o'.createdAt.getFullYear ∧
    week o.createdAt.day = week o'.createdAt.day

instance (o o' : SalesOrder) : Decidable (SameWeek o o') := inferInstanceAs (Decidable (_ ∧ _))

/-- The chart is right: each order is counted in one data point, the points are in the order of
time, and those of an interval of weeks are weeks. -/
def ChartAgrees (interval : Interval) (orders : List SalesOrder) (points : List DataPoint) :
    Prop :=
  ∃ runs, Charted interval orders points runs ∧ (interval = .week → Table.Cuts SameWeek runs)

section Chart

variable {interval : Interval} {orders : List SalesOrder} {points : List DataPoint}
  {runs : List (List SalesOrder)}

/-- A bucket that a run is added to. -/
lemma foldl_addToBucket (point : DataPoint) (run : List SalesOrder) :
    run.foldl (fun b o => some (addToBucket interval b o)) (some point) =
      some ⟨point.date, point.revenue + (run.map SalesOrder.grandTotal).sum,
        point.orderCount + run.length⟩ := by
  induction run generalizing point with
  | nil => simp
  | cons o run ih =>
    have hnext : addToBucket interval (some point) o =
        ⟨point.date, point.revenue + o.grandTotal, point.orderCount + 1⟩ := rfl
    rw [List.foldl_cons, hnext, ih, List.map_cons, List.sum_cons, List.length_cons, add_assoc,
      add_assoc, Nat.add_comm 1]

lemma counts_of_collected {x : String × DataPoint} {run : List SalesOrder}
    (h : Table.Collected (bucketKey interval) (addToBucket interval) x run) :
    Counts interval x.2 run := by
  cases run with
  | nil => exact absurd rfl h.ne_nil
  | cons o run =>
    have hfirst : addToBucket interval none o = ⟨bucketKey interval o, 0 + o.grandTotal, 0 + 1⟩ :=
      rfl
    have hvalue := h.value
    rw [List.foldl_cons, hfirst, foldl_addToBucket, Option.some.injEq] at hvalue
    rw [← hvalue]
    refine ⟨List.cons_ne_nil o run, fun o' ho' => ?_, ?_, ?_⟩
    · exact (h.key_eq o' ho').trans (h.key_eq o List.mem_cons_self).symm
    · rw [List.map_cons, List.sum_cons, zero_add]
    · show 0 + 1 + run.length = (o :: run).length
      rw [List.length_cons, zero_add, Nat.add_comm]

/-- The points of runs that lie apart have different texts. -/
lemma nodup_dates (h : List.Forall₂ (Counts interval) points runs)
    (hruns : runs.Pairwise fun r r' => ∀ o ∈ r, ∀ o' ∈ r', slot interval o < slot interval o') :
    (points.map DataPoint.date).Nodup := by
  induction h with
  | nil => exact List.nodup_nil
  | @cons point run points runs hpoint hrest ih =>
    obtain ⟨hfirst, hruns⟩ := List.pairwise_cons.mp hruns
    refine List.nodup_cons.mpr ⟨fun hmem => ?_, ih hruns⟩
    obtain ⟨point', hmem, hdate⟩ := List.mem_map.mp hmem
    obtain ⟨run', hrun', hpoint'⟩ := Table.exists_mem_of_forall₂ hrest hmem
    obtain ⟨o, ho⟩ := List.exists_mem_of_ne_nil run hpoint.ne_nil
    obtain ⟨o', ho'⟩ := List.exists_mem_of_ne_nil run' hpoint'.ne_nil
    have hkeys : bucketKey interval o = bucketKey interval o' := by
      rw [hpoint.date o ho, hpoint'.date o' ho', hdate]
    exact (hfirst run' hrun' o ho o' ho').ne ((bucketKey_eq_iff interval o o').mp hkeys)

lemma sum_orderCount (h : List.Forall₂ (Counts interval) points runs) :
    (points.map DataPoint.orderCount).sum = runs.flatten.length := by
  induction h with
  | nil => rfl
  | cons hpoint _ ih =>
    rw [List.map_cons, List.sum_cons, List.flatten_cons, List.length_append, ih,
      hpoint.orderCount]

/-- Orders share a data point if they are kept under the same text. -/
lemma Charted.cuts (h : Charted interval orders points runs) :
    Table.Cuts (fun o o' => bucketKey interval o = bucketKey interval o') runs := by
  obtain ⟨-, hcounts, hnodup, -, -⟩ := h
  induction hcounts with
  | nil => exact ⟨by simp, .nil⟩
  | @cons point run points runs hpoint hrest ih =>
    obtain ⟨hnotMem, hnodup⟩ := List.nodup_cons.mp hnodup
    obtain ⟨hsame, hpairs⟩ := ih hnodup
    refine ⟨fun r hr o ho o' ho' => ?_, List.pairwise_cons.mpr ⟨?_, hpairs⟩⟩
    · rcases List.mem_cons.mp hr with rfl | hr
      · exact (hpoint.date o ho).trans (hpoint.date o' ho').symm
      · exact hsame r hr o ho o' ho'
    · intro r hr o ho o' ho' heq
      -- the point of the later run has another text
      obtain ⟨point', hmem, hpoint'⟩ := Table.exists_mem_of_forall₂ hrest.flip hr
      refine hnotMem (List.mem_map.mpr ⟨point', hmem, ?_⟩)
      rw [← hpoint'.date o' ho', ← heq, hpoint.date o ho]

/-- **The data points are runs of the orders**, for every interval. -/
theorem exists_charted (interval : Interval) {orders : List SalesOrder}
    (hsorted : orders.Pairwise fun o o' => o.createdAt.time ≤ o'.createdAt.time) :
    ∃ runs, Charted interval orders (dataPoints interval orders) runs := by
  have hslots : orders.Pairwise fun o o' => slot interval o ≤ slot interval o' :=
    hsorted.imp fun h => slot_mono interval h
  obtain ⟨runs, hflatten, hcollected, hruns⟩ := Table.exists_runs (bucketKey interval)
    (addToBucket interval) hslots fun o _ o' _ => bucketKey_eq_iff interval o o'
  have hcounts : List.Forall₂ (Counts interval) (dataPoints interval orders) runs :=
    List.forall₂_map_left_iff.mpr (hcollected.imp fun _ _ => counts_of_collected)
  refine ⟨runs, hflatten, hcounts, nodup_dates hcounts hruns,
    by rw [sum_orderCount hcounts, hflatten], hruns.imp fun h o ho o' ho' => ?_⟩
  by_contra hle
  exact absurd (slot_mono interval (not_lt.mp hle)) (h o ho o' ho').not_ge

/-- The texts of two orders, in the terms of their weeks. -/
lemma bucketKey_week_eq_iff (o o' : SalesOrder) :
    bucketKey .week o = bucketKey .week o' ↔
      o.createdAt.getFullYear = o'.createdAt.getFullYear ∧
        (week o.createdAt.day + if o.createdAt.LateSaturday then 1 else 0) =
          week o'.createdAt.day + if o'.createdAt.LateSaturday then 1 else 0 := by
  rw [bucketKey_week_iff, slot, slot, toLex_inj, Prod.mk.injEq, Date.weekNum_eq, Date.weekNum_eq]
  refine and_congr_right fun hyear => ?_
  -- the weeks of a year are counted from the same one
  have hfirst : o.createdAt.firstDayOfYear = o'.createdAt.firstDayOfYear := by
    unfold Date.firstDayOfYear
    rw [hyear]
  rw [hfirst]
  constructor <;> intro h <;> linarith

/-- An order of a late Saturday, and one of the same or of the next week that is not of a late
Saturday, both of one year. -/
def MixedUp (o o' : SalesOrder) : Prop :=
  o.createdAt.getFullYear = o'.createdAt.getFullYear ∧
    o.createdAt.LateSaturday ∧ ¬o'.createdAt.LateSaturday ∧
    (week o'.createdAt.day = week o.createdAt.day ∨
      week o'.createdAt.day = week o.createdAt.day + 1)

instance (o o' : SalesOrder) : Decidable (MixedUp o o') :=
  inferInstanceAs (Decidable (_ ∧ _ ∧ _ ∧ _))

/-- The texts are right about two orders unless these are mixed up. -/
lemma bucketKey_week_eq_iff_sameWeek {o o' : SalesOrder} :
    (bucketKey .week o = bucketKey .week o' ↔ SameWeek o o') ↔
      ¬MixedUp o o' ∧ ¬MixedUp o' o := by
  rw [bucketKey_week_eq_iff, SameWeek, MixedUp, MixedUp]
  by_cases hyear : o.createdAt.getFullYear = o'.createdAt.getFullYear
  · by_cases hlate : o.createdAt.LateSaturday
    · by_cases hlate' : o'.createdAt.LateSaturday
      · simp [hyear, hlate, hlate']
      · simp only [hyear, hlate, hlate']
        simp
        omega
    · by_cases hlate' : o'.createdAt.LateSaturday
      · simp only [hyear, hlate, hlate']
        simp
        omega
      · simp [hyear, hlate, hlate']
  · simp [hyear, Ne.symm hyear]

lemma not_mixedUp_of_chartAgrees (h : ChartAgrees .week orders points) :
    ∀ o ∈ orders, ∀ o' ∈ orders, ¬MixedUp o o' := by
  obtain ⟨runs, hcharted, hweeks⟩ := h
  intro o ho o' ho'
  have hiff := Table.Cuts.iff hcharted.cuts (hweeks rfl) (fun _ _ h => h.symm)
    fun _ _ h => ⟨h.1.symm, h.2.symm⟩
  rw [hcharted.flatten] at hiff
  exact (bucketKey_week_eq_iff_sameWeek.mp (hiff o ho o' ho')).1

/-- **The chart is right**, for every sorted list of orders, unless it shows weeks and two of the
orders are mixed up. -/
theorem chartAgrees_iff (interval : Interval) {orders : List SalesOrder}
    (hsorted : orders.Pairwise fun o o' => o.createdAt.time ≤ o'.createdAt.time) :
    ChartAgrees interval orders (dataPoints interval orders) ↔
      (interval = .week → ∀ o ∈ orders, ∀ o' ∈ orders, ¬MixedUp o o') := by
  constructor
  · rintro h rfl
    exact not_mixedUp_of_chartAgrees h
  · intro h
    obtain ⟨runs, hcharted⟩ := exists_charted interval hsorted
    refine ⟨runs, hcharted, ?_⟩
    rintro rfl
    refine hcharted.cuts.of_iff fun o ho o' ho' => ?_
    rw [hcharted.flatten] at ho ho'
    exact bucketKey_week_eq_iff_sameWeek.mpr ⟨h rfl o ho o' ho', h rfl o' ho' o ho⟩

end Chart

lemma findOrders_sorted (range : DateRange) (orders : List SalesOrder) :
    (findOrders range orders).Pairwise fun o o' => o.createdAt.time ≤ o'.createdAt.time := by
  have htotal : Std.Total fun o o' : SalesOrder => o.createdAt.time ≤ o'.createdAt.time :=
    ⟨fun _ _ => le_total _ _⟩
  have htrans : IsTrans SalesOrder fun o o' => o.createdAt.time ≤ o'.createdAt.time :=
    ⟨fun _ _ _ h h' => h.trans h'⟩
  exact List.pairwise_insertionSort _ _

/-- The chart that the service returns counts each paid order of the period once, in the order of
time. -/
theorem getSalesAndRevenueChart_charted (now startOfDay : ℤ) (query : SalesTrendQueryInput)
    (orders : List SalesOrder) :
    ∃ runs, Charted query.interval
      (findOrders (resolveDateRange now startOfDay ⟨some query.period, none, none⟩) orders)
      (getSalesAndRevenueChart now startOfDay query orders) runs :=
  exists_charted query.interval (findOrders_sorted _ orders)

/-- An order of 10 rupees. -/
def SalesOrder.sample (createdAt : Date) : SalesOrder := ⟨.confirmed, 1000, createdAt⟩

/-- Noon on Friday, 31 May 2024, on the Saturday, and on the Sunday. -/
def friday : Date := ⟨1717156800000, by decide, by decide⟩
def saturday : Date := ⟨1717243200000, by decide, by decide⟩
def sunday : Date := ⟨1717329600000, by decide, by decide⟩

/-- An order of Friday and one of the Sunday after it are shown in two weeks. -/
theorem chartAgrees_friday_sunday :
    ChartAgrees .week [.sample friday, .sample sunday]
      (dataPoints .week [.sample friday, .sample sunday]) :=
  (chartAgrees_iff .week (List.pairwise_pair.mpr (by decide))).mpr fun _ => by decide

example : [friday, saturday, sunday].map (fun d => bucketKey .week (.sample d)) =
    ["2024-W22", "2024-W23", "2024-W23"] := by decide +kernel

/-- An order of Friday and one of Saturday are shown in two weeks. -/
theorem saturday_shown_with_next_week :
    ¬∀ (interval : Interval) (orders : List SalesOrder),
      (orders.Pairwise fun o o' => o.createdAt.time ≤ o'.createdAt.time) →
        ChartAgrees interval orders (dataPoints interval orders) := by
  intro h
  have hagrees := h .week [.sample friday, .sample saturday] (List.pairwise_pair.mpr (by decide))
  exact not_mixedUp_of_chartAgrees hagrees (.sample saturday) (by simp) (.sample friday) (by simp)
    (by decide)

end MeeoServer.Dashboard
