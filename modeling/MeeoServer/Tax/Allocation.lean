/-
# The allocation of a discount

`allocateDiscounts` grants every line its proportional share of the discount, rounded to the
hundredth, and then puts what the rounding left over onto the first of the largest lines.  The
allocations therefore always come to the discount; but the largest line takes the roundings of
all other lines, and with many lines these can be more than it has.
-/
import MeeoServer.Numeric.Fixed
import MeeoServer.Tax.GstEngine
import Mathlib.Algebra.Order.BigOperators.Group.List
import Mathlib.Algebra.BigOperators.Ring.List
import Mathlib.Data.List.MinMax
import Mathlib.Tactic.Ring

namespace MeeoServer

lemma roundToTwoDecimals_mem (x : ℚ) : roundToTwoDecimals x ∈ hundredths :=
  Grid.roundHalfUp_mem x

lemma roundToTwoDecimals_of_mem {x : ℚ} (h : x ∈ hundredths) : roundToTwoDecimals x = x :=
  Grid.roundHalfUp_of_mem (by decide) h

lemma mem_hundredths {x : ℚ} (h : roundToTwoDecimals x = x) : x ∈ hundredths :=
  h ▸ roundToTwoDecimals_mem x

@[simp] lemma roundToTwoDecimals_zero : roundToTwoDecimals 0 = 0 := Grid.roundHalfUp_zero

lemma roundToTwoDecimals_nonneg {x : ℚ} (h : 0 ≤ x) : 0 ≤ roundToTwoDecimals x :=
  Grid.roundHalfUp_nonneg h

lemma roundToTwoDecimals_le {x y : ℚ} (hy : y ∈ hundredths) (h : x ≤ y) :
    roundToTwoDecimals x ≤ y :=
  Grid.roundHalfUp_le (by decide) hy h

/-- A hundredth is not smaller than the threshold of the code. -/
lemma eq_zero_of_abs_le {x : ℚ} (hx : x ∈ hundredths) (h : ¬1 / 10000 < |x|) : x = 0 := by
  obtain ⟨z, rfl⟩ := Grid.mem_grid.mp hx
  have habs : |(z : ℚ)| < 1 := by
    rw [abs_div] at h
    have h100 : |((100 : ℕ) : ℚ)| = 100 := by norm_num
    rw [h100, not_lt, div_le_iff₀ (by norm_num)] at h
    linarith
  have hz : |z| < 1 := by exact_mod_cast habs
  rw [Int.abs_lt_one_iff.mp hz]
  simp

namespace Allocation

/-! ## The allocation in closed form -/

section ClosedForm

variable (items : List GrossLine) (totalDiscount : ℚ)

def grossSubtotal : ℚ := (items.map GrossLine.grossTotal).sum

def cappedDiscount : ℚ := min totalDiscount (grossSubtotal items)

/-- The proportional share of a line in the discount. -/
def exactShare (item : GrossLine) : ℚ :=
  cappedDiscount items totalDiscount * (item.grossTotal / grossSubtotal items)

/-- The share as it is granted. -/
def share (item : GrossLine) : ℚ := roundToTwoDecimals (exactShare items totalDiscount item)

/-- The first of the lines with the highest gross total. -/
def largest : Option GrossLine := items.argmax GrossLine.grossTotal

/-- What the rounded shares leave of the discount. -/
def remainder : ℚ :=
  cappedDiscount items totalDiscount - (items.map (share items totalDiscount)).sum

/-- The share of the last line with this identifier. -/
def lastShare (id : String) : ℚ :=
  ((items.reverse.find? fun i => i.id = id).map (share items totalDiscount)).getD 0

/-- The discount that is filed under an identifier: lines that share one share the discount of
the last of them, and the largest line takes the remainder. -/
def credit (id : String) : ℚ :=
  lastShare items totalDiscount id +
    if (largest items).map GrossLine.id = some id then remainder items totalDiscount else 0

end ClosedForm

section Loop

variable (discount gross : ℚ)

/-- The loop of the allocation: the last share of an identifier stays in the map. -/
lemma foldl_allocateItem (items : List GrossLine) (loop : AllocationLoop) :
    let share := fun i : GrossLine => roundToTwoDecimals (discount * (i.grossTotal / gross))
    let final := items.foldl (allocateItem discount gross) loop
    (∀ id, final.discountMap id =
      ((items.reverse.find? fun i => i.id = id).map share).or (loop.discountMap id)) ∧
      final.allocatedSum = loop.allocatedSum + (items.map share).sum := by
  intro share final
  induction items generalizing loop with
  | nil => simp [final]
  | cons item rest ih =>
    obtain ⟨hmap, hsum⟩ := ih (allocateItem discount gross loop item)
    refine ⟨fun id => ?_, ?_⟩
    · have hstep : (allocateItem discount gross loop item).discountMap id =
          if id = item.id then some (share item) else loop.discountMap id := by
        simp only [allocateItem, Function.update_apply]
        rfl
      have hfinal := hmap id
      rw [hstep] at hfinal
      show (rest.foldl (allocateItem discount gross)
        (allocateItem discount gross loop item)).discountMap id = _
      rw [hfinal, List.reverse_cons, List.find?_append]
      cases rest.reverse.find? fun i => i.id = id with
      | some last => simp
      | none =>
        by_cases hid : item.id = id
        · simp [hid]
        · simp [hid, Ne.symm hid]
    · show (rest.foldl (allocateItem discount gross)
        (allocateItem discount gross loop item)).allocatedSum = _
      rw [hsum, List.map_cons, List.sum_cons]
      simp only [allocateItem, share]
      ring

/-- The loop of the allocation finds the first of the largest lines. -/
lemma foldl_largestItem (items : List GrossLine) (loop : AllocationLoop) (first : GrossLine)
    (h : loop.largestItem = some first) :
    (items.foldl (allocateItem discount gross) loop).largestItem =
      items.foldl (List.argAux fun b c => c.grossTotal < b.grossTotal) (some first) := by
  induction items generalizing loop first with
  | nil => simpa using h
  | cons item rest ih =>
    rw [List.foldl_cons, List.foldl_cons]
    by_cases hlt : first.grossTotal < item.grossTotal
    · rw [ih _ item (by simp [allocateItem, h, hlt])]
      simp [List.argAux, hlt]
    · rw [ih _ first (by simp [allocateItem, h, hlt])]
      simp [List.argAux, hlt]

end Loop

lemma foldl_noDiscount (items : List GrossLine) (discountMap : String → Option ℚ) (id : String)
    (h : (discountMap id).getD 0 = 0) :
    ((items.foldl (fun (discountMap : String → Option ℚ) item =>
      Function.update discountMap item.id (some 0)) discountMap) id).getD 0 = 0 := by
  induction items generalizing discountMap with
  | nil => exact h
  | cons item rest ih =>
    refine ih _ ?_
    show (Function.update discountMap item.id (some 0) id).getD 0 = 0
    rw [Function.update_apply]
    split
    · rfl
    · exact h

/-! ## The amounts -/

/-- Lines and a discount in whole hundredths, none of them negative. -/
structure Valid (items : List GrossLine) (totalDiscount : ℚ) : Prop where
  gross_mem : ∀ i ∈ items, i.grossTotal ∈ hundredths
  gross_nonneg : ∀ i ∈ items, 0 ≤ i.grossTotal
  discount_mem : totalDiscount ∈ hundredths
  discount_nonneg : 0 ≤ totalDiscount

variable {items : List GrossLine} {totalDiscount : ℚ}

lemma share_mem (item : GrossLine) : share items totalDiscount item ∈ hundredths :=
  roundToTwoDecimals_mem _

lemma lastShare_mem (id : String) : lastShare items totalDiscount id ∈ hundredths := by
  unfold lastShare
  cases items.reverse.find? fun i => i.id = id with
  | none => exact zero_mem _
  | some item => exact share_mem item

lemma credit_of_cappedDiscount_eq_zero (hzero : cappedDiscount items totalDiscount = 0)
    (id : String) : credit items totalDiscount id = 0 := by
  have hshare : share items totalDiscount = fun _ => 0 := by
    funext item
    rw [share, exactShare, hzero, zero_mul, roundToTwoDecimals_zero]
  have hremainder : remainder items totalDiscount = 0 := by simp [remainder, hshare, hzero]
  have hlast : lastShare items totalDiscount id = 0 := by
    unfold lastShare
    rw [hshare]
    cases items.reverse.find? fun i => i.id = id <;> rfl
  simp [credit, hremainder, hlast]

/-- Without repeated identifiers the last line with the identifier of a line is the line. -/
lemma lastShare_of_nodup (hids : (items.map GrossLine.id).Nodup) {item : GrossLine}
    (hitem : item ∈ items) :
    lastShare items totalDiscount item.id = share items totalDiscount item := by
  unfold lastShare
  cases hfind : items.reverse.find? fun i => i.id = item.id with
  | none =>
    have hnone := List.find?_eq_none.mp hfind item (List.mem_reverse.mpr hitem)
    simp at hnone
  | some last =>
    have hmem := List.mem_reverse.mp (List.mem_of_find?_eq_some hfind)
    have hid : last.id = item.id := by simpa using List.find?_some hfind
    rw [List.inj_on_of_nodup_map hids hmem hitem hid]
    rfl

namespace Valid

variable (h : Valid items totalDiscount)

include h

lemma grossSubtotal_mem : grossSubtotal items ∈ hundredths := by
  refine Grid.sum_mem fun x hx => ?_
  obtain ⟨item, hitem, rfl⟩ := List.mem_map.mp hx
  exact h.gross_mem item hitem

lemma grossSubtotal_nonneg : 0 ≤ grossSubtotal items := by
  refine List.sum_nonneg fun x hx => ?_
  obtain ⟨item, hitem, rfl⟩ := List.mem_map.mp hx
  exact h.gross_nonneg item hitem

lemma cappedDiscount_mem : cappedDiscount items totalDiscount ∈ hundredths :=
  Grid.min_mem h.discount_mem h.grossSubtotal_mem

lemma cappedDiscount_nonneg : 0 ≤ cappedDiscount items totalDiscount :=
  le_min h.discount_nonneg h.grossSubtotal_nonneg

lemma remainder_mem : remainder items totalDiscount ∈ hundredths := by
  refine sub_mem h.cappedDiscount_mem (Grid.sum_mem fun x hx => ?_)
  obtain ⟨item, -, rfl⟩ := List.mem_map.mp hx
  exact share_mem item

/-- The exact share of a line is part of its gross total. -/
lemma exactShare_le {item : GrossLine} (hitem : item ∈ items) :
    0 ≤ exactShare items totalDiscount item ∧
      exactShare items totalDiscount item ≤ item.grossTotal := by
  have hgross := h.gross_nonneg item hitem
  have hsub := h.grossSubtotal_nonneg
  have hratio : 0 ≤ item.grossTotal / grossSubtotal items := div_nonneg hgross hsub
  refine ⟨mul_nonneg h.cappedDiscount_nonneg hratio, ?_⟩
  calc exactShare items totalDiscount item
      ≤ grossSubtotal items * (item.grossTotal / grossSubtotal items) :=
        mul_le_mul_of_nonneg_right (min_le_right _ _) hratio
    _ ≤ item.grossTotal := by
        rcases hsub.eq_or_lt with hzero | hpos
        · rw [← hzero, zero_mul]
          exact hgross
        · exact (mul_div_cancel₀ item.grossTotal hpos.ne').le

lemma share_bounds {item : GrossLine} (hitem : item ∈ items) :
    0 ≤ share items totalDiscount item ∧ share items totalDiscount item ≤ item.grossTotal :=
  ⟨roundToTwoDecimals_nonneg (h.exactShare_le hitem).1,
    roundToTwoDecimals_le (h.gross_mem item hitem) (h.exactShare_le hitem).2⟩

/-- The map of the allocation holds the credits. -/
theorem allocateDiscounts_eq (id : String) :
    ((allocateDiscounts items totalDiscount) id).getD 0 = credit items totalDiscount id := by
  have hsub : (items.map GrossLine.grossTotal).sum = grossSubtotal items := rfl
  have hcap : min totalDiscount (grossSubtotal items) = cappedDiscount items totalDiscount := rfl
  unfold allocateDiscounts
  rw [hsub]
  -- the early return: a discount or a subtotal of nothing
  by_cases hzero : totalDiscount ≤ 0 ∨ grossSubtotal items ≤ 0
  · have hcapped : cappedDiscount items totalDiscount = 0 :=
      le_antisymm (min_le_iff.mpr hzero) h.cappedDiscount_nonneg
    rw [if_pos hzero, credit_of_cappedDiscount_eq_zero hcapped]
    exact foldl_noDiscount _ _ id rfl
  · rw [if_neg hzero]
    dsimp only
    rw [hcap]
    obtain ⟨first, rest, hitems⟩ : ∃ first rest, items = first :: rest := by
      cases hitems : items with
      | nil => simp [grossSubtotal, hitems] at hzero
      | cons first rest => exact ⟨first, rest, rfl⟩
    have hhead : items.head? = some first := by rw [hitems]; rfl
    rw [hhead]
    set loop : AllocationLoop := ⟨fun _ => none, 0, some first⟩
    set final := items.foldl
      (allocateItem (cappedDiscount items totalDiscount) (grossSubtotal items)) loop
    -- the loop has written the shares, summed them and kept the largest line
    obtain ⟨hmap, hallocated⟩ : (∀ id, final.discountMap id =
        ((items.reverse.find? fun i => i.id = id).map (share items totalDiscount)).or none) ∧
        final.allocatedSum = 0 + (items.map (share items totalDiscount)).sum :=
      foldl_allocateItem (cappedDiscount items totalDiscount) (grossSubtotal items) items loop
    have hlargest : final.largestItem = largest items := by
      rw [foldl_largestItem _ _ items loop first rfl, largest, List.argmax, hitems,
        List.foldl_cons, List.foldl_cons]
      simp [List.argAux]
    have hlast : ∀ id, (final.discountMap id).getD 0 = lastShare items totalDiscount id := by
      intro id
      rw [hmap id, Option.or_none, lastShare]
    have hdifference : roundToTwoDecimals
        (cappedDiscount items totalDiscount - final.allocatedSum) =
        remainder items totalDiscount := by
      have hrem : cappedDiscount items totalDiscount - final.allocatedSum =
          remainder items totalDiscount := by
        rw [hallocated, zero_add, remainder]
      rw [hrem, roundToTwoDecimals_of_mem h.remainder_mem]
    rw [hdifference, hlargest]
    cases hl : largest items with
    | none => simp [credit, hl, hlast]
    | some item =>
      -- the remainder is added to the largest line; one that is too small for that is zero
      by_cases hsmall : 1 / 10000 < |remainder items totalDiscount|
      · simp only [if_pos hsmall, hlast]
        have hround : roundToTwoDecimals
            (lastShare items totalDiscount item.id + remainder items totalDiscount) =
            lastShare items totalDiscount item.id + remainder items totalDiscount :=
          roundToTwoDecimals_of_mem (add_mem (lastShare_mem _) h.remainder_mem)
        rw [hround, Function.update_apply]
        by_cases hid : id = item.id
        · simp [credit, hl, hid]
        · simp [credit, hl, hid, Ne.symm hid, hlast]
      · simp only [if_neg hsmall, hlast]
        have hrem := eq_zero_of_abs_le h.remainder_mem hsmall
        simp [credit, hrem]

/-- The exact shares come to the discount. -/
lemma sum_exactShare :
    (items.map (exactShare items totalDiscount)).sum = cappedDiscount items totalDiscount := by
  have hfactor : (items.map (exactShare items totalDiscount)).sum =
      cappedDiscount items totalDiscount * (grossSubtotal items / grossSubtotal items) := by
    have hdiv : ∀ l : List GrossLine,
        (l.map fun i => i.grossTotal / grossSubtotal items).sum =
          (l.map GrossLine.grossTotal).sum / grossSubtotal items := by
      intro l
      simp only [div_eq_mul_inv, List.sum_map_mul_right]
    show (items.map fun i => cappedDiscount items totalDiscount *
      (i.grossTotal / grossSubtotal items)).sum = _
    rw [List.sum_map_mul_left, hdiv]
    rfl
  rw [hfactor]
  rcases h.grossSubtotal_nonneg.eq_or_lt with hzero | hpos
  · have hcapped : cappedDiscount items totalDiscount = 0 :=
      le_antisymm ((min_le_right _ _).trans hzero.ge) h.cappedDiscount_nonneg
    rw [hcapped, zero_mul]
  · rw [div_self hpos.ne', mul_one]

end Valid

/-! ## What the lines are granted -/

variable (items totalDiscount) in
/-- What the rounding adds to the share of a line. -/
def rounding (item : GrossLine) : ℚ :=
  share items totalDiscount item - exactShare items totalDiscount item

variable (items totalDiscount) in
/-- The roundings of the other lines, all of which the line bears if it is the largest. -/
def borne (item : GrossLine) : ℚ :=
  ((items.erase item).map (rounding items totalDiscount)).sum

lemma borne_add (items : List GrossLine) (totalDiscount : ℚ) (item : GrossLine) :
    borne items totalDiscount item +
      ((items.erase item).map (exactShare items totalDiscount)).sum =
      ((items.erase item).map (share items totalDiscount)).sum := by
  rw [borne, ← List.sum_map_add]
  simp only [rounding, sub_add_cancel]

lemma credit_of_ne (hids : (items.map GrossLine.id).Nodup) {first item : GrossLine}
    (hfirst : largest items = some first) (hitem : item ∈ items) (hne : item ≠ first) :
    credit items totalDiscount item.id = share items totalDiscount item := by
  have hid : first.id ≠ item.id := fun hid =>
    hne (List.inj_on_of_nodup_map hids hitem (List.argmax_mem hfirst) hid.symm)
  rw [credit, lastShare_of_nodup hids hitem, hfirst, Option.map_some, if_neg (by simpa using hid),
    add_zero]

lemma Valid.credit_largest (h : Valid items totalDiscount)
    (hids : (items.map GrossLine.id).Nodup) {first : GrossLine}
    (hfirst : largest items = some first) :
    credit items totalDiscount first.id =
      exactShare items totalDiscount first - borne items totalDiscount first := by
  have hmem : first ∈ items := List.argmax_mem hfirst
  have hshares := List.sum_map_erase (share items totalDiscount) hmem
  have hexact := List.sum_map_erase (exactShare items totalDiscount) hmem
  have hborne := borne_add items totalDiscount first
  rw [credit, lastShare_of_nodup hids hmem, hfirst, Option.map_some, if_pos rfl, remainder,
    ← hshares]
  rw [h.sum_exactShare] at hexact
  linarith

/-- With distinct identifiers the credits come to the discount. -/
theorem Valid.sum_credit (h : Valid items totalDiscount) (hids : (items.map GrossLine.id).Nodup) :
    (items.map fun i => credit items totalDiscount i.id).sum =
      cappedDiscount items totalDiscount := by
  cases hl : largest items with
  | none =>
    obtain rfl : items = [] := List.argmax_eq_none.mp hl
    exact h.sum_exactShare
  | some first =>
    have hmem : first ∈ items := List.argmax_mem hl
    have hothers : ((items.erase first).map fun i => credit items totalDiscount i.id) =
        (items.erase first).map (share items totalDiscount) := by
      refine List.map_congr_left fun item hitem => ?_
      have hnodup : items.Nodup := List.Nodup.of_map _ hids
      obtain ⟨hne, hitem⟩ := hnodup.mem_erase_iff.mp hitem
      exact credit_of_ne hids hl hitem hne
    have hexact := List.sum_map_erase (exactShare items totalDiscount) hmem
    have hborne := borne_add items totalDiscount first
    rw [← List.sum_map_erase _ hmem, hothers, h.credit_largest hids hl, ← h.sum_exactShare,
      ← hexact]
    linarith

/-- Every line has an entry in the map. -/
lemma allocateDiscounts_isSome {item : GrossLine} (hitem : item ∈ items) :
    (allocateDiscounts items totalDiscount item.id).isSome := by
  have hupdate : ∀ (discountMap : String → Option ℚ) (id : String) (amount : ℚ),
      (discountMap item.id).isSome →
        (Function.update discountMap id (some amount) item.id).isSome := by
    intro discountMap id amount hsome
    rw [Function.update_apply]
    split
    · rfl
    · exact hsome
  unfold allocateDiscounts
  dsimp only
  split
  -- without a discount the loop writes a zero for every line
  · have hfold : ∀ (l : List GrossLine) (discountMap : String → Option ℚ),
        item ∈ l ∨ (discountMap item.id).isSome →
        ((l.foldl (fun (discountMap : String → Option ℚ) i =>
          Function.update discountMap i.id (some 0)) discountMap) item.id).isSome := by
      intro l
      induction l with
      | nil => intro discountMap hsome; simpa using hsome
      | cons i rest ih =>
        intro discountMap hsome
        refine ih _ ?_
        rcases hsome with hmem | hsome
        · rcases List.mem_cons.mp hmem with rfl | hmem
          · right; simp
          · exact .inl hmem
        · exact .inr (hupdate _ _ _ hsome)
    exact hfold items _ (.inl hitem)
  -- otherwise it writes the shares, and the remainder goes to a line that has one
  · set final := items.foldl (allocateItem _ _) _
    have hfinal : (final.discountMap item.id).isSome := by
      rw [(foldl_allocateItem _ _ items _).1 item.id, Option.isSome_or, Option.isSome_map,
        Bool.or_eq_true, List.find?_isSome]
      exact .inl ⟨item, List.mem_reverse.mpr hitem, by simp⟩
    split
    · cases final.largestItem with
      | none => exact hfinal
      | some largestItem => exact hupdate _ _ _ hfinal
    · cases final.largestItem with
      | none => exact hfinal
      | some largestItem => exact hfinal

end Allocation

/-- The discount of an order is apportioned to its lines: all of it is, and no line is charged
for it or granted more than it costs. -/
structure Apportions (items : List GrossLine) (totalDiscount : ℚ)
    (discountMap : String → Option ℚ) : Prop where
  filed : ∀ i ∈ items, (discountMap i.id).isSome
  sum_eq : (items.map fun i => (discountMap i.id).getD 0).sum =
    min totalDiscount (items.map GrossLine.grossTotal).sum
  nonneg : ∀ i ∈ items, 0 ≤ (discountMap i.id).getD 0
  le_gross : ∀ i ∈ items, (discountMap i.id).getD 0 ≤ i.grossTotal

namespace Allocation

/-- The first of the largest lines has room for the roundings of all others: what these add is
in its own share, and what they take away is in the rest of its gross total. -/
def RoomForRoundings (items : List GrossLine) (totalDiscount : ℚ) : Prop :=
  ∀ first ∈ largest items, borne items totalDiscount first ≤ exactShare items totalDiscount first ∧
    -borne items totalDiscount first ≤
      first.grossTotal - exactShare items totalDiscount first

/-- **The allocation of a discount.**  It always comes to the discount, and every line is granted
between nothing and its gross total exactly if the largest line has room for the roundings of
the others. -/
theorem apportions_iff {items : List GrossLine} {totalDiscount : ℚ}
    (hids : (items.map GrossLine.id).Nodup) (h : Valid items totalDiscount) :
    Apportions items totalDiscount (allocateDiscounts items totalDiscount) ↔
      RoomForRoundings items totalDiscount := by
  have hsum : (items.map fun i => (allocateDiscounts items totalDiscount i.id).getD 0).sum =
      min totalDiscount (items.map GrossLine.grossTotal).sum := by
    simp only [h.allocateDiscounts_eq]
    exact h.sum_credit hids
  constructor
  · intro happ first hfirst
    have hmem : first ∈ items := List.argmax_mem hfirst
    have hnonneg := happ.nonneg first hmem
    have hle := happ.le_gross first hmem
    rw [h.allocateDiscounts_eq, h.credit_largest hids hfirst] at hnonneg hle
    constructor <;> linarith
  · intro hroom
    have hbounds : ∀ i ∈ items, 0 ≤ credit items totalDiscount i.id ∧
        credit items totalDiscount i.id ≤ i.grossTotal := by
      intro i hi
      obtain ⟨first, hfirst⟩ : ∃ first, largest items = some first := by
        refine Option.ne_none_iff_exists'.mp fun hnone => ?_
        rw [List.argmax_eq_none.mp hnone] at hi
        exact absurd hi List.not_mem_nil
      by_cases hne : i = first
      · obtain ⟨hadd, htake⟩ := hroom first hfirst
        rw [hne, h.credit_largest hids hfirst]
        constructor <;> linarith
      · rw [credit_of_ne hids hfirst hi hne]
        exact h.share_bounds hi
    refine ⟨fun i hi => allocateDiscounts_isSome hi, hsum, fun i hi => ?_, fun i hi => ?_⟩
    · rw [h.allocateDiscounts_eq]
      exact (hbounds i hi).1
    · rw [h.allocateDiscounts_eq]
      exact (hbounds i hi).2

/-- Three lines and the discount of an order. -/
theorem apportions_iff_three :
    ([⟨"a", 333⟩, ⟨"b", 333⟩, ⟨"c", 333⟩] : List GrossLine).map GrossLine.id = ["a", "b", "c"] ∧
    (Apportions [⟨"a", 333⟩, ⟨"b", 333⟩, ⟨"c", 333⟩] 100
      (allocateDiscounts [⟨"a", 333⟩, ⟨"b", 333⟩, ⟨"c", 333⟩] 100) ↔
    RoomForRoundings [⟨"a", 333⟩, ⟨"b", 333⟩, ⟨"c", 333⟩] 100) := by
  refine ⟨rfl, apportions_iff (by decide) ⟨fun i hi => ?_, fun i hi => ?_, ?_, by norm_num⟩⟩
  · exact mem_hundredths (by revert i; decide +kernel)
  · revert i; decide +kernel
  · exact mem_hundredths (by decide +kernel)

/-- A discount of two hundredths on four lines of one: all shares are rounded up, and the first
line is charged for it. -/
theorem largest_line_charged : ¬∀ (items : List GrossLine) (totalDiscount : ℚ),
    items ≠ [] → (items.map GrossLine.id).Nodup →
    (∀ i ∈ items, i.grossTotal ∈ hundredths ∧ 0 < i.grossTotal) →
    totalDiscount ∈ hundredths → 0 ≤ totalDiscount →
    Apportions items totalDiscount (allocateDiscounts items totalDiscount) := by
  intro hall
  have happ := hall [⟨"a", 1 / 100⟩, ⟨"b", 1 / 100⟩, ⟨"c", 1 / 100⟩, ⟨"d", 1 / 100⟩] (2 / 100)
    (by simp) (by decide) (fun i hi => by
      have hgross : i.grossTotal = 1 / 100 := by revert i; decide +kernel
      rw [hgross]
      exact ⟨mem_hundredths (by decide +kernel), by norm_num⟩)
    (mem_hundredths (by decide +kernel)) (by norm_num)
  have hfirst := happ.nonneg ⟨"a", 1 / 100⟩ (by simp)
  revert hfirst
  decide +kernel

/-! ## Orders with few lines -/

lemma abs_rounding_le (items : List GrossLine) (totalDiscount : ℚ) (item : GrossLine) :
    |rounding items totalDiscount item| ≤ 1 / 200 := by
  have h := Grid.abs_roundHalfUp_sub_le (n := 100) (by decide)
    (exactShare items totalDiscount item)
  norm_num at h
  rw [rounding, share, roundToTwoDecimals]
  linarith

/-- The largest line bears at most half a hundredth for each of the others. -/
lemma abs_borne_le {items : List GrossLine} {first : GrossLine}
    (hfirst : largest items = some first) (totalDiscount : ℚ) :
    |borne items totalDiscount first| ≤ (items.length - 1 : ℕ) / 200 := by
  have hsum : ∀ l : List GrossLine,
      |(l.map (rounding items totalDiscount)).sum| ≤ (l.length : ℚ) / 200 := by
    intro l
    induction l with
    | nil => simp
    | cons i rest ih =>
      rw [List.map_cons, List.sum_cons, List.length_cons]
      have hi := abs_rounding_le items totalDiscount i
      have habs := abs_add_le (rounding items totalDiscount i)
        (rest.map (rounding items totalDiscount)).sum
      push_cast
      linarith
  have h := hsum (items.erase first)
  rwa [List.length_erase_of_mem (List.argmax_mem hfirst)] at h

/-- With few lines the allocation is right: half a hundredth for each line but the largest fits
into its share, and into what its share leaves of its gross total. -/
theorem apportions_of_few {items : List GrossLine} {totalDiscount : ℚ}
    (hids : (items.map GrossLine.id).Nodup) (h : Valid items totalDiscount)
    (hfew : ∀ first ∈ largest items,
      (items.length - 1 : ℕ) / 200 ≤ exactShare items totalDiscount first ∧
      (items.length - 1 : ℕ) / 200 ≤ first.grossTotal - exactShare items totalDiscount first) :
    Apportions items totalDiscount (allocateDiscounts items totalDiscount) := by
  refine (apportions_iff hids h).mpr fun first hfirst => ?_
  obtain ⟨hshare, hrest⟩ := hfew first hfirst
  obtain ⟨hlow, hhigh⟩ := abs_le.mp (abs_borne_le hfirst totalDiscount)
  constructor <;> linarith

end Allocation

end MeeoServer
