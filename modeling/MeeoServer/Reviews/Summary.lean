/-
# The summary of the ratings

`getProductRatingSummary` of `reviews/services/reviewQuery.service.ts`: average rating, total count
and star distribution.  Its three queries run side by side, and the reviews may change in between;
each argument is the table as one of them finds it.

The average is the database's.  All that is used of it is that it lies between bounds of the
ratings.
-/
import Mathlib.Algebra.Order.BigOperators.Group.List
import MeeoServer.Numeric.Grid
import MeeoServer.Reviews.Records
import MeeoServer.Table.Grouping

namespace MeeoServer.Reviews.Board

/-- The reviews that the public sees. -/
def approved (productId : ProductId) (reviews : List Review) : List Review :=
  reviews.filter fun review => review.productId = productId ∧ review.status = .approved

/-- `review.groupBy` by the rating. -/
def groupByRating (reviews : List Review) : List (ℤ × ℕ) :=
  reviews.foldl (fun groups review => Table.adjust review.rating (fun n => n.getD 0 + 1) groups) []

structure RatingSummary where
  averageRating : ℚ
  totalReviews : ℕ
  verifiedPurchaseCount : ℕ
  starDistribution : ℤ → ℕ

/-- The keys of the distribution. -/
def stars : List ℤ := [1, 2, 3, 4, 5]

def starDistribution (groups : List (ℤ × ℕ)) : ℤ → ℕ :=
  groups.foldl (fun distribution g =>
    if g.1 ∈ stars then Function.update distribution g.1 g.2 else distribution) fun _ => 0

/-- Aggregates average rating, total count, and star distribution breakdown (1-5 stars).  The
average is `null` without a review. -/
def getProductRatingSummary (average : List ℤ → ℚ) (productId : ProductId)
    (aggregated grouped counted : List Review) : RatingSummary :=
  let rows := approved productId aggregated
  let avg := if rows = [] then none else some (average (rows.map Review.rating))
  { averageRating :=
      match avg with
      | none => 0
      | some rating => if rating = 0 then 0 else roundHalfUp 10 rating
    totalReviews := rows.length
    verifiedPurchaseCount :=
      ((approved productId counted).filter fun review => review.isVerifiedPurchase).length
    starDistribution := starDistribution (groupByRating (approved productId grouped)) }

/-! ## The groups -/

section Groups

variable {groups : List (ℤ × ℕ)} {star : ℤ} {rows : List Review}

/-- Each group sets its star; the groups have different stars. -/
lemma starDistribution_eq_lookup (hgroups : (groups.map Prod.fst).Nodup) (hstar : star ∈ stars) :
    starDistribution groups star = (groups.lookup star).getD 0 := by
  have hfold (distribution : ℤ → ℕ) : groups.foldl (fun distribution g =>
      if g.1 ∈ stars then Function.update distribution g.1 g.2 else distribution) distribution
        star = (groups.lookup star).getD (distribution star) := by
    induction groups generalizing distribution with
    | nil => rfl
    | cons g groups ih =>
      obtain ⟨hg, hrest⟩ := List.nodup_cons.mp hgroups
      obtain ⟨rating, count⟩ := g
      rw [List.foldl_cons, ih hrest, Table.lookup_cons_ite]
      by_cases hrating : star = rating
      · subst hrating
        have hnone : groups.lookup star = none :=
          List.lookup_eq_none_iff.mpr fun g hmem => by
            have hne : star ≠ g.1 := fun heq => hg (List.mem_map.mpr ⟨g, hmem, heq.symm⟩)
            simpa using hne
        rw [hnone, if_pos rfl, if_pos hstar]
        exact Function.update_self ..
      · rw [if_neg hrating]
        congr 1
        dsimp only
        split_ifs
        · exact Function.update_of_ne hrating ..
        · rfl
  exact hfold fun _ => 0

lemma nodup_groupByRating (rows : List Review) :
    ((groupByRating rows).map Prod.fst).Nodup := by
  refine (Table.foldl_accumulates (M := ℕ) (P := fun groups => (groups.map Prod.fst).Nodup)
    (f := fun groups (review : Review) => Table.adjust review.rating (fun n => n.getD 0 + 1) groups)
    (v := fun _ => 0) (w := fun _ => 0) (fun groups _ h => ⟨Table.nodup_adjust h, rfl⟩)
    (s := []) List.nodup_nil rows).1

/-- A group counts the rows that have its rating. -/
lemma lookup_groupByRating (rows : List Review) (star : ℤ) :
    ((groupByRating rows).lookup star).getD 0 =
      (rows.map fun review => if review.rating = star then 1 else 0).sum := by
  have hfold := (Table.foldl_accumulates (P := fun _ => True)
    (f := fun groups (review : Review) => Table.adjust review.rating (fun n => n.getD 0 + 1) groups)
    (v := fun groups => (groups.lookup star).getD 0)
    (w := fun review => if review.rating = star then 1 else 0) (fun groups review _ => by
      refine ⟨trivial, ?_⟩
      rw [Table.lookup_adjust]
      by_cases hstar : star = review.rating
      · rw [if_pos hstar, if_pos hstar.symm, hstar]
        rfl
      · rw [if_neg hstar, if_neg (Ne.symm hstar)]
        rfl) (s := []) trivial rows).2
  exact hfold.trans (zero_add _)

lemma starDistribution_groupByRating (rows : List Review) (hstar : star ∈ stars) :
    starDistribution (groupByRating rows) star =
      (rows.map fun review => if review.rating = star then 1 else 0).sum := by
  rw [starDistribution_eq_lookup (nodup_groupByRating rows) hstar, lookup_groupByRating]

/-- A review has one of the stars. -/
lemma sum_stars {rating : ℤ} (h : Stars rating) :
    (stars.map fun star => if rating = star then 1 else 0).sum = 1 := by
  obtain ⟨hlow, hhigh⟩ := h
  obtain rfl | rfl | rfl | rfl | rfl : rating = 1 ∨ rating = 2 ∨ rating = 3 ∨ rating = 4 ∨
    rating = 5 := by omega
  all_goals rfl

lemma length_filter_rating (rows : List Review) (star : ℤ) :
    (rows.map fun review => if review.rating = star then 1 else 0).sum =
      (rows.filter fun review => review.rating = star).length := by
  induction rows with
  | nil => rfl
  | cons review rows ih =>
    rw [List.map_cons, List.sum_cons, ih]
    by_cases hstar : review.rating = star
    · rw [if_pos hstar, List.filter_cons_of_pos (by simpa using hstar), List.length_cons, add_comm]
    · rw [if_neg hstar, List.filter_cons_of_neg (by simpa using hstar), zero_add]

lemma sum_starDistribution (h : ∀ review ∈ rows, Stars review.rating) :
    (stars.map (starDistribution (groupByRating rows))).sum = rows.length := by
  rw [List.map_congr_left fun star hstar => starDistribution_groupByRating rows hstar]
  induction rows with
  | nil => rfl
  | cons review rows ih =>
    simp only [List.map_cons, List.sum_cons, List.sum_map_add]
    rw [sum_stars (h review List.mem_cons_self), ih fun r hr => h r (List.mem_cons_of_mem _ hr),
      List.length_cons, add_comm]

end Groups

/-! ## The summary -/

/-- The average of the database is between bounds of what it averages. -/
def Averages (average : List ℤ → ℚ) : Prop :=
  ∀ ratings : List ℤ, ratings ≠ [] → ∀ low high : ℤ,
    (∀ rating ∈ ratings, low ≤ rating ∧ rating ≤ high) →
      (low : ℚ) ≤ average ratings ∧ average ratings ≤ high

lemma mem_approved {productId : ProductId} {reviews : List Review} {review : Review}
    (h : review ∈ approved productId reviews) : review ∈ reviews := (List.mem_filter.mp h).1

lemma averageRating_bounds {average : List ℤ → ℚ} (haverage : Averages average)
    {productId : ProductId} {aggregated grouped counted : List Review}
    (hstars : ∀ review ∈ aggregated, Stars review.rating) :
    let summary := getProductRatingSummary average productId aggregated grouped counted
    if summary.totalReviews = 0 then summary.averageRating = 0
    else 1 ≤ summary.averageRating ∧ summary.averageRating ≤ 5 := by
  unfold getProductRatingSummary
  dsimp only
  by_cases hrows : approved productId aggregated = []
  · rw [if_pos (by rw [hrows]; rfl), if_pos hrows]
  · have hne : (approved productId aggregated).map Review.rating ≠ [] := by
      simpa using hrows
    obtain ⟨hlow, hhigh⟩ := haverage _ hne 1 5 fun rating hrating => by
      obtain ⟨review, hmem, rfl⟩ := List.mem_map.mp hrating
      exact hstars review (mem_approved hmem)
    rw [if_neg (by simpa using hrows), if_neg hrows]
    dsimp only
    have hpos : average ((approved productId aggregated).map Review.rating) ≠ 0 := by
      intro hzero
      rw [hzero] at hlow
      exact absurd hlow (by norm_num)
    have hgrid (z : ℤ) : (z : ℚ) ∈ grid ℚ 10 := Grid.mem_grid.mpr ⟨z * 10, by push_cast; ring⟩
    rw [if_neg hpos]
    constructor
    · have h := Grid.roundHalfUp_mono (n := 10) hlow
      rwa [Grid.roundHalfUp_of_mem (by decide) (hgrid 1), Int.cast_one] at h
    · exact_mod_cast Grid.roundHalfUp_le (by decide) (hgrid 5) hhigh

section Runs

variable {s₀ : Board} {cfg₁ cfg₂ : Config Board Commit AppError}

/-- **The summary adds up**, whichever reachable tables its three queries find: an average is
between one star and five, the stars are those of the reviews, and together they are as many as
the query for the groups has found. -/
theorem summary_adds_up {average : List ℤ → ℚ} (haverage : Averages average) (h₀ : s₀.Sound)
    (hr₁ : reviewBoard.Reachable Call.Parsed Free s₀ cfg₁)
    (hr₂ : reviewBoard.Reachable Call.Parsed Free s₀ cfg₂) (productId : ProductId)
    (counted : List Review) :
    let summary := getProductRatingSummary average productId cfg₁.store.tables.reviews
      cfg₂.store.tables.reviews counted
    (if summary.totalReviews = 0 then summary.averageRating = 0
      else 1 ≤ summary.averageRating ∧ summary.averageRating ≤ 5) ∧
    (∀ star ∈ stars, summary.starDistribution star =
      ((approved productId cfg₂.store.tables.reviews).filter fun review =>
        review.rating = star).length) ∧
    (stars.map summary.starDistribution).sum =
      (approved productId cfg₂.store.tables.reviews).length := by
  have hstars {cfg : Config Board Commit AppError}
      (hr : reviewBoard.Reachable Call.Parsed Free s₀ cfg) :
      ∀ review ∈ cfg.store.tables.reviews, Stars review.rating :=
    fun review hmem => ((sound_of_reachable h₀ hr).reviews review hmem).stars
  refine ⟨averageRating_bounds haverage (hstars hr₁), fun star hstar => ?_, ?_⟩
  · exact (starDistribution_groupByRating _ hstar).trans (length_filter_rating _ star)
  · exact sum_starDistribution fun review hmem => hstars hr₂ review (mem_approved hmem)

/-- The exact average. -/
def mean (ratings : List ℤ) : ℚ := ratings.sum / ratings.length

lemma averages_mean : Averages mean := by
  intro ratings hne low high h
  have hlen : (0 : ℚ) < ratings.length := by exact_mod_cast List.length_pos_iff.mpr hne
  have hlow : low * ratings.length ≤ ratings.sum := by
    have hsum := List.card_nsmul_le_sum ratings low fun rating hmem => (h rating hmem).1
    rwa [nsmul_eq_mul, mul_comm] at hsum
  have hhigh : ratings.sum ≤ high * ratings.length := by
    have hsum := List.sum_le_card_nsmul ratings high fun rating hmem => (h rating hmem).2
    rwa [nsmul_eq_mul, mul_comm] at hsum
  unfold mean
  rw [le_div_iff₀ hlen, div_le_iff₀ hlen]
  exact_mod_cast And.intro hlow hhigh

/-- The product has a review of one star, which is approved. -/
theorem summary_adds_up_mean : ∃ cfg : Config Board Commit AppError,
    let summary := getProductRatingSummary mean 3 cfg.store.tables.reviews cfg.store.tables.reviews
      cfg.store.tables.reviews
    summary.totalReviews = 1 ∧ (1 ≤ summary.averageRating ∧ summary.averageRating ≤ 5) ∧
      (stars.map summary.starDistribution).sum = 1 := by
  obtain ⟨cfg, hr, hstore⟩ := reviewBoard.exists_reachable_of_exec Call.Parsed Free
    ([.call (.createReview 7 ⟨3, 1, none, some "Buy it elsewhere", []⟩ 0),
      .step 0 .ok, .step 0 .ok, .step 0 .ok, .step 0 .ok,
      .call (.bulkModerate 9 ⟨[0], .approved, by decide, none⟩ 1000), .step 1 .ok])
    newShop (fun s : Board => (approved 3 s.tables.reviews).length) 1 (by decide +kernel)
  have h := summary_adds_up averages_mean sound_newShop hr hr 3 cfg.store.tables.reviews
  refine ⟨cfg, hstore, ?_, ?_⟩
  · have hone : (getProductRatingSummary mean 3 cfg.store.tables.reviews cfg.store.tables.reviews
        cfg.store.tables.reviews).totalReviews ≠ 0 := by
      show (approved 3 cfg.store.tables.reviews).length ≠ 0
      rw [hstore]
      exact Nat.one_ne_zero
    simpa only [if_neg hone] using h.1
  · exact h.2.2.trans hstore

end Runs

end MeeoServer.Reviews.Board
