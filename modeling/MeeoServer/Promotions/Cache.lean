/-
# The promotion cache

`promotions/services/promotionCache.service.ts` and `resolveCandidatePromotions` of
`promotions/services/promotion.service.ts`.  What is stored is `JSON.stringify` of the rows, so
dates and decimals come back as texts.  A decimal survives this, since `Number` reads its text;
a date does not, since the text of a date is not a number.  A row from the cache is therefore
tried as if it had no dates, which shows unless the engine passes over it anyway.

`toUpperCase` is JavaScript's; nothing depends on which letters it changes.
-/
import MeeoServer.Promotions.Engine
import MeeoServer.Table.Folds
import MeeoServer.Text.JsString

namespace MeeoServer

/-! ## The table and the cache -/

def JsDate.isDate : JsDate → Bool
  | .date _ => true
  | .text _ => false

def JsDecimal.isDecimal : JsDecimal → Bool
  | .decimal _ => true
  | .text _ => false

/-- The columns of a row that hold decimals. -/
def Promotion.decimals (promo : Promotion) : List (Option JsDecimal) :=
  [promo.discountValue, promo.maxDiscountAmount, promo.minOrderSubtotal,
    promo.getYDiscountPercentage]

/-- The dates and decimals are those of the database client. -/
def Promotion.FromDatabase (promo : Promotion) : Prop :=
  (∀ date ∈ promo.startsAt, date.isDate) ∧ (∀ date ∈ promo.endsAt, date.isDate) ∧
    ∀ column ∈ promo.decimals, ∀ x ∈ column, x.isDecimal

instance (promo : Promotion) : Decidable promo.FromDatabase := by
  unfold Promotion.FromDatabase
  infer_instance

/-- The table `promotions`. -/
structure PromotionTable where
  rows : List Promotion
  ids_nodup : (rows.map Promotion.id).Nodup
  codes_nodup : (rows.filterMap Promotion.code).Nodup
  fromDatabase : ∀ promo ∈ rows, promo.FromDatabase

/-- A table with one row. -/
def PromotionTable.single (promo : Promotion) (h : promo.FromDatabase) : PromotionTable where
  rows := [promo]
  ids_nodup := List.nodup_singleton _
  codes_nodup := by cases hcode : promo.code <;> simp [hcode]
  fromDatabase := by simpa using h

def JsDate.jsonRoundTrip : JsDate → JsDate
  | .date time => .text time
  | .text time => .text time

def JsDecimal.jsonRoundTrip : JsDecimal → JsDecimal
  | .decimal value => .text value
  | .text value => .text value

/-- `JSON.parse(JSON.stringify(promo))`. -/
def Promotion.jsonRoundTrip (promo : Promotion) : Promotion :=
  { promo with
    discountValue := promo.discountValue.map JsDecimal.jsonRoundTrip
    maxDiscountAmount := promo.maxDiscountAmount.map JsDecimal.jsonRoundTrip
    minOrderSubtotal := promo.minOrderSubtotal.map JsDecimal.jsonRoundTrip
    getYDiscountPercentage := promo.getYDiscountPercentage.map JsDecimal.jsonRoundTrip
    startsAt := promo.startsAt.map JsDate.jsonRoundTrip
    endsAt := promo.endsAt.map JsDate.jsonRoundTrip }

/-- What Redis holds, as it reads back. -/
structure PromotionCache where
  automatic : Option (List Promotion)
  byCode : String → Option Promotion

namespace PromotionCache

def empty : PromotionCache := ⟨none, fun _ => none⟩

def setActiveAutomaticPromotions (cache : PromotionCache) (promotions : List Promotion) :
    PromotionCache :=
  { cache with automatic := some (promotions.map Promotion.jsonRoundTrip) }

def setPromotionByCode (cache : PromotionCache) (key : String) (promo : Promotion) :
    PromotionCache :=
  { cache with byCode := Function.update cache.byCode key (some promo.jsonRoundTrip) }

end PromotionCache

section Resolve

variable (toUpperCase : String → String) (table : PromotionTable)

/-- `findMany({ where: { isAutomatic, status: "ACTIVE" }, orderBy: { priority: "desc" } })`. -/
def PromotionTable.automatic : List Promotion :=
  (table.rows.filter fun promo => promo.isAutomatic && promo.status = .active).insertionSort
    fun a b => b.priority ≤ a.priority

/-- `findUnique({ where: { code, status: "ACTIVE" } })`. -/
def PromotionTable.findByCode (code : String) : Option Promotion :=
  table.rows.find? fun promo => promo.code = some code && promo.status = .active

/-- The automatic promotions, from the cache or else from the table. -/
def resolveAutomatic (cache : PromotionCache) : List Promotion × PromotionCache :=
  match cache.automatic with
  | some autoPromos => (autoPromos, cache)
  | none => (table.automatic, cache.setActiveAutomaticPromotions table.automatic)

/-- The promotion with a code, from the cache or else from the table. -/
def resolveCode (cache : PromotionCache) (normalizedCode : String) :
    Option Promotion × PromotionCache :=
  let key := toUpperCase normalizedCode
  match cache.byCode key with
  | some codePromo => (some codePromo, cache)
  | none =>
    match table.findByCode normalizedCode with
    | some codePromo => (some codePromo, cache.setPromotionByCode key codePromo)
    | none => (none, cache)

/-- `candidates.push(codePromo)` unless it is there already. -/
def pushCandidate (candidates : List Promotion) : Option Promotion → List Promotion
  | none => candidates
  | some codePromo =>
    if codePromo.id ∈ candidates.map Promotion.id then candidates else candidates ++ [codePromo]

/-- All active automatic promotions plus any requested promo code, and the cache afterwards. -/
def resolveCandidatePromotions (cache : PromotionCache) (promoCode : Option String) :
    List Promotion × PromotionCache :=
  let (autoPromos, cache) := resolveAutomatic table cache
  let code := promoCode.getD ""
  if code = "" then (autoPromos, cache)
  else
    let normalizedCode := toUpperCase (String.ofList (JsString.trim code.toList))
    let (codePromo, cache) := resolveCode toUpperCase table cache normalizedCode
    (pushCandidate autoPromos codePromo, cache)

end Resolve

/-! ## What a row of the cache still says -/

@[simp] lemma JsDate.toNumber_jsonRoundTrip (date : JsDate) :
    date.jsonRoundTrip.toNumber = none := by
  cases date <;> rfl

@[simp] lemma JsDecimal.toNumber_jsonRoundTrip (x : JsDecimal) :
    x.jsonRoundTrip.toNumber = x.toNumber := by
  cases x <;> rfl

namespace Promotion

variable (promo : Promotion)

lemma toNumber_map_jsonRoundTrip (x : Option JsDecimal) :
    (x.map JsDecimal.jsonRoundTrip).map JsDecimal.toNumber = x.map JsDecimal.toNumber := by
  cases x <;> simp

@[simp] lemma jsonRoundTrip_id : promo.jsonRoundTrip.id = promo.id := rfl

@[simp] lemma notStarted_jsonRoundTrip (now : Millis) :
    promo.jsonRoundTrip.notStarted now = false := by
  simp [notStarted, jsonRoundTrip]

@[simp] lemma ended_jsonRoundTrip (now : Millis) : promo.jsonRoundTrip.ended now = false := by
  simp [ended, jsonRoundTrip]

lemma checkItems_jsonRoundTrip (matchedItems : List PromotionCartItem) :
    checkItems promo.jsonRoundTrip matchedItems = checkItems promo matchedItems := by
  have hminimum : (promo.jsonRoundTrip.minOrderSubtotal.map JsDecimal.toNumber).getD 0 =
      (promo.minOrderSubtotal.map JsDecimal.toNumber).getD 0 := by
    rw [← toNumber_map_jsonRoundTrip promo.minOrderSubtotal]
    rfl
  have hsome : promo.jsonRoundTrip.minOrderSubtotal.isSome = promo.minOrderSubtotal.isSome :=
    Option.isSome_map
  unfold checkItems
  rw [hminimum, hsome]
  rfl

@[simp] lemma checkConditions_jsonRoundTrip (context : PromotionEvaluationContext)
    (now : Millis) :
    checkConditions promo.jsonRoundTrip context now = checkConditions promo context now := by
  unfold checkConditions
  rw [checkItems_jsonRoundTrip]
  rfl

@[simp] lemma calculateDiscount_jsonRoundTrip (eligibility : Eligibility)
    (remainingSubtotal : ℚ) :
    calculateDiscount promo.jsonRoundTrip eligibility remainingSubtotal =
      calculateDiscount promo eligibility remainingSubtotal := by
  have hvalue : promo.jsonRoundTrip.discountValue.map JsDecimal.toNumber =
      promo.discountValue.map JsDecimal.toNumber := toNumber_map_jsonRoundTrip _
  have hmax : promo.jsonRoundTrip.maxDiscountAmount.map JsDecimal.toNumber =
      promo.maxDiscountAmount.map JsDecimal.toNumber := toNumber_map_jsonRoundTrip _
  have hgroup : groupAllocation promo.jsonRoundTrip remainingSubtotal =
      groupAllocation promo remainingSubtotal := by
    have hpercentage : promo.jsonRoundTrip.getYDiscountPercentage.map JsDecimal.toNumber =
        promo.getYDiscountPercentage.map JsDecimal.toNumber := toNumber_map_jsonRoundTrip _
    funext item
    unfold groupAllocation
    rw [hpercentage]
    rfl
  unfold calculateDiscount
  rw [hvalue, hmax, hgroup]
  rfl

end Promotion

lemma applyPromotion_jsonRoundTrip (originalSubtotal shippingFee : ℚ) (loop : StackingLoop)
    (promo : Promotion) (eligibility : Eligibility) :
    applyPromotion originalSubtotal shippingFee loop (promo.jsonRoundTrip, eligibility) =
      applyPromotion originalSubtotal shippingFee loop (promo, eligibility) := by
  have hskips : loop.Skips promo.jsonRoundTrip eligibility = loop.Skips promo eligibility := by
    unfold StackingLoop.Skips
    rw [Promotion.calculateDiscount_jsonRoundTrip]
    rfl
  unfold applyPromotion
  simp only [hskips, Promotion.calculateDiscount_jsonRoundTrip]
  rfl

/-! ## The candidates -/

namespace PromotionTable

variable (table : PromotionTable)

lemma automatic_active {promo : Promotion} (h : promo ∈ table.automatic) :
    promo.status = .active := by
  have hmem := List.mem_filter.mp ((List.mem_insertionSort _).mp h)
  simp only [Bool.and_eq_true, decide_eq_true_eq] at hmem
  exact hmem.2.2

lemma findByCode_active {code : String} {promo : Promotion}
    (h : table.findByCode code = some promo) : promo.status = .active := by
  have hsome := List.find?_some h
  simp only [Bool.and_eq_true, decide_eq_true_eq] at hsome
  exact hsome.2

lemma nodup_automatic : (table.automatic.map Promotion.id).Nodup := by
  have hperm := (List.perm_insertionSort (fun a b : Promotion => b.priority ≤ a.priority)
    (table.rows.filter fun promo => promo.isAutomatic && promo.status = .active)).map Promotion.id
  exact hperm.nodup_iff.mpr (table.ids_nodup.sublist (List.filter_sublist.map _))

end PromotionTable

lemma pushCandidate_active {candidates : List Promotion} {codePromo : Option Promotion}
    (hcandidates : ∀ promo ∈ candidates, promo.status = .active)
    (hcode : ∀ promo, codePromo = some promo → promo.status = .active) :
    ∀ promo ∈ pushCandidate candidates codePromo, promo.status = .active := by
  cases codePromo with
  | none => exact hcandidates
  | some codePromo =>
    simp only [pushCandidate]
    split_ifs with hmem
    · exact hcandidates
    · intro promo hpromo
      rcases List.mem_append.mp hpromo with hpromo | hpromo
      · exact hcandidates promo hpromo
      · exact hcode promo (congrArg some (List.mem_singleton.mp hpromo).symm)

lemma nodup_pushCandidate {candidates : List Promotion} {codePromo : Option Promotion}
    (h : (candidates.map Promotion.id).Nodup) :
    ((pushCandidate candidates codePromo).map Promotion.id).Nodup := by
  cases codePromo with
  | none => exact h
  | some codePromo =>
    simp only [pushCandidate]
    split_ifs with hmem
    · exact h
    · rw [List.map_append]
      refine List.Nodup.append h (List.nodup_singleton _) ?_
      intro id hid hid'
      exact hmem (List.mem_singleton.mp hid' ▸ hid)

lemma pushCandidate_jsonRoundTrip (candidates : List Promotion) (codePromo : Option Promotion) :
    pushCandidate (candidates.map Promotion.jsonRoundTrip)
        (codePromo.map Promotion.jsonRoundTrip) =
      (pushCandidate candidates codePromo).map Promotion.jsonRoundTrip := by
  cases codePromo with
  | none => rfl
  | some codePromo =>
    have hids : (candidates.map Promotion.jsonRoundTrip).map Promotion.id =
        candidates.map Promotion.id := by
      rw [List.map_map]
      rfl
    unfold pushCandidate
    simp only [Option.map_some, hids, Promotion.jsonRoundTrip_id]
    split_ifs with hmem
    · rfl
    · rw [List.map_append]
      rfl

section Candidates

variable (toUpperCase : String → String) (table : PromotionTable) (promoCode : Option String)

/-- The candidates that are read from the table. -/
def storedCandidates : List Promotion :=
  (resolveCandidatePromotions toUpperCase table .empty promoCode).1

/-- The candidates of a second request, which finds what the first one stored. -/
def cachedCandidates : List Promotion :=
  let cache := (resolveCandidatePromotions toUpperCase table .empty promoCode).2
  (resolveCandidatePromotions toUpperCase table cache promoCode).1

lemma storedCandidates_eq :
    storedCandidates toUpperCase table promoCode =
      if promoCode.getD "" = "" then table.automatic
      else pushCandidate table.automatic
        (table.findByCode (toUpperCase (String.ofList (JsString.trim (promoCode.getD "").toList))))
    := by
  unfold storedCandidates resolveCandidatePromotions
  simp only [resolveAutomatic, PromotionCache.empty]
  split_ifs with hcode
  · rfl
  · simp only [resolveCode, PromotionCache.setActiveAutomaticPromotions]
    split <;> simp_all

lemma cachedCandidates_eq :
    cachedCandidates toUpperCase table promoCode =
      (storedCandidates toUpperCase table promoCode).map Promotion.jsonRoundTrip := by
  rw [storedCandidates_eq]
  unfold cachedCandidates resolveCandidatePromotions
  simp only [resolveAutomatic, PromotionCache.empty,
    PromotionCache.setActiveAutomaticPromotions]
  split_ifs with hcode
  · rfl
  · rw [← pushCandidate_jsonRoundTrip]
    cases hfind : table.findByCode
        (toUpperCase (String.ofList (JsString.trim (promoCode.getD "").toList))) with
    | none => simp [resolveCode, hfind]
    | some codePromo => simp [resolveCode, hfind, PromotionCache.setPromotionByCode]

lemma storedCandidates_active {promo : Promotion}
    (h : promo ∈ storedCandidates toUpperCase table promoCode) : promo.status = .active := by
  rw [storedCandidates_eq] at h
  split_ifs at h with hcode
  · exact table.automatic_active h
  · exact pushCandidate_active (fun _ => table.automatic_active)
      (fun _ => table.findByCode_active) promo h

lemma nodup_storedCandidates :
    ((storedCandidates toUpperCase table promoCode).map Promotion.id).Nodup := by
  rw [storedCandidates_eq]
  split_ifs with hcode
  · exact table.nodup_automatic
  · exact nodup_pushCandidate table.nodup_automatic

end Candidates

/-! ## The two evaluations -/

/-- The dates of the row allow `now`. -/
def Promotion.inDates (promo : Promotion) (now : Millis) : Bool :=
  !promo.notStarted now && !promo.ended now

/-- The candidates that meet every condition but that of the dates. -/
def meetConditions (promotions : List Promotion) (context : PromotionEvaluationContext)
    (now : Millis) : List (Promotion × Eligibility) :=
  promotions.filterMap fun promo =>
    (checkConditions promo context now).toOption.map fun eligibility => (promo, eligibility)

/-- The applied promotions and the amounts of a result, without the reasons against the other
promotions. -/
def PromotionCalculationResult.priced (result : PromotionCalculationResult) :
    PromotionCalculationResult :=
  { result with ineligiblePromotions := [] }

/-- The loop of `evaluate` over a list of eligible promotions. -/
def stack (context : PromotionEvaluationContext) (eligible : List (Promotion × Eligibility)) :
    StackingLoop :=
  let originalSubtotal := fixedTwo context.subtotal
  eligible.foldl (applyPromotion originalSubtotal (fixedTwo (context.shippingFee.getD 0)))
    (.start originalSubtotal)

/-- Each candidate that is outside its dates, and meets the other conditions, is passed over
when its turn among the candidates comes. -/
def OutOfDatesPassedOver (promotions : List Promotion) (context : PromotionEvaluationContext)
    (now : Millis) : Prop :=
  let originalSubtotal := fixedTwo context.subtotal
  Table.PassesOver (applyPromotion originalSubtotal (fixedTwo (context.shippingFee.getD 0)))
    (fun loop candidate => loop.Skips candidate.1 candidate.2)
    (fun candidate => candidate.1.inDates now) (.start originalSubtotal)
    (sortByPriority (meetConditions promotions context now))

section Evaluations

variable {promotions : List Promotion} (context : PromotionEvaluationContext) (now : Millis)

lemma checkEligibility_eq {promo : Promotion} (h : promo.status = .active) :
    (checkEligibility promo context now).toOption =
      if promo.inDates now then (checkConditions promo context now).toOption else none := by
  unfold checkEligibility Promotion.inDates
  rw [if_neg (not_not_intro h)]
  by_cases hstart : promo.notStarted now
  · simp [hstart, Except.toOption]
  · by_cases hend : promo.ended now <;> simp [hstart, hend, Except.toOption]

lemma eligiblePromotions_eq_filterMap :
    eligiblePromotions promotions context now = promotions.filterMap fun promo =>
      (checkEligibility promo context now).toOption.map fun eligibility => (promo, eligibility)
    := by
  unfold eligiblePromotions
  congr 1
  funext promo
  cases checkEligibility promo context now <;> rfl

/-- Rows of the table are tried within their dates. -/
lemma eligiblePromotions_stored (h : ∀ promo ∈ promotions, promo.status = .active) :
    eligiblePromotions promotions context now =
      (meetConditions promotions context now).filter fun candidate =>
        candidate.1.inDates now := by
  rw [eligiblePromotions_eq_filterMap, meetConditions, List.filter_filterMap]
  refine List.filterMap_congr fun promo hpromo => ?_
  rw [checkEligibility_eq context now (h promo hpromo)]
  by_cases hdates : promo.inDates now
  · rw [if_pos hdates]
    cases (checkConditions promo context now).toOption <;> simp [Option.filter, hdates]
  · rw [if_neg hdates]
    cases (checkConditions promo context now).toOption <;> simp [Option.filter, hdates]

/-- Rows of the cache are tried whatever their dates are. -/
lemma eligiblePromotions_cached (h : ∀ promo ∈ promotions, promo.status = .active) :
    eligiblePromotions (promotions.map Promotion.jsonRoundTrip) context now =
      (meetConditions promotions context now).map (Prod.map Promotion.jsonRoundTrip id) := by
  rw [eligiblePromotions_eq_filterMap, meetConditions, List.map_filterMap, List.filterMap_map]
  refine List.filterMap_congr fun promo hpromo => ?_
  have hactive : promo.jsonRoundTrip.status = .active := h promo hpromo
  have hdates : promo.jsonRoundTrip.inDates now := by simp [Promotion.inDates]
  simp only [Function.comp_apply, checkEligibility_eq context now hactive, if_pos hdates,
    Promotion.checkConditions_jsonRoundTrip, Option.map_map]
  rfl

lemma sortByPriority_filter (p : Promotion × Eligibility → Bool)
    (l : List (Promotion × Eligibility)) :
    sortByPriority (l.filter p) = (sortByPriority l).filter p := by
  unfold sortByPriority
  have htotal : Std.Total fun a b : Promotion × Eligibility => b.1.priority ≤ a.1.priority :=
    ⟨fun a b => Nat.le_total _ _⟩
  have htrans : IsTrans _ fun a b : Promotion × Eligibility => b.1.priority ≤ a.1.priority :=
    ⟨fun a b c hab hbc => Nat.le_trans hbc hab⟩
  exact (Table.filter_insertionSort _ p l).symm

lemma sortByPriority_jsonRoundTrip (l : List (Promotion × Eligibility)) :
    sortByPriority (l.map (Prod.map Promotion.jsonRoundTrip id)) =
      (sortByPriority l).map (Prod.map Promotion.jsonRoundTrip id) :=
  (List.map_insertionSort _ (fun a b : Promotion × Eligibility => b.1.priority ≤ a.1.priority)
    (Prod.map Promotion.jsonRoundTrip id) l fun _ _ _ _ => Iff.rfl).symm

lemma stack_jsonRoundTrip (l : List (Promotion × Eligibility)) :
    stack context (l.map (Prod.map Promotion.jsonRoundTrip id)) = stack context l := by
  unfold stack
  rw [List.foldl_map]
  congr 1
  funext loop candidate
  exact applyPromotion_jsonRoundTrip _ _ loop candidate.1 candidate.2

/-- Only promotions of the list are applied, in its order. -/
lemma applied_stack (l : List (Promotion × Eligibility)) :
    ((stack context l).appliedPromotions.map AppliedPromotionDetail.id).Sublist
      (l.map fun candidate => candidate.1.id) := by
  obtain ⟨ids, hsub, hids⟩ := applied_foldl_eq (fixedTwo context.subtotal)
    (fixedTwo (context.shippingFee.getD 0)) l (.start (fixedTwo context.subtotal))
  unfold stack
  rw [hids]
  exact hsub

/-- The amounts follow from the state in which the loop ends. -/
lemma priced_evaluate_congr {promotions' : List Promotion}
    (h : stack context (sortByPriority (eligiblePromotions promotions context now)) =
      stack context (sortByPriority (eligiblePromotions promotions' context now))) :
    (evaluate promotions context now).priced = (evaluate promotions' context now).priced := by
  unfold stack at h
  unfold evaluate PromotionCalculationResult.priced
  simp only [h]

lemma appliedPromotions_evaluate :
    (evaluate promotions context now).appliedPromotions =
      (stack context (sortByPriority (eligiblePromotions promotions context now))).appliedPromotions
    := rfl

end Evaluations

section Main

variable (toUpperCase : String → String) (table : PromotionTable) (promoCode : Option String)
  (context : PromotionEvaluationContext) (now : Millis)

lemma stack_stored :
    stack context (sortByPriority
        (eligiblePromotions (storedCandidates toUpperCase table promoCode) context now)) =
      stack context ((sortByPriority
        (meetConditions (storedCandidates toUpperCase table promoCode) context now)).filter
          fun candidate => candidate.1.inDates now) := by
  rw [eligiblePromotions_stored context now
    fun _ => storedCandidates_active toUpperCase table promoCode, sortByPriority_filter]

lemma stack_cached :
    stack context (sortByPriority
        (eligiblePromotions (cachedCandidates toUpperCase table promoCode) context now)) =
      stack context (sortByPriority
        (meetConditions (storedCandidates toUpperCase table promoCode) context now)) := by
  rw [cachedCandidates_eq, eligiblePromotions_cached context now
    fun _ => storedCandidates_active toUpperCase table promoCode,
    sortByPriority_jsonRoundTrip, stack_jsonRoundTrip]

variable {toUpperCase table promoCode context now}

lemma mem_of_mem_meetConditions {promotions : List Promotion} {x : Promotion × Eligibility}
    (h : x ∈ sortByPriority (meetConditions promotions context now)) : x.1 ∈ promotions := by
  obtain ⟨promo, hpromo, heq⟩ := List.mem_filterMap.mp ((List.mem_insertionSort _).mp h)
  obtain ⟨eligibility, -, rfl⟩ := Option.map_eq_some_iff.mp heq
  exact hpromo

/-- A promotion outside its dates is not applied to the rows of the table. -/
lemma not_applied_of_not_inDates {x : Promotion} (hx : x.inDates now = false)
    (hmem : x ∈ storedCandidates toUpperCase table promoCode) :
    x.id ∉ (evaluate (storedCandidates toUpperCase table promoCode) context
      now).appliedPromotions.map AppliedPromotionDetail.id := by
  intro hid
  rw [appliedPromotions_evaluate, stack_stored] at hid
  obtain ⟨candidate, hcandidate, heq⟩ := List.mem_map.mp ((applied_stack _ _).subset hid)
  obtain ⟨hcandidate, hdates⟩ := List.mem_filter.mp hcandidate
  have hsame : candidate.1 = x := List.inj_on_of_nodup_map
    (nodup_storedCandidates toUpperCase table promoCode)
    (mem_of_mem_meetConditions hcandidate) hmem heq
  rw [hsame, hx] at hdates
  exact Bool.false_ne_true hdates

variable (toUpperCase table promoCode context now)

/-- **A cache hit prices a cart as the table does exactly if the engine passes over each
candidate that is outside its dates.** -/
theorem cache_transparent_iff :
    (evaluate (cachedCandidates toUpperCase table promoCode) context now).priced =
        (evaluate (storedCandidates toUpperCase table promoCode) context now).priced ↔
      OutOfDatesPassedOver (storedCandidates toUpperCase table promoCode) context now := by
  have hskip := fun (loop : StackingLoop) (candidate : Promotion × Eligibility)
    (h : loop.Skips candidate.1 candidate.2) =>
      applyPromotion_of_skips (fixedTwo context.subtotal)
        (fixedTwo (context.shippingFee.getD 0)) h
  constructor
  · intro h
    by_contra hnot
    obtain ⟨pre, x, post, hsplit, hx, happlied⟩ := Table.exists_of_not_passesOver hskip hnot
    have hmem : x.1 ∈ storedCandidates toUpperCase table promoCode :=
      mem_of_mem_meetConditions (hsplit ▸ List.mem_append_right _ List.mem_cons_self)
    have happly : x.1.id ∈ (evaluate (cachedCandidates toUpperCase table promoCode) context
        now).appliedPromotions.map AppliedPromotionDetail.id := by
      rw [appliedPromotions_evaluate, stack_cached, hsplit, stack, List.foldl_append,
        List.foldl_cons]
      obtain ⟨ids, -, hids⟩ := applied_foldl_eq (fixedTwo context.subtotal)
        (fixedTwo (context.shippingFee.getD 0)) post (applyPromotion _ _ _ x)
      rw [hids, applied_applyPromotion, if_neg happlied]
      exact List.mem_append_left _ (List.mem_append_right _ (List.mem_singleton_self _))
    have hsame := congrArg PromotionCalculationResult.appliedPromotions h
    change (evaluate (cachedCandidates toUpperCase table promoCode) context
      now).appliedPromotions = (evaluate _ context now).appliedPromotions at hsame
    rw [hsame] at happly
    exact not_applied_of_not_inDates hx hmem happly
  · intro h
    refine priced_evaluate_congr context now ?_
    rw [stack_cached, stack_stored]
    exact Table.foldl_eq_of_passesOver hskip h

/-- A cache hit prices a cart as the table does if every candidate is within its dates. -/
theorem cache_transparent_of_inDates
    (h : ∀ promo ∈ storedCandidates toUpperCase table promoCode, promo.inDates now) :
    (evaluate (cachedCandidates toUpperCase table promoCode) context now).priced =
      (evaluate (storedCandidates toUpperCase table promoCode) context now).priced := by
  refine (cache_transparent_iff toUpperCase table promoCode context now).mpr ?_
  exact Table.passesOver_of_forall fun x hx => h x.1 (mem_of_mem_meetConditions hx)

end Main

/-! ## A sale that has not started -/

/-- Ten per cent off everything, from a later time on. -/
def futureSale : Promotion where
  id := 1
  name := "Sale"
  slug := "sale"
  description := none
  code := none
  type := .percentage
  status := .active
  priority := 0
  isStackable := false
  stackingRule := .exclusive
  isAutomatic := true
  customerSegment := .all
  firstOrderOnly := false
  discountValue := some (.decimal 10)
  maxDiscountAmount := none
  minOrderSubtotal := none
  minQuantity := none
  buyXQuantity := none
  getYQuantity := none
  getYDiscountPercentage := none
  startsAt := some (.date 100)
  endsAt := none
  timeOfDayStart := none
  timeOfDayEnd := none
  daysOfWeek := []
  totalUsageLimit := none
  userUsageLimit := none
  currentUsageCount := 0
  targetProductIds := []
  targetCategoryIds := []
  targetBrandIds := []
  excludedProductIds := []
  excludedCategoryIds := []

def futureSaleTable : PromotionTable := .single futureSale (by decide +kernel)

/-- One product at 1000. -/
def smallCart : PromotionEvaluationContext where
  userId := some 1
  customerSegment := some .firstTimeBuyer
  orderCount := some 0
  subtotal := 1000
  shippingFee := some 0
  items := [⟨1, some 1, none, none, "Lamp", 1000, 1, 1000⟩]

/-- A second request before the start of the sale gets the discount. -/
theorem futureSale_applied_from_cache :
    ¬∀ (toUpperCase : String → String) (table : PromotionTable) (promoCode : Option String)
        (context : PromotionEvaluationContext) (now : Millis),
      (evaluate (cachedCandidates toUpperCase table promoCode) context now).priced =
        (evaluate (storedCandidates toUpperCase table promoCode) context now).priced := by
  intro h
  have hcase := h id futureSaleTable none smallCart 20
  have hcached : (evaluate (cachedCandidates id futureSaleTable none) smallCart
      20).priced.discountSubtotal = 100 := by decide +kernel
  have hstored : (evaluate (storedCandidates id futureSaleTable none) smallCart
      20).priced.discountSubtotal = 0 := by decide +kernel
  rw [hcase, hstored] at hcached
  norm_num at hcached

end MeeoServer
