/-
# Valid coupons and promotions

A creation is checked as a whole.  An update is checked by itself: what it says of one of two
fields that belong together is not compared with what the row has in the other one.
-/
import MeeoServer.Coupons.Administration
import MeeoServer.Promotions.Administration
import MeeoServer.Storefront.Attribution

namespace MeeoServer.Coupons

open Storefront hiding validateAndCalculateDiscount

/-! ## Valid rows -/

/-- The value of a coupon that is a percentage is at most 100. -/
def PercentFits (type : CouponType) (value : ℚ) : Prop := type = .percentage → value ≤ 100

/-- The start of a window is not after its end. -/
def InOrder (startsAt expiresAt : Option Millis) : Prop :=
  ∀ s ∈ startsAt, ∀ e ∈ expiresAt, s ≤ e

/-- The coupon's percentage and its window are valid; no amount is negative. -/
structure ValidCoupon (coupon : Coupon) : Prop where
  percentage : PercentFits coupon.type coupon.value
  window : InOrder coupon.startsAt coupon.expiresAt
  value_nonneg : 0 ≤ coupon.value
  maximum_nonneg : ∀ m ∈ coupon.maximumDiscountAmount, 0 ≤ m

/-- The discount of a promotion that is a percentage is at most 100. -/
def PromotionPercentFits (type : PromotionType) (discountValue : Option JsDecimal) : Prop :=
  type.isPercentage → ∀ x ∈ discountValue, x.toNumber ≤ 100

def dateTime : JsDate → Millis
  | .date time => time
  | .text time => time

/-- The start of a window is not after its end. -/
def DatesInOrder (startsAt endsAt : Option JsDate) : Prop :=
  ∀ s ∈ startsAt, ∀ e ∈ endsAt, dateTime s ≤ dateTime e

/-- A `BUY_X_GET_Y` has the quantity. -/
def QuantityFits (type : PromotionType) (quantity : Option ℕ+) : Prop :=
  type = .buyXGetY → quantity.isSome

structure ValidPromotion (promo : StoredPromotion) : Prop where
  percentage : PromotionPercentFits promo.type promo.discountValue
  window : DatesInOrder promo.startsAt promo.endsAt
  buyXQuantity : QuantityFits promo.type promo.buyXQuantity
  getYQuantity : QuantityFits promo.type promo.getYQuantity

instance (type : CouponType) (value : ℚ) : Decidable (PercentFits type value) := by
  unfold PercentFits
  infer_instance

instance (startsAt expiresAt : Option Millis) : Decidable (InOrder startsAt expiresAt) := by
  unfold InOrder
  infer_instance

instance (type : PromotionType) (discountValue : Option JsDecimal) :
    Decidable (PromotionPercentFits type discountValue) := by
  unfold PromotionPercentFits
  infer_instance

instance (startsAt endsAt : Option JsDate) : Decidable (DatesInOrder startsAt endsAt) := by
  unfold DatesInOrder
  infer_instance

instance (type : PromotionType) (quantity : Option ℕ+) :
    Decidable (QuantityFits type quantity) := by
  unfold QuantityFits
  infer_instance

/-! ## Patches -/

/-- The patch fits to the coupon.  The schema has compared a type with a value, if the patch has
both. -/
def CouponPatchFits (data : Patch CouponField.Column) (coupon : Coupon) : Prop :=
  (∀ type ∈ data .type, data .value = none → PercentFits type coupon.value) ∧
    (∀ value ∈ data .value, data .type = none → PercentFits coupon.type value) ∧
      data.Respects InOrder (get coupon) (a := .startsAt) (b := .expiresAt)

/-- The patch fits to the promotion. -/
def PromotionPatchFits (data : Patch PromotionField.Column) (promo : StoredPromotion) : Prop :=
  data.Respects PromotionPercentFits promo.get (a := .type) (b := .discountValue) ∧
    data.Respects DatesInOrder promo.get (a := .startsAt) (b := .endsAt) ∧
      data.Respects QuantityFits promo.get (a := .type) (b := .buyXQuantity) ∧
        data.Respects QuantityFits promo.get (a := .type) (b := .getYQuantity)

instance (data : Patch CouponField.Column) (coupon : Coupon) :
    Decidable (CouponPatchFits data coupon) := by
  unfold CouponPatchFits
  infer_instance

instance (data : Patch PromotionField.Column) (promo : StoredPromotion) :
    Decidable (PromotionPatchFits data promo) := by
  unfold PromotionPatchFits
  infer_instance

/-! ## Coupons -/

section Coupons

variable {zod : Zod} {body : List (String × JsonValue)} {input : Input} {coupon : Coupon}
  {data : Patch CouponField.Column}

/-- No amount of the input is negative. -/
def NonNegative (input : Input) : Prop :=
  (∀ value ∈ input .value, 0 ≤ value) ∧
    ∀ maximum ∈ input .maximumDiscountAmount, ∀ m ∈ maximum, 0 ≤ m

lemma nonNegative_of_parse {schema : ObjectSchema JsonValue CouponField.Value}
    (hread : schema.read = readField zod) (hvalue : schema.default .value = none)
    (hmaximum : schema.default .maximumDiscountAmount = none)
    {object : CouponField → Option JsonValue} (h : schema.parse object = some input) :
    NonNegative input := by
  refine ⟨fun value hv => ?_, fun maximum hm m hmem => ?_⟩
  · rcases ObjectSchema.parse_value h hv with ⟨json, hjson⟩ | hdefault
    · rw [hread] at hjson
      exact Zod.nonNegative_nonneg hjson
    · rw [hvalue] at hdefault
      cases hdefault
  · rcases ObjectSchema.parse_value h hm with ⟨json, hjson⟩ | hdefault
    · rw [hread, hmem] at hjson
      exact Zod.nonNegative_nonneg (Zod.of_nullable hjson)
    · rw [hmaximum] at hdefault
      cases hdefault

lemma createCouponSchema_eq_some (h : createCouponSchema zod body = some input) :
    NonNegative input ∧ ¬percentageOutOfRange input ∧ ¬datesOutOfOrder zod input := by
  obtain ⟨hparse, hrefined⟩ := Option.filter_eq_some_iff.mp h
  exact ⟨nonNegative_of_parse rfl rfl rfl hparse, of_decide_eq_true hrefined⟩

lemma updateCouponSchema_eq_some (h : updateCouponSchema zod body = some input) :
    NonNegative input ∧ ¬percentageOutOfRange input := by
  obtain ⟨hparse, hrefined⟩ := Option.filter_eq_some_iff.mp h
  exact ⟨nonNegative_of_parse rfl rfl rfl hparse, of_decide_eq_true hrefined⟩

/-- A value of at most 100 is stored as one. -/
lemma fixedTwo_le_hundred {x : ℚ} (hx : 0 ≤ x) (h : x ≤ 100) : fixedTwo x ≤ 100 :=
  fixedTwo_le hx (Grid.mem_grid.mpr ⟨10000, by norm_num⟩) h

/-- A percentage that has passed the schema fits, as it is stored. -/
lemma percentFits_of_schema (hinput : NonNegative input) (h : ¬percentageOutOfRange input)
    {type : CouponType} {value stored : ℚ} (htype : input .type = some type)
    (hvalue : input .value = some value) (hstored : decimalColumn 12 value = some stored) :
    PercentFits type stored := by
  rintro rfl
  rw [decimalColumn_eq_some hstored]
  refine fixedTwo_le_hundred (hinput.1 value hvalue) (not_lt.mp fun hlt => h ⟨htype, value, hvalue,
    .inr hlt⟩)

/-- An amount that is not negative is stored as one. -/
lemma stored_nonneg {val stored : Option ℚ} (h : ∀ x ∈ val, 0 ≤ x)
    (hcolumn : nullableColumn (decimalColumn 12) val = some stored) : ∀ m ∈ stored, 0 ≤ m := by
  rintro m rfl
  obtain ⟨x, rfl, hx⟩ := exists_of_nullableColumn hcolumn
  rw [decimalColumn_eq_some hx]
  exact fixedTwo_nonneg (h x rfl)

lemma maximum_nonneg (hinput : NonNegative input)
    (hstore : input.store (CouponField.column zod) = some data) :
    ∀ maximum ∈ data .maximumDiscountAmount, ∀ m ∈ maximum, 0 ≤ m := by
  intro maximum hmaximum
  obtain ⟨val, hval, hcolumn⟩ := Patch.exists_of_store hstore hmaximum
  exact stored_nonneg (hinput.2 val hval) hcolumn

lemma value_nonneg (hinput : NonNegative input)
    (hstore : input.store (CouponField.column zod) = some data) :
    ∀ value ∈ data .value, 0 ≤ value := by
  intro value hvalue
  obtain ⟨x, hx, hcolumn⟩ := Patch.exists_of_store hstore hvalue
  rw [decimalColumn_eq_some hcolumn]
  exact fixedTwo_nonneg (hinput.1 x hx)

/-- A creation that has passed the schema makes a valid coupon. -/
lemma validCoupon_of_complete (hinput : NonNegative input) (hpercent : ¬percentageOutOfRange input)
    (hdates : ¬datesOutOfOrder zod input)
    (hstore : input.store (CouponField.column zod) = some data)
    (hrow : data.complete fallback = some (get coupon)) : ValidCoupon coupon := by
  obtain ⟨type, htype, hcolumn⟩ := Patch.complete_required hstore hrow (f := .type) rfl
  obtain rfl : type = coupon.type := Option.some.inj hcolumn
  obtain ⟨value, hvalue, hstored⟩ := Patch.complete_required hstore hrow (f := .value) rfl
  have hstart : dateColumn zod.newDate ((input .startsAt).getD none) = coupon.startsAt :=
    Option.some.inj (Patch.complete_getD hstore hrow (f := .startsAt) rfl)
  have hend : dateColumn zod.newDate ((input .expiresAt).getD none) = coupon.expiresAt :=
    Option.some.inj (Patch.complete_getD hstore hrow (f := .expiresAt) rfl)
  have hmaximum : ∀ m ∈ (input .maximumDiscountAmount).getD none, 0 ≤ m := by
    cases hval : input .maximumDiscountAmount with
    | none => exact fun m hm => by cases hm
    | some maximum => exact hinput.2 maximum hval
  refine ⟨percentFits_of_schema hinput hpercent htype hvalue hstored, fun s hs e he => ?_, ?_,
    stored_nonneg hmaximum (Patch.complete_getD hstore hrow (f := .maximumDiscountAmount) rfl)⟩
  · rw [← hstart] at hs
    rw [← hend] at he
    exact (not_le.mp fun hle => hdates ⟨s, hs, e, he, hle⟩).le
  · have hvalue_eq : coupon.value = fixedTwo value := decimalColumn_eq_some hstored
    rw [hvalue_eq]
    exact fixedTwo_nonneg (hinput.1 value hvalue)

/-- What an update does to a valid coupon. -/
lemma validCoupon_assign_iff (hinput : NonNegative input) (hpercent : ¬percentageOutOfRange input)
    (hstore : input.store (CouponField.column zod) = some data) (hcoupon : ValidCoupon coupon) :
    ValidCoupon (assign data coupon) ↔ CouponPatchFits data coupon := by
  -- the schema has checked the pair where the update names both
  have hboth : ∀ type ∈ data .type, ∀ value ∈ data .value, PercentFits type value := by
    intro type htype value hvalue
    obtain ⟨t, ht, hcolumn⟩ := Patch.exists_of_store hstore htype
    obtain ⟨v, hv, hstored⟩ := Patch.exists_of_store hstore hvalue
    obtain rfl : t = type := Option.some.inj hcolumn
    exact percentFits_of_schema hinput hpercent ht hv hstored
  have hpair : PercentFits (assign data coupon).type (assign data coupon).value ↔
      data.Respects PercentFits (get coupon) (a := .type) (b := .value) :=
    Patch.overlay_pair_iff hcoupon.percentage
  have hpercentage : PercentFits (assign data coupon).type (assign data coupon).value ↔
      (∀ type ∈ data .type, data .value = none → PercentFits type coupon.value) ∧
        ∀ value ∈ data .value, data .type = none → PercentFits coupon.type value :=
    hpair.trans ⟨fun h => ⟨h.1, h.2.1⟩, fun h => ⟨h.1, h.2, hboth⟩⟩
  have hwindow : InOrder (assign data coupon).startsAt (assign data coupon).expiresAt ↔
      data.Respects InOrder (get coupon) (a := .startsAt) (b := .expiresAt) :=
    Patch.overlay_pair_iff hcoupon.window
  have hvalue : 0 ≤ (assign data coupon).value := by
    show 0 ≤ (data .value).getD coupon.value
    cases hvalue : data .value with
    | none => exact hcoupon.value_nonneg
    | some value => exact value_nonneg hinput hstore value hvalue
  have hmaximum : ∀ m ∈ (assign data coupon).maximumDiscountAmount, 0 ≤ m := by
    show ∀ m ∈ (data .maximumDiscountAmount).getD coupon.maximumDiscountAmount, 0 ≤ m
    cases hmaximum : data .maximumDiscountAmount with
    | none => exact hcoupon.maximum_nonneg
    | some maximum => exact maximum_nonneg hinput hstore maximum hmaximum
  constructor
  · intro h
    exact ⟨(hpercentage.mp h.percentage).1, (hpercentage.mp h.percentage).2, hwindow.mp h.window⟩
  · intro h
    exact ⟨hpercentage.mpr ⟨h.1, h.2.1⟩, hwindow.mpr h.2.2, hvalue, hmaximum⟩

end Coupons

/-! ## Promotions -/

section Promotions

variable {zod : Zod} {input : PromotionService.Input} {promo : StoredPromotion}
  {data : Patch PromotionField.Column}

/-- A quantity of the input is stored. -/
lemma quantity_isSome {quantity stored : Option ℕ+} (h : quantity ≠ none)
    (hcolumn : nullableColumn (fun n : ℕ+ => (intColumn n).map fun _ => n) quantity =
      some stored) : stored.isSome := by
  obtain ⟨n, rfl⟩ := Option.ne_none_iff_exists'.mp h
  obtain ⟨m, -, hm⟩ := Option.map_eq_some_iff.mp hcolumn
  rw [← hm]
  rfl

/-- A creation that has passed the schema makes a valid promotion. -/
lemma validPromotion_of_complete (hdates : ¬PromotionController.datesOutOfOrder zod input)
    (hpercent : ¬PromotionController.percentageOutOfRange input)
    (hquantity : ¬PromotionController.quantityMissing input)
    (hstore : input.store (PromotionField.column zod.newDate) = some data)
    (hrow : data.complete PromotionService.fallback = some promo.get) : ValidPromotion promo := by
  obtain ⟨type, htype, hcolumn⟩ := Patch.complete_required hstore hrow (f := .type) rfl
  obtain rfl : type = promo.type := Option.some.inj hcolumn
  have hstart : (dateColumn zod.newDate ((input .startsAt).getD none)).map .date =
      promo.startsAt := Option.some.inj (Patch.complete_getD hstore hrow (f := .startsAt) rfl)
  have hend : (dateColumn zod.newDate ((input .endsAt).getD none)).map .date = promo.endsAt :=
    Option.some.inj (Patch.complete_getD hstore hrow (f := .endsAt) rfl)
  refine ⟨fun hpercentage x hx => ?_, fun s hs e he => ?_, fun hbuy => ?_, fun hbuy => ?_⟩
  · have hsome : nullableColumn (fun v => (decimalColumn 12 v).map JsDecimal.decimal)
        ((input .discountValue).getD none) = some (some x) := by
      rw [← Option.mem_def.mp hx]
      exact Patch.complete_getD hstore hrow (f := .discountValue) rfl
    obtain ⟨v, hval, hv⟩ := exists_of_nullableColumn hsome
    obtain ⟨d, hd, rfl⟩ := Option.map_eq_some_iff.mp hv
    -- the refinement of the schema compares the value before it is rounded for the column
    have hrange : 0 < v ∧ v ≤ 100 := by
      by_contra hout
      refine hpercent ⟨promo.type, htype, hpercentage, v, hval, ?_⟩
      by_cases hpos : 0 < v
      · exact .inr (not_le.mp fun hle => hout ⟨hpos, hle⟩)
      · exact .inl (not_lt.mp hpos)
    show d ≤ 100
    rw [decimalColumn_eq_some hd]
    exact fixedTwo_le_hundred hrange.1.le hrange.2
  · rw [← hstart] at hs
    rw [← hend] at he
    obtain ⟨s', hs', rfl⟩ := Option.map_eq_some_iff.mp hs
    obtain ⟨e', he', rfl⟩ := Option.map_eq_some_iff.mp he
    exact not_lt.mp fun hlt => hdates ⟨s', hs', e', he', hlt⟩
  · have hnamed : (input .buyXQuantity).getD none ≠ none := fun hnone =>
      hquantity ⟨htype.trans (congrArg some hbuy), .inl hnone⟩
    exact quantity_isSome hnamed (Patch.complete_getD hstore hrow (f := .buyXQuantity) rfl)
  · have hnamed : (input .getYQuantity).getD none ≠ none := fun hnone =>
      hquantity ⟨htype.trans (congrArg some hbuy), .inr hnone⟩
    exact quantity_isSome hnamed (Patch.complete_getD hstore hrow (f := .getYQuantity) rfl)

/-- What an update does to a valid promotion. -/
lemma validPromotion_assign_iff (hpromo : ValidPromotion promo) :
    ValidPromotion (promo.assign data) ↔ PromotionPatchFits data promo := by
  have hpercentage : PromotionPercentFits (promo.assign data).type
      (promo.assign data).discountValue ↔
      data.Respects PromotionPercentFits promo.get (a := .type) (b := .discountValue) :=
    Patch.overlay_pair_iff hpromo.percentage
  have hwindow : DatesInOrder (promo.assign data).startsAt (promo.assign data).endsAt ↔
      data.Respects DatesInOrder promo.get (a := .startsAt) (b := .endsAt) :=
    Patch.overlay_pair_iff hpromo.window
  have hbuy : QuantityFits (promo.assign data).type (promo.assign data).buyXQuantity ↔
      data.Respects QuantityFits promo.get (a := .type) (b := .buyXQuantity) :=
    Patch.overlay_pair_iff hpromo.buyXQuantity
  have hget : QuantityFits (promo.assign data).type (promo.assign data).getYQuantity ↔
      data.Respects QuantityFits promo.get (a := .type) (b := .getYQuantity) :=
    Patch.overlay_pair_iff hpromo.getYQuantity
  constructor
  · intro h
    exact ⟨hpercentage.mp h.percentage, hwindow.mp h.window, hbuy.mp h.buyXQuantity,
      hget.mp h.getYQuantity⟩
  · intro h
    exact ⟨hpercentage.mpr h.1, hwindow.mpr h.2.1, hbuy.mpr h.2.2.1, hget.mpr h.2.2.2⟩

end Promotions

/-! ## Requests -/

structure Configuration where
  coupons : List Coupon
  promotions : List StoredPromotion

inductive Request where
  | createCoupon (id : CouponId) (body : List (String × JsonValue))
  | updateCoupon (id : CouponId) (body : List (String × JsonValue))
  | createPromotion (id : PromotionId) (body : List (String × JsonValue))
  | updatePromotion (id : PromotionId) (body : List (String × JsonValue))

/-- The coupons after a call; one that fails has changed nothing. -/
def Configuration.withCoupons (s : Configuration) :
    Except AppError (Coupon × List Coupon) → Configuration
  | .ok (_, coupons) => { s with coupons := coupons }
  | .error _ => s

def Configuration.withPromotions (s : Configuration) :
    Except AppError (StoredPromotion × List StoredPromotion) → Configuration
  | .ok (_, promotions) => { s with promotions := promotions }
  | .error _ => s

section Runs

variable (zod : Zod)

/-- Serve a request. -/
def serve (s : Configuration) : Request → Configuration
  | .createCoupon id body => s.withCoupons (CouponController.createCoupon zod s.coupons id body)
  | .updateCoupon id body => s.withCoupons (CouponController.updateCoupon zod s.coupons id body)
  | .createPromotion id body =>
    s.withPromotions (PromotionController.createPromotion zod s.promotions id body)
  | .updatePromotion id body =>
    s.withPromotions (PromotionController.updatePromotion zod s.promotions id body)

/-- What an update writes to the columns of a coupon. -/
def couponPatch (body : List (String × JsonValue)) : Option (Patch CouponField.Column) :=
  (updateCouponSchema zod body).bind fun input => input.store (CouponField.column zod)

/-- What an update writes to the columns of a promotion. -/
def promotionPatch (body : List (String × JsonValue)) : Option (Patch PromotionField.Column) :=
  (PromotionController.updatePromotionSchema zod body).bind fun input =>
    input.store (PromotionField.column zod.newDate)

/-- If the request is an update that succeeds, what it says fits to what the row has. -/
def Request.Safe (s : Configuration) : Request → Prop
  | .updateCoupon id body =>
    (CouponController.updateCoupon zod s.coupons id body).toOption.isSome →
      ∀ data ∈ couponPatch zod body, ∀ coupon ∈ s.coupons, coupon.id = id →
        CouponPatchFits data coupon
  | .updatePromotion id body =>
    (PromotionController.updatePromotion zod s.promotions id body).toOption.isSome →
      ∀ data ∈ promotionPatch zod body, ∀ promo ∈ s.promotions, promo.id = id →
        PromotionPatchFits data promo
  | .createCoupon _ _ | .createPromotion _ _ => True

/-- Serve requests one after another. -/
def run (s : Configuration) (requests : List Request) : Configuration :=
  requests.foldl (serve zod) s

/-- Each request is safe when its turn comes. -/
def AllSafe : Configuration → List Request → Prop
  | _, [] => True
  | s, r :: requests => r.Safe zod s ∧ AllSafe (serve zod s r) requests

/-- All coupons and all promotions are valid. -/
structure Configuration.Valid (s : Configuration) : Prop where
  coupons : ∀ coupon ∈ s.coupons, ValidCoupon coupon
  promotions : ∀ promo ∈ s.promotions, ValidPromotion promo

variable {zod} {s : Configuration}

lemma valid_createCoupon (hs : s.Valid) (id : CouponId) (body : List (String × JsonValue)) :
    (serve zod s (.createCoupon id body)).Valid := by
  show (s.withCoupons (CouponController.createCoupon zod s.coupons id body)).Valid
  cases hok : CouponController.createCoupon zod s.coupons id body with
  | error e => exact hs
  | ok r =>
    obtain ⟨input, hinput, hservice⟩ := CouponController.createCoupon_eq_ok hok
    obtain ⟨data, hstore, hrow, hcoupons⟩ := CouponService.createCoupon_eq_ok hservice
    obtain ⟨hnonneg, hpercent, hdates⟩ := createCouponSchema_eq_some hinput
    refine ⟨fun coupon hcoupon => ?_, hs.promotions⟩
    have hmem : coupon ∈ s.coupons ++ [r.1] := hcoupons ▸ hcoupon
    rcases List.mem_append.mp hmem with hold | hnew
    · exact hs.coupons coupon hold
    · rw [List.mem_singleton.mp hnew]
      exact validCoupon_of_complete hnonneg hpercent hdates hstore hrow

lemma valid_createPromotion (hs : s.Valid) (id : PromotionId) (body : List (String × JsonValue)) :
    (serve zod s (.createPromotion id body)).Valid := by
  show (s.withPromotions (PromotionController.createPromotion zod s.promotions id body)).Valid
  cases hok : PromotionController.createPromotion zod s.promotions id body with
  | error e => exact hs
  | ok r =>
    obtain ⟨input, hinput, hservice⟩ := PromotionController.createPromotion_eq_ok hok
    obtain ⟨data, hstore, hrow, hpromotions⟩ := PromotionService.createPromotion_eq_ok hservice
    obtain ⟨hdates, hpercent, hquantity⟩ :=
      of_decide_eq_true (Option.filter_eq_some_iff.mp hinput).2
    refine ⟨hs.coupons, fun promo hpromo => ?_⟩
    have hmem : promo ∈ s.promotions ++ [r.1] := hpromotions ▸ hpromo
    rcases List.mem_append.mp hmem with hold | hnew
    · exact hs.promotions promo hold
    · rw [List.mem_singleton.mp hnew]
      exact validPromotion_of_complete hdates hpercent hquantity hstore hrow

lemma valid_updateCoupon_iff (hs : s.Valid) (id : CouponId) (body : List (String × JsonValue)) :
    (serve zod s (.updateCoupon id body)).Valid ↔ (Request.updateCoupon id body).Safe zod s := by
  show (s.withCoupons (CouponController.updateCoupon zod s.coupons id body)).Valid ↔
    ((CouponController.updateCoupon zod s.coupons id body).toOption.isSome → _)
  cases hok : CouponController.updateCoupon zod s.coupons id body with
  | error e => exact iff_of_true hs fun h => by cases h
  | ok r =>
    obtain ⟨input, hinput, hservice⟩ := CouponController.updateCoupon_eq_ok hok
    obtain ⟨data, hstore, hcoupons⟩ := CouponService.updateCoupon_eq_ok hservice
    obtain ⟨hnonneg, hpercent⟩ := updateCouponSchema_eq_some hinput
    have hpatch : couponPatch zod body = some data := by
      rw [couponPatch, hinput, Option.bind_some, hstore]
    have hvalid : (∀ coupon ∈ r.2, ValidCoupon coupon) ↔
        ∀ coupon ∈ s.coupons, coupon.id = id → CouponPatchFits data coupon := by
      rw [hcoupons, Table.forall_mem_updateWhere_iff hs.coupons]
      refine forall₂_congr fun coupon hcoupon => ?_
      rw [decide_eq_true_iff,
        validCoupon_assign_iff hnonneg hpercent hstore (hs.coupons coupon hcoupon)]
    constructor
    · intro h _ data' hdata'
      obtain rfl : data = data' := Option.some.inj (hpatch.symm.trans hdata')
      exact hvalid.mp h.coupons
    · intro h
      exact ⟨hvalid.mpr (h rfl data hpatch), hs.promotions⟩

lemma valid_updatePromotion_iff (hs : s.Valid) (id : PromotionId)
    (body : List (String × JsonValue)) :
    (serve zod s (.updatePromotion id body)).Valid ↔
      (Request.updatePromotion id body).Safe zod s := by
  show (s.withPromotions (PromotionController.updatePromotion zod s.promotions id body)).Valid ↔
    ((PromotionController.updatePromotion zod s.promotions id body).toOption.isSome → _)
  cases hok : PromotionController.updatePromotion zod s.promotions id body with
  | error e => exact iff_of_true hs fun h => by cases h
  | ok r =>
    obtain ⟨input, hinput, hservice⟩ := PromotionController.updatePromotion_eq_ok hok
    obtain ⟨row, data, -, hstore, -, hpromotions⟩ :=
      PromotionService.updatePromotion_eq_ok hservice
    have hpatch : promotionPatch zod body = some data := by
      rw [promotionPatch, hinput, Option.bind_some, hstore]
    have hvalid : (∀ promo ∈ r.2, ValidPromotion promo) ↔
        ∀ promo ∈ s.promotions, promo.id = id → PromotionPatchFits data promo := by
      rw [hpromotions, Table.forall_mem_updateWhere_iff hs.promotions]
      refine forall₂_congr fun promo hpromo => ?_
      rw [decide_eq_true_iff, validPromotion_assign_iff (hs.promotions promo hpromo)]
    constructor
    · intro h _ data' hdata'
      obtain rfl : data = data' := Option.some.inj (hpatch.symm.trans hdata')
      exact hvalid.mp h.promotions
    · intro h
      exact ⟨hs.coupons, hvalid.mpr (h rfl data hpatch)⟩

/-- **One request keeps the configuration valid** exactly if it is safe. -/
lemma valid_serve_iff (hs : s.Valid) (r : Request) : (serve zod s r).Valid ↔ r.Safe zod s := by
  cases r with
  | createCoupon id body => exact iff_of_true (valid_createCoupon hs id body) trivial
  | updateCoupon id body => exact valid_updateCoupon_iff hs id body
  | createPromotion id body => exact iff_of_true (valid_createPromotion hs id body) trivial
  | updatePromotion id body => exact valid_updatePromotion_iff hs id body

lemma valid_run (hs : s.Valid) {requests : List Request} (h : AllSafe zod s requests) :
    (run zod s requests).Valid := by
  induction requests generalizing s with
  | nil => exact hs
  | cons r requests ih => exact ih ((valid_serve_iff hs r).mpr h.1) h.2

/-! ## The discount at checkout -/

/-- A valid coupon takes at most the subtotal off. -/
lemma couponDiscount_within {coupon : Coupon} {subtotal : ℚ} (hcoupon : ValidCoupon coupon)
    (hsubtotal : 0 ≤ subtotal) : 0 ≤ couponDiscount coupon subtotal ∧
      couponDiscount coupon subtotal ≤ subtotal := by
  unfold couponDiscount
  cases htype : coupon.type with
  | percentage =>
    have hvalue := hcoupon.percentage htype
    have hnonneg : 0 ≤ subtotal * coupon.value / 100 :=
      div_nonneg (mul_nonneg hsubtotal hcoupon.value_nonneg) (by norm_num)
    have hle : subtotal * coupon.value / 100 ≤ subtotal := by
      rw [div_le_iff₀ (by norm_num)]
      exact mul_le_mul_of_nonneg_left hvalue hsubtotal
    show 0 ≤ minOr _ coupon.maximumDiscountAmount ∧ minOr _ coupon.maximumDiscountAmount ≤ _
    cases hmaximum : coupon.maximumDiscountAmount with
    | none => exact ⟨hnonneg, hle⟩
    | some m =>
      exact ⟨le_min hnonneg (hcoupon.maximum_nonneg m hmaximum), (min_le_left _ _).trans hle⟩
  | fixedAmount => exact ⟨le_min hcoupon.value_nonneg hsubtotal, min_le_right _ _⟩
  | freeShipping => exact ⟨le_rfl, hsubtotal⟩

/-- In every checkout with these coupons, the coupon's discount is between 0 and the subtotal. -/
def DiscountsWithin (coupons : List Coupon) : Prop :=
  ∀ (toUpperCase : String → String) (tables tables' : Tables) (userId : UserId)
    (input : CheckoutInput) (now : Millis) (priced : PricedCheckout), tables.coupons = coupons →
    priceCheckout toUpperCase tables userId input now = .ok (priced, tables') →
    0 ≤ priced.coupon.discountAmount ∧ priced.coupon.discountAmount ≤ priced.cart.subtotal

lemma discountsWithin (hs : s.Valid) : DiscountsWithin s.coupons := by
  intro toUpperCase tables tables' userId input now priced hcoupons h
  obtain ⟨hcart, -⟩ := priceCheckout_eq_ok h
  obtain ⟨hmem, hnonneg⟩ := validateCartAndItems_subtotal hcart
  rcases validateAndCalculateDiscount_eq_ok (priceCheckout_discounts h).1 with
    hresult | ⟨coupon, hcoupon, hresult⟩
  · rw [hresult]
    exact ⟨le_rfl, hnonneg⟩
  · obtain ⟨hdiscount, hle⟩ :=
      couponDiscount_within (hs.coupons coupon (hcoupons ▸ hcoupon)) hnonneg
    rw [hresult]
    exact ⟨fixedTwo_nonneg hdiscount, fixedTwo_le hdiscount hmem hle⟩

/-- **The configuration stays valid** in every run of safe requests, and so does the discount of
every checkout. -/
theorem configuration_valid (hs : s.Valid) {requests : List Request}
    (h : AllSafe zod s requests) :
    (run zod s requests).Valid ∧ DiscountsWithin (run zod s requests).coupons :=
  ⟨valid_run hs h, discountsWithin (valid_run hs h)⟩

end Runs

/-- A coupon for ten per cent, which becomes one for twenty. -/
def raised : List Request :=
  [.createCoupon 1 [("code", .string "SAVE"), ("type", .string "PERCENTAGE"),
      ("value", .number 10)],
    .updateCoupon 1 [("value", .number 20)]]

theorem configuration_valid_raised : Configuration.Valid ⟨[], []⟩ ∧
    AllSafe PromotionController.plainZod ⟨[], []⟩ raised ∧
      (run PromotionController.plainZod ⟨[], []⟩ raised).Valid ∧
        DiscountsWithin (run PromotionController.plainZod ⟨[], []⟩ raised).coupons := by
  have hempty : Configuration.Valid ⟨[], []⟩ := ⟨by simp, by simp⟩
  have hsafe : AllSafe PromotionController.plainZod ⟨[], []⟩ raised :=
    ⟨trivial, by unfold Request.Safe; decide +kernel, trivial⟩
  exact ⟨hempty, hsafe, configuration_valid hempty hsafe⟩

/-- A coupon for 500 becomes one for 500 per cent. -/
theorem amount_becomes_percentage : ¬∀ (zod : Zod) (requests : List Request),
    ∀ coupon ∈ (run zod ⟨[], []⟩ requests).coupons, coupon.type = .percentage →
      coupon.value ≤ 100 := by
  intro h
  have hvalues := h PromotionController.plainZod
    [.createCoupon 1 [("code", .string "SAVE"), ("type", .string "FIXED_AMOUNT"),
        ("value", .number 500)],
      .updateCoupon 1 [("type", .string "PERCENTAGE")]]
  revert hvalues
  decide +kernel

end MeeoServer.Coupons
