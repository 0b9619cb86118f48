/-
# Limits of coupons and promotions

A checkout counts the usages of its coupon before its transaction, and the usages of its
promotions inside it, but it locks neither; the usage that it records goes through in any case.
Whether the limits hold is therefore a question of what was recorded between the count and the
commit: nothing, or at least not so much that the limit was reached.
-/
import MeeoServer.Storefront.Interleaved

namespace MeeoServer

/-- The columns of a promotion that no checkout writes. -/
def Promotion.limits (promo : Promotion) : PromotionId × Option ℕ × Option ℕ :=
  (promo.id, promo.totalUsageLimit, promo.userUsageLimit)

namespace Storefront

namespace Tables

variable (tables : Tables)

/-- The recorded usages of a coupon. -/
def usages (id : CouponId) : ℕ := tables.couponUsages.countP fun u => u.couponId = id

def userUsages (id : CouponId) (userId : UserId) : ℕ :=
  tables.couponUsages.countP fun u => u.couponId = id && u.userId = userId

/-- The recorded usages of a promotion. -/
def allRedemptions (id : PromotionId) : ℕ :=
  tables.promotionUsages.countP fun u => u.promotionId = id

/-- The identifiers of coupons are unique, and a limit, where there is one, is positive. -/
structure CouponsValid : Prop where
  ids_nodup : (tables.coupons.map Coupon.id).Nodup
  usageLimit_ne : ∀ c ∈ tables.coupons, c.usageLimit ≠ some 0
  usageLimitPerUser_ne : ∀ c ∈ tables.coupons, c.usageLimitPerUser ≠ some 0

/-- No coupon is used more often than its two limits allow. -/
def CouponLimits : Prop :=
  ∀ c ∈ tables.coupons, (∀ limit ∈ c.usageLimit, tables.usages c.id ≤ limit) ∧
    ∀ limit ∈ c.usageLimitPerUser, ∀ userId, tables.userUsages c.id userId ≤ limit

/-- A limit per user, where there is one, is positive. -/
def PromotionsValid : Prop := ∀ promo ∈ tables.promotions.rows, promo.userUsageLimit ≠ some 0

/-- What the usages say of a promotion: its counter counts them, and neither limit is
exceeded. -/
structure Accounted (promo : Promotion) : Prop where
  count : promo.currentUsageCount = tables.allRedemptions promo.id
  total : ∀ limit ∈ promo.totalUsageLimit, promo.currentUsageCount ≤ limit
  user : ∀ limit ∈ promo.userUsageLimit, ∀ userId, tables.redemptions promo.id userId ≤ limit

def PromotionLimits : Prop := ∀ promo ∈ tables.promotions.rows, tables.Accounted promo

/-- The counters count the usages. -/
def CountersAgree : Prop :=
  ∀ promo ∈ tables.promotions.rows, promo.currentUsageCount = tables.allRedemptions promo.id

end Tables

namespace Checkouts

open Proc

/-! ## Counts at the commit -/

/-- When an order with a coupon is committed, each count that the validation has compared with
a limit of the coupon is still right, or that limit is still not reached. -/
def CouponCounted (db : Shop) : Commit → Prop
  | .placeOrder p => ∀ c ∈ p.coupon.result.coupon,
    (db.usages c.id = p.coupon.usages ∨ ∀ limit ∈ c.usageLimit, db.usages c.id < limit) ∧
      (db.userUsages c.id p.order.userId = p.coupon.userUsagesCount ∨
        ∀ limit ∈ c.usageLimitPerUser, db.userUsages c.id p.order.userId < limit)
  | _ => True

instance (db : Shop) (c : Commit) : Decidable (CouponCounted db c) := by
  unfold CouponCounted
  split <;> infer_instance

/-- The same for a usage of a promotion that is about to be written. -/
def UsageCounted (userId : UserId) (tables : Tables) (usage : CheckedUsage) : Prop :=
  ∀ promo ∈ tables.promotion usage.applied.id,
    (promo.currentUsageCount = usage.currentUsageCount ∨
      ∀ limit ∈ promo.totalUsageLimit, promo.currentUsageCount < limit) ∧
    (tables.redemptions promo.id userId = usage.userCount ∨
      ∀ limit ∈ promo.userUsageLimit, tables.redemptions promo.id userId < limit)

/-- The same for the usages of one order, which are written one after another. -/
def UsagesCounted (userId : UserId) (orderId : OrderId) : Tables → List CheckedUsage → Prop
  | _, [] => True
  | tables, usage :: rest => UsageCounted userId tables usage ∧
    ∀ tables' ∈ writeUsage userId orderId tables usage,
      UsagesCounted userId orderId tables' rest

instance (userId : UserId) (tables : Tables) (usage : CheckedUsage) :
    Decidable (UsageCounted userId tables usage) := by
  unfold UsageCounted
  infer_instance

instance UsagesCounted.decidable (userId : UserId) (orderId : OrderId) :
    ∀ (tables : Tables) (l : List CheckedUsage), Decidable (UsagesCounted userId orderId tables l)
  | _, [] => .isTrue trivial
  | tables, usage :: rest => by
    have (tables' : Tables) : Decidable (UsagesCounted userId orderId tables' rest) :=
      UsagesCounted.decidable userId orderId tables' rest
    unfold UsagesCounted
    infer_instance

/-- When an order is committed, each count that `recordUsage` has compared with a limit of a
promotion is still right, or that limit is still not reached. -/
def PromotionCounted (db : Shop) : Commit → Prop
  | .placeOrder p => UsagesCounted p.order.userId db.orders.length db.toTables p.promotions
  | _ => True

instance (db : Shop) (c : Commit) : Decidable (PromotionCounted db c) := by
  unfold PromotionCounted
  split <;> infer_instance

/-! ## What has been checked -/

/-- The offers of a shop: its coupons, and the limits of its promotions. -/
structure Offers where
  coupons : List Coupon
  limits : List (PromotionId × Option ℕ × Option ℕ)

def offers (tables : Tables) : Offers :=
  ⟨tables.coupons, tables.promotions.rows.map Promotion.limits⟩

/-- The validation has found the coupon, with counts below its limits. -/
def ValidatedCoupon.Passed (o : Offers) (v : ValidatedCoupon) : Prop :=
  ∀ c ∈ v.result.coupon, c ∈ o.coupons ∧
    (∀ limit ∈ c.usageLimit, limit ≠ 0 → v.usages < limit) ∧
      ∀ limit ∈ c.usageLimitPerUser, limit ≠ 0 → v.userUsagesCount < limit

/-- The counts that were read for a usage are below the limits of its promotion. -/
def CheckedUsage.Passed (o : Offers) (usage : CheckedUsage) : Prop :=
  ∀ l ∈ o.limits, l.1 = usage.applied.id →
    (∀ limit ∈ l.2.1, usage.currentUsageCount < limit) ∧
      ∀ limit ∈ l.2.2, limit ≠ 0 → usage.userCount < limit

/-- What is known of the batches of a checkout. -/
def Emitted (db : Shop) : Commit → Prop
  | .placeOrder p => p.coupon.Passed (offers db.toTables) ∧
    ∀ usage ∈ p.promotions, usage.Passed (offers db.toTables)
  | _ => True

/-- The offers are the same. -/
def SameOffers (db db' : Shop) : Prop := offers db'.toTables = offers db.toTables

lemma SameOffers.refl (db : Shop) : SameOffers db db := rfl

lemma SameOffers.trans {s t u : Shop} (h : SameOffers s t) (h' : SameOffers t u) :
    SameOffers s u := Eq.trans h' h

lemma SameOffers.keeps {s t : Shop} {o : Offers} (h : SameOffers s t)
    (hs : offers s.toTables = o) : offers t.toTables = o := Eq.trans h hs

/-! ## The looks -/

section Looks

variable {I G : Shop → Shop → Prop} {S : Shop → Commit → Prop} {s : Shop}

lemma look_emits {α : Type} {f : Shop → Except AppError α} {Q : Except AppError α → Shop → Prop}
    (herr : ∀ s, Q (.error default) s) (h : ∀ s', I s s' → Q (f s') s') :
    (look f).Emits Commit.apply I G S Q s :=
  emits_read_post herr fun s' hs' => h s' hs'

lemma look_emits_any {α : Type} {f : Shop → Except AppError α} :
    (look f).Emits Commit.apply I G S Any s := look_emits (fun _ => trivial) fun _ _ => trivial

lemma cached_emits {α : Type} (f : PromotionCache → Option α) :
    (cached f).Emits Commit.apply I G S Any s :=
  (emits_read fun _ _ => emits_pure).orElse fun _ _ => emits_pure

variable (toUpperCase : String → String)

lemma resolveAutomatic_emits (h : ∀ s l, S s (.setActiveAutomaticPromotions l)) :
    resolveAutomatic.Emits Commit.apply I G S Any s := by
  refine (cached_emits _).andThen fun o s => ?_
  split
  · exact emits_pure
  · exact emits_read fun _ _ => (emits_attempt fun s _ => h s _).andThen fun _ _ => emits_pure

lemma resolveCode_emits (h : ∀ s key promo, S s (.setPromotionByCode key promo))
    (normalizedCode : String) :
    (resolveCode toUpperCase normalizedCode).Emits Commit.apply I G S Any s := by
  refine (cached_emits _).andThen fun o s => ?_
  split
  · exact emits_pure
  · refine emits_read fun s _ => ?_
    split
    · exact (emits_attempt fun s _ => h s _ _).andThen fun _ _ => emits_pure
    · exact emits_pure

lemma previewCart_emits (h : ∀ s l, S s (.setActiveAutomaticPromotions l))
    (h' : ∀ s key promo, S s (.setPromotionByCode key promo)) (input : PreviewPromotionInput)
    (userId : UserId) :
    (previewCart toUpperCase input userId).Emits Commit.apply I G S Any s := by
  refine Emits.andThen ?_ fun _ _ => look_emits_any
  refine (resolveAutomatic_emits h).andThen fun autoPromos s => ?_
  dsimp only
  split
  · exact emits_pure
  · exact (resolveCode_emits toUpperCase h' _).andThen fun _ _ => emits_pure

lemma getDefaultSellerProfile_emits (h : ∀ s seller, S s (.createSeller seller)) :
    getDefaultSellerProfile.Emits Commit.apply I G S Any s := by
  refine emits_read fun s _ => ?_
  split
  · exact emits_pure
  · exact emits_commit (fun s _ => h s _) fun _ _ _ _ _ => emits_pure

lemma checkStock_emits (held items : List OrderItem) :
    (checkStock held items).Emits Commit.apply I G S Any s := by
  induction items generalizing held s with
  | nil => exact emits_pure
  | cons item rest ih =>
    refine emits_read fun s _ => ?_
    split
    · exact emits_throw
    · dsimp only
      split
      · exact emits_throw
      · exact ih _

end Looks

/-! ## The checks -/

section Checks

variable {db : Shop} {o : Offers}

lemma countedCoupon_passed {toUpperCase : String → String} {couponCode : Option String}
    {subtotal : ℚ} {userId : UserId} {v : ValidatedCoupon}
    (h : countedCoupon toUpperCase db couponCode subtotal userId = .ok v) :
    v.Passed (offers db.toTables) := by
  unfold countedCoupon at h
  obtain ⟨result, hresult, h⟩ := bind_eq_ok.mp h
  obtain rfl := Except.ok.inj h
  unfold validateAndCalculateDiscount at hresult
  dsimp only at hresult
  split_ifs at hresult with hcode
  · obtain rfl := Except.ok.inj hresult
    intro c hc
    cases hc
  · split at hresult
    · exact nomatch hresult
    · rename_i coupon hcoupon
      split_ifs at hresult with hstatus hstarts hexpires htotal hminimum huser
      obtain rfl := Except.ok.inj hresult
      intro c hc
      obtain rfl : coupon = c := Option.some.inj hc
      refine ⟨List.mem_of_find?_eq_some hcoupon, fun limit hlimit hne => ?_,
        fun limit hlimit hne => ?_⟩
      · rw [hlimit] at htotal
        exact not_le.mp fun hle => htotal ⟨hne, hle⟩
      · rw [hlimit] at huser
        exact not_le.mp fun hle => huser ⟨hne, hle⟩

/-- The limits of a promotion that was found are among the offers. -/
lemma limits_mem {tables : Tables} {id : PromotionId} {promo : Promotion}
    (h : tables.promotion id = some promo) :
    promo.limits ∈ (offers tables).limits ∧ promo.id = id :=
  ⟨List.mem_map_of_mem (List.mem_of_find?_eq_some h), by simpa using List.find?_some h⟩

/-- A promotion is determined by its identifier. -/
lemma eq_of_limits_id {tables : Tables} {l l' : PromotionId × Option ℕ × Option ℕ}
    (hl : l ∈ (offers tables).limits) (hl' : l' ∈ (offers tables).limits) (hid : l.1 = l'.1) :
    l = l' := by
  obtain ⟨promo, hpromo, rfl⟩ := List.mem_map.mp hl
  obtain ⟨promo', hpromo', rfl⟩ := List.mem_map.mp hl'
  rw [List.inj_on_of_nodup_map tables.promotions.ids_nodup hpromo hpromo' hid]

variable {I : Shop → Shop → Prop} {S : Shop → Commit → Prop}

/-- A usage that `recordUsage` lets pass is below the limits, as it has read the counts. -/
lemma recordUsage_emits (hoffers : offers db.toTables = o) (userId : UserId)
    (recorded : List CheckedUsage) (applied : AppliedPromotionDetail) :
    (recordUsage userId recorded applied).Emits Commit.apply SameOffers SameOffers S
      (fun r _ => ∀ usage, r = .ok usage → usage.Passed o) db := by
  refine emits_read_post (by simp) fun s₁ h₁ => ?_
  have hs₁ : offers s₁.toTables = o := h₁.keeps hoffers
  split
  · rintro usage ⟨⟩
  · rename_i promo hpromo
    obtain ⟨hmem, hid⟩ := limits_mem hpromo
    dsimp only
    split
    · rintro usage ⟨⟩
    · rename_i htotal
      simp only [not_exists, not_and, not_le] at htotal
      -- the limits of the promotion are the ones that were read
      have hpassed : ∀ userCount, (∀ limit ∈ promo.userUsageLimit, limit ≠ 0 →
          userCount < limit) → CheckedUsage.Passed o ⟨applied, promo.currentUsageCount +
            recorded.countP (fun u => u.applied.id = applied.id), userCount⟩ := by
        intro userCount huser l hl hlid
        obtain rfl : promo.limits = l :=
          eq_of_limits_id hmem (hs₁ ▸ hl) (hid.trans hlid.symm)
        exact ⟨htotal, huser⟩
      split
      · rename_i hzero
        rintro usage ⟨⟩
        refine hpassed 0 fun limit hlimit hne => absurd ?_ hne
        simpa [Option.mem_def.mp hlimit] using hzero
      · refine emits_read_post (by simp) fun s₂ _ => ?_
        split
        · rintro usage ⟨⟩
        · rename_i huser
          rintro usage ⟨⟩
          refine hpassed _ fun limit hlimit _ => ?_
          simpa [Option.mem_def.mp hlimit] using huser

lemma recordUsages_emits (hoffers : offers db.toTables = o) (userId : UserId)
    (recorded : List CheckedUsage) (l : List AppliedPromotionDetail)
    (hrecorded : ∀ usage ∈ recorded, usage.Passed o) :
    (recordUsages userId recorded l).Emits Commit.apply SameOffers SameOffers S
      (fun r _ => ∀ usages, r = .ok usages → ∀ usage ∈ usages, usage.Passed o) db := by
  induction l generalizing recorded db with
  | nil =>
    rintro usages ⟨⟩
    exact hrecorded
  | cons applied rest ih =>
    have hone := (recordUsage_emits (S := S) hoffers userId recorded applied).frame
      (F := fun s => offers s.toTables = o) (fun _ _ h h' => h.keeps h')
      (fun _ _ h h' => h.keeps h') hoffers
    refine Emits.bind (hone.mono ?_)
    rintro r s ⟨hpassed, hs⟩
    cases r with
    | error e => rintro usages ⟨⟩
    | ok checked =>
      refine ih hs _ fun usage husage => ?_
      rcases List.mem_append.mp husage with husage | husage
      · exact hrecorded usage husage
      · obtain rfl := List.mem_singleton.mp husage
        exact hpassed _ rfl

end Checks

/-! ## A checkout -/

section Checkout

variable {db : Shop} {o : Offers} (toUpperCase : String → String) (userId : UserId)
  (input : CheckoutInput)

/-- A program that has nothing to do with the offers leaves them as they are. -/
lemma emits_keeping {α : Type} {p : Service α}
    (h : p.Emits Commit.apply SameOffers SameOffers Emitted Any db)
    (hoffers : offers db.toTables = o) :
    p.Emits Commit.apply SameOffers SameOffers Emitted (fun _ s => offers s.toTables = o) db :=
  (h.frame (F := fun s => offers s.toTables = o) (fun _ _ h h' => h.keeps h')
    (fun _ _ h h' => h.keeps h') hoffers).mono fun _ _ h => h.2

lemma priceCheckout_emits (hoffers : offers db.toTables = o) :
    (priceCheckout toUpperCase userId input).Emits Commit.apply SameOffers SameOffers Emitted
      (fun r s => (∀ priced, r = .ok priced → priced.2.Passed o) ∧ offers s.toTables = o) db := by
  refine Emits.bind ((emits_keeping look_emits_any hoffers).mono fun r s hs => ?_)
  cases r with
  | error e => exact ⟨by simp, hs⟩
  | ok cart =>
  refine Emits.bind ((emits_keeping look_emits_any hs).mono fun r s hs => ?_)
  cases r with
  | error e => exact ⟨by simp, hs⟩
  | ok addresses =>
  -- the coupon is checked on the offers as they are here, which no step changes
  have hcoupon : (look fun db => countedCoupon toUpperCase db input.couponCode cart.subtotal
      userId).Emits Commit.apply SameOffers SameOffers Emitted
      (fun r _ => ∀ v, r = .ok v → v.Passed o) s :=
    look_emits (by simp) fun s' hs' v hv => hs'.keeps hs ▸ countedCoupon_passed hv
  have hkept := hcoupon.frame (F := fun s => offers s.toTables = o) (fun _ _ h h' => h.keeps h')
    (fun _ _ h h' => h.keeps h') hs
  refine Emits.bind (hkept.mono ?_)
  rintro r s ⟨hpassed, hs⟩
  cases r with
  | error e => exact ⟨by simp, hs⟩
  | ok coupon =>
  have hpreview := previewCart_emits (I := SameOffers) (G := SameOffers) (S := Emitted) (s := s)
    toUpperCase (fun _ _ => trivial) (fun _ _ _ => trivial) (promotionInput input cart.items) userId
  refine Emits.bind ((emits_keeping hpreview hs).mono fun r s hs => ?_)
  cases r with
  | error e => exact ⟨by simp, hs⟩
  | ok promotions =>
  have hseller := getDefaultSellerProfile_emits (I := SameOffers) (G := SameOffers)
    (S := Emitted) (s := s) fun _ _ => trivial
  refine Emits.bind ((emits_keeping hseller hs).mono fun r s hs => ?_)
  cases r with
  | error e => exact ⟨by simp, hs⟩
  | ok seller =>
  refine Emits.bind ((emits_keeping look_emits_any hs).mono fun r s hs => ?_)
  cases r with
  | error e => exact ⟨by simp, hs⟩
  | ok gst =>
    refine ⟨?_, hs⟩
    rintro priced ⟨⟩
    exact hpassed coupon rfl

/-- **What a checkout commits has passed the checks.** -/
theorem createOrder_emits (orderNumber : String) :
    (createOrder toUpperCase orderNumber userId input).Emits Commit.apply SameOffers SameOffers
      Emitted Any db := by
  refine Emits.bind ((priceCheckout_emits toUpperCase userId input rfl).mono ?_)
  rintro r s ⟨hcoupon, hs⟩
  cases r with
  | error e => trivial
  | ok priced =>
    refine emits_read fun s₁ h₁ => ?_
    have hstock := emits_keeping (checkStock_emits (I := SameOffers) (G := SameOffers)
      (S := Emitted) (s := s₁) [] (priced.1.cart.items.map ValidatedCartItem.toOrderItem))
      (h₁.keeps hs)
    refine Emits.bind (hstock.mono fun r s₂ hs₂ => ?_)
    cases r with
    | error e => trivial
    | ok _ =>
      have husages := (recordUsages_emits (S := Emitted) hs₂ userId []
        priced.1.promotions.appliedPromotions (by simp)).frame
        (F := fun s => offers s.toTables = offers db.toTables) (fun _ _ h h' => h.keeps h')
        (fun _ _ h h' => h.keeps h') hs₂
      refine Emits.bind (husages.mono ?_)
      rintro r s₃ ⟨hpassed, hs₃⟩
      cases r with
      | error e => trivial
      | ok usages =>
        refine emits_commit (fun s₄ h₄ => ?_) fun _ _ _ _ _ => emits_pure
        have hs₄ : offers s₄.toTables = offers db.toTables := h₄.keeps hs₃
        exact ⟨hs₄ ▸ hcoupon _ rfl, fun usage husage => hs₄ ▸ hpassed usages rfl usage husage⟩

end Checkout

/-! ## The writes -/

section Writes

variable {tables tables' : Tables} {userId : UserId} {orderId : OrderId} {usage : CheckedUsage}

lemma writeUsage_eq_some (h : writeUsage userId orderId tables usage = some tables') :
    ∃ promo, tables.promotion usage.applied.id = some promo ∧
      tables' = { tables with
        promotions := incrementUsageCount tables.promotions promo.id
        promotionUsages := tables.promotionUsages ++
          [⟨promo.id, userId, orderId, usage.applied.discountAmount⟩] } := by
  obtain ⟨promo, hpromo, rfl⟩ := Option.map_eq_some_iff.mp h
  exact ⟨promo, hpromo, rfl⟩

lemma incrementUsage_limits (id : PromotionId) (promo : Promotion) :
    (incrementUsage id promo).limits = promo.limits := by
  unfold incrementUsage
  split_ifs <;> rfl

lemma writeUsage_offers (h : writeUsage userId orderId tables usage = some tables') :
    offers tables' = offers tables := by
  obtain ⟨promo, -, rfl⟩ := writeUsage_eq_some h
  unfold offers incrementUsageCount
  rw [List.map_map]
  congr 1
  exact List.map_congr_left fun p _ => incrementUsage_limits promo.id p

lemma foldlM_writeUsage_offers {l : List CheckedUsage}
    (h : l.foldlM (writeUsage userId orderId) tables = some tables') :
    offers tables' = offers tables := by
  induction l generalizing tables with
  | nil =>
    obtain rfl : tables = tables' := Option.some.inj h
    rfl
  | cons usage l ih =>
    rw [List.foldlM_cons] at h
    obtain ⟨next, hnext, h⟩ := Option.bind_eq_some_iff.mp h
    exact (ih h).trans (writeUsage_offers hnext)

variable {p : Placement}

/-- What the transaction does to coupons, promotions and their usages. -/
lemma Placement.write_eq_some (h : p.write tables = some tables') :
    ∃ recorded, p.promotions.foldlM (writeUsage p.order.userId tables.orders.length) tables =
        some recorded ∧
      offers tables' = offers tables ∧ tables'.promotions = recorded.promotions ∧
      tables'.promotionUsages = recorded.promotionUsages ∧
      tables'.couponUsages = recordCouponUsage p.order.userId tables.orders.length
        p.coupon.result tables.couponUsages := by
  simp only [Placement.write, Option.ite_none_left_eq_some, Option.bind_eq_bind,
    Option.bind_eq_some_iff, Option.some.injEq] at h
  obtain ⟨-, stock, -, recorded, hrecorded, rfl⟩ := h
  have hoffers := foldlM_writeUsage_offers hrecorded
  exact ⟨recorded, hrecorded, hoffers, rfl, rfl, rfl⟩

lemma sameOffers_of_apply {db db' : Shop} {c : Commit} (h : c.apply db = some db') :
    SameOffers db db' := by
  cases c with
  | setActiveAutomaticPromotions promotions | setPromotionByCode key promo =>
    obtain rfl := Option.some.inj h
    rfl
  | createSeller seller =>
    simp only [Commit.apply, Option.ite_none_left_eq_some, Option.some.injEq] at h
    obtain ⟨-, rfl⟩ := h
    rfl
  | placeOrder placement =>
    obtain ⟨tables, htables, rfl⟩ := Option.map_eq_some_iff.mp h
    obtain ⟨-, -, hoffers, -⟩ := Placement.write_eq_some htables
    exact hoffers

/-! ### Coupons -/

lemma couponsValid_of_offers (h : offers tables' = offers tables) (hvalid : tables.CouponsValid) :
    tables'.CouponsValid := by
  have hcoupons : tables'.coupons = tables.coupons := congrArg Offers.coupons h
  constructor
  · rw [hcoupons]
    exact hvalid.ids_nodup
  · rw [hcoupons]
    exact hvalid.usageLimit_ne
  · rw [hcoupons]
    exact hvalid.usageLimitPerUser_ne

/-- A usage that passed the validation, and whose counts are still right or still too low,
keeps to the limits. -/
lemma Placement.write_couponLimits (hvalid : tables.CouponsValid)
    (hpassed : p.coupon.Passed (offers tables))
    (hcounted : ∀ c ∈ p.coupon.result.coupon,
      (tables.usages c.id = p.coupon.usages ∨ ∀ limit ∈ c.usageLimit, tables.usages c.id < limit) ∧
      (tables.userUsages c.id p.order.userId = p.coupon.userUsagesCount ∨
        ∀ limit ∈ c.usageLimitPerUser, tables.userUsages c.id p.order.userId < limit))
    (h : p.write tables = some tables') (hlimits : tables.CouponLimits) :
    tables'.CouponLimits := by
  obtain ⟨-, -, hoffers, -, -, husages⟩ := Placement.write_eq_some h
  have hcoupons : tables'.coupons = tables.coupons := congrArg Offers.coupons hoffers
  unfold Tables.CouponLimits Tables.usages Tables.userUsages
  rw [hcoupons, husages]
  unfold recordCouponUsage
  cases hresult : p.coupon.result.coupon with
  | none => exact hlimits
  | some coupon =>
    obtain ⟨hmem, htotal, huser⟩ := hpassed coupon hresult
    obtain ⟨hcount, huserCount⟩ := hcounted coupon hresult
    intro c hc
    obtain ⟨hctotal, hcuser⟩ := hlimits c hc
    simp only [List.countP_append, List.countP_singleton]
    by_cases hid : coupon.id = c.id
    · -- the coupon itself: its counts were below the limits
      obtain rfl : coupon = c := List.inj_on_of_nodup_map hvalid.ids_nodup hmem hc hid
      constructor
      · intro limit hlimit
        have hne : limit ≠ 0 := fun h0 =>
          hvalid.usageLimit_ne coupon hc (h0 ▸ Option.mem_def.mp hlimit)
        have hlt : tables.usages coupon.id + 1 ≤ limit :=
          hcount.elim (fun heq => heq ▸ htotal limit hlimit hne) fun hroom => hroom limit hlimit
        unfold Tables.usages at hlt
        simpa using hlt
      · intro limit hlimit user
        have hne : limit ≠ 0 := fun h0 =>
          hvalid.usageLimitPerUser_ne coupon hc (h0 ▸ Option.mem_def.mp hlimit)
        by_cases hu : p.order.userId = user
        · subst hu
          have hlt : tables.userUsages coupon.id p.order.userId + 1 ≤ limit :=
            huserCount.elim (fun heq => heq ▸ huser limit hlimit hne) fun hroom =>
              hroom limit hlimit
          unfold Tables.userUsages at hlt
          simpa using hlt
        · have hle := hcuser limit hlimit user
          unfold Tables.userUsages at hle
          simpa [hu] using hle
    · simp only [hid, decide_false, Bool.false_and, Bool.false_eq_true, if_false, add_zero]
      exact ⟨hctotal, hcuser⟩

/-- Otherwise the usage exceeds a limit. -/
lemma Placement.counted_of_couponLimits (hpassed : p.coupon.Passed (offers tables))
    (h : p.write tables = some tables') (hlimits : tables'.CouponLimits) :
    ∀ c ∈ p.coupon.result.coupon,
      (∀ limit ∈ c.usageLimit, tables.usages c.id < limit) ∧
        ∀ limit ∈ c.usageLimitPerUser, tables.userUsages c.id p.order.userId < limit := by
  intro c hc
  obtain ⟨-, -, hoffers, -, -, husages⟩ := Placement.write_eq_some h
  have hcoupons : tables'.coupons = tables.coupons := congrArg Offers.coupons hoffers
  obtain ⟨htotal, huser⟩ := hlimits c (hcoupons ▸ (hpassed c hc).1)
  constructor
  · intro limit hlimit
    have hle := htotal limit hlimit
    unfold Tables.usages at hle ⊢
    rw [husages, recordCouponUsage, hc, List.countP_append] at hle
    exact Nat.lt_of_succ_le (by simpa using hle)
  · intro limit hlimit
    have hle := huser limit hlimit p.order.userId
    unfold Tables.userUsages at hle ⊢
    rw [husages, recordCouponUsage, hc, List.countP_append] at hle
    exact Nat.lt_of_succ_le (by simpa using hle)

/-! ### Promotions -/

lemma promotionsValid_of_offers (h : offers tables' = offers tables)
    (hvalid : tables.PromotionsValid) : tables'.PromotionsValid := by
  have hlimits : tables'.promotions.rows.map Promotion.limits =
      tables.promotions.rows.map Promotion.limits := congrArg Offers.limits h
  intro promo hpromo
  have hmem : promo.limits ∈ tables.promotions.rows.map Promotion.limits :=
    hlimits ▸ List.mem_map_of_mem hpromo
  obtain ⟨old, hold, heq⟩ := List.mem_map.mp hmem
  have huser : old.userUsageLimit = promo.userUsageLimit :=
    congrArg (fun l => l.2.2) heq
  rw [← huser]
  exact hvalid old hold

lemma writeUsage_countersAgree (h : writeUsage userId orderId tables usage = some tables')
    (hagree : tables.CountersAgree) : tables'.CountersAgree := by
  obtain ⟨promo, -, rfl⟩ := writeUsage_eq_some h
  intro promo' hpromo'
  obtain ⟨row, hrow, rfl⟩ := List.mem_map.mp hpromo'
  have hold := hagree row hrow
  unfold Tables.allRedemptions at hold ⊢
  rw [List.countP_append, incrementUsage_id, ← hold]
  by_cases hsame : row.id = promo.id
  · simp [incrementUsage, hsame]
  · simp [incrementUsage, hsame, Ne.symm hsame]

lemma foldlM_writeUsage_countersAgree {l : List CheckedUsage}
    (h : l.foldlM (writeUsage userId orderId) tables = some tables')
    (hagree : tables.CountersAgree) : tables'.CountersAgree := by
  induction l generalizing tables with
  | nil =>
    obtain rfl : tables = tables' := Option.some.inj h
    exact hagree
  | cons usage l ih =>
    rw [List.foldlM_cons] at h
    obtain ⟨next, hnext, h⟩ := Option.bind_eq_some_iff.mp h
    exact ih h (writeUsage_countersAgree hnext hagree)

lemma writeUsage_promotionLimits (hvalid : tables.PromotionsValid)
    (hpassed : usage.Passed (offers tables)) (hcounted : UsageCounted userId tables usage)
    (h : writeUsage userId orderId tables usage = some tables') (hlimits : tables.PromotionLimits) :
    tables'.PromotionLimits := by
  have hagree := writeUsage_countersAgree h fun promo hpromo => (hlimits promo hpromo).count
  obtain ⟨promo, hpromo, rfl⟩ := writeUsage_eq_some h
  obtain ⟨hmem, hid⟩ := limits_mem hpromo
  have hrow : promo ∈ tables.promotions.rows := List.mem_of_find?_eq_some hpromo
  obtain ⟨htotal, huser⟩ := hpassed promo.limits hmem hid
  obtain ⟨hcount, huserCount⟩ := hcounted promo hpromo
  intro promo' hpromo'
  have hcounter := hagree promo' hpromo'
  obtain ⟨row, hrow', rfl⟩ := List.mem_map.mp hpromo'
  have hold := hlimits row hrow'
  by_cases hsame : row.id = promo.id
  · -- the promotion itself: its counts were below the limits
    obtain rfl : row = promo :=
      List.inj_on_of_nodup_map tables.promotions.ids_nodup hrow' hrow hsame
    refine ⟨hcounter, ?_, ?_⟩
    · intro limit hlimit
      have hlt : row.currentUsageCount + 1 ≤ limit := by
        simp only [incrementUsage, if_true] at hlimit
        exact hcount.elim (fun heq => heq ▸ htotal limit hlimit) fun hroom => hroom limit hlimit
      simpa [incrementUsage] using hlt
    · intro limit hlimit user
      simp only [incrementUsage, if_true] at hlimit
      have hne : limit ≠ 0 := fun h0 => hvalid row hrow (h0 ▸ Option.mem_def.mp hlimit)
      have hlt : tables.redemptions row.id userId + 1 ≤ limit :=
        huserCount.elim (fun heq => heq ▸ huser limit hlimit hne) fun hroom => hroom limit hlimit
      have hle := hold.user limit hlimit user
      unfold Tables.redemptions at hlt hle
      by_cases hu : userId = user
      · subst hu
        simpa [incrementUsage, Tables.redemptions, List.countP_append] using hlt
      · simpa [incrementUsage, Tables.redemptions, List.countP_append, hu] using hle
  · have hother : incrementUsage promo.id row = row := by simp [incrementUsage, hsame]
    rw [hother] at hcounter ⊢
    have hne : promo.id ≠ row.id := Ne.symm hsame
    refine ⟨hcounter, hold.total, ?_⟩
    · intro limit hlimit user
      simpa [Tables.redemptions, List.countP_append, hne] using hold.user limit hlimit user

/-- Otherwise the usage exceeds a limit. -/
lemma counted_of_promotionLimits (h : writeUsage userId orderId tables usage = some tables')
    (hlimits : tables'.PromotionLimits) :
    ∀ promo ∈ tables.promotion usage.applied.id,
      (∀ limit ∈ promo.totalUsageLimit, promo.currentUsageCount < limit) ∧
        ∀ limit ∈ promo.userUsageLimit, tables.redemptions promo.id userId < limit := by
  intro promo hpromo
  obtain ⟨row, hrow, rfl⟩ := writeUsage_eq_some h
  obtain rfl : row = promo := Option.some.inj (hrow.symm.trans hpromo)
  have hmem : incrementUsage row.id row ∈ (incrementUsageCount tables.promotions row.id).rows :=
    List.mem_map_of_mem (List.mem_of_find?_eq_some hrow)
  have haccounted := hlimits _ hmem
  constructor
  · intro limit hlimit
    have hle := haccounted.total limit (by simpa [incrementUsage] using hlimit)
    exact Nat.lt_of_succ_le (by simpa [incrementUsage] using hle)
  · intro limit hlimit
    have hle := haccounted.user limit (by simpa [incrementUsage] using hlimit) userId
    exact Nat.lt_of_succ_le
      (by simpa [incrementUsage, Tables.redemptions, List.countP_append] using hle)

lemma foldlM_writeUsage_promotionLimits {l : List CheckedUsage} (hvalid : tables.PromotionsValid)
    (hpassed : ∀ usage ∈ l, usage.Passed (offers tables))
    (hcounted : UsagesCounted userId orderId tables l)
    (h : l.foldlM (writeUsage userId orderId) tables = some tables')
    (hlimits : tables.PromotionLimits) : tables'.PromotionLimits := by
  induction l generalizing tables with
  | nil =>
    obtain rfl : tables = tables' := Option.some.inj h
    exact hlimits
  | cons usage l ih =>
    rw [List.foldlM_cons] at h
    obtain ⟨next, hnext, h⟩ := Option.bind_eq_some_iff.mp h
    have hoffers := writeUsage_offers hnext
    refine ih (promotionsValid_of_offers hoffers hvalid) (fun u hu => ?_) (hcounted.2 next hnext) h
      (writeUsage_promotionLimits hvalid (hpassed usage List.mem_cons_self) hcounted.1 hnext
        hlimits)
    rw [hoffers]
    exact hpassed u (List.mem_cons_of_mem _ hu)

lemma Placement.write_promotionLimits (hvalid : tables.PromotionsValid)
    (hpassed : ∀ usage ∈ p.promotions, usage.Passed (offers tables))
    (hcounted : UsagesCounted p.order.userId tables.orders.length tables p.promotions)
    (h : p.write tables = some tables') (hlimits : tables.PromotionLimits) :
    tables'.PromotionLimits := by
  obtain ⟨recorded, hrecorded, -, hpromotions, husages, -⟩ := Placement.write_eq_some h
  have hrec := foldlM_writeUsage_promotionLimits hvalid hpassed hcounted hrecorded hlimits
  intro promo hpromo
  rw [hpromotions] at hpromo
  have hold := hrec promo hpromo
  refine ⟨?_, hold.total, ?_⟩
  · rw [hold.count]
    unfold Tables.allRedemptions
    rw [husages]
  · unfold Tables.redemptions
    rw [husages]
    exact hold.user

end Writes

/-! ## Whole runs -/

section Runs

variable {toUpperCase : String → String} {Cond : Shop → Commit → Prop} {s₀ : Shop}
  {cfg : Config Shop Commit AppError}

/-- The rule for runs of checkouts. -/
theorem checkouts_rely :
    Rely (checkouts toUpperCase) (fun _ => True) Cond SameOffers fun _ => Emitted where
  refl := SameOffers.refl
  trans := SameOffers.trans
  env e s := by cases e <;> rfl
  commit _ _ _ happ := sameOffers_of_apply happ
  emits x s _ := by
    cases x with
    | createOrder orderNumber userId input =>
      exact (createOrder_emits toUpperCase userId input orderNumber).andThen fun _ _ => emits_pure

/-- What holds of the tables that a transaction writes to, as long as the offers stay the same,
holds of the tables of every run. -/
lemma tables_invariant {P : Tables → Prop}
    (hr : (checkouts toUpperCase).Reachable (fun _ => True) Cond s₀ cfg) (h₀ : P s₀.toTables)
    (hsame : ∀ {t t' : Tables}, offers t' = offers t → t'.couponUsages = t.couponUsages →
      t'.promotions = t.promotions → t'.promotionUsages = t.promotionUsages → P t → P t')
    (hwrite : ∀ {p : Placement} {db : Shop} {t' : Tables}, Emitted db (.placeOrder p) →
      Cond db (.placeOrder p) → p.write db.toTables = some t' → P db.toTables → P t') :
    P cfg.store.toTables := by
  refine checkouts_rely.invariant (P := fun s => P s.toTables) hr h₀ (fun e s hs => ?_) ?_
  · cases e with
    | elapse time => exact hs
    | expireAutomatic | expireCode key => exact hsame (t := s.toTables) rfl rfl rfl rfl hs
  · intro x s c s' _ hspec hcond happ hs
    have hoffers : offers s'.toTables = offers s.toTables := sameOffers_of_apply happ
    cases c with
    | setActiveAutomaticPromotions promotions | setPromotionByCode key promo =>
      obtain rfl := Option.some.inj happ
      exact hsame hoffers rfl rfl rfl hs
    | createSeller seller =>
      simp only [checkouts, Commit.apply, Option.ite_none_left_eq_some, Option.some.injEq] at happ
      obtain ⟨-, rfl⟩ := happ
      exact hsame hoffers rfl rfl rfl hs
    | placeOrder placement =>
      obtain ⟨tables, htables, rfl⟩ := Option.map_eq_some_iff.mp happ
      exact hwrite hspec hcond htables hs

/-- **The counters agree with the usages** in every run. -/
theorem counters_agree (hr : (checkouts toUpperCase).Reachable (fun _ => True) Free s₀ cfg)
    (h₀ : s₀.CountersAgree) : cfg.store.CountersAgree := by
  refine tables_invariant (P := Tables.CountersAgree) hr h₀ ?_ ?_
  · intro t t' _ _ hpromotions husages hagree
    unfold Tables.CountersAgree Tables.allRedemptions
    rw [hpromotions, husages]
    exact hagree
  · intro p db t' _ _ h hagree
    obtain ⟨recorded, hrecorded, -, hpromotions, husages, -⟩ := Placement.write_eq_some h
    unfold Tables.CountersAgree Tables.allRedemptions
    rw [hpromotions, husages]
    exact foldlM_writeUsage_countersAgree hrecorded hagree

/-- **Coupon limits hold** in every run in which, whenever an order with a coupon is committed,
each count that the validation has compared with a limit is still right, or the limit is still
not reached. -/
theorem coupon_limits_hold
    (hr : (checkouts toUpperCase).Reachable (fun _ => True) CouponCounted s₀ cfg)
    (hvalid : s₀.CouponsValid) (h₀ : s₀.CouponLimits) : cfg.store.CouponLimits := by
  refine (tables_invariant (P := fun t => t.CouponsValid ∧ t.CouponLimits) hr ⟨hvalid, h₀⟩
    ?_ ?_).2
  · rintro t t' hoffers husages - - ⟨hvalid, hlimits⟩
    refine ⟨couponsValid_of_offers hoffers hvalid, ?_⟩
    have hcoupons : t'.coupons = t.coupons := congrArg Offers.coupons hoffers
    unfold Tables.CouponLimits Tables.usages Tables.userUsages
    rw [hcoupons, husages]
    exact hlimits
  · rintro p db t' ⟨hpassed, -⟩ hcounted h ⟨hvalid, hlimits⟩
    obtain ⟨-, -, hoffers, -⟩ := Placement.write_eq_some h
    exact ⟨couponsValid_of_offers hoffers hvalid,
      Placement.write_couponLimits hvalid hpassed hcounted h hlimits⟩

end Runs

/-! ## Two customers -/

/-- A coupon that can be used once. -/
def lampCoupon : Coupon where
  id := 1
  code := "LAMP"
  type := .fixedAmount
  value := 10
  minimumOrderAmount := none
  maximumDiscountAmount := none
  usageLimit := some 1
  usageLimitPerUser := none
  startsAt := none
  expiresAt := none
  status := .active

/-- A discount for the first order of all. -/
def firstOrderOffer : PromotionTable :=
  .single { futureSale with startsAt := none, totalUsageLimit := some 1 } (by decide +kernel)

/-- The shop with both, and two customers who have the lamp in their carts. -/
def twoCarts : Shop where
  toTables := { (lampShop none firstOrderOffer []).toTables with
    carts := [⟨1, some 1, [⟨1, 1, 1⟩]⟩, ⟨2, some 2, [⟨2, 1, 1⟩]⟩]
    coupons := [lampCoupon] }
  clock := 0

def couponRequest : CheckoutInput := { lampRequest with couponCode := some "LAMP" }

lemma twoCarts_couponsValid : twoCarts.CouponsValid := by
  constructor <;> decide

lemma twoCarts_couponLimits : twoCarts.CouponLimits := by
  intro c hc
  obtain rfl := List.mem_singleton.mp hc
  constructor
  · rintro limit ⟨⟩
    exact Nat.zero_le 1
  · rintro limit ⟨⟩

lemma twoCarts_promotionsValid : twoCarts.PromotionsValid := by
  unfold Tables.PromotionsValid
  decide

lemma twoCarts_promotionLimits : twoCarts.PromotionLimits := by
  intro promo hpromo
  obtain rfl := List.mem_singleton.mp hpromo
  constructor
  · rfl
  · decide
  · rintro limit ⟨⟩

/-- One customer after the other. -/
def inTurn : List (Event Call Environ) :=
  .call (.createOrder "ORD-1" 1 couponRequest) :: List.replicate 13 (.step 0 .ok)

/-- Both customers validate and look before either commits. -/
def atOnce : List (Event Call Environ) :=
  [.call (.createOrder "ORD-1" 1 couponRequest), .call (.createOrder "ORD-2" 2 couponRequest)] ++
    List.replicate 12 (.step 0 .ok) ++ List.replicate 10 (.step 1 .ok) ++
    [.step 0 .ok, .step 1 .ok]

theorem coupon_limits_hold_inTurn :
    ∃ cfg, (checkouts id).Reachable (fun _ => True) CouponCounted twoCarts cfg ∧
      cfg.store.usages 1 = 1 ∧ cfg.store.CouponLimits := by
  obtain ⟨cfg, hr, hused⟩ := (checkouts id).exists_reachable_of_exec (fun _ => True) CouponCounted
    inTurn twoCarts (fun s => s.usages 1) 1 (by decide +kernel)
  exact ⟨cfg, hr, hused, coupon_limits_hold hr twoCarts_couponsValid twoCarts_couponLimits⟩

/-- Both get the coupon that can be used once. -/
theorem coupon_limit_exceeded :
    ¬∀ (toUpperCase : String → String) (s₀ : Shop) (cfg : Config Shop Commit AppError),
      s₀.CouponsValid → s₀.CouponLimits →
      (checkouts toUpperCase).Reachable (fun _ => True) Free s₀ cfg →
      cfg.store.CouponLimits := by
  intro h
  obtain ⟨cfg, hr, hused⟩ := (checkouts id).exists_reachable_of_exec (fun _ => True) Free
    atOnce twoCarts (fun s => s.coupons.map fun c => (c.usageLimit, s.usages c.id)) [(some 1, 2)]
    (by decide +kernel)
  obtain ⟨coupon, hcoupons, hcount⟩ := List.map_eq_singleton_iff.mp hused
  obtain ⟨hlimit, husages⟩ := Prod.mk.inj hcount
  have hlimits := h id twoCarts cfg twoCarts_couponsValid twoCarts_couponLimits hr
  have hmem : coupon ∈ cfg.store.coupons := hcoupons ▸ List.mem_singleton.mpr rfl
  have hle : cfg.store.usages coupon.id ≤ 1 := (hlimits coupon hmem).1 1 hlimit
  rw [husages] at hle
  exact absurd hle (by decide)

end Checkouts

end Storefront

end MeeoServer
