/-
# The preview and the order

A preview prices a cart exactly as the checkout does, so the only question is whether the
transaction of the checkout goes through.  It does not run out of stock: the lines of a cart
have different variants, and each was checked.  What is left are the usage limits of the
applied promotions, which only the transaction checks, and the number drawn for the order.
-/
import MeeoServer.Inventory.Effects
import MeeoServer.Storefront.Checkout

namespace MeeoServer.Storefront

/-! ## The items -/

/-- What the validation has established of the items: their variants differ, and each is in
stock. -/
structure Supplied (stock : Stock) (items : List OrderItem) : Prop where
  nodup : (items.map OrderItem.variantId).Nodup
  pos : ∀ item ∈ items, 0 < item.quantity
  le : ∀ item ∈ items, (item.quantity : ℤ) ≤ stock.available item.variantId

lemma validateCartItem_eq_ok {tables : Tables} {now : Millis} {item : CartItem}
    {valid : ValidatedCartItem} (h : validateCartItem tables now item = .ok valid) :
    valid.variantId = item.variantId ∧ valid.quantity = item.quantity ∧
      (item.quantity : ℤ) ≤ tables.stock.available item.variantId := by
  unfold validateCartItem at h
  split at h
  · exact nomatch h
  · rename_i variant hvariant
    have hid : variant.id = item.variantId := by
      simpa using List.find?_some hvariant
    split at h
    · exact nomatch h
    · dsimp only at h
      split_ifs at h with hproduct hstatus hstock
      obtain ⟨taxDetails, -, h⟩ := bind_eq_ok.mp h
      obtain rfl := Except.ok.inj h
      refine ⟨hid, rfl, ?_⟩
      rw [← hid]
      exact not_lt.mp hstock

lemma toOrderItem_variantId (i : ValidatedCartItem) :
    i.toOrderItem.variantId = i.variantId := rfl

lemma toOrderItem_quantity (i : ValidatedCartItem) : i.toOrderItem.quantity = i.quantity := rfl

lemma supplied_of_forall₂ {tables : Tables} {now : Millis} {items : List CartItem}
    {valid : List ValidatedCartItem}
    (h : List.Forall₂ (fun item v => validateCartItem tables now item = .ok v) items valid)
    (hpos : ∀ item ∈ items, 0 < item.quantity)
    (hnodup : (items.map CartItem.variantId).Nodup) :
    Supplied tables.stock (valid.map ValidatedCartItem.toOrderItem) := by
  have hvariants : (valid.map ValidatedCartItem.toOrderItem).map OrderItem.variantId =
      items.map CartItem.variantId := by
    rw [List.map_map]
    clear hpos hnodup
    induction h with
    | nil => rfl
    | cons hitem _ ih =>
      rw [List.map_cons, List.map_cons, ih]
      exact congrArg (· :: _) (validateCartItem_eq_ok hitem).1
  have hitems : ∀ o ∈ valid.map ValidatedCartItem.toOrderItem,
      0 < o.quantity ∧ (o.quantity : ℤ) ≤ tables.stock.available o.variantId := by
    clear hvariants hnodup
    induction h with
    | nil => simp
    | cons hitem _ ih =>
      rw [List.forall_mem_cons] at hpos
      obtain ⟨hid, hquantity, hle⟩ := validateCartItem_eq_ok hitem
      rw [List.map_cons, List.forall_mem_cons]
      refine ⟨⟨?_, ?_⟩, ih hpos.2⟩
      · rw [toOrderItem_quantity, hquantity]
        exact hpos.1
      · rw [toOrderItem_quantity, toOrderItem_variantId, hid, hquantity]
        exact hle
  exact ⟨hvariants ▸ hnodup, fun o ho => (hitems o ho).1, fun o ho => (hitems o ho).2⟩

lemma validateCartAndItems_supplied {store : Store} {userId : UserId} {cartId : Option CartId}
    {now : Millis} {cart : ValidatedCart}
    (h : validateCartAndItems store.toTables userId cartId now = .ok cart) :
    Supplied store.stock (cart.items.map ValidatedCartItem.toOrderItem) := by
  unfold validateCartAndItems at h
  split at h
  · exact nomatch h
  · rename_i row hrow
    split_ifs at h with hempty
    obtain ⟨items, hitems, h⟩ := bind_eq_ok.mp h
    obtain rfl := Except.ok.inj h
    have hmem := List.mem_of_find?_eq_some hrow
    exact supplied_of_forall₂ (mapM_eq_ok hitems) (store.quantities_pos row hmem)
      (store.cartItems_nodup row hmem)

/-! ## The reservations -/

/-- Every item has an inventory row. -/
def Stocked (stock : Stock) (items : List OrderItem) : Prop :=
  ∀ item ∈ items, (stock.inventory item.variantId).isSome

lemma incrementInventory_isSome {stock : Stock} {v : VariantId} (available reserved : ℤ)
    (h : (stock.inventory v).isSome) :
    ∃ stock', stock.incrementInventory v available reserved = some stock' ∧
      ∀ w, (stock'.inventory w).isSome = (stock.inventory w).isSome := by
  obtain ⟨row, hrow⟩ := Option.isSome_iff_exists.mp h
  have hsome : ∃ stock', stock.incrementInventory v available reserved = some stock' := by
    unfold Stock.incrementInventory
    rw [hrow]
    exact ⟨_, rfl⟩
  obtain ⟨stock', hstock'⟩ := hsome
  exact ⟨stock', hstock', fun w => (Stock.incrementInventory_eq_some hstock').2.2.2⟩

lemma Supplied.stocked {stock : Stock} {items : List OrderItem} (h : Supplied stock items) :
    Stocked stock items := by
  intro item hitem
  have hpos := h.pos item hitem
  have hle := h.le item hitem
  cases hrow : stock.inventory item.variantId with
  | some row => rfl
  | none =>
    have hzero : stock.available item.variantId = 0 := by simp [Stock.available, hrow]
    omega

lemma reserveItemsForOrder_ok {stock : Stock} {item : OrderItem} (orderId : OrderId)
    (expiresAt : Millis) (hsome : (stock.inventory item.variantId).isSome)
    (hle : (item.quantity : ℤ) ≤ stock.available item.variantId) :
    ∃ stock', reserveItemsForOrder orderId expiresAt stock item = .ok stock' ∧
      (∀ w, w ≠ item.variantId → stock'.available w = stock.available w) ∧
      ∀ w, (stock'.inventory w).isSome = (stock.inventory w).isSome := by
  obtain ⟨row, hrow⟩ := Option.isSome_iff_exists.mp hsome
  obtain ⟨stock', hincrement, hinventory⟩ :=
    incrementInventory_isSome (-item.quantity) item.quantity hsome
  have hhold : ∃ held, stock.hold item.variantId item.quantity (some orderId) expiresAt =
      some held ∧ ∀ w, (held.inventory w).isSome = (stock.inventory w).isSome := by
    unfold Stock.hold
    rw [hincrement]
    exact ⟨_, rfl, hinventory⟩
  obtain ⟨held, hheld, hkept⟩ := hhold
  refine ⟨held, ?_, ?_, hkept⟩
  · have hrowle : ¬row.availableQuantity < item.quantity := by
      simpa [Stock.available, hrow] using hle
    unfold reserveItemsForOrder
    rw [hrow]
    dsimp only
    rw [if_neg hrowle, hheld]
  · intro w hw
    rw [(Stock.hold_eq_some hheld).1 w, if_neg hw, sub_zero]

lemma foldlM_reserve_ok {stock : Stock} {items : List OrderItem} (orderId : OrderId)
    (expiresAt : Millis) (h : Supplied stock items) :
    ∃ stock', items.foldlM (reserveItemsForOrder orderId expiresAt) stock = .ok stock' ∧
      ∀ w, (stock'.inventory w).isSome = (stock.inventory w).isSome := by
  induction items generalizing stock with
  | nil => exact ⟨stock, rfl, fun _ => rfl⟩
  | cons item items ih =>
    have hmem : item ∈ item :: items := List.mem_cons_self
    obtain ⟨held, hheld, havailable, hkept⟩ :=
      reserveItemsForOrder_ok orderId expiresAt (h.stocked item hmem) (h.le item hmem)
    have hnodup := h.nodup
    rw [List.map_cons, List.nodup_cons] at hnodup
    -- the other lines are about other variants
    have hrest : Supplied held items := by
      refine ⟨hnodup.2, fun o ho => h.pos o (List.mem_cons_of_mem _ ho), fun o ho => ?_⟩
      have hne : o.variantId ≠ item.variantId :=
        fun heq => hnodup.1 (heq ▸ List.mem_map_of_mem ho)
      rw [havailable _ hne]
      exact h.le o (List.mem_cons_of_mem _ ho)
    obtain ⟨stock', hstock', hkept'⟩ := ih hrest
    refine ⟨stock', ?_, fun w => (hkept' w).trans (hkept w)⟩
    rw [List.foldlM_cons, hheld]
    exact hstock'

lemma sellItems_isSome {stock : Stock} {items : List OrderItem} (orderId : OrderId)
    (h : Stocked stock items) : ∃ stock', stock.sellItems orderId items = some stock' := by
  have hsold : ∃ sold, items.foldlM (fun s item =>
      Stock.incrementInventory s item.variantId 0 (-item.quantity)) stock = some sold := by
    clear orderId
    induction items generalizing stock with
    | nil => exact ⟨stock, rfl⟩
    | cons item items ih =>
      obtain ⟨next, hnext, hkept⟩ :=
        incrementInventory_isSome 0 (-item.quantity) (h item List.mem_cons_self)
      obtain ⟨sold, hsold⟩ := @ih next fun o ho => by
        rw [hkept]
        exact h o (List.mem_cons_of_mem _ ho)
      refine ⟨sold, ?_⟩
      rw [List.foldlM_cons, hnext]
      exact hsold
  obtain ⟨sold, hsold⟩ := hsold
  unfold Stock.sellItems
  rw [hsold]
  exact ⟨_, rfl⟩

lemma reserveStock_ok {stock : Stock} {items : List OrderItem} (orderId : OrderId)
    (isCod : Bool) (now : Millis) (h : Supplied stock items) :
    ∃ stock', reserveStock orderId isCod now stock items = .ok stock' := by
  obtain ⟨held, hheld, hkept⟩ := foldlM_reserve_ok orderId (now + minutes 30) h
  unfold reserveStock
  rw [hheld]
  cases isCod with
  | false => exact ⟨held, rfl⟩
  | true =>
    have hstocked : Stocked held items := fun item hitem => by
      rw [hkept]
      exact h.stocked item hitem
    obtain ⟨sold, hsold⟩ := sellItems_isSome orderId hstocked
    refine ⟨sold, bind_eq_ok.mpr ⟨held, rfl, ?_⟩⟩
    rw [if_pos rfl, hsold]
    rfl

/-! ## The usages -/

/-- The promotion still exists, and neither its limit nor that of the user is reached. -/
def Tables.Redeemable (tables : Tables) (userId : UserId) (id : PromotionId) : Prop :=
  ∃ promo ∈ tables.promotion id,
    (∀ limit ∈ promo.totalUsageLimit, promo.currentUsageCount < limit) ∧
      ∀ limit ∈ promo.userUsageLimit, limit ≠ 0 → tables.redemptions id userId < limit

instance (tables : Tables) (userId : UserId) (id : PromotionId) :
    Decidable (tables.Redeemable userId id) := by
  unfold Tables.Redeemable
  infer_instance

section Usages

variable (userId : UserId) (orderId : OrderId) {tables tables' : Tables}
  {applied : AppliedPromotionDetail}

lemma promotion_id {id : PromotionId} {promo : Promotion}
    (h : tables.promotion id = some promo) : promo.id = id := by
  simpa using List.find?_some h

/-- A usage is recorded exactly while the limits allow it. -/
lemma recordUsage_ok_iff :
    (∃ tables', recordUsage userId orderId tables applied = .ok tables') ↔
      tables.Redeemable userId applied.id := by
  unfold Tables.Redeemable recordUsage
  cases hpromo : tables.promotion applied.id with
  | none => simp
  | some promo =>
    have hid := promotion_id hpromo
    simp only [Option.mem_def, Option.some.injEq, exists_eq_left', hid]
    by_cases htotal : ∃ limit, promo.totalUsageLimit = some limit ∧
        limit ≤ promo.currentUsageCount
    · obtain ⟨limit, hlimit, hle⟩ := htotal
      simp [hlimit, hle]
    · rw [if_neg htotal]
      simp only [not_exists, not_and, not_le] at htotal
      cases hlimit : promo.userUsageLimit with
      | none => simpa using htotal
      | some limit =>
        by_cases huser : limit ≠ 0 ∧ limit ≤ tables.redemptions applied.id userId
        · simp [huser]
        · simp only [Option.getD_some, huser, if_false, Except.ok.injEq, exists_eq',
            Option.some.injEq, forall_eq', true_iff]
          exact ⟨htotal, fun hne => not_le.mp fun hle => huser ⟨hne, hle⟩⟩

lemma find?_incrementUsage {id other : PromotionId} (h : id ≠ other) (rows : List Promotion) :
    (rows.map (incrementUsage other)).find? (fun p => decide (p.id = id)) =
      rows.find? fun p => decide (p.id = id) := by
  have hcongr : ((fun p : Promotion => decide (p.id = id)) ∘ incrementUsage other) =
      fun p : Promotion => decide (p.id = id) := by
    funext p
    simp [incrementUsage_id]
  rw [List.find?_map, hcongr]
  cases hfind : rows.find? fun p => decide (p.id = id) with
  | none => rfl
  | some p =>
    have hp : p.id = id := by simpa using List.find?_some hfind
    have hne : p.id ≠ other := by rwa [hp]
    simp [incrementUsage, hne]

lemma countP_append_usage {id other : PromotionId} (h : id ≠ other)
    (usages : List PromotionUsage) (discountAmount : ℚ) :
    (usages ++ [PromotionUsage.mk other userId orderId discountAmount]).countP
        (fun u => u.promotionId = id && u.userId = userId) =
      usages.countP fun u => u.promotionId = id && u.userId = userId := by
  rw [List.countP_append]
  simp [h.symm]

variable {userId orderId} in
/-- Recording a usage leaves the other promotions as they are. -/
lemma recordUsage_redeemable (h : recordUsage userId orderId tables applied = .ok tables')
    {id : PromotionId} (hid : id ≠ applied.id) :
    tables'.Redeemable userId id ↔ tables.Redeemable userId id := by
  unfold recordUsage at h
  split at h
  · exact nomatch h
  · rename_i promo hpromo
    dsimp only at h
    split_ifs at h with htotal huser
    obtain rfl := Except.ok.inj h
    have hne : id ≠ promo.id := by
      rw [promotion_id hpromo]
      exact hid
    have hrow := find?_incrementUsage hne tables.promotions.rows
    have hcount := countP_append_usage userId orderId hne
      tables.promotionUsages applied.discountAmount
    unfold Tables.Redeemable Tables.promotion Tables.redemptions
    simp only [incrementUsageCount, hrow, hcount]

lemma foldlM_recordUsage_ok_iff (tables : Tables) {l : List AppliedPromotionDetail}
    (hnodup : (l.map AppliedPromotionDetail.id).Nodup) :
    (∃ tables', l.foldlM (recordUsage userId orderId) tables = .ok tables') ↔
      ∀ applied ∈ l, tables.Redeemable userId applied.id := by
  induction l generalizing tables with
  | nil => exact ⟨fun _ _ h => (nomatch h), fun _ => ⟨tables, rfl⟩⟩
  | cons applied l ih =>
    rw [List.map_cons, List.nodup_cons] at hnodup
    rw [List.foldlM_cons, List.forall_mem_cons, ← recordUsage_ok_iff userId orderId]
    have hrest : ∀ next, recordUsage userId orderId tables applied = .ok next →
        ((∃ tables', l.foldlM (recordUsage userId orderId) next = .ok tables') ↔
          ∀ applied ∈ l, tables.Redeemable userId applied.id) := by
      intro next hnext
      rw [ih next hnodup.2]
      refine forall₂_congr fun a ha => recordUsage_redeemable hnext ?_
      exact fun heq => hnodup.1 (heq ▸ List.mem_map_of_mem ha)
    constructor
    · rintro ⟨tables', h⟩
      obtain ⟨next, hnext, h⟩ := bind_eq_ok.mp h
      exact ⟨⟨next, hnext⟩, (hrest next hnext).mp ⟨tables', h⟩⟩
    · rintro ⟨⟨next, hnext⟩, h⟩
      obtain ⟨tables', htables'⟩ := (hrest next hnext).mpr h
      exact ⟨tables', bind_eq_ok.mpr ⟨next, hnext, htables'⟩⟩

end Usages

/-! ## The agreement -/

section Agreement

variable (toUpperCase : String → String) (store : Store) (userId : UserId)
  (input : CheckoutInput) (now : Millis)

/-- The candidates of a checkout have different identifiers. -/
lemma nodup_candidates (promoCode : Option String) :
    ((resolveCandidatePromotions toUpperCase store.promotions store.promotionCache
      promoCode).1.map Promotion.id).Nodup := by
  have hautomatic : ((resolveAutomatic store.promotions store.promotionCache).1.map
      Promotion.id).Nodup := by
    unfold resolveAutomatic
    cases hcache : store.promotionCache.automatic with
    | none => exact store.promotions.nodup_automatic
    | some promos => exact store.cached_nodup promos hcache
  unfold resolveCandidatePromotions
  dsimp only
  split_ifs with hcode
  · exact hautomatic
  · exact nodup_pushCandidate hautomatic

lemma eligiblePromotions_sublist (promotions : List Promotion)
    (context : PromotionEvaluationContext) :
    ((eligiblePromotions promotions context now).map fun candidate => candidate.1.id).Sublist
      (promotions.map Promotion.id) := by
  rw [eligiblePromotions_eq_filterMap]
  induction promotions with
  | nil => exact List.Sublist.refl _
  | cons promo promotions ih =>
    rw [List.filterMap_cons]
    cases (checkEligibility promo context now).toOption with
    | none => exact ih.cons _
    | some eligibility => exact ih.cons_cons _

/-- No promotion is applied twice. -/
lemma nodup_applied (preview : PreviewPromotionInput) :
    ((previewCart toUpperCase store.toTables preview (some userId) now).1.appliedPromotions.map
      AppliedPromotionDetail.id).Nodup := by
  unfold previewCart
  dsimp only
  rw [appliedPromotions_evaluate]
  refine (applied_stack _ _).nodup ?_
  have hsort := (List.perm_insertionSort
    (fun a b : Promotion × Eligibility => b.1.priority ≤ a.1.priority)
    (eligiblePromotions (resolveCandidatePromotions toUpperCase store.promotions
      store.promotionCache preview.promoCode).1
        (previewContext store.toTables preview (some userId)) now)).map
          fun candidate => candidate.1.id
  refine hsort.nodup_iff.mpr ?_
  exact (eligiblePromotions_sublist now _ _).nodup
    (nodup_candidates toUpperCase store preview.promoCode)

/-- Every promotion that the engine applies to the cart of the request can still be redeemed by
the user. -/
def EveryUsageLeft : Prop :=
  ∀ cart ∈ (validateCartAndItems store.toTables userId input.cartId now).toOption,
    ∀ applied ∈ (previewCart toUpperCase store.toTables (promotionInput input cart.items)
        (some userId) now).1.appliedPromotions,
      store.Redeemable userId applied.id

instance : Decidable (EveryUsageLeft toUpperCase store userId input now) := by
  unfold EveryUsageLeft
  infer_instance

variable {toUpperCase store userId input now}

/-- The transaction goes through exactly if the order number is new and every applied promotion
can be redeemed. -/
lemma placeOrder_ok_iff (orderNumber : String) {priced : PricedCheckout} {tables' : Tables}
    (h : priceCheckout toUpperCase store.toTables userId input now = .ok (priced, tables')) :
    (∃ order after, placeOrder tables' orderNumber userId input priced now =
        .ok (order, after) ∧ order.financials = priced.financials) ↔
      orderNumber ∉ store.orders.map PlacedOrder.orderNumber ∧
        ∀ applied ∈ priced.promotions.appliedPromotions,
          store.Redeemable userId applied.id := by
  obtain ⟨hcart, hpromotions, cache, sellers, rfl⟩ := priceCheckout_eq_ok h
  obtain ⟨stock, hstock⟩ := reserveStock_ok store.orders.length input.isCod now
    (validateCartAndItems_supplied hcart)
  have hnodup : (priced.promotions.appliedPromotions.map AppliedPromotionDetail.id).Nodup := by
    rw [hpromotions]
    exact nodup_applied toUpperCase store userId now _
  unfold placeOrder
  by_cases hnumber : orderNumber ∈ store.orders.map PlacedOrder.orderNumber
  · rw [if_pos hnumber]
    exact ⟨fun ⟨_, _, hplaced, _⟩ => (nomatch hplaced), fun hnew => absurd hnumber hnew.1⟩
  · rw [if_neg hnumber]
    -- the tables that the usages are recorded in
    have hrecord := foldlM_recordUsage_ok_iff userId store.orders.length
      { store.toTables with
        promotionCache := cache
        sellers := sellers
        orders := store.orders ++ [placedOrder orderNumber userId input priced]
        stock := stock
        couponUsages := recordCouponUsage userId store.orders.length priced.coupon
          store.couponUsages } hnodup
    constructor
    · rintro ⟨order, after, hplaced, -⟩
      obtain ⟨reserved, hreserved, hplaced⟩ := bind_eq_ok.mp hplaced
      obtain rfl : stock = reserved := Except.ok.inj (hstock.symm.trans hreserved)
      obtain ⟨recorded, hrecorded, -⟩ := bind_eq_ok.mp hplaced
      exact ⟨hnumber, hrecord.mp ⟨recorded, hrecorded⟩⟩
    · rintro ⟨-, hredeemable⟩
      obtain ⟨recorded, hrecorded⟩ := hrecord.mpr hredeemable
      exact ⟨_, _, bind_eq_ok.mpr ⟨stock, hstock, bind_eq_ok.mpr ⟨recorded, hrecorded, rfl⟩⟩,
        rfl⟩

end Agreement

/-! ## A discount for one order -/

/-- Ten per cent off everything, once for each customer. -/
def welcomeOffer : PromotionTable :=
  .single { futureSale with startsAt := none, userUsageLimit := some 1 } (by decide +kernel)

/-- The shop with the offer, and the orders in which it was used. -/
def offerShop (usages : List PromotionUsage) : Store := lampShop none welcomeOffer usages

end MeeoServer.Storefront
