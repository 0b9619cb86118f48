/-
# Pricing without the rows of another customer

A checkout looks for a cart and addresses of its user, and counts the orders of the user.  The
amounts it works out are the same without the rows of another customer.
-/
import MeeoServer.Customers.Ownership

namespace MeeoServer.Customers

open Storefront

/-! ## The shared tables -/

/-- The tables with other rows of customers. -/
def withRows (t : Tables) (carts : List Cart) (addresses : List Address)
    (orders : List PlacedOrder) : Tables :=
  { t with carts := carts, addresses := addresses, orders := orders }

section Shared

variable {toUpperCase : String → String} {t : Tables} {carts : List Cart}
  {addresses : List Address} {orders : List PlacedOrder} {userId : UserId}
  {input : CheckoutInput} {now : Millis}

lemma recordUsage_withRows {orderId : OrderId} (applied : AppliedPromotionDetail) :
    recordUsage userId orderId (withRows t carts addresses orders) applied =
      (recordUsage userId orderId t applied).map
        fun t => withRows t carts addresses orders := by
  have hpromotion : (withRows t carts addresses orders).promotion applied.id =
      t.promotion applied.id := rfl
  have hredemptions : (withRows t carts addresses orders).redemptions = t.redemptions := rfl
  unfold recordUsage
  rw [hpromotion, hredemptions]
  cases t.promotion applied.id with
  | none => rfl
  | some promo =>
    dsimp only
    split_ifs <;> rfl

lemma foldlM_recordUsage_withRows {orderId : OrderId} (l : List AppliedPromotionDetail) :
    l.foldlM (recordUsage userId orderId) (withRows t carts addresses orders) =
      (l.foldlM (recordUsage userId orderId) t).map
        fun t => withRows t carts addresses orders := by
  induction l generalizing t with
  | nil => rfl
  | cons applied l ih =>
    rw [List.foldlM_cons, List.foldlM_cons, recordUsage_withRows]
    cases recordUsage userId orderId t applied with
    | error e => rfl
    | ok t' => exact ih

/-- The amounts depend on the cart, the addresses and the number of orders of the user. -/
lemma priceCheckout_withRows
    (hcart : validateCartAndItems (withRows t carts addresses orders) userId input.cartId now =
      validateCartAndItems t userId input.cartId now)
    (haddress : resolveAddresses (withRows t carts addresses orders) userId input =
      resolveAddresses t userId input)
    (hcount : orderCount (withRows t carts addresses orders) (some userId) =
      orderCount t (some userId)) :
    priceCheckout toUpperCase (withRows t carts addresses orders) userId input now =
      (priceCheckout toUpperCase t userId input now).map
        fun r => (r.1, withRows r.2 carts addresses orders) := by
  -- of the orders the promotions only see how many the user has
  have hpreview : ∀ items : List ValidatedCartItem,
      previewCart toUpperCase (withRows t carts addresses orders) (promotionInput input items)
        (some userId) now =
      previewCart toUpperCase t (promotionInput input items) (some userId) now := by
    intro items
    unfold previewCart previewContext customerSegment
    rw [hcount]
    rfl
  have hcoupon : validateAndCalculateDiscount toUpperCase (withRows t carts addresses orders) =
      validateAndCalculateDiscount toUpperCase t := rfl
  have hseller : getDefaultSellerProfile (withRows t carts addresses orders) =
      getDefaultSellerProfile t := rfl
  have hrule : resolveApplicableRule (withRows t carts addresses orders) =
      resolveApplicableRule t := rfl
  -- the two sides read the same at every step, and fail at the same one
  unfold priceCheckout
  rw [hcart, haddress, hcoupon, hseller, hrule]
  cases validateCartAndItems t userId input.cartId now with
  | error e => rfl
  | ok cart =>
    cases resolveAddresses t userId input with
    | error e => rfl
    | ok resolved =>
      dsimp only [bind, Except.bind]
      rw [hpreview]
      cases validateAndCalculateDiscount toUpperCase t input.couponCode cart.subtotal userId
        now with
      | error e => rfl
      | ok coupon =>
        cases getDefaultSellerProfile t with
        | error e => rfl
        | ok seller =>
          cases resolveApplicableRule t "9968" now with
          | error e => rfl
          | ok rule =>
            dsimp only
            cases cart.items.mapM gstLine with
            | error e => rfl
            | ok items => rfl

end Shared

/-! ## The rows of the user -/

section Rows

variable {s : Shop} {v userId : UserId} {input : CheckoutInput} {now : Millis}

lemma tables_without : (s.without v).tables =
    withRows s.tables (s.without v).carts ((s.without v).addresses.map SavedAddress.toAddress)
      ((s.without v).orders.map Order.toPlacedOrder) := rfl

lemma validateCartAndItems_without (hne : userId ≠ v) (cartId : Option CartId) :
    validateCartAndItems (s.without v).tables userId cartId now =
      validateCartAndItems s.tables userId cartId now := by
  have hfind : (s.without v).carts.find?
        (fun c => cartId.all (c.id = ·) && c.userId = some userId) =
      s.carts.find? fun c => cartId.all (c.id = ·) && c.userId = some userId := by
    refine Table.find?_filter_of fun c _ hc => ?_
    rw [of_decide_eq_true (Bool.and_eq_true_iff.mp hc).2]
    exact decide_eq_true fun heq => hne (Option.some.inj heq)
  have hitem : validateCartItem (s.without v).tables now = validateCartItem s.tables now := rfl
  have hcarts : (s.without v).tables.carts = (s.without v).carts := rfl
  unfold validateCartAndItems
  rw [hcarts, hfind, hitem]
  rfl

/-- The address of another customer is refused in the words for an address that is missing. -/
lemma savedAddress_without (hs : s.Sound) (hne : userId ≠ v) (kind : String) (id : AddressId) :
    savedAddress (s.without v).tables kind userId id = savedAddress s.tables kind userId id := by
  have hfind : ∀ s : Shop, s.tables.addresses.find? (fun a => a.id = id) =
      (s.addresses.find? fun a => a.id = id).map SavedAddress.toAddress := by
    intro s
    show (s.addresses.map SavedAddress.toAddress).find? _ = _
    rw [List.find?_map]
    rfl
  unfold savedAddress
  rw [hfind, hfind]
  by_cases hmine : ∀ a ∈ s.addresses, a.id = id → a.userId ≠ v
  · have hsame : (s.without v).addresses.find? (fun a => a.id = id) =
        s.addresses.find? fun a => a.id = id :=
      Table.find?_filter_of fun a ha hid => decide_eq_true (hmine a ha (of_decide_eq_true hid))
    rw [hsame]
  · obtain ⟨a, ha, hid, huser⟩ : ∃ a ∈ s.addresses, a.id = id ∧ a.userId = v := by
      simpa using hmine
    -- the only row with the identifier belongs to `v`
    have honly : ∀ b ∈ s.addresses, b.id = id → b = a := fun b hb hb' =>
      List.inj_on_of_nodup_map hs.addresses_nodup hb ha (hb'.trans hid.symm)
    have hfound : s.addresses.find? (fun a => a.id = id) = some a := by
      cases hcase : s.addresses.find? fun a => a.id = id with
      | some b =>
        have hb := List.find?_some hcase
        rw [honly b (List.mem_of_find?_eq_some hcase) (of_decide_eq_true hb)]
      | none => exact absurd (decide_eq_true hid) (List.find?_eq_none.mp hcase a ha)
    have hgone : (s.without v).addresses.find? (fun a => a.id = id) = none := by
      refine List.find?_eq_none.mpr fun b hb hb' => ?_
      obtain ⟨hmem, hb⟩ := List.mem_filter.mp hb
      rw [honly b hmem (of_decide_eq_true hb')] at hb
      exact of_decide_eq_true hb huser
    rw [hfound, hgone]
    exact (if_pos fun heq => hne (heq.symm.trans huser)).symm

lemma resolveAddresses_without (hs : s.Sound) (hne : userId ≠ v) :
    resolveAddresses (s.without v).tables userId input =
      resolveAddresses s.tables userId input := by
  unfold resolveAddresses
  simp only [savedAddress_without hs hne]

lemma orderCount_without (hne : userId ≠ v) :
    orderCount (s.without v).tables (some userId) = orderCount s.tables (some userId) := by
  show ((s.without v).orders.map Order.toPlacedOrder).countP _ =
    (s.orders.map Order.toPlacedOrder).countP _
  rw [List.countP_map, List.countP_map]
  refine Table.countP_filter_of fun o _ ho => ?_
  have huser : o.userId = userId := of_decide_eq_true (Bool.and_eq_true_iff.mp ho).1
  exact decide_eq_true (huser ▸ hne)

lemma priceCheckout_without {toUpperCase : String → String} (hs : s.Sound) (hne : userId ≠ v) :
    priceCheckout toUpperCase (s.without v).tables userId input now =
      (priceCheckout toUpperCase s.tables userId input now).map fun r =>
        (r.1, withRows r.2 (s.without v).carts
          ((s.without v).addresses.map SavedAddress.toAddress)
          ((s.without v).orders.map Order.toPlacedOrder)) := by
  rw [tables_without]
  refine priceCheckout_withRows ?_ ?_ ?_
  · exact validateCartAndItems_without hne input.cartId
  · exact resolveAddresses_without hs hne
  · exact orderCount_without hne

/-- A priced cart is a cart of the user. -/
lemma cart_of_priceCheckout {toUpperCase : String → String} {r : PricedCheckout × Tables}
    (h : priceCheckout toUpperCase s.tables userId input now = .ok r) :
    ∃ cart ∈ s.carts, cart.id = r.1.cart.cartId ∧ cart.userId = some userId := by
  obtain ⟨hcart, -⟩ := priceCheckout_eq_ok h
  unfold validateCartAndItems at hcart
  split at hcart
  · exact nomatch hcart
  · rename_i cart hfind
    have hp := List.find?_some hfind
    refine ⟨cart, List.mem_of_find?_eq_some hfind, ?_,
      of_decide_eq_true (Bool.and_eq_true_iff.mp hp).2⟩
    split at hcart
    · exact nomatch hcart
    · obtain ⟨items, -, hcart⟩ := bind_eq_ok.mp hcart
      rw [← Except.ok.inj hcart]

end Rows

end MeeoServer.Customers
