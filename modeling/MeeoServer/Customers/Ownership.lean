/-
# Rows and their customers

`Sound` is what the tables keep: identifiers are unique, and an order refers to a cart of its
customer.  `rowsOf v` are the rows of a customer, and `without v` is the shop without them.  The
statements of the services keep the invariant; the rows of `v` notice only the statements that
are about one of them; and whatever a statement is about, it does the same without the rows of
`v`.
-/
import MeeoServer.Customers.Tables
import MeeoServer.Process.Confinement

namespace MeeoServer.Customers

open Storefront

/-! ## The invariant -/

/-- An order as the other tables refer to it. -/
def Order.reference (o : Order) : OrderId × UserId × Option CartId := (o.id, o.userId, o.cart)

structure Shop.Sound (s : Shop) : Prop where
  orders_nodup : (s.orders.map Order.id).Nodup
  payments_nodup : (s.payments.map Payment.id).Nodup
  attempts_nodup : (s.attempts.map PaymentAttempt.id).Nodup
  carts_nodup : (s.carts.map Cart.id).Nodup
  addresses_nodup : (s.addresses.map fun a => a.id).Nodup
  order_cart : ∀ o ∈ s.orders, ∀ c ∈ o.cart, ∃ cart ∈ s.carts, cart.id = c ∧
    cart.userId = some o.userId

/-- The tables have the same rows, with the same references, and differ in what the rows say. -/
structure SameRows (s t : Shop) : Prop where
  orders : t.orders.map Order.reference = s.orders.map Order.reference
  payments : t.payments.map (fun p => (p.id, p.orderId)) =
    s.payments.map fun p => (p.id, p.orderId)
  attempts : t.attempts.map (fun a => (a.id, a.paymentId)) =
    s.attempts.map fun a => (a.id, a.paymentId)
  carts : t.carts.map (fun c => (c.id, c.userId)) = s.carts.map fun c => (c.id, c.userId)
  addresses : t.addresses.map (fun a => (a.id, a.userId)) =
    s.addresses.map fun a => (a.id, a.userId)

lemma SameRows.refl (s : Shop) : SameRows s s := ⟨rfl, rfl, rfl, rfl, rfl⟩

lemma SameRows.trans {s t u : Shop} (h : SameRows s t) (h' : SameRows t u) : SameRows s u where
  orders := h'.orders.trans h.orders
  payments := h'.payments.trans h.payments
  attempts := h'.attempts.trans h.attempts
  carts := h'.carts.trans h.carts
  addresses := h'.addresses.trans h.addresses

/-- What is said of two columns is said of the first. -/
lemma map_fst_eq {α κ μ : Type} {f : α → κ} {g : α → μ} {l l' : List α}
    (h : l'.map (fun a => (f a, g a)) = l.map fun a => (f a, g a)) : l'.map f = l.map f := by
  have hfst := congrArg (List.map Prod.fst) h
  rw [List.map_map, List.map_map] at hfst
  exact hfst

namespace Shop

variable {s t : Shop} {v : UserId}

lemma Sound.sameRows (hs : s.Sound) (h : SameRows s t) : t.Sound where
  orders_nodup := by
    have hid : t.orders.map Order.id = s.orders.map Order.id := map_fst_eq h.orders
    rw [hid]
    exact hs.orders_nodup
  payments_nodup := by
    have hid : t.payments.map Payment.id = s.payments.map Payment.id := map_fst_eq h.payments
    rw [hid]
    exact hs.payments_nodup
  attempts_nodup := by
    have hid : t.attempts.map PaymentAttempt.id = s.attempts.map PaymentAttempt.id :=
      map_fst_eq h.attempts
    rw [hid]
    exact hs.attempts_nodup
  carts_nodup := by
    have hid : t.carts.map Cart.id = s.carts.map Cart.id := map_fst_eq h.carts
    rw [hid]
    exact hs.carts_nodup
  addresses_nodup := by
    have hid : t.addresses.map (fun a => a.id) = s.addresses.map fun a => a.id :=
      map_fst_eq h.addresses
    rw [hid]
    exact hs.addresses_nodup
  order_cart := by
    intro o ho c hc
    have href : o.reference ∈ s.orders.map Order.reference := by
      rw [← h.orders]
      exact List.mem_map_of_mem ho
    -- the order was there before, with the same owner and the same cart
    obtain ⟨o', ho', heq⟩ := List.mem_map.mp href
    obtain ⟨-, huser, hcart⟩ : o'.id = o.id ∧ o'.userId = o.userId ∧ o'.cart = o.cart := by
      simpa [Order.reference] using heq
    obtain ⟨cart, hmem, hid, hcartUser⟩ := hs.order_cart o' ho' c (hcart ▸ hc)
    have hpair : (cart.id, cart.userId) ∈ t.carts.map fun c => (c.id, c.userId) := by
      rw [h.carts]
      exact List.mem_map_of_mem hmem
    obtain ⟨cart', hmem', heq'⟩ := List.mem_map.mp hpair
    obtain ⟨hid', huser'⟩ := Prod.mk.inj heq'
    exact ⟨cart', hmem', hid'.trans hid, huser'.trans (hcartUser.trans (congrArg some huser))⟩

/-! ## The rows of a customer -/

variable (s t v)

/-- The rows of a customer. -/
structure OwnedRows where
  orders : List Order
  payments : List Payment
  attempts : List PaymentAttempt
  carts : List Cart
  addresses : List SavedAddress
deriving DecidableEq

def rowsOf : OwnedRows where
  orders := s.orders.filter fun o => o.userId = v
  payments := s.payments.filter fun p => s.orderIsOf v p.orderId
  attempts := s.attempts.filter fun a => s.paymentIsOf v a.paymentId
  carts := s.carts.filter fun c => c.userId = some v
  addresses := s.addresses.filter fun a => a.userId = v

/-- The shop without the rows of a customer, and without what was answered to him. -/
def without : Shop where
  clock := s.clock
  catalogue := s.catalogue
  orders := s.orders.filter fun o => o.userId ≠ v
  payments := s.payments.filter fun p => !s.orderIsOf v p.orderId
  attempts := s.attempts.filter fun a => !s.paymentIsOf v a.paymentId
  carts := s.carts.filter fun c => c.userId ≠ some v
  addresses := s.addresses.filter fun a => a.userId ≠ v
  keys := s.keys.filter fun k => k.userId ≠ v

variable {s t v}

/-! ## Whose rows they are, after a statement -/

lemma orderIsOf_congr
    (h : t.orders.map (fun o => (o.id, o.userId)) = s.orders.map fun o => (o.id, o.userId)) :
    t.orderIsOf v = s.orderIsOf v := by
  funext id
  have hany : ∀ s : Shop, s.orderIsOf v id =
      (s.orders.map fun o => (o.id, o.userId)).any fun x => x.1 = id && x.2 = v := by
    intro s
    rw [List.any_map]
    rfl
  rw [hany, hany, h]

lemma paymentIsOf_congr (horder : t.orderIsOf v = s.orderIsOf v)
    (h : t.payments.map (fun p => (p.id, p.orderId)) = s.payments.map fun p => (p.id, p.orderId)) :
    t.paymentIsOf v = s.paymentIsOf v := by
  funext id
  have hany : ∀ s : Shop, s.paymentIsOf v id =
      (s.payments.map fun p => (p.id, p.orderId)).any fun x => x.1 = id && s.orderIsOf v x.2 := by
    intro s
    rw [List.any_map]
    rfl
  rw [hany, hany, h, horder]

lemma orderIsOf_sameRows (h : SameRows s t) : t.orderIsOf v = s.orderIsOf v := by
  refine orderIsOf_congr ?_
  have hpair := congrArg (List.map fun x : OrderId × UserId × Option CartId => (x.1, x.2.1))
    h.orders
  rw [List.map_map, List.map_map] at hpair
  exact hpair

lemma paymentIsOf_sameRows (h : SameRows s t) : t.paymentIsOf v = s.paymentIsOf v :=
  paymentIsOf_congr (orderIsOf_sameRows h) h.payments

lemma orderIsOf_eq_false {id : OrderId} :
    s.orderIsOf v id = false ↔ ∀ o ∈ s.orders, o.id = id → o.userId ≠ v := by
  simp [orderIsOf]

lemma paymentIsOf_eq_false {id : PaymentId} :
    s.paymentIsOf v id = false ↔ ∀ p ∈ s.payments, p.id = id → s.orderIsOf v p.orderId = false := by
  simp [paymentIsOf]

lemma mem_of_order {id : OrderId} {o : Order} (h : s.order id = some o) :
    o ∈ s.orders ∧ o.id = id := by
  have hp := List.find?_some h
  exact ⟨List.mem_of_find?_eq_some h, of_decide_eq_true hp⟩

lemma mem_of_payment {id : PaymentId} {p : Payment} (h : s.payment id = some p) :
    p ∈ s.payments ∧ p.id = id := by
  have hp := List.find?_some h
  exact ⟨List.mem_of_find?_eq_some h, of_decide_eq_true hp⟩

/-- The order that was found decides whose it is. -/
lemma Sound.orderIsOf_eq_false_of (hs : s.Sound) {id : OrderId} {o : Order}
    (ho : s.order id = some o) (hne : o.userId ≠ v) : s.orderIsOf v id = false := by
  refine orderIsOf_eq_false.mpr fun o' ho' hid => ?_
  obtain ⟨hmem, hid'⟩ := mem_of_order ho
  obtain rfl := List.inj_on_of_nodup_map hs.orders_nodup ho' hmem (hid.trans hid'.symm)
  exact hne

/-- An order of a customer is found. -/
lemma Sound.order_of_orderIsOf (hs : s.Sound) {id : OrderId} (h : s.orderIsOf v id = true) :
    ∃ o, s.order id = some o ∧ o.userId = v := by
  cases ho : s.order id with
  | some o =>
    refine ⟨o, rfl, by_contra fun hne => ?_⟩
    rw [hs.orderIsOf_eq_false_of ho hne] at h
    exact nomatch h
  | none =>
    have hnone : s.orderIsOf v id = false := orderIsOf_eq_false.mpr fun o ho' hid =>
      absurd (decide_eq_true hid) (List.find?_eq_none.mp ho o ho')
    rw [hnone] at h
    exact nomatch h

lemma Sound.paymentIsOf_of_mem (hs : s.Sound) {p : Payment} (hp : p ∈ s.payments) :
    s.paymentIsOf v p.id = s.orderIsOf v p.orderId := by
  have honly : ∀ p' ∈ s.payments, p'.id = p.id → p' = p := fun p' hp' hid =>
    List.inj_on_of_nodup_map hs.payments_nodup hp' hp hid
  cases hcase : s.orderIsOf v p.orderId with
  | false =>
    refine paymentIsOf_eq_false.mpr fun p' hp' hid => ?_
    rw [honly p' hp' hid]
    exact hcase
  | true => exact List.any_eq_true.mpr ⟨p, hp, by simp [hcase]⟩

/-- A payment of a customer is found, and so is its order. -/
lemma Sound.payment_of_paymentIsOf (hs : s.Sound) {id : PaymentId}
    (h : s.paymentIsOf v id = true) :
    ∃ p, s.payment id = some p ∧ s.orderIsOf v p.orderId = true := by
  cases hp : s.payment id with
  | some p =>
    obtain ⟨hmem, rfl⟩ := mem_of_payment hp
    exact ⟨p, rfl, (hs.paymentIsOf_of_mem hmem).symm.trans h⟩
  | none =>
    have hnone : s.paymentIsOf v id = false := paymentIsOf_eq_false.mpr fun p hp' hid =>
      absurd (decide_eq_true hid) (List.find?_eq_none.mp hp p hp')
    rw [hnone] at h
    exact nomatch h

lemma laterAttempt_eq_some {best : Option PaymentAttempt} {a b : PaymentAttempt}
    (h : laterAttempt best a = some b) : best = some b ∨ b = a := by
  cases best with
  | none => exact Or.inr (Option.some.inj h).symm
  | some c =>
    dsimp only [laterAttempt] at h
    split_ifs at h
    · exact Or.inr (Option.some.inj h).symm
    · exact Or.inl h

lemma mem_of_latestAttempt {id : PaymentId} {a : PaymentAttempt}
    (h : s.latestAttempt id = some a) : a ∈ s.attempts ∧ a.paymentId = id := by
  -- the best attempt so far is one of those that were looked at
  have hfold : ∀ (l : List PaymentAttempt) (best : Option PaymentAttempt),
      l.foldl laterAttempt best = some a → best = some a ∨ a ∈ l := by
    intro l
    induction l with
    | nil => exact fun best hbest => Or.inl hbest
    | cons x l ih =>
      intro best hbest
      rcases ih _ hbest with hnext | hmem
      · rcases laterAttempt_eq_some hnext with hbest | rfl
        · exact Or.inl hbest
        · exact Or.inr List.mem_cons_self
      · exact Or.inr (List.mem_cons_of_mem _ hmem)
  rcases hfold _ none h with hnone | hmem
  · exact nomatch hnone
  · obtain ⟨hmem, hid⟩ := List.mem_filter.mp hmem
    exact ⟨hmem, of_decide_eq_true hid⟩

/-! ## Queries without the rows of a customer -/

lemma order_without {id : OrderId} (h : s.orderIsOf v id = false) :
    (s.without v).order id = s.order id :=
  Table.find?_filter_of fun o ho hid =>
    decide_eq_true (orderIsOf_eq_false.mp h o ho (of_decide_eq_true hid))

lemma payment_without {id : PaymentId} (h : s.paymentIsOf v id = false) :
    (s.without v).payment id = s.payment id :=
  Table.find?_filter_of fun p hp hid => by
    rw [paymentIsOf_eq_false.mp h p hp (of_decide_eq_true hid)]
    rfl

lemma latestAttempt_without {id : PaymentId} (h : s.paymentIsOf v id = false) :
    (s.without v).latestAttempt id = s.latestAttempt id := by
  unfold latestAttempt
  have hrows : (s.without v).attempts.filter (fun a => a.paymentId = id) =
      s.attempts.filter fun a => a.paymentId = id := by
    refine Table.filter_filter_of fun a _ hid => ?_
    rw [of_decide_eq_true hid, h]
    rfl
  rw [hrows]

lemma pickFirst_payments_without {id : OrderId} {pick : ℕ} {p : Payment → Bool}
    (h : s.orderIsOf v id = false) (hp : ∀ a, p a = true → a.orderId = id) :
    Table.pickFirst p pick (s.without v).payments = Table.pickFirst p pick s.payments :=
  Table.pickFirst_filter_of fun a _ ha => by
    rw [hp a ha, h]
    rfl

/-! ## The carts of a customer -/

/-- The carts with an identifier belong to a customer. -/
def CartIsOf (s : Shop) (userId : UserId) (id : CartId) : Prop :=
  ∀ c ∈ s.carts, c.id = id → c.userId = some userId

lemma Sound.cartIsOf (hs : s.Sound) {userId : UserId} {cart : Cart}
    (hcart : cart ∈ s.carts)
    (huser : cart.userId = some userId) : s.CartIsOf userId cart.id := by
  intro c hc hid
  obtain rfl := List.inj_on_of_nodup_map hs.carts_nodup hc hcart hid
  exact huser

lemma CartIsOf.ne {userId : UserId} {id : CartId} (h : s.CartIsOf userId id) (hne : userId ≠ v) :
    ∀ c ∈ s.carts, c.id = id → c.userId ≠ some v := by
  intro c hc hid heq
  exact hne (Option.some.inj ((h c hc hid).symm.trans heq))

/-! ## Statements that change what rows say -/

lemma rowsOf_eq (horder : t.orderIsOf v = s.orderIsOf v)
    (hpayment : t.paymentIsOf v = s.paymentIsOf v) :
    t.rowsOf v =
      ⟨t.orders.filter fun o => o.userId = v,
        t.payments.filter fun p => s.orderIsOf v p.orderId,
        t.attempts.filter fun a => s.paymentIsOf v a.paymentId,
        t.carts.filter fun c => c.userId = some v,
        t.addresses.filter fun a => a.userId = v⟩ := by
  unfold rowsOf
  rw [horder, hpayment]

lemma without_eq (horder : t.orderIsOf v = s.orderIsOf v)
    (hpayment : t.paymentIsOf v = s.paymentIsOf v) :
    t.without v =
      ⟨t.clock, t.catalogue, t.orders.filter fun o => o.userId ≠ v,
        t.payments.filter fun p => !s.orderIsOf v p.orderId,
        t.attempts.filter fun a => !s.paymentIsOf v a.paymentId,
        t.carts.filter fun c => c.userId ≠ some v,
        t.addresses.filter fun a => a.userId ≠ v,
        t.keys.filter fun k => k.userId ≠ v⟩ := by
  unfold without
  rw [horder, hpayment]

lemma rowsOf_sameRows (h : SameRows s t) :
    t.rowsOf v =
      ⟨t.orders.filter fun o => o.userId = v,
        t.payments.filter fun p => s.orderIsOf v p.orderId,
        t.attempts.filter fun a => s.paymentIsOf v a.paymentId,
        t.carts.filter fun c => c.userId = some v,
        t.addresses.filter fun a => a.userId = v⟩ :=
  rowsOf_eq (orderIsOf_sameRows h) (paymentIsOf_sameRows h)

lemma without_sameRows (h : SameRows s t) :
    t.without v =
      ⟨t.clock, t.catalogue, t.orders.filter fun o => o.userId ≠ v,
        t.payments.filter fun p => !s.orderIsOf v p.orderId,
        t.attempts.filter fun a => !s.paymentIsOf v a.paymentId,
        t.carts.filter fun c => c.userId ≠ some v,
        t.addresses.filter fun a => a.userId ≠ v,
        t.keys.filter fun k => k.userId ≠ v⟩ :=
  without_eq (orderIsOf_sameRows h) (paymentIsOf_sameRows h)

section Orders

variable {id : OrderId} {status : OrderStatus} {change : StatusChange}

lemma sameRows_setOrderStatus : SameRows s (s.setOrderStatus id status change) :=
  { SameRows.refl s with orders := Table.map_updateWhere fun _ => rfl }

lemma rowsOf_setOrderStatus (h : s.orderIsOf v id = false) :
    (s.setOrderStatus id status change).rowsOf v = s.rowsOf v := by
  rw [rowsOf_sameRows sameRows_setOrderStatus]
  refine congrArg (fun orders => { s.rowsOf v with orders := orders })
    (Table.filter_updateWhere_of_not fun o ho hid => ?_)
  have hne := orderIsOf_eq_false.mp h o ho (of_decide_eq_true hid)
  exact ⟨decide_eq_false hne, decide_eq_false hne⟩

lemma without_setOrderStatus :
    (s.without v).setOrderStatus id status change =
      (s.setOrderStatus id status change).without v := by
  rw [without_sameRows sameRows_setOrderStatus]
  refine congrArg (fun orders => { s.without v with orders := orders })
    (Table.filter_updateWhere ?_).symm
  exact fun _ _ _ => rfl

end Orders

section Payments

variable {p : Payment → Bool} {status : PaymentStatus} {paidAmount : Option ℚ}

lemma sameRows_updatePayments : SameRows s (s.updatePayments p status paidAmount) :=
  { SameRows.refl s with payments := Table.map_updateWhere fun _ => rfl }

lemma rowsOf_updatePayments (h : ∀ a ∈ s.payments, p a = true → s.orderIsOf v a.orderId = false) :
    (s.updatePayments p status paidAmount).rowsOf v = s.rowsOf v := by
  rw [rowsOf_sameRows sameRows_updatePayments]
  refine congrArg (fun payments => { s.rowsOf v with payments := payments })
    (Table.filter_updateWhere_of_not fun a ha hp => ?_)
  exact ⟨h a ha hp, h a ha hp⟩

lemma without_updatePayments :
    (s.without v).updatePayments p status paidAmount =
      (s.updatePayments p status paidAmount).without v := by
  rw [without_sameRows sameRows_updatePayments]
  refine congrArg (fun payments => { s.without v with payments := payments })
    (Table.filter_updateWhere ?_).symm
  exact fun _ _ _ => rfl

end Payments

section Attempts

variable {id : Option AttemptId} {status : PaymentAttemptStatus}
  {failure : Option (String × String)}

lemma sameRows_updateAttempt : SameRows s (s.updateAttempt id status failure) :=
  { SameRows.refl s with attempts := Table.map_updateWhere fun _ => rfl }

lemma rowsOf_updateAttempt
    (h : ∀ a ∈ s.attempts, some a.id = id → s.paymentIsOf v a.paymentId = false) :
    (s.updateAttempt id status failure).rowsOf v = s.rowsOf v := by
  rw [rowsOf_sameRows sameRows_updateAttempt]
  refine congrArg (fun attempts => { s.rowsOf v with attempts := attempts })
    (Table.filter_updateWhere_of_not fun a ha hid => ?_)
  have hne := h a ha (of_decide_eq_true hid)
  exact ⟨hne, hne⟩

lemma without_updateAttempt :
    (s.without v).updateAttempt id status failure =
      (s.updateAttempt id status failure).without v := by
  rw [without_sameRows sameRows_updateAttempt]
  refine congrArg (fun attempts => { s.without v with attempts := attempts })
    (Table.filter_updateWhere ?_).symm
  exact fun _ _ _ => rfl

end Attempts

section Carts

variable {id : CartId} {f : List CartItem → List CartItem}

lemma sameRows_updateCart : SameRows s (s.updateCart id f) :=
  { SameRows.refl s with carts := Table.map_updateWhere fun _ => rfl }

lemma rowsOf_updateCart (h : ∀ c ∈ s.carts, c.id = id → c.userId ≠ some v) :
    (s.updateCart id f).rowsOf v = s.rowsOf v := by
  rw [rowsOf_sameRows sameRows_updateCart]
  refine congrArg (fun carts => { s.rowsOf v with carts := carts })
    (Table.filter_updateWhere_of_not fun c hc hid => ?_)
  have hne := h c hc (of_decide_eq_true hid)
  exact ⟨decide_eq_false hne, decide_eq_false hne⟩

lemma without_updateCart :
    (s.without v).updateCart id f = (s.updateCart id f).without v := by
  rw [without_sameRows sameRows_updateCart]
  refine congrArg (fun carts => { s.without v with carts := carts })
    (Table.filter_updateWhere ?_).symm
  exact fun _ _ _ => rfl

end Carts

section Addresses

variable {p : SavedAddress → Bool} {f : SavedAddress → SavedAddress}
  (hid : ∀ a, (f a).id = a.id) (huser : ∀ a, (f a).userId = a.userId)

include hid huser

lemma sameRows_updateAddresses : SameRows s (s.updateAddresses p f) :=
  { SameRows.refl s with
    addresses := Table.map_updateWhere fun a => Prod.ext (hid a) (huser a) }

lemma rowsOf_updateAddresses (h : ∀ a ∈ s.addresses, p a = true → a.userId ≠ v) :
    (s.updateAddresses p f).rowsOf v = s.rowsOf v := by
  rw [rowsOf_sameRows (sameRows_updateAddresses hid huser)]
  refine congrArg (fun addresses => { s.rowsOf v with addresses := addresses })
    (Table.filter_updateWhere_of_not fun a ha hp => ⟨decide_eq_false (h a ha hp), ?_⟩)
  rw [huser]
  exact decide_eq_false (h a ha hp)

lemma without_updateAddresses :
    (s.without v).updateAddresses p f = (s.updateAddresses p f).without v := by
  rw [without_sameRows (sameRows_updateAddresses hid huser)]
  refine congrArg (fun addresses => { s.without v with addresses := addresses })
    (Table.filter_updateWhere fun a _ _ => ?_).symm
  rw [huser]

end Addresses

section Shared

lemma sameRows_shared {catalogue : Catalogue} {keys : List IdempotencyKey} :
    SameRows s { s with catalogue := catalogue, keys := keys } :=
  ⟨rfl, rfl, rfl, rfl, rfl⟩

end Shared

/-! ## Statements that create and delete rows -/

section Orders

variable {o : Order}

lemma Sound.insertOrder (hs : s.Sound) (hfresh : o.id ∉ s.orders.map Order.id)
    (hcart : ∀ c ∈ o.cart, ∃ cart ∈ s.carts, cart.id = c ∧ cart.userId = some o.userId) :
    (s.insertOrder o).Sound :=
  { hs with
    orders_nodup := by
      show ((s.orders ++ [o]).map Order.id).Nodup
      rw [List.map_append, List.map_singleton, ← List.concat_eq_append]
      exact hs.orders_nodup.concat hfresh
    order_cart := by
      intro o' ho'
      rcases List.mem_append.mp ho' with ho' | ho'
      · exact hs.order_cart o' ho'
      · obtain rfl := List.mem_singleton.mp ho'
        exact hcart }

lemma orderIsOf_insertOrder (h : o.userId ≠ v) :
    (s.insertOrder o).orderIsOf v = s.orderIsOf v := by
  funext id
  simp [orderIsOf, Shop.insertOrder, h]

lemma paymentIsOf_insertOrder (h : o.userId ≠ v) :
    (s.insertOrder o).paymentIsOf v = s.paymentIsOf v :=
  paymentIsOf_congr (orderIsOf_insertOrder h) rfl

lemma rowsOf_insertOrder (h : o.userId ≠ v) : (s.insertOrder o).rowsOf v = s.rowsOf v := by
  rw [rowsOf_eq (orderIsOf_insertOrder h) (paymentIsOf_insertOrder h)]
  refine congrArg (fun orders => { s.rowsOf v with orders := orders })
    (Table.filter_append_of_not ?_)
  exact decide_eq_false h

lemma without_insertOrder (h : o.userId ≠ v) :
    (s.without v).insertOrder o = (s.insertOrder o).without v := by
  rw [without_eq (orderIsOf_insertOrder h) (paymentIsOf_insertOrder h)]
  refine congrArg (fun orders => { s.without v with orders := orders })
    (Table.filter_append_of ?_).symm
  exact decide_eq_true h

end Orders

section Payments

variable {p : Payment}

lemma Sound.insertPayment (hs : s.Sound) (hfresh : p.id ∉ s.payments.map Payment.id) :
    (s.insertPayment p).Sound :=
  { hs with
    payments_nodup := by
      show ((s.payments ++ [p]).map Payment.id).Nodup
      rw [List.map_append, List.map_singleton, ← List.concat_eq_append]
      exact hs.payments_nodup.concat hfresh }

lemma orderIsOf_insertPayment : (s.insertPayment p).orderIsOf v = s.orderIsOf v := rfl

lemma paymentIsOf_insertPayment (h : s.orderIsOf v p.orderId = false) :
    (s.insertPayment p).paymentIsOf v = s.paymentIsOf v := by
  funext id
  show (s.payments ++ [p]).any (fun a => a.id = id && s.orderIsOf v a.orderId) = _
  rw [List.any_append, List.any_cons, h]
  simp [paymentIsOf]

lemma rowsOf_insertPayment (h : s.orderIsOf v p.orderId = false) :
    (s.insertPayment p).rowsOf v = s.rowsOf v := by
  rw [rowsOf_eq orderIsOf_insertPayment (paymentIsOf_insertPayment h)]
  refine congrArg (fun payments => { s.rowsOf v with payments := payments })
    (Table.filter_append_of_not ?_)
  exact h

lemma without_insertPayment (h : s.orderIsOf v p.orderId = false) :
    (s.without v).insertPayment p = (s.insertPayment p).without v := by
  rw [without_eq orderIsOf_insertPayment (paymentIsOf_insertPayment h)]
  refine congrArg (fun payments => { s.without v with payments := payments })
    (Table.filter_append_of ?_).symm
  rw [h]
  rfl

end Payments

section Attempts

variable {a : PaymentAttempt}

lemma Sound.insertAttempt (hs : s.Sound) (hfresh : a.id ∉ s.attempts.map PaymentAttempt.id) :
    (s.insertAttempt a).Sound :=
  { hs with
    attempts_nodup := by
      show ((s.attempts ++ [a]).map PaymentAttempt.id).Nodup
      rw [List.map_append, List.map_singleton, ← List.concat_eq_append]
      exact hs.attempts_nodup.concat hfresh }

lemma rowsOf_insertAttempt (h : s.paymentIsOf v a.paymentId = false) :
    (s.insertAttempt a).rowsOf v = s.rowsOf v := by
  refine congrArg (fun attempts => { s.rowsOf v with attempts := attempts })
    (Table.filter_append_of_not ?_)
  exact h

lemma without_insertAttempt (h : s.paymentIsOf v a.paymentId = false) :
    (s.without v).insertAttempt a = (s.insertAttempt a).without v := by
  refine congrArg (fun attempts => { s.without v with attempts := attempts })
    (Table.filter_append_of ?_).symm
  rw [h]
  rfl

end Attempts

section Carts

variable {c : Cart} {id : CartId}

lemma Sound.insertCart (hs : s.Sound) (hfresh : c.id ∉ s.carts.map Cart.id) :
    (s.insertCart c).Sound :=
  { hs with
    carts_nodup := by
      show ((s.carts ++ [c]).map Cart.id).Nodup
      rw [List.map_append, List.map_singleton, ← List.concat_eq_append]
      exact hs.carts_nodup.concat hfresh
    order_cart := by
      intro o ho id hid
      obtain ⟨cart, hmem, hcart⟩ := hs.order_cart o ho id hid
      exact ⟨cart, List.mem_append_left _ hmem, hcart⟩ }

lemma rowsOf_insertCart (h : c.userId ≠ some v) : (s.insertCart c).rowsOf v = s.rowsOf v := by
  refine congrArg (fun carts => { s.rowsOf v with carts := carts })
    (Table.filter_append_of_not ?_)
  exact decide_eq_false h

lemma without_insertCart (h : c.userId ≠ some v) :
    (s.without v).insertCart c = (s.insertCart c).without v := by
  refine congrArg (fun carts => { s.without v with carts := carts })
    (Table.filter_append_of ?_).symm
  exact decide_eq_true h

lemma orderIsOf_deleteCart : (s.deleteCart id).orderIsOf v = s.orderIsOf v :=
  orderIsOf_congr (Table.map_updateWhere fun _ => rfl)

lemma paymentIsOf_deleteCart : (s.deleteCart id).paymentIsOf v = s.paymentIsOf v :=
  paymentIsOf_congr orderIsOf_deleteCart rfl

/-- The orders that referred to the cart do not any more. -/
lemma Sound.deleteCart (hs : s.Sound) : (s.deleteCart id).Sound where
  orders_nodup := by
    have hid : (s.deleteCart id).orders.map Order.id = s.orders.map Order.id :=
      Table.map_updateWhere fun _ => rfl
    rw [hid]
    exact hs.orders_nodup
  payments_nodup := hs.payments_nodup
  attempts_nodup := hs.attempts_nodup
  carts_nodup := hs.carts_nodup.sublist (List.filter_sublist.map _)
  addresses_nodup := hs.addresses_nodup
  order_cart := by
    intro o ho c hc
    obtain ⟨o', ho', rfl⟩ := List.mem_map.mp ho
    by_cases hcart : o'.cart = some id
    · simp [hcart] at hc
    · simp only [hcart, decide_false, Bool.false_eq_true, if_false] at hc ⊢
      obtain ⟨cart, hmem, hid, huser⟩ := hs.order_cart o' ho' c hc
      refine ⟨cart, List.mem_filter.mpr ⟨hmem, decide_eq_true ?_⟩, hid, huser⟩
      rintro rfl
      exact hcart (hid ▸ hc)

lemma rowsOf_deleteCart (hcart : ∀ c ∈ s.carts, c.id = id → c.userId ≠ some v)
    (horder : ∀ o ∈ s.orders, o.cart = some id → o.userId ≠ v) :
    (s.deleteCart id).rowsOf v = s.rowsOf v := by
  rw [rowsOf_eq orderIsOf_deleteCart paymentIsOf_deleteCart]
  have horders : (s.deleteCart id).orders.filter (fun o => o.userId = v) =
      s.orders.filter fun o => o.userId = v := by
    refine Table.filter_updateWhere_of_not fun o ho hid => ?_
    have hne := horder o ho (of_decide_eq_true hid)
    exact ⟨decide_eq_false hne, decide_eq_false hne⟩
  have hcarts : (s.deleteCart id).carts.filter (fun c => c.userId = some v) =
      s.carts.filter fun c => c.userId = some v := by
    refine Table.filter_filter_of fun c hc huser => decide_eq_true fun hid => ?_
    exact hcart c hc hid (of_decide_eq_true huser)
  rw [horders, hcarts]
  rfl

lemma without_deleteCart : (s.without v).deleteCart id = (s.deleteCart id).without v := by
  rw [without_eq orderIsOf_deleteCart paymentIsOf_deleteCart]
  have horders : (s.deleteCart id).orders.filter (fun o => o.userId ≠ v) =
      ((s.without v).deleteCart id).orders := by
    refine Table.filter_updateWhere ?_
    exact fun _ _ _ => rfl
  have hcarts : (s.deleteCart id).carts.filter (fun c => c.userId ≠ some v) =
      ((s.without v).deleteCart id).carts := Table.filter_comm _ _ _
  rw [horders, hcarts]
  rfl

end Carts

section Addresses

variable {a : SavedAddress} {p : SavedAddress → Bool}

lemma Sound.insertAddress (hs : s.Sound) (hfresh : a.id ∉ s.addresses.map fun a => a.id) :
    (s.insertAddress a).Sound :=
  { hs with
    addresses_nodup := by
      show ((s.addresses ++ [a]).map fun a => a.id).Nodup
      rw [List.map_append, List.map_singleton, ← List.concat_eq_append]
      exact hs.addresses_nodup.concat hfresh }

lemma rowsOf_insertAddress (h : a.userId ≠ v) : (s.insertAddress a).rowsOf v = s.rowsOf v := by
  refine congrArg (fun addresses => { s.rowsOf v with addresses := addresses })
    (Table.filter_append_of_not ?_)
  exact decide_eq_false h

lemma without_insertAddress (h : a.userId ≠ v) :
    (s.without v).insertAddress a = (s.insertAddress a).without v := by
  refine congrArg (fun addresses => { s.without v with addresses := addresses })
    (Table.filter_append_of ?_).symm
  exact decide_eq_true h

lemma Sound.deleteAddress (hs : s.Sound) : (s.deleteAddress p).Sound :=
  { hs with addresses_nodup := hs.addresses_nodup.sublist (List.filter_sublist.map _) }

lemma rowsOf_deleteAddress (h : ∀ a ∈ s.addresses, p a = true → a.userId ≠ v) :
    (s.deleteAddress p).rowsOf v = s.rowsOf v := by
  refine congrArg (fun addresses => { s.rowsOf v with addresses := addresses })
    (Table.filter_filter_of fun a ha huser => ?_)
  cases hp : p a with
  | true => exact absurd (of_decide_eq_true huser) (h a ha hp)
  | false => rfl

lemma without_deleteAddress : (s.without v).deleteAddress p = (s.deleteAddress p).without v :=
  congrArg (fun addresses => { s.without v with addresses := addresses })
    (Table.filter_comm _ _ _)

end Addresses

end Shop

/-! ## Handlers -/

/-- The identifiers that are drawn for new rows are new. -/
structure Draw.Fresh (d : Draw) (s : Shop) : Prop where
  orderId : d.orderId ∉ s.orders.map Order.id
  paymentId : d.paymentId ∉ s.payments.map Payment.id
  attemptId : d.attemptId ∉ s.attempts.map PaymentAttempt.id
  cartId : d.cartId ∉ s.carts.map Cart.id
  addressId : d.addressId ∉ s.addresses.map fun a => a.id

lemma Draw.Fresh.sameRows {d : Draw} {s t : Shop} (hd : d.Fresh s) (h : SameRows s t) :
    d.Fresh t where
  orderId := by
    have hid : t.orders.map Order.id = s.orders.map Order.id := map_fst_eq h.orders
    exact hid ▸ hd.orderId
  paymentId := by
    have hid : t.payments.map Payment.id = s.payments.map Payment.id := map_fst_eq h.payments
    exact hid ▸ hd.paymentId
  attemptId := by
    have hid : t.attempts.map PaymentAttempt.id = s.attempts.map PaymentAttempt.id :=
      map_fst_eq h.attempts
    exact hid ▸ hd.attemptId
  cartId := by
    have hid : t.carts.map Cart.id = s.carts.map Cart.id := map_fst_eq h.carts
    exact hid ▸ hd.cartId
  addressId := by
    have hid : t.addresses.map (fun a => a.id) = s.addresses.map fun a => a.id :=
      map_fst_eq h.addresses
    exact hid ▸ hd.addressId

/-- A handler keeps the tables sound; it leaves the rows of `v` as they were if `A`, and it does
not depend on them if `B`. -/
abbrev Isolated (v : UserId) (A B : Prop) {α : Type} (h : Handler α) (s : Shop) : Prop :=
  Confined Shop.Sound (fun s => s.rowsOf v) (fun s => s.without v) A B h s

end MeeoServer.Customers
