/-
# The accounts of the stock

Two balances of a variant are what the inventory module keeps in order.  The `slack` is what
the reserved counter says beyond the reservations that are active; the `total` is every unit
that is available, reserved or sold.  Holding units, selling them, and closing an active
reservation leave both balances alone, so all that can upset them is to close a reservation
that is no longer active.
-/
import MeeoServer.Server.Growth

namespace MeeoServer

namespace Stock

/-- The reserved units that no active reservation accounts for. -/
def slack (s : Stock) (v : VariantId) : ℤ := s.reserved v - unitsOf isActive s.reservations v

/-- The units that are available, reserved or sold. -/
def total (s : Stock) (v : VariantId) : ℤ :=
  s.available v + s.reserved v + unitsOf isConfirmed s.reservations v

/-- Both balances agree. -/
def SameAccounts (s s' : Stock) : Prop :=
  ∀ v, s'.slack v = s.slack v ∧ s'.total v = s.total v

lemma SameAccounts.refl (s : Stock) : SameAccounts s s := fun _ => ⟨rfl, rfl⟩

variable {s s' : Stock} {v : VariantId}

/-! ## Closing an active reservation -/

lemma closeHold_accounts {c : Closing} {order : InventoryReservation → Option OrderId}
    {h : Hold} (hlive : LiveHold s.reservations h) (hc : s.closeHold c order h = some s') :
    SameAccounts s s' := by
  intro v
  obtain ⟨r, hrow, hactive, hv, hq⟩ := hlive
  obtain ⟨hav, hres, -⟩ := closeHold_eq_some hc
  -- the row leaves the active reservations, and joins the sold ones if nothing is returned
  have hlost := unitsOf_closeHold isActive hrow hv hq hc v
  have hsold := unitsOf_closeHold isConfirmed hrow hv hq hc v
  have hsold_iff : (c.status = .confirmed) = ¬ c.returns = true := by
    simp [c.returns_iff]
  simp only [isActive, isConfirmed, hactive, c.ends, hsold_iff, decide_true, decide_false,
    decide_eq_true_eq, and_true, and_false, Bool.false_eq_true, if_false, reduceCtorEq]
    at hlost hsold
  rw [slack, slack, total, total, hav v, hres v, hlost, hsold]
  by_cases hvar : v = h.val.variantId
  · subst hvar
    by_cases hret : c.returns = true
    · simp [hret]
    · simp [hret]
      omega
  · simp [hvar]

lemma closeHold_available_le {c : Closing} {order : InventoryReservation → Option OrderId}
    {h : Hold} (hc : s.closeHold c order h = some s') : s.available v ≤ s'.available v := by
  rw [(closeHold_eq_some hc).1 v]
  split <;> omega

lemma closeHolds_accounts {c : Closing} {holds : List Hold}
    (hnodup : (holds.map Row.id).Nodup) (hlive : ∀ h ∈ holds, LiveHold s.reservations h)
    (hc : s.closeHolds c holds = some s') : SameAccounts s s' := by
  refine closeHolds_induction (P := fun t => SameAccounts s t) ?_ hnodup hlive
    (SameAccounts.refl s) hc
  intro t t' h _ hl ht hacc w
  obtain ⟨hslack, htotal⟩ := closeHold_accounts hl ht w
  rw [hslack, htotal]
  exact hacc w

lemma closeHolds_available_le {c : Closing} {holds : List Hold}
    (hc : s.closeHolds c holds = some s') : s.available v ≤ s'.available v := by
  refine closeHolds_preserves (P := fun t => s.available v ≤ t.available v) ?_ le_rfl hc
  intro t t' h ht hle
  exact hle.trans (closeHold_available_le ht)

/-! ## Holding and selling -/

lemma hold_accounts {q : ℕ} {o : Option OrderId} {e : Millis}
    (h : s.hold v q o e = some s') : SameAccounts s s' := by
  intro w
  obtain ⟨hav, hres, hrows⟩ := hold_eq_some h
  have hactive : unitsOf isActive [⟨v, o, q, .active, e⟩] w = if v = w then (q : ℤ) else 0 := by
    simp [unitsOf, isActive]
  have hsold : unitsOf isConfirmed [⟨v, o, q, .active, e⟩] w = 0 := by
    simp [unitsOf, isConfirmed]
  rw [slack, slack, total, total, hav w, hres w, hrows, unitsOf_append, unitsOf_append, hactive,
    hsold]
  simp only [eq_comm (a := w)]
  omega

/-- The reservations that a checkout leaves: sold at once, or active. -/
def checkoutRows (orderId : OrderId) (expiresAt : Millis) (isCod : Bool)
    (items : List OrderItem) : List InventoryReservation :=
  items.map fun i =>
    ⟨i.variantId, some orderId, i.quantity, if isCod then .confirmed else .active, expiresAt⟩

lemma unitsOf_checkoutRows {o : OrderId} {e : Millis} {isCod : Bool} {items : List OrderItem}
    (p : InventoryReservation → Bool) (b : Bool)
    (hp : ∀ r ∈ checkoutRows o e isCod items, p r = b) (v : VariantId) :
    unitsOf p (checkoutRows o e isCod items) v = if b then itemUnits items v else 0 := by
  rw [unitsOf_congr (q := fun _ => b) hp]
  cases b with
  | true => simp [unitsOf, itemUnits, checkoutRows, Function.comp_def]
  | false => simp [unitsOf]

/-- What a checkout does to the counters and to the reservations of a new order. -/
lemma checkout_eq_some {o : OrderId} {e : Millis} {isCod : Bool} {items : List OrderItem}
    (hnew : ∀ r ∈ s.reservations, r.orderId ≠ some o)
    (h : s.checkout o e isCod items = some s') :
    (∀ w, s'.available w = s.available w - itemUnits items w) ∧
      (∀ w, s'.reserved w = s.reserved w + if isCod then 0 else itemUnits items w) ∧
      s'.reservations = s.reservations ++ checkoutRows o e isCod items := by
  simp only [checkout, Option.bind_eq_bind, Option.bind_eq_some_iff] at h
  obtain ⟨held, hheld, hsold⟩ := h
  obtain ⟨ha, hr, hrows⟩ := holdItems_eq_some hheld
  cases isCod with
  | false =>
    obtain rfl : held = s' := by simpa using hsold
    exact ⟨ha, hr, hrows⟩
  | true =>
    -- the rows of a new order are exactly those that have just been held
    obtain ⟨ha', hr', hrows'⟩ := sellItems_eq_some hrows hnew hsold
    refine ⟨fun w => by rw [ha' w, ha w], fun w => ?_, hrows'⟩
    rw [hr' w, hr w]
    simp

lemma checkout_accounts {o : OrderId} {e : Millis} {isCod : Bool} {items : List OrderItem}
    (hnew : ∀ r ∈ s.reservations, r.orderId ≠ some o)
    (h : s.checkout o e isCod items = some s') : SameAccounts s s' := by
  intro w
  obtain ⟨ha, hr, hrows⟩ := checkout_eq_some hnew h
  have hmem : ∀ r ∈ checkoutRows o e isCod items,
      r.status = if isCod then .confirmed else .active := by
    intro r hr
    obtain ⟨i, -, rfl⟩ := List.mem_map.mp hr
    rfl
  have hactive := unitsOf_checkoutRows isActive (!isCod)
    (fun r hr => by rw [isActive, hmem r hr]; cases isCod <;> rfl) w
  have hsold := unitsOf_checkoutRows isConfirmed isCod
    (fun r hr => by rw [isConfirmed, hmem r hr]; cases isCod <;> rfl) w
  rw [slack, slack, total, total, ha w, hr w, hrows, unitsOf_append, unitsOf_append, hactive,
    hsold]
  cases isCod
  · simp
  · simp
    omega

/-! ## Stock corrections -/

lemma addStock_eq (s : Stock) (w : VariantId) (q : ℕ) :
    (∀ v, (s.addStock w q).available v = s.available v + if v = w then (q : ℤ) else 0) ∧
      (∀ v, (s.addStock w q).reserved v = s.reserved v) ∧
      (s.addStock w q).reservations = s.reservations := by
  refine ⟨fun v => ?_, fun v => ?_, rfl⟩
  all_goals
    by_cases hv : v = w
    · subst hv
      cases hrow : s.inventory v <;>
        simp [addStock, createTransaction, available, reserved, hrow]
    · simp [addStock, createTransaction, available, reserved, hv]

lemma removeStock_eq_some {w : VariantId} {q : ℕ} (h : s.removeStock w q = some s') :
    (∀ v, s'.available v = s.available v - if v = w then (q : ℤ) else 0) ∧
      (∀ v, s'.reserved v = s.reserved v) ∧ s'.reservations = s.reservations := by
  simp only [removeStock, Option.bind_eq_bind, Option.bind_eq_some_iff, Option.some.injEq] at h
  obtain ⟨t, ht, rfl⟩ := h
  obtain ⟨ha, hr, hrows, -⟩ := incrementInventory_eq_some (w := 0) ht
  refine ⟨fun v => ?_, fun v => ?_, hrows⟩
  · rw [createTransaction_available, ha v]
    split <;> omega
  · rw [createTransaction_reserved, hr v]
    simp

lemma adjustStock_eq_some {input : AdjustStockInput} {delta : ℤ}
    (h : s.adjustStock input delta = some s') :
    (∀ v, 0 ≤ s.available v → 0 ≤ s'.available v) ∧
      (∀ v, s'.reserved v = s.reserved v) ∧ s'.reservations = s.reservations := by
  simp only [adjustStock, Option.bind_eq_bind, Option.bind_eq_some_iff, Option.some.injEq] at h
  obtain ⟨row, hrow, rfl⟩ := h
  refine ⟨fun v hv => ?_, fun v => ?_, rfl⟩
  all_goals by_cases hvar : v = input.variantId
  · subst hvar
    cases input.availableQuantity with
    | none => simpa [createTransaction, available, hrow] using hv
    | some q => simp [createTransaction, available]
  · simpa [createTransaction, available, hvar] using hv
  · subst hvar
    simp [createTransaction, reserved, hrow]
  · simp [createTransaction, reserved, hvar]

end Stock

/-! ## The accounts under a batch -/

namespace Commit

/-- The reservations that a batch closes, as the call has read them. -/
def closes : Commit → List Hold
  | confirmReservation hold _ | releaseReservation hold | expireReservation hold => [hold]
  | confirmHolds _ holds | verifyPayment _ _ _ _ holds => holds
  | updateOrderStatus _ _ newStatus _ holds => if newStatus.dead then holds else []
  | _ => []

/-- Each reservation that the batch closes is active at that moment. -/
def ClosesActive (s : Database) (c : Commit) : Prop :=
  ∀ h ∈ c.closes,
    (s.stock.reservations[h.id]?).map InventoryReservation.status = some .active

instance (s : Database) (c : Commit) : Decidable (ClosesActive s c) := by
  unfold ClosesActive
  infer_instance

/-- A correction of the counters by hand. -/
def correctsStock : Commit → Bool
  | addStock .. | removeStock .. | adjustStock .. => true
  | _ => false

end Commit

/-- The order of a checkout is new: no reservation refers to it. -/
lemma Database.ForeignKeys.new {s : Database} (hfk : s.ForeignKeys) :
    ∀ r ∈ s.stock.reservations, r.orderId ≠ some s.book.orders.length := by
  intro r hr heq
  exact lt_irrefl _ (hfk r hr _ heq)

section Batches

variable {config : GatewayConfig} {I : Database → Database → Prop} {x : Call}
  {s s' : Database} {c : Commit}

/-- A batch closes reservations that the call has read as active, and none of them twice. -/
lemma Call.Spec.closes (h : Call.Spec I config x s c) :
    (∀ r ∈ c.closes, ReadActive I s r) ∧ (c.closes.map Row.id).Nodup := by
  -- of the changes of status only those to a dead status release
  have transition : ∀ {orderId : OrderId} {newStatus : OrderStatus},
      TransitionBatch I orderId newStatus s c →
        (∀ r ∈ c.closes, ReadActive I s r) ∧ (c.closes.map Row.id).Nodup := by
    rintro orderId newStatus ⟨previousStatus, codPayment, holds, rfl, ht⟩
    by_cases hdead : newStatus.dead = true
    · simpa [Commit.closes, hdead] using
        And.intro (ht.holds hdead).readActive (ht.holds hdead).nodup
    · simp [Commit.closes, hdead]
  have attempt : ∀ {paymentId : PaymentId}, AttemptBatch I paymentId s c →
      (∀ r ∈ c.closes, ReadActive I s r) ∧ (c.closes.map Row.id).Nodup := by
    intro paymentId h
    cases c <;> first | exact absurd h id | simp [Commit.closes]
  cases x with
  | reserveStock input =>
    obtain ⟨_, rfl⟩ := h
    simp [Commit.closes]
  | confirmReservation id orderId | releaseReservation id | expireStaleReservations =>
    obtain ⟨hold, hread, rfl⟩ := h
    simpa [Commit.closes] using hread
  | addStock v quantity | removeStock v quantity =>
    obtain rfl := h
    simp [Commit.closes]
  | adjustStock input =>
    obtain ⟨_, rfl⟩ := h
    simp [Commit.closes]
  | createOrder userId checkout key =>
    cases c <;> first | exact absurd h id | simp [Commit.closes]
  | updateOrderStatus orderId newStatus pick => exact transition h
  | cancelOrder orderId userId isAdmin pick | processOrder orderId pick
  | shipOrder orderId pick | deliverOrder orderId pick => exact transition h
  | confirmOrder orderId pick =>
    rcases h with ⟨holds, rfl, hread⟩ | h
    · exact ⟨hread.readActive, hread.nodup⟩
    · exact transition h
  | expireStaleOrders olderThanMinutes pick =>
    obtain ⟨orderId, h⟩ := h
    exact transition h
  | initializePayment userId input pick =>
    rcases h with ⟨paymentId, h⟩ | rfl | ⟨provider, amount, rfl, -⟩
    · exact attempt h
    · simp [Commit.closes]
    · simp [Commit.closes]
  | retryPayment userId paymentId =>
    rcases h with h | rfl
    · exact attempt h
    · simp [Commit.closes]
  | verifyPayment input pick =>
    obtain ⟨payment, orderStatus, latestAttempt, holds, rfl, -, -, hread⟩ := h
    exact ⟨hread.readActive, hread.nodup⟩
  | recordPaymentFailure orderId pick =>
    obtain ⟨payment, latestAttempt, rfl, -⟩ := h
    simp [Commit.closes]
  | updatePaymentStatus paymentId input =>
    obtain ⟨payment, orderStatus, rfl, -⟩ := h
    simp [Commit.closes]
  | processRefund input pick =>
    rcases h with ⟨payment, orderStatus, attempt, amount, rfl, -⟩ | ⟨amount, rfl⟩
    · simp [Commit.closes]
    · simp [Commit.closes]

/-- What a batch closes is live, if it is active at that moment. -/
lemma closes_live (hspec : Call.Spec Grows config x s c) (hactive : c.ClosesActive s) :
    ∀ h ∈ c.closes, Stock.LiveHold s.stock.reservations h := by
  intro h hmem
  -- the variant and the quantity never change, only the status may be stale
  obtain ⟨r, hrow, hv, hq⟩ := (hspec.closes.1 h hmem).row
  have hstatus := hactive h hmem
  rw [hrow] at hstatus
  exact ⟨r, hrow, by simpa using hstatus, hv, hq⟩

end Batches

namespace Commit

variable {s s' : Database} {c : Commit} {stock : Stock}

/-- **Both balances survive a batch** that closes only live reservations and is not a
correction. -/
theorem stockAfter_accounts (hfk : s.ForeignKeys) (hnodup : (c.closes.map Row.id).Nodup)
    (hlive : ∀ h ∈ c.closes, Stock.LiveHold s.stock.reservations h)
    (hcorrect : c.correctsStock = false) (h : c.stockAfter s = some stock) :
    s.stock.SameAccounts stock := by
  cases c with
  | reserveStock input expiresAt =>
    simp only [stockAfter, Option.ite_none_right_eq_some] at h
    exact Stock.hold_accounts h.2
  | confirmReservation hold orderId =>
    simp only [stockAfter, Option.ite_none_right_eq_some] at h
    exact Stock.closeHold_accounts (hlive hold List.mem_cons_self) h.2
  | releaseReservation hold | expireReservation hold =>
    exact Stock.closeHold_accounts (hlive hold List.mem_cons_self) h
  | addStock v quantity | removeStock v quantity | adjustStock input delta => cases hcorrect
  | createOrder checkout expiresAt placedUnder => exact Stock.checkout_accounts hfk.new h
  | confirmHolds orderId holds | verifyPayment input payment orderStatus latestAttempt holds =>
    exact Stock.closeHolds_accounts hnodup hlive h
  | updateOrderStatus orderId previousStatus newStatus codPayment holds =>
    simp only [stockAfter, Stock.releaseHolds] at h
    split at h
    · rename_i hdead
      simp only [closes, hdead, if_true] at hnodup hlive
      exact Stock.closeHolds_accounts hnodup hlive h
    · obtain rfl := Option.some.inj h
      exact Stock.SameAccounts.refl _
  | _ =>
    obtain rfl := Option.some.inj h
    exact Stock.SameAccounts.refl _

/-- A correction does not touch the reserved units. -/
lemma stockAfter_correction (hcorrect : c.correctsStock = true) (h : c.stockAfter s = some stock)
    (v : VariantId) :
    stock.reserved v = s.stock.reserved v ∧ stock.reservations = s.stock.reservations := by
  cases c with
  | addStock w quantity =>
    obtain rfl := Option.some.inj h
    exact ⟨(Stock.addStock_eq _ w quantity).2.1 v, rfl⟩
  | removeStock w quantity =>
    exact ⟨(Stock.removeStock_eq_some h).2.1 v, (Stock.removeStock_eq_some h).2.2⟩
  | adjustStock input delta =>
    exact ⟨(Stock.adjustStock_eq_some h).2.1 v, (Stock.adjustStock_eq_some h).2.2⟩
  | _ => cases hcorrect

/-- The slack survives a correction too. -/
lemma stockAfter_slack (hfk : s.ForeignKeys) (hnodup : (c.closes.map Row.id).Nodup)
    (hlive : ∀ h ∈ c.closes, Stock.LiveHold s.stock.reservations h)
    (h : c.stockAfter s = some stock) (v : VariantId) : stock.slack v = s.stock.slack v := by
  cases hcorrect : c.correctsStock with
  | false => exact (stockAfter_accounts hfk hnodup hlive hcorrect h v).1
  | true =>
    obtain ⟨hres, hrows⟩ := stockAfter_correction hcorrect h v
    rw [Stock.slack, Stock.slack, hres, hrows]

end Commit

/-! ## References to orders -/

namespace Stock

/-- The reservations refer to orders below `n`. -/
def Refers (n : ℕ) (s : Stock) : Prop := ∀ r ∈ s.reservations, ∀ o ∈ r.orderId, o < n

variable {s s' : Stock} {n : ℕ}

lemma closeHold_refers {c : Closing} {order : InventoryReservation → Option OrderId} {h : Hold}
    (hs : s.Refers n) (horder : ∀ r ∈ s.reservations, ∀ o ∈ order r, o < n)
    (hc : s.closeHold c order h = some s') : s'.Refers n := by
  rw [Refers, (closeHold_eq_some hc).2.2]
  exact Table.forall_mem_modify hs horder

lemma closeHolds_refers {c : Closing} {holds : List Hold} (hs : s.Refers n)
    (hc : s.closeHolds c holds = some s') : s'.Refers n := by
  refine closeHolds_preserves (P := fun t => t.Refers n) ?_ hs hc
  intro t t' h ht hrefers
  exact closeHold_refers hrefers hrefers ht

lemma Refers.append {l : List InventoryReservation} (hs : s.Refers n)
    (hl : ∀ r ∈ l, ∀ o ∈ r.orderId, o < n) (hrows : s'.reservations = s.reservations ++ l) :
    s'.Refers n := by
  intro r hr
  rw [hrows, List.mem_append] at hr
  rcases hr with hr | hr
  · exact hs r hr
  · exact hl r hr

end Stock

/-- The references survive every batch. -/
lemma foreignKeys_of_apply {s s' : Database} {c : Commit} (hfk : s.ForeignKeys)
    (h : c.apply s = some s') : s'.ForeignKeys := by
  obtain ⟨hstock, hbook, -⟩ := Commit.apply_eq_some h
  have hle : s.book.orders.length ≤ s'.book.orders.length := (Commit.grows h).orders.length_le
  have hs : s.stock.Refers s'.book.orders.length := fun r hr o ho => (hfk r hr o ho).trans_le hle
  show s'.stock.Refers s'.book.orders.length
  cases c with
  | reserveStock input expiresAt =>
    simp only [Commit.stockAfter, Option.ite_none_right_eq_some] at hstock
    refine hs.append (fun r hr o ho => ?_) (Stock.hold_eq_some hstock.2).2.2
    obtain rfl := List.mem_singleton.mp hr
    exact (hstock.1 o ho).trans_le hle
  | confirmReservation hold orderId =>
    simp only [Commit.stockAfter, Option.ite_none_right_eq_some] at hstock
    exact Stock.closeHold_refers hs (fun _ _ o ho => (hstock.1 o ho).trans_le hle) hstock.2
  | releaseReservation hold | expireReservation hold =>
    exact Stock.closeHold_refers hs hs hstock
  | createOrder checkout expiresAt placedUnder =>
    refine hs.append (fun r hr o ho => ?_) (Stock.checkout_eq_some hfk.new hstock).2.2
    obtain ⟨i, -, rfl⟩ := List.mem_map.mp hr
    obtain rfl : s.book.orders.length = o := by simpa using ho
    rw [hbook]
    simp [Commit.bookAfter, OrderBook.createOrder]
  | confirmHolds orderId holds | verifyPayment input payment orderStatus latestAttempt holds =>
    exact Stock.closeHolds_refers hs hstock
  | updateOrderStatus orderId previousStatus newStatus codPayment holds =>
    simp only [Commit.stockAfter, Stock.releaseHolds] at hstock
    split at hstock
    · exact Stock.closeHolds_refers hs hstock
    · rwa [← Option.some.inj hstock]
  | addStock v quantity | removeStock v quantity | adjustStock input delta =>
    rwa [Stock.Refers, (Commit.stockAfter_correction rfl hstock 0).2]
  | _ => rwa [← Option.some.inj hstock]

/-! ## The account of a run -/

/-- The reservations refer to orders that exist, and no unit has appeared or vanished since the
balances were `total`. -/
structure UnitsKept (total : VariantId → ℤ) (s : Database) : Prop where
  foreignKeys : s.ForeignKeys
  total : ∀ v, s.stock.total v = total v

lemma UnitsKept.environ {total : VariantId → ℤ} {s : Database} (h : UnitsKept total s)
    (e : Environ) : UnitsKept total (e.apply s) where
  foreignKeys := by
    have hfk := h.foreignKeys
    simpa [Database.ForeignKeys] using hfk
  total v := by
    rw [Environ.apply_stock]
    exact h.total v

/-- A batch that closes only live reservations and is not a correction keeps the units, and the
slack of the reserved counter. -/
lemma UnitsKept.of_apply {total : VariantId → ℤ} {s s' : Database} {c : Commit}
    (h : UnitsKept total s) (hnodup : (c.closes.map Row.id).Nodup)
    (hlive : ∀ h ∈ c.closes, Stock.LiveHold s.stock.reservations h)
    (hcorrect : c.correctsStock = false) (happ : c.apply s = some s') :
    UnitsKept total s' ∧ ∀ v, s'.stock.slack v = s.stock.slack v := by
  have hstock := (Commit.apply_eq_some happ).1
  have haccounts := Commit.stockAfter_accounts h.foreignKeys hnodup hlive hcorrect hstock
  refine ⟨⟨foreignKeys_of_apply h.foreignKeys happ, fun v => ?_⟩, fun v => (haccounts v).1⟩
  rw [(haccounts v).2]
  exact h.total v

end MeeoServer
