/-
# The ledger of the stock

Each row of the ledger stands for a change of the two counters of its variant.  What the counters
of a variant say beyond its rows is `unlogged`: an increment adds to it, and a row takes from it
what the row stands for.  Holding, closing, selling and the two corrections by a quantity log the
change that they make.  An adjustment logs a difference to the quantity that it has read, which
need not be the one that it replaces.
-/
import MeeoServer.Server.Tables
import MeeoServer.Table.Folds
import Mathlib.Algebra.Group.Int.Defs
import Mathlib.Algebra.Group.Prod
import Mathlib.Tactic.Abel

namespace MeeoServer

/-- The change of the available and of the reserved quantity that a row of the ledger stands
for. -/
def InventoryTransaction.effect (t : InventoryTransaction) : ℤ × ℤ :=
  match t.type with
  | .stockAdded | .returned | .manualAdjustment => (t.quantity, 0)
  | .stockRemoved => (-t.quantity, 0)
  | .orderReserved => (-t.quantity, t.quantity)
  | .orderConfirmed => (0, -t.quantity)
  | .orderCancelled => (t.quantity, -t.quantity)

namespace Stock

/-- The available and the reserved quantity of a variant. -/
def counters (s : Stock) (v : VariantId) : ℤ × ℤ := (s.available v, s.reserved v)

/-- The rows of a variant, folded in the order of the ledger. -/
def replayed (s : Stock) (v : VariantId) : ℤ × ℤ :=
  Table.replay InventoryTransaction.variantId InventoryTransaction.effect (0, 0)
    s.inventoryTransactions v

/-- The ledger replays to the stock. -/
def Replays (s : Stock) : Prop := ∀ v, s.replayed v = s.counters v

/-- What the counters of a variant say beyond its rows. -/
def unlogged (s : Stock) (v : VariantId) : ℤ × ℤ := s.counters v - s.replayed v

lemma replays_iff {s : Stock} : s.Replays ↔ ∀ v, s.unlogged v = 0 := by
  refine forall_congr' fun v => ?_
  rw [unlogged, sub_eq_zero, eq_comm]

variable {s s' : Stock} {v w : VariantId}

/-! ## The two statements -/

lemma incrementInventory_unlogged {a r : ℤ} (h : s.incrementInventory v a r = some s') :
    s'.unlogged w = s.unlogged w + if w = v then (a, r) else 0 := by
  obtain ⟨ha, hr, -⟩ := incrementInventory_eq_some (w := w) h
  have hlog := incrementInventory_transactions h
  have hcounters : s'.counters w = s.counters w + if w = v then (a, r) else 0 := by
    refine Prod.ext ?_ ?_
    · show s'.available w = _
      rw [ha w]
      split <;> simp [counters]
    · show s'.reserved w = _
      rw [hr w]
      split <;> simp [counters]
  rw [unlogged, unlogged, replayed, replayed, hlog, hcounters]
  abel

lemma createTransaction_unlogged (s : Stock) (t : InventoryTransactionType) (q : ℤ) :
    (s.createTransaction v t q).unlogged w =
      s.unlogged w - if w = v then InventoryTransaction.effect ⟨v, t, q⟩ else 0 := by
  have hreplay : (s.createTransaction v t q).replayed w =
      s.replayed w + if w = v then InventoryTransaction.effect ⟨v, t, q⟩ else 0 := by
    simp only [replayed, createTransaction, Table.replay_concat, eq_comm (a := w)]
  have hcounters : (s.createTransaction v t q).counters w = s.counters w := rfl
  rw [unlogged, unlogged, hreplay, hcounters]
  abel

/-- A row that stands for the increment before it settles it. -/
lemma increment_logged {a r q : ℤ} {t : InventoryTransactionType}
    (h : s.incrementInventory v a r = some s')
    (heffect : InventoryTransaction.effect ⟨v, t, q⟩ = (a, r)) :
    s'.unlogged w - (if w = v then InventoryTransaction.effect ⟨v, t, q⟩ else 0) =
      s.unlogged w := by
  rw [heffect, incrementInventory_unlogged h]
  exact add_sub_cancel_right _ _

/-! ## The changes that are logged -/

lemma hold_unlogged {q : ℕ} {o : Option OrderId} {e : Millis} (h : s.hold v q o e = some s') :
    s'.unlogged w = s.unlogged w := by
  simp only [hold, Option.bind_eq_bind, Option.bind_eq_some_iff, Option.pure_def,
    Option.some.injEq] at h
  obtain ⟨t, ht, rfl⟩ := h
  rw [createTransaction_unlogged]
  show t.unlogged w - _ = _
  exact increment_logged ht rfl

lemma holdItems_unlogged {o : OrderId} {e : Millis} {items : List OrderItem}
    (h : s.holdItems o e items = some s') : s'.unlogged w = s.unlogged w := by
  induction items generalizing s with
  | nil =>
    obtain rfl : s = s' := by simpa [holdItems] using h
    rfl
  | cons i items ih =>
    simp only [holdItems, List.foldlM_cons, Option.bind_eq_bind, Option.bind_eq_some_iff] at h
    obtain ⟨t, ht, hrest⟩ := h
    rw [ih hrest, hold_unlogged ht]

/-- The row that a closing writes stands for the change that it makes. -/
def Closing.Logs (c : Closing) : Prop :=
  ∀ v (q : ℤ), InventoryTransaction.effect ⟨v, c.type, q⟩ = (if c.returns then q else 0, -q)

lemma confirm_logs : Closing.confirm.Logs := fun _ _ => rfl

lemma release_logs : Closing.release.Logs := fun _ _ => rfl

lemma expire_logs : Closing.expire.Logs := fun _ _ => rfl

lemma closeHold_unlogged {c : Closing} {order : InventoryReservation → Option OrderId} {h : Hold}
    (hc : c.Logs) (hclose : s.closeHold c order h = some s') : s'.unlogged w = s.unlogged w := by
  simp only [closeHold, Option.bind_eq_bind, Option.bind_eq_some_iff, Option.pure_def,
    Option.some.injEq] at hclose
  obtain ⟨t, ht, rfl⟩ := hclose
  rw [createTransaction_unlogged]
  show t.unlogged w - _ = _
  exact increment_logged ht (hc _ _)

lemma closeHolds_unlogged {c : Closing} {holds : List Hold} (hc : c.Logs)
    (hclose : s.closeHolds c holds = some s') : s'.unlogged w = s.unlogged w := by
  refine closeHolds_preserves (P := fun t => t.unlogged w = s.unlogged w) ?_ rfl hclose
  intro t t' h ht hunlogged
  rw [closeHold_unlogged hc ht, hunlogged]

/-- A sale takes the items out of the reserved stock first, and logs them afterwards. -/
lemma sellItems_unlogged {o : OrderId} {items : List OrderItem}
    (h : s.sellItems o items = some s') : s'.unlogged w = s.unlogged w := by
  -- the counters run ahead of the log, by the items that are sold
  have increments : ∀ (items : List OrderItem) {s t : Stock},
      items.foldlM (fun s item => incrementInventory s item.variantId 0 (-item.quantity)) s =
        some t → t.unlogged w = s.unlogged w + (0, -itemUnits items w) := by
    intro items
    induction items with
    | nil =>
      intro s t h
      obtain rfl : s = t := by simpa using h
      simp
    | cons i items ih =>
      intro s t h
      simp only [List.foldlM_cons, Option.bind_eq_bind, Option.bind_eq_some_iff] at h
      obtain ⟨u, hu, hrest⟩ := h
      rw [ih hrest, incrementInventory_unlogged hu, itemUnits_cons, add_assoc]
      congr 1
      by_cases hw : w = i.variantId
      · simp [hw, neg_add_rev, add_comm]
      · simp [hw, Ne.symm hw]
  -- and the log catches up with them
  have rows : ∀ (items : List OrderItem) (s : Stock),
      (items.foldl (fun s i => createTransaction s i.variantId .orderConfirmed i.quantity)
        s).unlogged w = s.unlogged w - (0, -itemUnits items w) := by
    intro items
    induction items with
    | nil => exact fun s => (sub_zero (s.unlogged w)).symm
    | cons i items ih =>
      intro s
      rw [List.foldl_cons, ih, createTransaction_unlogged, itemUnits_cons, sub_sub]
      congr 1
      by_cases hw : w = i.variantId
      · simp [hw, InventoryTransaction.effect, neg_add_rev, add_comm]
      · simp [hw, Ne.symm hw]
  simp only [sellItems, Option.bind_eq_bind, Option.bind_eq_some_iff, Option.pure_def,
    Option.some.injEq] at h
  obtain ⟨t, ht, rfl⟩ := h
  rw [rows]
  show t.unlogged w - _ = _
  rw [increments items ht]
  exact add_sub_cancel_right _ _

lemma checkout_unlogged {o : OrderId} {e : Millis} {isCod : Bool} {items : List OrderItem}
    (h : s.checkout o e isCod items = some s') : s'.unlogged w = s.unlogged w := by
  simp only [checkout, Option.bind_eq_bind, Option.bind_eq_some_iff] at h
  obtain ⟨held, hheld, hsold⟩ := h
  cases isCod with
  | false =>
    obtain rfl : held = s' := by simpa using hsold
    exact holdItems_unlogged hheld
  | true => rw [sellItems_unlogged hsold, holdItems_unlogged hheld]

lemma addStock_unlogged (s : Stock) (q : ℕ) : (s.addStock v q).unlogged w = s.unlogged w := by
  unfold addStock
  rw [createTransaction_unlogged]
  by_cases hw : w = v
  · subst hw
    cases hrow : s.inventory w with
    | none =>
      simp [unlogged, counters, replayed, available, reserved, hrow, InventoryTransaction.effect,
        Prod.ext_iff]
    | some row =>
      simp [unlogged, counters, replayed, available, reserved, hrow, InventoryTransaction.effect,
        Prod.ext_iff]
      omega
  · simp [unlogged, counters, replayed, available, reserved, hw]

lemma removeStock_unlogged {q : ℕ} (h : s.removeStock v q = some s') :
    s'.unlogged w = s.unlogged w := by
  simp only [removeStock, Option.bind_eq_bind, Option.bind_eq_some_iff, Option.some.injEq] at h
  obtain ⟨t, ht, rfl⟩ := h
  rw [createTransaction_unlogged]
  exact increment_logged ht rfl

/-! ## The adjustment -/

/-- What an adjustment changes beyond the difference that it logs: it sets the available
quantity, whatever that is by then. -/
def unloggedBy (s : Stock) (input : AdjustStockInput) (delta : ℤ) : ℤ :=
  (input.availableQuantity.map Nat.cast).getD (s.available input.variantId) -
    (s.available input.variantId + delta)

lemma adjustStock_unlogged {input : AdjustStockInput} {delta : ℤ}
    (h : s.adjustStock input delta = some s') :
    s'.unlogged w = s.unlogged w +
      if w = input.variantId then (s.unloggedBy input delta, 0) else 0 := by
  simp only [adjustStock, Option.bind_eq_bind, Option.bind_eq_some_iff, Option.some.injEq] at h
  obtain ⟨row, hrow, rfl⟩ := h
  rw [createTransaction_unlogged]
  by_cases hw : w = input.variantId
  · subst hw
    simp [unlogged, counters, replayed, available, reserved, hrow, InventoryTransaction.effect,
      unloggedBy, Prod.ext_iff]
    omega
  · simp [unlogged, counters, replayed, available, reserved, hw]

end Stock

/-! ## The batches of the server -/

namespace Commit

/-- What a batch of the server changes beyond what it logs. -/
def unlogged (s : Database) : Commit → VariantId → ℤ × ℤ
  | adjustStock input delta, v =>
    if v = input.variantId then (s.stock.unloggedBy input delta, 0) else 0
  | _, _ => 0

/-- **Every other batch logs what it changes.** -/
theorem stockAfter_unlogged {s : Database} {c : Commit} {stock : Stock}
    (h : c.stockAfter s = some stock) (v : VariantId) :
    stock.unlogged v = s.stock.unlogged v + c.unlogged s v := by
  have logged : stock.unlogged v = s.stock.unlogged v → c.unlogged s v = 0 →
      stock.unlogged v = s.stock.unlogged v + c.unlogged s v := by
    intro hsame hzero
    rw [hsame, hzero, add_zero]
  cases c with
  | reserveStock input expiresAt =>
    simp only [stockAfter, Option.ite_none_right_eq_some] at h
    exact logged (Stock.hold_unlogged h.2) rfl
  | confirmReservation hold orderId =>
    simp only [stockAfter, Option.ite_none_right_eq_some] at h
    exact logged (Stock.closeHold_unlogged Stock.confirm_logs h.2) rfl
  | releaseReservation hold => exact logged (Stock.closeHold_unlogged Stock.release_logs h) rfl
  | expireReservation hold => exact logged (Stock.closeHold_unlogged Stock.expire_logs h) rfl
  | addStock w quantity =>
    obtain rfl := Option.some.inj h
    exact logged (Stock.addStock_unlogged s.stock quantity) rfl
  | removeStock w quantity => exact logged (Stock.removeStock_unlogged h) rfl
  -- the one batch that writes a counter and logs another amount
  | adjustStock input delta => exact Stock.adjustStock_unlogged h
  | createOrder checkout expiresAt placedUnder => exact logged (Stock.checkout_unlogged h) rfl
  | confirmHolds orderId holds | verifyPayment input payment orderStatus latestAttempt holds =>
    exact logged (Stock.closeHolds_unlogged Stock.confirm_logs h) rfl
  | updateOrderStatus orderId previousStatus newStatus codPayment holds =>
    simp only [stockAfter, Stock.releaseHolds] at h
    split at h
    · exact logged (Stock.closeHolds_unlogged Stock.release_logs h) rfl
    · obtain rfl := Option.some.inj h
      exact logged rfl rfl
  | _ =>
    obtain rfl := Option.some.inj h
    exact logged rfl rfl

end Commit

end MeeoServer
