/-
# No overselling

The services check the available quantity on a row they have read, and then decrement the
counter the row has by the time of the write.  Nothing ties the two together, so two callers
can both pass the check for the last unit.  The counters stay non-negative in every run in
which each check is still true when its write is made.
-/
import MeeoServer.Inventory.Accounting

namespace MeeoServer

/-- The units that a batch takes out of the available stock are there. -/
def Commit.FindsStock (s : Database) : Commit → Prop
  | .reserveStock input _ => (input.quantity : ℤ) ≤ s.stock.available input.variantId
  | .removeStock v quantity => (quantity : ℤ) ≤ s.stock.available v
  | .createOrder checkout _ _ => ∀ item ∈ checkout.items,
      itemUnits checkout.items item.variantId ≤ s.stock.available item.variantId
  | _ => True

instance (s : Database) (c : Commit) : Decidable (c.FindsStock s) := by
  unfold Commit.FindsStock
  split <;> infer_instance

/-- The check of the batch is still true: the units it takes are available, and the
reservations it closes are active. -/
def ChecksHold (s : Database) (c : Commit) : Prop := c.FindsStock s ∧ c.ClosesActive s

instance (s : Database) (c : Commit) : Decidable (ChecksHold s c) :=
  inferInstanceAs (Decidable (_ ∧ _))

/-- No counter is negative, and the reserved counter covers the active reservations. -/
structure Solvent (s : Database) : Prop where
  foreignKeys : s.ForeignKeys
  available : ∀ v, 0 ≤ s.stock.available v
  covered : ∀ v, 0 ≤ s.stock.slack v

lemma Solvent.reserved {s : Database} (h : Solvent s) (v : VariantId) :
    0 ≤ s.stock.reserved v := by
  have hslack := h.covered v
  have hunits := unitsOf_nonneg isActive s.stock.reservations v
  rw [Stock.slack] at hslack
  omega

/-- A variant that is not among the items loses nothing. -/
lemma itemUnits_le {items : List OrderItem} {a : VariantId → ℤ} (ha : ∀ v, 0 ≤ a v)
    (h : ∀ i ∈ items, itemUnits items i.variantId ≤ a i.variantId) (v : VariantId) :
    itemUnits items v ≤ a v := by
  by_cases hv : ∃ i ∈ items, i.variantId = v
  · obtain ⟨i, hi, rfl⟩ := hv
    exact h i hi
  · have hzero : itemUnits items v = 0 := by
      rw [itemUnits]
      refine List.sum_eq_zero fun u hu => ?_
      obtain ⟨i, hi, rfl⟩ := List.mem_map.mp hu
      exact if_neg fun heq => hv ⟨i, hi, heq⟩
    rw [hzero]
    exact ha v

/-- One batch whose check is still true takes no counter below zero. -/
lemma available_nonneg_of_apply {s : Database} {c : Commit} {stock : Stock} (h : Solvent s)
    (hfinds : c.FindsStock s) (hstock : c.stockAfter s = some stock) (v : VariantId) :
    0 ≤ stock.available v := by
  have hv := h.available v
  cases c with
  | reserveStock input expiresAt =>
    simp only [Commit.stockAfter, Option.ite_none_right_eq_some] at hstock
    rw [(Stock.hold_eq_some hstock.2).1 v]
    -- the check of the call, which is still true at the write
    have hle : (input.quantity : ℤ) ≤ s.stock.available input.variantId := hfinds
    by_cases hvar : v = input.variantId
    · subst hvar
      simpa using hle
    · simpa [hvar] using hv
  | confirmReservation hold orderId =>
    simp only [Commit.stockAfter, Option.ite_none_right_eq_some] at hstock
    -- closing a hold never takes available units away
    exact hv.trans (Stock.closeHold_available_le hstock.2)
  | releaseReservation hold | expireReservation hold =>
    exact hv.trans (Stock.closeHold_available_le hstock)
  | addStock w quantity =>
    obtain rfl := Option.some.inj hstock
    rw [(Stock.addStock_eq _ w quantity).1 v]
    split <;> omega
  | removeStock w quantity =>
    rw [(Stock.removeStock_eq_some hstock).1 v]
    have hle : (quantity : ℤ) ≤ s.stock.available w := hfinds
    by_cases hvar : v = w
    · subst hvar
      simpa using hle
    · simpa [hvar] using hv
  | adjustStock input delta => exact (Stock.adjustStock_eq_some hstock).1 v hv
  | createOrder checkout expiresAt placedUnder =>
    rw [(Stock.checkout_eq_some h.foreignKeys.new hstock).1 v]
    have hle := itemUnits_le h.available hfinds v
    omega
  | confirmHolds orderId holds | verifyPayment input payment orderStatus latestAttempt holds =>
    exact hv.trans (Stock.closeHolds_available_le hstock)
  | updateOrderStatus orderId previousStatus newStatus codPayment holds =>
    simp only [Commit.stockAfter, Stock.releaseHolds] at hstock
    split at hstock
    · exact hv.trans (Stock.closeHolds_available_le hstock)
    · rwa [← Option.some.inj hstock]
  | _ => rwa [← Option.some.inj hstock]

/-- **No overselling**, in the runs in which every check still holds at its write: whatever
calls run, and in whatever order their steps are taken, no counter becomes negative. -/
theorem quantities_nonneg (config : GatewayConfig) (Allowed : Call → Prop) {s₀ : Database}
    (h₀ : Solvent s₀) {cfg : Config Database Commit AppError}
    (hr : (server config).Reachable Allowed ChecksHold s₀ cfg) (v : VariantId) :
    0 ≤ cfg.store.stock.available v ∧ 0 ≤ cfg.store.stock.reserved v := by
  have hsolvent : Solvent cfg.store := by
    refine (server_rely config Allowed ChecksHold).invariant hr h₀ ?_ ?_
    · intro e s hs
      have hfk := hs.foreignKeys
      have havailable := hs.available
      have hcovered := hs.covered
      constructor
      · simpa [server, Database.ForeignKeys] using hfk
      · simpa [server] using havailable
      · simpa [server] using hcovered
    · intro x s c s' _ hspec hcond happ hs
      have hstock := (Commit.apply_eq_some happ).1
      have hlive := closes_live hspec hcond.2
      have hslack := Commit.stockAfter_slack hs.foreignKeys hspec.closes.2 hlive hstock
      constructor
      · exact foreignKeys_of_apply hs.foreignKeys happ
      · exact available_nonneg_of_apply hs hcond.1 hstock
      · intro v
        rw [hslack v]
        exact hs.covered v
  exact ⟨hsolvent.available v, hsolvent.reserved v⟩

lemma Solvent.stocked (quantity : ℕ) : Solvent (.stocked quantity) where
  foreignKeys := Database.stocked_foreignKeys quantity
  available v := by simp [Database.stocked, Stock.available]
  covered v := by simp [Database.stocked, Stock.slack, Stock.reserved, unitsOf]

/-- One unit is in stock, and it is reserved. -/
theorem quantities_nonneg_reserved :
    ∃ cfg, (server .unchecked).Reachable (fun _ => True) ChecksHold (.stocked 1) cfg ∧
      cfg.store.stock.available 0 = 0 ∧
      0 ≤ cfg.store.stock.available 0 ∧ 0 ≤ cfg.store.stock.reserved 0 := by
  obtain ⟨cfg, hr, hav⟩ := Machine.exists_reachable_of_exec
    (server .unchecked) (fun _ => True) ChecksHold
    [.call (.reserveStock ⟨0, 1, none, 15⟩), .step 0 .ok, .step 0 .ok]
    (.stocked 1) (fun s => s.stock.available 0) 0 (by decide)
  exact ⟨cfg, hr, hav, quantities_nonneg .unchecked (fun _ => True) (.stocked 1) hr 0⟩

/-- The calls that move stock between the counters. -/
def Call.movesStock : Call → Bool
  | .reserveStock .. | .createOrder .. | .addStock .. | .removeStock .. | .adjustStock ..
  | .confirmReservation .. | .releaseReservation .. | .expireStaleReservations
  | .updateOrderStatus .. | .cancelOrder .. | .expireStaleOrders .. | .confirmOrder .. => true
  | _ => false

/-- Without the condition the last unit is sold twice: two reservations read the same row, and
both decrement it. -/
theorem quantities_negative :
    ¬ ∀ (config : GatewayConfig) (s₀ : Database) (cfg : Config Database Commit AppError),
      Solvent s₀ → (server config).Reachable (fun x => x.movesStock = true) Free s₀ cfg →
      ∀ v, 0 ≤ cfg.store.stock.available v ∧ 0 ≤ cfg.store.stock.reserved v := by
  intro h
  obtain ⟨cfg, hr, hav⟩ := Machine.exists_reachable_of_exec
    (server .unchecked) (fun x => x.movesStock = true) Free
    [.call (.reserveStock ⟨0, 1, none, 15⟩), .call (.reserveStock ⟨0, 1, none, 15⟩),
      .step 0 .ok, .step 1 .ok, .step 0 .ok, .step 1 .ok]
    (.stocked 1) (fun s => s.stock.available 0) (-1) (by decide)
  have hnonneg := (h .unchecked (.stocked 1) cfg (.stocked 1) hr 0).1
  rw [hav] at hnonneg
  exact absurd hnonneg (by decide)

end MeeoServer
