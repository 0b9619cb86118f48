/-
# The inventory services

`inventory/services/reservation.service.ts` and `inventory/services/stock.service.ts`.  Each
program is followed by what it commits: the lemma `f_emits` lists the batches of `f`, with
what the earlier reads of `f` still say about the store when the batch is applied.
-/
import MeeoServer.Inventory.Effects
import MeeoServer.Schema.Commit

namespace MeeoServer

open Proc

variable {I G : Database → Database → Prop} {s₀ : Database}

/-- `h` is the active reservation that a call has read. -/
def ReadActive (I : Database → Database → Prop) (s : Database) (h : Hold) : Prop :=
  Seen I s fun s₀ => s₀.stock.reservations[h.id]? = some h.val ∧ h.val.status = .active

/-- `holds` are the active reservations of an order that a call has listed. -/
def ReadHolds (I : Database → Database → Prop) (s : Database) (orderId : OrderId)
    (holds : List Hold) : Prop :=
  Seen I s fun s₀ => holds = s₀.stock.activeHolds orderId

lemma ReadHolds.readActive {s : Database} {orderId : OrderId} {holds : List Hold}
    (h : ReadHolds I s orderId holds) : ∀ r ∈ holds, ReadActive I s r := by
  obtain ⟨s₀, hI, rfl⟩ := h
  intro r hr
  obtain ⟨hrow, hp⟩ := Table.mem_findMany.mp hr
  simp only [Bool.decide_and, Bool.and_eq_true, decide_eq_true_eq] at hp
  exact ⟨s₀, hI, hrow, hp.2⟩

lemma ReadHolds.nodup {s : Database} {orderId : OrderId} {holds : List Hold}
    (h : ReadHolds I s orderId holds) : (holds.map Row.id).Nodup := by
  obtain ⟨s₀, -, rfl⟩ := h
  exact Table.nodup_findMany _ _

/-! ## Reservations -/

/-- Reserve stock for checkout with overselling protection and TTL expiration. -/
def reserveStock (input : ReserveStockInput) : Service Unit := do
  let db ← Proc.read
  match db.stock.inventory input.variantId with
  | none => throw ⟨"Inventory record not found for this variant", 404⟩
  | some inventory =>
    if inventory.availableQuantity < input.quantity then
      throw ⟨s!"Insufficient stock to reserve. Requested: {input.quantity}, Available: {inventory.availableQuantity}.", 400⟩
    else
      -- the decrement is made to the row of the commit, not to the one that was checked
      let _ ← Proc.commit (.reserveStock input (db.clock + minutes input.expiresInMinutes))
      pure ()

lemma reserveStock_emits (input : ReserveStockInput) :
    (reserveStock input).Emits Commit.apply I G
      (fun _ c => ∃ expiresAt, c = .reserveStock input expiresAt) Any s₀ := by
  refine emits_read fun s _ => ?_
  split
  · exact emits_throw
  · split
    · exact emits_throw
    · exact emits_commit (fun _ _ => ⟨_, rfl⟩) fun _ _ _ _ _ => emits_pure

/-- Confirm a reservation upon successful payment. -/
def confirmReservation (reservationId : ℕ) (orderId : Option OrderId) : Service Unit := do
  let db ← Proc.read
  match db.stock.reservations[reservationId]? with
  | none => throw ⟨"Inventory reservation not found", 404⟩
  | some reservation =>
    if reservation.status ≠ .active then
      throw ⟨s!"Cannot confirm reservation. Current status is {reservation.status.name}.", 400⟩
    else if reservation.expiresAt < db.clock then
      -- the callback has written the expiry, but the throw rolls its transaction back
      throw ⟨"Reservation has expired. Stock has been restored to available inventory.", 400⟩
    else
      let _ ← Proc.commit (.confirmReservation ⟨reservationId, reservation⟩ orderId)
      pure ()

lemma confirmReservation_emits (id : ℕ) (orderId : Option OrderId) :
    (confirmReservation id orderId).Emits Commit.apply I G
      (fun s c => ∃ h, ReadActive I s h ∧ c = .confirmReservation h orderId) Any s₀ := by
  refine emits_read fun s _ => ?_
  split
  · exact emits_throw
  · rename_i reservation hrow
    split
    · exact emits_throw
    · rename_i hactive
      split
      · exact emits_throw
      · refine emits_commit (fun s' hs' => ⟨⟨id, reservation⟩, ⟨s, hs', hrow, ?_⟩, rfl⟩)
          fun _ _ _ _ _ => emits_pure
        simpa using hactive

/-- Release a reservation upon payment failure, cancellation, or checkout abandonment. -/
def releaseReservation (reservationId : ℕ) : Service Unit := do
  let db ← Proc.read
  match db.stock.reservations[reservationId]? with
  | none => throw ⟨"Inventory reservation not found", 404⟩
  | some reservation =>
    if reservation.status ≠ .active then
      throw ⟨s!"Cannot release reservation. Current status is {reservation.status.name}.", 400⟩
    else
      let _ ← Proc.commit (.releaseReservation ⟨reservationId, reservation⟩)
      pure ()

lemma releaseReservation_emits (id : ℕ) :
    (releaseReservation id).Emits Commit.apply I G
      (fun s c => ∃ h, ReadActive I s h ∧ c = .releaseReservation h) Any s₀ := by
  refine emits_read fun s _ => ?_
  split
  · exact emits_throw
  · rename_i reservation hrow
    split
    · exact emits_throw
    · rename_i hactive
      refine emits_commit (fun s' hs' => ⟨⟨id, reservation⟩, ⟨s, hs', hrow, ?_⟩, rfl⟩)
        fun _ _ _ _ _ => emits_pure
      simpa using hactive

/-- The loop of `expireStaleReservations`: one transaction for each listed reservation, which
neither reads the row again nor looks at its status. -/
def expireEach : List Hold → Service Unit
  | [] => pure ()
  | res :: rest => do
    let _ ← Proc.commit (.expireReservation res)
    expireEach rest

/-- Background cleanup: Sweeps and expires all active reservations whose TTL has passed. -/
def expireStaleReservations : Service Unit := do
  let db ← Proc.read
  expireEach (db.stock.staleHolds db.clock)

lemma readActive_of_mem_staleHolds {s s₁ : Database} {h : Hold} {now : Millis} (hI : I s₁ s)
    (hh : h ∈ s₁.stock.staleHolds now) : ReadActive I s h := by
  obtain ⟨hrow, hp⟩ := Table.mem_findMany.mp hh
  simp only [Bool.decide_and, Bool.and_eq_true, decide_eq_true_eq] at hp
  exact ⟨s₁, hI, hrow, hp.1⟩

/-- While other calls run, the rows of the list are as old as the list. -/
lemma expireStaleReservations_emits (hrefl : ∀ s, I s s)
    (htrans : ∀ {s t u}, I s t → I t u → I s u) (hG : ∀ s s', G s s' → I s s') :
    expireStaleReservations.Emits Commit.apply I G
      (fun s c => ∃ h, ReadActive I s h ∧ c = .expireReservation h) Any s₀ := by
  have loop : ∀ (l : List Hold) (s₁ s : Database), I s₁ s →
      (∀ h ∈ l, ∃ now, h ∈ s₁.stock.staleHolds now) →
      (expireEach l).Emits Commit.apply I G
        (fun s c => ∃ h, ReadActive I s h ∧ c = .expireReservation h) Any s := by
    intro l
    induction l with
    | nil => exact fun _ _ _ _ => emits_pure
    | cons h l ih =>
      intro s₁ s hs hl
      -- `s₁` is the store that was listed, `s` the one at the head of the loop
      obtain ⟨now, hnow⟩ := hl h List.mem_cons_self
      refine emits_commit
        (fun t ht => ⟨h, readActive_of_mem_staleHolds (htrans hs ht) hnow, rfl⟩) ?_
      intro t t' ht _ hg
      exact ih s₁ t' (htrans (htrans hs ht) (hG t t' hg))
        fun h' hh' => hl h' (List.mem_cons_of_mem h hh')
  exact emits_read fun s _ => loop _ s s (hrefl s) fun h hh => ⟨s.clock, hh⟩

/-- While nobody else touches the stock, the loop closes each listed reservation as the list
describes it: no row is listed twice. -/
lemma expireStaleReservations_solo (hrefl : ∀ s, I s s)
    (hstock : ∀ {s t : Database}, I s t → t.stock = s.stock) :
    expireStaleReservations.Emits Commit.apply I G
      (fun s c => ∃ h, ReadActive I s h ∧ c = .expireReservation h) Any s₀ := by
  have loop : ∀ (l : List Hold) (s : Database), (l.map Row.id).Nodup →
      (∀ h ∈ l, s.stock.reservations[h.id]? = some h.val ∧ h.val.status = .active) →
      (expireEach l).Emits Commit.apply I G
        (fun s c => ∃ h, ReadActive I s h ∧ c = .expireReservation h) Any s := by
    intro l
    induction l with
    | nil => exact fun _ _ _ => emits_pure
    | cons h l ih =>
      intro s hnodup hl
      simp only [List.map_cons, List.nodup_cons, List.mem_map, not_exists, not_and] at hnodup
      refine emits_commit (fun t ht => ⟨h, ⟨t, hrefl t, ?_⟩, rfl⟩) fun t t' ht happ _ => ?_
      · show t.stock.reservations[h.id]? = some h.val ∧ h.val.status = .active
        rw [hstock ht]
        exact hl h List.mem_cons_self
      · simp only [Commit.apply, Option.bind_eq_bind, Option.bind_eq_some_iff,
          Option.some.injEq] at happ
        obtain ⟨u, hu, rfl⟩ := happ
        -- closing `h` leaves the other listed rows alone
        refine ih _ hnodup.2 fun h' hh' => ?_
        have hne : h.id ≠ h'.id := fun heq => hnodup.1 h' hh' heq.symm
        obtain ⟨hrow, hactive⟩ := hl h' (List.mem_cons_of_mem h hh')
        refine ⟨?_, hactive⟩
        show u.reservations[h'.id]? = _
        rw [(Stock.closeHold_eq_some hu).2.2, hstock ht, List.getElem?_modify_ne _ _ hne, hrow]
  refine emits_read fun s _ => loop _ s (Table.nodup_findMany _ _) fun h hh => ?_
  obtain ⟨hrow, hp⟩ := Table.mem_findMany.mp hh
  simp only [Bool.decide_and, Bool.and_eq_true, decide_eq_true_eq] at hp
  exact ⟨hrow, hp.1⟩

/-! ## Stock -/

/-- Add physical stock to a variant and record a STOCK_ADDED transaction. -/
def addStock (variantId : VariantId) (quantity : ℕ) : Service Unit := do
  let db ← Proc.read
  if db.stock.variants variantId then
    let _ ← Proc.commit (.addStock variantId quantity)
    pure ()
  else
    throw ⟨"Product variant not found", 404⟩

lemma addStock_emits (v : VariantId) (quantity : ℕ) :
    (addStock v quantity).Emits Commit.apply I G (fun _ c => c = .addStock v quantity) Any s₀ := by
  refine emits_read fun s _ => ?_
  split
  · exact emits_commit (fun _ _ => rfl) fun _ _ _ _ _ => emits_pure
  · exact emits_throw

/-- Remove stock (e.g. damages, shrinkage, write-offs) with overselling guard. -/
def removeStock (variantId : VariantId) (quantity : ℕ) : Service Unit := do
  let db ← Proc.read
  match db.stock.inventory variantId with
  | none => throw ⟨"Inventory record not found for this variant", 404⟩
  | some inventory =>
    if inventory.availableQuantity < quantity then
      throw ⟨s!"Cannot remove {quantity} units. Available stock is only {inventory.availableQuantity}.", 400⟩
    else
      let _ ← Proc.commit (.removeStock variantId quantity)
      pure ()

lemma removeStock_emits (v : VariantId) (quantity : ℕ) :
    (removeStock v quantity).Emits Commit.apply I G
      (fun _ c => c = .removeStock v quantity) Any s₀ := by
  refine emits_read fun s _ => ?_
  split
  · exact emits_throw
  · split
    · exact emits_throw
    · exact emits_commit (fun _ _ => rfl) fun _ _ _ _ _ => emits_pure

/-- Perform a manual inventory adjustment to synchronize actual stock counts.  The difference
that the ledger records is computed from the row as it was read. -/
def adjustStock (input : AdjustStockInput) : Service Unit := do
  let db ← Proc.read
  match db.stock.inventory input.variantId with
  | none => throw ⟨"Inventory record not found for this variant", 404⟩
  | some inventory =>
    let delta : ℤ := match input.availableQuantity with
      | some availableQuantity => availableQuantity - inventory.availableQuantity
      | none => 0
    let _ ← Proc.commit (.adjustStock input delta)
    pure ()

lemma adjustStock_emits (input : AdjustStockInput) :
    (adjustStock input).Emits Commit.apply I G
      (fun _ c => ∃ delta, c = .adjustStock input delta) Any s₀ := by
  refine emits_read fun s _ => ?_
  split
  · exact emits_throw
  · exact emits_commit (fun _ _ => ⟨_, rfl⟩) fun _ _ _ _ _ => emits_pure

end MeeoServer
