/-
# The confirmation of an expired reservation

`confirmReservation` finds that the reservation has expired, returns its stock, marks it and logs
the return, and throws.  All of that is in one transaction, so the throw takes it back, and the
reservation stays as it was.
-/
import MeeoServer.Inventory.Services
import MeeoServer.Process.Transaction

namespace MeeoServer

namespace Expiry

open Callback

/-- A statement on the tables of the inventory. -/
def onStock (statement : Stock → Option Stock) : Callback Database AppError Unit :=
  execute fun db => (statement db.stock).map fun stock => { db with stock := stock }

/-- The error of a confirmation that comes too late. -/
def reservationExpired : AppError :=
  ⟨"Reservation has expired. Stock has been restored to available inventory.", 400⟩

/-- The callback of the transaction. -/
def confirmReservationCallback (reservationId : ℕ) (orderId : Option OrderId) :
    Callback Database AppError Unit := do
  let db ← get
  match db.stock.reservations[reservationId]? with
  | none => throw ⟨"Inventory reservation not found", 404⟩
  | some reservation =>
    if reservation.status ≠ .active then
      throw ⟨s!"Cannot confirm reservation. Current status is {reservation.status.name}.", 400⟩
    else if reservation.expiresAt < db.clock then
      -- auto-expire and return stock
      onStock fun stock => stock.incrementInventory reservation.variantId reservation.quantity
        (-reservation.quantity)
      onStock fun stock => some (stock.updateReservation reservationId
        fun row => { row with status := .expired })
      onStock fun stock => some (stock.createTransaction reservation.variantId .orderCancelled
        reservation.quantity)
      throw reservationExpired
    else
      execute (Commit.apply (.confirmReservation ⟨reservationId, reservation⟩ orderId))

/-- Confirm a reservation upon successful payment. -/
def confirmReservation (reservationId : ℕ) (orderId : Option OrderId) :
    Database → Except AppError Unit × Database :=
  transaction (confirmReservationCallback reservationId orderId)

variable {db : Database} {reservationId : ℕ} {orderId : Option OrderId}
  {reservation : InventoryReservation}

/-- The reservation has been expired: it is marked, its quantity has gone back from the reserved
stock to the available one, once, and the ledger says so. -/
structure HoldExpired (hold : Hold) (s s' : Stock) : Prop where
  status_eq : (s'.reservations[hold.id]?).map InventoryReservation.status = some .expired
  available_eq : s'.available hold.val.variantId =
    s.available hold.val.variantId + hold.val.quantity
  reserved_eq : s'.reserved hold.val.variantId =
    s.reserved hold.val.variantId - hold.val.quantity
  transactions_eq : s'.inventoryTransactions = s.inventoryTransactions ++
    [⟨hold.val.variantId, .orderCancelled, hold.val.quantity⟩]

lemma outcome_onStock {statement : Stock → Option Stock} {stock : Stock}
    (h : statement db.stock = some stock) :
    (onStock statement).outcome db = (.ok (), { db with stock := stock }) :=
  outcome_execute (by rw [h]; rfl)

lemma exists_closeHold (h : (db.stock.inventory reservation.variantId).isSome) :
    ∃ stock, db.stock.closeHold .expire InventoryReservation.orderId
      ⟨reservationId, reservation⟩ = some stock := by
  obtain ⟨row, hinventory⟩ := Option.isSome_iff_exists.mp h
  simp [Stock.closeHold, Stock.incrementInventory, hinventory]

section Expired

variable (hrow : db.stock.reservations[reservationId]? = some reservation)
  (hactive : reservation.status = .active) (hexpired : reservation.expiresAt < db.clock)
include hrow hactive hexpired

/-- What is executed is the expiry of `expireStaleReservations`, and then a throw. -/
lemma outcome_of_expired {stock : Stock}
    (h : db.stock.closeHold .expire InventoryReservation.orderId ⟨reservationId, reservation⟩ =
      some stock) :
    (confirmReservationCallback reservationId orderId).outcome db =
      (.error reservationExpired, { db with stock := stock }) := by
  simp only [Stock.closeHold, Option.bind_eq_bind, Option.bind_eq_some_iff, Option.pure_def,
    Option.some.injEq] at h
  obtain ⟨stock₁, hstock, rfl⟩ := h
  rw [confirmReservationCallback, outcome_get, hrow]
  simp only [ne_eq, hactive, not_true_eq_false, if_false, if_pos hexpired]
  rw [outcome_bind, outcome_onStock hstock]
  rfl

/-- The working copy of the callback is as the message says. -/
lemma holdExpired_outcome {stock : Stock}
    (h : db.stock.closeHold .expire InventoryReservation.orderId ⟨reservationId, reservation⟩ =
      some stock) :
    HoldExpired ⟨reservationId, reservation⟩ db.stock
      ((confirmReservationCallback reservationId orderId).outcome db).2.stock := by
  rw [outcome_of_expired hrow hactive hexpired h]
  obtain ⟨havailable, hreserved, hreservations⟩ := Stock.closeHold_eq_some h
  refine ⟨?_, ?_, ?_, ?_⟩
  · rw [hreservations, List.getElem?_modify_eq, hrow]
    rfl
  · rw [havailable, if_pos ⟨rfl, rfl⟩]
  · rw [hreserved, if_pos rfl]
  · exact Stock.closeHold_transactions h

/-- The variant of the reservation has no inventory row: the first statement fails. -/
lemma outcome_of_no_row (h : db.stock.inventory reservation.variantId = none) :
    (confirmReservationCallback reservationId orderId).outcome db = (.error default, db) := by
  rw [confirmReservationCallback, outcome_get, hrow]
  simp only [ne_eq, hactive, not_true_eq_false, if_false, if_pos hexpired]
  rw [outcome_bind, onStock, outcome_execute_failed]
  rw [Stock.incrementInventory, h]
  rfl

/-- The call is rejected so if the variant has an inventory row. -/
lemma rejects_iff :
    (confirmReservation reservationId orderId db).1 = .error reservationExpired ↔
      (db.stock.inventory reservation.variantId).isSome := by
  rw [confirmReservation, transaction_fst]
  cases hinventory : db.stock.inventory reservation.variantId with
  | some row =>
    obtain ⟨stock, hstock⟩ := exists_closeHold (Option.isSome_of_eq_some hinventory)
    rw [outcome_of_expired hrow hactive hexpired hstock]
    simp
  | none =>
    rw [outcome_of_no_row hrow hactive hexpired hinventory]
    refine ⟨fun h => ?_, fun h => by cases h⟩
    have hcode : (500 : ℕ) = 400 := congrArg AppError.statusCode (Except.error.inj h)
    omega

lemma exists_error : ∃ e, (confirmReservation reservationId orderId db).1 = .error e := by
  by_cases hinventory : (db.stock.inventory reservation.variantId).isSome
  · exact ⟨_, (rejects_iff hrow hactive hexpired).mpr hinventory⟩
  · rw [confirmReservation, transaction_fst,
      outcome_of_no_row hrow hactive hexpired (Option.not_isSome_iff_eq_none.mp hinventory)]
    exact ⟨_, rfl⟩

end Expired

/-- The transaction leaves the tables as the program does that has no statement for an expired
reservation. -/
lemma perform_confirmReservation :
    ((MeeoServer.confirmReservation reservationId orderId).perform Commit.apply db).2 =
      (confirmReservation reservationId orderId db).2 := by
  rw [MeeoServer.confirmReservation, perform_read]
  cases hrow : db.stock.reservations[reservationId]? with
  | none =>
    rw [confirmReservation, transaction, confirmReservationCallback, outcome_get, hrow]
    rfl
  | some reservation =>
    by_cases hactive : reservation.status = .active
    · by_cases hexpired : reservation.expiresAt < db.clock
      · simp only [ne_eq, hactive, not_true_eq_false, if_false, if_pos hexpired]
        have hthrows : ∃ e, (confirmReservation reservationId orderId db).1 = .error e :=
          exists_error hrow hactive hexpired
        obtain ⟨e, he⟩ := hthrows
        have hsame : (confirmReservation reservationId orderId db).2 = db :=
          transaction_of_error he
        rw [hsame]
        rfl
      · rw [confirmReservation, transaction, confirmReservationCallback, outcome_get, hrow]
        simp only [ne_eq, hactive, not_true_eq_false, if_false, if_neg hexpired]
        exact congrArg Prod.snd perform_commit
    · rw [confirmReservation, transaction, confirmReservationCallback, outcome_get, hrow]
      simp only [ne_eq, hactive, not_false_eq_true, if_true]
      rfl

/-- **A confirmation that rejects a reservation as expired does not expire it.** -/
theorem confirmReservation_never_expires
    (hrow : db.stock.reservations[reservationId]? = some reservation)
    (hactive : reservation.status = .active)
    (h : (confirmReservation reservationId orderId db).1 = .error reservationExpired) :
    ¬HoldExpired ⟨reservationId, reservation⟩ db.stock
      (confirmReservation reservationId orderId db).2.stock := by
  intro hexpired
  have hstatus := hexpired.status_eq
  have hsame : (confirmReservation reservationId orderId db).2 = db := transaction_of_error h
  rw [hsame, hrow, Option.map_some, hactive] at hstatus
  cases hstatus

/-- A variant with two units held for an order, whose time is over. -/
def lateConfirmation : Database where
  __ := Database.stocked 10
  clock := 1
  stock := ⟨fun _ => true, fun _ => some ⟨8, 2, some 5⟩, [⟨0, none, 2, .active, 0⟩],
    [⟨0, .orderReserved, 2⟩]⟩

theorem confirmReservation_never_expires_late :
    lateConfirmation.stock.reservations[0]? = some ⟨0, none, 2, .active, 0⟩ ∧
      (confirmReservation 0 none lateConfirmation).1 = .error reservationExpired ∧
      ¬HoldExpired ⟨0, ⟨0, none, 2, .active, 0⟩⟩ lateConfirmation.stock
        (confirmReservation 0 none lateConfirmation).2.stock :=
  ⟨rfl, rfl, confirmReservation_never_expires rfl rfl rfl⟩

/-- The stock of an expired reservation stays reserved. -/
theorem late_hold_still_active : ¬∀ (db : Database) (reservationId : ℕ) (orderId : Option OrderId)
    (reservation : InventoryReservation),
    db.stock.reservations[reservationId]? = some reservation → reservation.status = .active →
    reservation.expiresAt < db.clock →
    (confirmReservation reservationId orderId db).1 = .error reservationExpired →
    HoldExpired ⟨reservationId, reservation⟩ db.stock
      (confirmReservation reservationId orderId db).2.stock := by
  intro h
  have hstatus := (h lateConfirmation 0 none ⟨0, none, 2, .active, 0⟩ rfl rfl (by decide)
    rfl).status_eq
  revert hstatus
  decide

end Expiry

end MeeoServer
