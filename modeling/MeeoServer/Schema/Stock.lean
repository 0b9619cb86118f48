/-
# The inventory tables

The rows of `prisma/schema/Inventory` and the statements that the services execute on them.
There is one inventory row for each variant.  Its two counters are integers: the table has no
CHECK constraint, so nothing in the database keeps them from becoming negative.

The reservation table and the ledger are never deleted from, so the identifier of a
reservation is its position.
-/
import MeeoServer.Table.Rows
import Mathlib.Logic.Function.Basic

namespace MeeoServer

abbrev VariantId := ℕ
abbrev OrderId := ℕ
abbrev UserId := ℕ

/-- Points and lengths of time are counted in milliseconds. -/
abbrev Millis := ℕ

def minutes (n : ℕ) : Millis := n * 60 * 1000

structure Inventory where
  availableQuantity : ℤ
  reservedQuantity : ℤ
  reorderLevel : Option ℕ
deriving DecidableEq, Repr

inductive InventoryReservationStatus where
  | active
  | confirmed
  | released
  | expired
deriving DecidableEq, Repr

/-- The name of a status in messages. -/
def InventoryReservationStatus.name : InventoryReservationStatus → String
  | .active => "ACTIVE"
  | .confirmed => "CONFIRMED"
  | .released => "RELEASED"
  | .expired => "EXPIRED"

structure InventoryReservation where
  variantId : VariantId
  orderId : Option OrderId
  quantity : ℕ
  status : InventoryReservationStatus
  expiresAt : Millis
deriving DecidableEq, Repr

inductive InventoryTransactionType where
  | stockAdded
  | stockRemoved
  | orderReserved
  | orderConfirmed
  | orderCancelled
  | returned
  | manualAdjustment
deriving DecidableEq, Repr

structure InventoryTransaction where
  variantId : VariantId
  type : InventoryTransactionType
  quantity : ℤ
deriving DecidableEq, Repr

structure OrderItem where
  variantId : VariantId
  quantity : ℕ
  productName : String
  sku : String
deriving DecidableEq, Repr

/-- A reservation as a service has read it. -/
abbrev Hold := Row InventoryReservation

/-- The tables of the inventory module. -/
structure Stock where
  variants : VariantId → Bool
  inventory : VariantId → Option Inventory
  reservations : List InventoryReservation
  inventoryTransactions : List InventoryTransaction

namespace Stock

/-- The stock of a variant that can be sold; 0 where there is no inventory row. -/
def available (s : Stock) (v : VariantId) : ℤ :=
  ((s.inventory v).map Inventory.availableQuantity).getD 0

/-- The stock of a variant that is held for checkouts. -/
def reserved (s : Stock) (v : VariantId) : ℤ :=
  ((s.inventory v).map Inventory.reservedQuantity).getD 0

/-! ## Statements -/

/-- `inventory.update` with an increment of each counter; it fails if there is no row. -/
def incrementInventory (s : Stock) (v : VariantId) (available reserved : ℤ) : Option Stock :=
  (s.inventory v).map fun row =>
    { s with
      inventory := Function.update s.inventory v (some
        { row with
          availableQuantity := row.availableQuantity + available
          reservedQuantity := row.reservedQuantity + reserved }) }

/-- `inventoryReservation.create`. -/
def createReservation (s : Stock) (r : InventoryReservation) : Stock :=
  { s with reservations := s.reservations ++ [r] }

/-- `inventoryReservation.update`. -/
def updateReservation (s : Stock) (id : ℕ) (f : InventoryReservation → InventoryReservation) :
    Stock :=
  { s with reservations := s.reservations.modify id f }

/-- `inventoryTransaction.create`. -/
def createTransaction (s : Stock) (v : VariantId) (type : InventoryTransactionType)
    (quantity : ℤ) : Stock :=
  { s with inventoryTransactions := s.inventoryTransactions ++ [⟨v, type, quantity⟩] }

/-- The reservations `{ orderId, status: "ACTIVE" }`. -/
def activeHolds (s : Stock) (orderId : OrderId) : List Hold :=
  Table.findMany (fun r => r.orderId = some orderId ∧ r.status = .active) s.reservations

/-- The reservations `{ status: "ACTIVE", expiresAt: { lt: now } }`. -/
def staleHolds (s : Stock) (now : Millis) : List Hold :=
  Table.findMany (fun r => r.status = .active ∧ r.expiresAt < now) s.reservations

/-! ## Holding stock -/

/-- The three statements that hold `quantity` units of a variant. -/
def hold (s : Stock) (v : VariantId) (quantity : ℕ) (orderId : Option OrderId)
    (expiresAt : Millis) : Option Stock := do
  let s ← s.incrementInventory v (-quantity) quantity
  let s := s.createReservation ⟨v, orderId, quantity, .active, expiresAt⟩
  pure (s.createTransaction v .orderReserved quantity)

/-- Hold the items of an order, one after another. -/
def holdItems (orderId : OrderId) (expiresAt : Millis) (s : Stock) (items : List OrderItem) :
    Option Stock :=
  items.foldlM (fun s item => s.hold item.variantId item.quantity (some orderId) expiresAt) s

/-- The part of a cash-on-delivery checkout that sells the held items at once: the counters,
the rows of the order that are still active, the ledger. -/
def sellItems (orderId : OrderId) (s : Stock) (items : List OrderItem) : Option Stock := do
  let s ← items.foldlM
    (fun s item => s.incrementInventory item.variantId 0 (-item.quantity)) s
  let s := { s with
    reservations := s.reservations.map fun r =>
      if r.orderId = some orderId ∧ r.status = .active then { r with status := .confirmed }
      else r }
  pure (items.foldl
    (fun s item => s.createTransaction item.variantId .orderConfirmed item.quantity) s)

/-! ## Closing a reservation

Six code paths end a reservation.  Each returns the quantity to the available stock or not,
takes it out of the reserved stock, writes the final status and logs the move.  They differ
in the four values of a `Closing`. -/

structure Closing where
  /-- Does the quantity go back to the available stock? -/
  returns : Bool
  status : InventoryReservationStatus
  type : InventoryTransactionType
  /-- The reservation is over. -/
  ends : status ≠ .active
  /-- The quantity goes back unless it was sold. -/
  returns_iff : returns = true ↔ status ≠ .confirmed

def Closing.confirm : Closing := ⟨false, .confirmed, .orderConfirmed, by decide, by decide⟩
def Closing.release : Closing := ⟨true, .released, .orderCancelled, by decide, by decide⟩
def Closing.expire : Closing := ⟨true, .expired, .orderCancelled, by decide, by decide⟩

/-- The three statements that close the reservation `h`, with the variant and the quantity it
was read with.  The row is updated by its identifier alone: its status is not checked again.
`order` is the order written into the row; most paths leave that column alone. -/
def closeHold (c : Closing) (order : InventoryReservation → Option OrderId) (s : Stock)
    (h : Hold) : Option Stock := do
  let s ← s.incrementInventory h.val.variantId (if c.returns then h.val.quantity else 0)
    (-h.val.quantity)
  let s := s.updateReservation h.id fun r => { r with status := c.status, orderId := order r }
  pure (s.createTransaction h.val.variantId c.type h.val.quantity)

/-- Close the reservations of a list, one after another. -/
def closeHolds (c : Closing) (s : Stock) (holds : List Hold) : Option Stock :=
  holds.foldlM (closeHold c InventoryReservation.orderId) s

end Stock

end MeeoServer
