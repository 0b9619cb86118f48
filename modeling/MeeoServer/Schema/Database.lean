/-
# The database

All tables of the model, the clock, and the gateway.
-/
import MeeoServer.Schema.Payments

namespace MeeoServer

structure Database where
  clock : Millis
  stock : Stock
  book : OrderBook
  ledger : PaymentLedger
  keys : IdempotencyTable
  gateway : Gateway

/-- The reservations refer to orders that exist. -/
def Database.ForeignKeys (db : Database) : Prop :=
  ∀ r ∈ db.stock.reservations, ∀ o ∈ r.orderId, o < db.book.orders.length

/-- The store of a new installation, with `quantity` units of each variant. -/
def Database.stocked (quantity : ℕ) : Database where
  clock := 0
  stock := ⟨fun _ => true, fun _ => some ⟨quantity, 0, some 5⟩, [], []⟩
  book := ⟨[], []⟩
  ledger := ⟨[], [], [], []⟩
  keys := ⟨fun _ => none, 0⟩
  gateway := ⟨[], [], []⟩

lemma Database.stocked_foreignKeys (quantity : ℕ) : (stocked quantity).ForeignKeys := by
  simp [stocked, ForeignKeys]

/-- An error with its message and its HTTP status. -/
structure AppError where
  message : String
  statusCode : ℕ

/-- The error of a statement that fails in the database. -/
instance : Inhabited AppError := ⟨⟨"Internal server error", 500⟩⟩

end MeeoServer
