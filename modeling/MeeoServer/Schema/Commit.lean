/-
# Committed transactions

`Commit` has one constructor for each `prisma.$transaction` callback of the modelled
services, and for each statement they execute outside any: it carries the values that the
callback has read, and `Commit.apply` executes its writes, in the order of the source.  A
callback is rolled back as a whole when one of its statements fails, so `apply` returns
`none`.
-/
import MeeoServer.Schema.Database
import MeeoServer.Process.Proc

namespace MeeoServer

structure ReserveStockInput where
  variantId : VariantId
  quantity : ℕ
  orderId : Option OrderId
  expiresInMinutes : ℕ
deriving DecidableEq

structure AdjustStockInput where
  variantId : VariantId
  availableQuantity : Option ℕ
  /-- `none` if the field is absent, `some none` if it is null. -/
  reorderLevel : Option (Option ℕ)
deriving DecidableEq

/-- What a checkout has worked out before its transaction begins. -/
structure Checkout where
  userId : UserId
  items : List OrderItem
  grandTotal : Paise
  isCod : Bool
deriving DecidableEq

/-- The statuses `UpdatePaymentStatusSchema` admits. -/
def manualStatuses : List PaymentStatus :=
  [.success, .failed, .pending, .processing, .cancelled, .refunded]

structure UpdatePaymentStatusInput where
  status : PaymentStatus
  paidAmount : Option ℕ
  status_mem : status ∈ manualStatuses

inductive Commit where
  -- inventory/services/reservation.service.ts
  | reserveStock (input : ReserveStockInput) (expiresAt : Millis)
  | confirmReservation (hold : Hold) (orderId : Option OrderId)
  | releaseReservation (hold : Hold)
  | expireReservation (hold : Hold)
  -- inventory/services/stock.service.ts
  | addStock (variantId : VariantId) (quantity : ℕ)
  | removeStock (variantId : VariantId) (quantity : ℕ)
  | adjustStock (input : AdjustStockInput) (delta : ℤ)
  -- orders/services
  | lockKey (key : Key) (userId : UserId)
  | deleteStaleKey (key : Key)
  | finalizeKey (key : Key) (orderId : OrderId)
  | releaseKey (key : Key)
  | createOrder (checkout : Checkout) (expiresAt : Millis) (placedUnder : Option (Key × ℕ))
  | confirmHolds (orderId : OrderId) (holds : List Hold)
  | updateOrderStatus (orderId : OrderId) (previousStatus newStatus : OrderStatus)
      (codPayment : Option (Row Payment)) (holds : List Hold)
  -- payments/services
  | createPayment (orderId : OrderId) (provider : Provider) (amount : Paise)
  | createPaymentIntent (paymentId : PaymentId) (amount : Paise)
  | createNextAttempt (paymentId : PaymentId) (attemptNumber : ℕ)
      (providerPaymentId : GatewayOrderId) (amount : Paise)
  | markPaymentPending (orderId : OrderId)
  | markProcessing (paymentId : PaymentId)
  | verifyPayment (input : VerifyPaymentInput) (payment : Row Payment)
      (orderStatus : Option OrderStatus) (latestAttempt : Option ℕ) (holds : List Hold)
  | recordPaymentFailure (payment : Row Payment) (latestAttempt : Option ℕ)
  | updatePaymentStatus (payment : Row Payment) (orderStatus : Option OrderStatus)
      (input : UpdatePaymentStatusInput)
  | requestRefund (paymentId : PaymentId) (amount : Paise)
  | processRefund (payment : Row Payment) (orderStatus : Option OrderStatus)
      (successfulAttempt : Option ℕ) (refundAmount : Paise)

namespace Stock

/-- The callback of `addStock`: an upsert of the inventory row, and the log. -/
def addStock (s : Stock) (v : VariantId) (quantity : ℕ) : Stock :=
  let inventory := match s.inventory v with
    | some row => { row with availableQuantity := row.availableQuantity + quantity }
    | none => ⟨quantity, 0, some 5⟩
  { s with inventory := Function.update s.inventory v (some inventory) }.createTransaction
    v .stockAdded quantity

/-- The callback of `removeStock`. -/
def removeStock (s : Stock) (v : VariantId) (quantity : ℕ) : Option Stock := do
  let s ← s.incrementInventory v (-quantity) 0
  some (s.createTransaction v .stockRemoved quantity)

/-- The callback of `adjustStock`: absent fields are left alone. -/
def adjustStock (s : Stock) (input : AdjustStockInput) (delta : ℤ) : Option Stock := do
  let row ← s.inventory input.variantId
  let inventory := { row with
    availableQuantity := (input.availableQuantity.map Nat.cast).getD row.availableQuantity
    reorderLevel := input.reorderLevel.getD row.reorderLevel }
  some ({ s with
    inventory := Function.update s.inventory input.variantId (some inventory) }.createTransaction
    input.variantId .manualAdjustment delta)

/-- The stock part of a checkout: the items are held, and sold at once if they are paid for on
delivery. -/
def checkout (s : Stock) (orderId : OrderId) (expiresAt : Millis) (isCod : Bool)
    (items : List OrderItem) : Option Stock := do
  let held ← s.holdItems orderId expiresAt items
  if isCod then held.sellItems orderId items else some held

/-- The stock part of a status change: the listed holds are released if the order ends. -/
def releaseHolds (s : Stock) (newStatus : OrderStatus) (holds : List Hold) : Option Stock :=
  if newStatus.dead then s.closeHolds .release holds else some s

end Stock

namespace Commit

/-- The ledger after the settlement of a pending cash-on-delivery payment. -/
def settleCod (l : PaymentLedger) (codPayment : Option (Row Payment)) : PaymentLedger :=
  match codPayment with
  | some p =>
    (l.updatePayment p.id fun row =>
      { row with status := .success, paidAmount := p.val.amount }).createTransaction
      ⟨p.id, none, .charge, .success, p.val.amount, none⟩
  | none => l

/-- `payment.updateMany` of the pending payments of an order. -/
def failPending (l : PaymentLedger) (orderId : OrderId) : PaymentLedger :=
  { l with
    payments := l.payments.map fun p =>
      if p.orderId = orderId ∧ p.status = .pending then { p with status := .failed } else p }

/-- The ledger status that a manual payment status is recorded with. -/
def transactionStatus : PaymentStatus → TransactionStatus
  | .success => .success
  | .failed | .cancelled => .failed
  | .processing => .processing
  | _ => .pending

/-- The order status after a payment of the order was marked as paid. -/
def confirmUnless (b : OrderBook) (orderId : OrderId) (orderStatus : Option OrderStatus)
    (skip : OrderStatus → Bool) : OrderBook :=
  match orderStatus with
  | some st => if skip st then b else b.changeStatus orderId st .confirmed
  | none => b

def verifiedLedger (l : PaymentLedger) (input : VerifyPaymentInput) (payment : Row Payment)
    (latestAttempt : Option ℕ) : PaymentLedger :=
  ((l.updatePayment payment.id fun p =>
    { p with status := .success, paidAmount := payment.val.amount }).updateAttempt
    latestAttempt .success).createTransaction
    ⟨payment.id, latestAttempt, .charge, .success, payment.val.amount, some input⟩

def failedLedger (l : PaymentLedger) (payment : Row Payment) (latestAttempt : Option ℕ) :
    PaymentLedger :=
  ((l.updatePayment payment.id fun p => { p with status := .failed }).updateAttempt
    latestAttempt .failed).createTransaction
    ⟨payment.id, latestAttempt, .charge, .failed, payment.val.amount, none⟩

def manualLedger (l : PaymentLedger) (payment : Row Payment) (input : UpdatePaymentStatusInput) :
    PaymentLedger :=
  let paidAmount : Paise := (input.paidAmount.map Nat.cast).getD payment.val.amount
  (l.updatePayment payment.id fun p =>
    { p with
      status := input.status
      paidAmount := if input.status = .success then paidAmount else p.paidAmount }
    ).createTransaction
    ⟨payment.id, none, if input.status = .refunded then .refund else .charge,
      transactionStatus input.status, paidAmount, none⟩

/-- The new total of a payment after one more refund, computed from the payment as read. -/
def newRefundedTotal (payment : Row Payment) (refundAmount : Paise) : Paise :=
  payment.val.refundedAmount + refundAmount

def isFullyRefunded (payment : Row Payment) (refundAmount : Paise) : Bool :=
  payment.val.paidAmount ≤ newRefundedTotal payment refundAmount

def refundedLedger (l : PaymentLedger) (payment : Row Payment) (successfulAttempt : Option ℕ)
    (refundAmount : Paise) : PaymentLedger :=
  ((l.createRefund ⟨payment.id, refundAmount, .success⟩).createTransaction
    ⟨payment.id, successfulAttempt, .refund, .success, refundAmount, none⟩).updatePayment
    payment.id fun p =>
      { p with
        refundedAmount := newRefundedTotal payment refundAmount
        status := if isFullyRefunded payment refundAmount then .refunded
          else .partiallyRefunded }

/-- The writes of a callback; `none` if one of them violates a constraint. -/
def apply : Commit → Database → Option Database
  | reserveStock input expiresAt, db =>
    if ∀ o ∈ input.orderId, o < db.book.orders.length then do
      let stock ← db.stock.hold input.variantId input.quantity input.orderId expiresAt
      some { db with stock := stock }
    else none
  | confirmReservation hold orderId, db =>
    if ∀ o ∈ orderId.or hold.val.orderId, o < db.book.orders.length then do
      let stock ← db.stock.closeHold .confirm (fun _ => orderId.or hold.val.orderId) hold
      some { db with stock := stock }
    else none
  | releaseReservation hold, db => do
    let stock ← db.stock.closeHold .release InventoryReservation.orderId hold
    some { db with stock := stock }
  | expireReservation hold, db => do
    let stock ← db.stock.closeHold .expire InventoryReservation.orderId hold
    some { db with stock := stock }
  | addStock v quantity, db => some { db with stock := db.stock.addStock v quantity }
  | removeStock v quantity, db => do
    let stock ← db.stock.removeStock v quantity
    some { db with stock := stock }
  | adjustStock input delta, db => do
    let stock ← db.stock.adjustStock input delta
    some { db with stock := stock }
  | lockKey key userId, db =>
    match db.keys.rows key with
    | some _ => none
    | none => some { db with
        keys := {
          rows := Function.update db.keys.rows key
            (some ⟨db.keys.nextId, userId, .processing, none, db.clock⟩)
          nextId := db.keys.nextId + 1 } }
  | deleteStaleKey key, db | releaseKey key, db =>
    match db.keys.rows key with
    | some _ => some { db with
        keys := { db.keys with rows := Function.update db.keys.rows key none } }
    | none => none
  | finalizeKey key orderId, db =>
    match db.keys.rows key with
    | some row => some { db with
        keys := { db.keys with
          rows := Function.update db.keys.rows key
            (some { row with status := .completed, responseBody := some orderId }) } }
    | none => none
  | createOrder checkout expiresAt placedUnder, db => do
    let orderId := db.book.orders.length
    let status := if checkout.isCod then .confirmed else .pending
    let grandTotal := max 0 checkout.grandTotal
    let book := db.book.createOrder
      ⟨checkout.userId, status, grandTotal, checkout.items, db.clock, placedUnder⟩
    let stock ← db.stock.checkout orderId expiresAt checkout.isCod checkout.items
    let ledger := if checkout.isCod then
        { db.ledger with
          payments := db.ledger.payments ++
            [⟨orderId, .cod, .pending, grandTotal, 0, 0⟩] }
      else db.ledger
    some { db with book := book, stock := stock, ledger := ledger }
  | confirmHolds _ holds, db => do
    let stock ← db.stock.closeHolds .confirm holds
    some { db with stock := stock }
  | updateOrderStatus orderId previousStatus newStatus codPayment holds, db => do
    let book := db.book.changeStatus orderId previousStatus newStatus
    let settled := settleCod db.ledger codPayment
    let stock ← db.stock.releaseHolds newStatus holds
    let ledger := if newStatus.dead then failPending settled orderId else settled
    some { db with book := book, stock := stock, ledger := ledger }
  | createPayment orderId provider amount, db =>
    some { db with
      ledger := { db.ledger with
        payments := db.ledger.payments ++ [⟨orderId, provider, .pending, amount, 0, 0⟩] } }
  | createPaymentIntent paymentId amount, db =>
    some { db with
      gateway := { db.gateway with orders := db.gateway.orders ++ [⟨paymentId, amount⟩] } }
  | createNextAttempt paymentId attemptNumber providerPaymentId amount, db =>
    if ∃ a ∈ db.ledger.attempts, a.paymentId = paymentId ∧ a.attemptNumber = attemptNumber then
      none
    else
      some { db with
        ledger := { db.ledger with
          attempts := db.ledger.attempts ++
            [⟨paymentId, attemptNumber, some providerPaymentId, .processing, amount⟩] } }
  | markPaymentPending orderId, db =>
    some { db with book := db.book.changeStatus orderId .pending .paymentPending }
  | markProcessing paymentId, db =>
    some { db with
      ledger := db.ledger.updatePayment paymentId fun p => { p with status := .processing } }
  | verifyPayment input payment orderStatus latestAttempt holds, db => do
    let ledger := verifiedLedger db.ledger input payment latestAttempt
    let book := confirmUnless db.book payment.val.orderId orderStatus (· = .confirmed)
    let stock ← db.stock.closeHolds .confirm holds
    some { db with ledger := ledger, book := book, stock := stock }
  | recordPaymentFailure payment latestAttempt, db =>
    some { db with ledger := failedLedger db.ledger payment latestAttempt }
  | updatePaymentStatus payment orderStatus input, db =>
    let book := if input.status = .success then
        confirmUnless db.book payment.val.orderId orderStatus
          fun st => st ≠ .pending ∧ st ≠ .paymentPending
      else db.book
    some { db with ledger := manualLedger db.ledger payment input, book := book }
  | requestRefund paymentId amount, db =>
    some { db with
      gateway := { db.gateway with
        refundRequests := db.gateway.refundRequests ++ [(paymentId, amount)] } }
  | processRefund payment orderStatus successfulAttempt refundAmount, db =>
    let ledger := refundedLedger db.ledger payment successfulAttempt refundAmount
    let book := match orderStatus with
      | some st =>
        if isFullyRefunded payment refundAmount then
          db.book.changeStatus payment.val.orderId st .refunded
        else db.book
      | none => db.book
    some { db with ledger := ledger, book := book }

end Commit

/-- The programs of the services. -/
abbrev Service (α : Type) := Proc Database Commit AppError α

end MeeoServer
