/-
# Checkout

`orders/services/idempotency.service.ts`, the loop of `reserveItemsForOrder` in
`orders/services/orderInventory.service.ts`, and `createOrder` in
`orders/services/orderCreation.service.ts`.  What the steps 2 to 5 of `createOrder` work out
before its transaction begins (the cart, the addresses, the discounts, the taxes) is given to
the model as its outcome: a checkout, or the error that one of the steps throws.
-/
import MeeoServer.Inventory.Services

namespace MeeoServer

open Proc

variable {I G : Database → Database → Prop} {s₀ : Database}

/-! ## The lock of an idempotency key -/

/-- What `resolveOrLockKey` answers: a cached response, or the go-ahead.  The lock that comes
with the go-ahead is not in the answer of the source; it names the row that was inserted. -/
inductive Resolution where
  | cached (responseBody : OrderId)
  | fresh (lock : Option (Key × ℕ))

def checkoutInProgress : AppError :=
  ⟨"A checkout request with this Idempotency-Key is currently in progress. Please wait.", 409⟩

/-- The insertion of the lock row; whatever fails here is taken for a concurrent checkout. -/
def insertLock (key : Key) (userId : UserId) : Service Resolution :=
  Proc.tryCatch
    (do
      let db ← Proc.commit (.lockKey key userId)
      pure (.fresh (some (key, db.keys.nextId - 1))))
    fun _ => throw checkoutInProgress

/-- Checks if an idempotency key was already completed, or locks it in PROCESSING state. -/
def resolveOrLockKey (key : Option Key) (userId : UserId) : Service Resolution :=
  match key with
  | none => pure (.fresh none)
  | some key => do
    let db ← Proc.read
    match db.keys.rows key with
    | none => insertLock key userId
    | some existing =>
      match existing.status, existing.responseBody with
      | .completed, some responseBody => pure (.cached responseBody)
      | .processing, _ =>
        -- a lock older than two minutes is taken over
        if existing.createdAt + minutes 2 < db.clock then
          let _ ← Proc.commit (.deleteStaleKey key)
          insertLock key userId
        else
          throw checkoutInProgress
      -- a failed key, or a completed one without a response: the insertion conflicts with it
      | _, _ => insertLock key userId

/-- Marks an idempotency key as COMPLETED; a failure is ignored. -/
def finalizeKey (key : Key) (orderId : OrderId) : Service Unit :=
  Proc.attempt (.finalizeKey key orderId)

/-- Cleans up an idempotency key upon an error; a failure is ignored. -/
def releaseKey : Option Key → Service Unit
  | some key => Proc.attempt (.releaseKey key)
  | none => pure ()

/-! ## Creating the order -/

/-- The reads of `reserveItemsForOrder`.  Between the reads of two items the callback has
moved the units of the earlier item, so it sees the committed row less what it `held`. -/
def checkStock (held : List OrderItem) : List OrderItem → Service Unit
  | [] => pure ()
  | item :: rest => do
    let db ← Proc.read
    match db.stock.inventory item.variantId with
    | none =>
      throw ⟨s!"Inventory record not found for \"{item.productName}\" ({item.sku})", 404⟩
    | some inventory =>
      let availableQuantity := inventory.availableQuantity - itemUnits held item.variantId
      if availableQuantity < item.quantity then
        throw ⟨s!"Insufficient stock for \"{item.productName}\" ({item.sku}). " ++
          s!"Requested: {item.quantity}, Available: {availableQuantity}", 400⟩
      else
        checkStock (held ++ [item]) rest

/-- What `createOrder` does inside its `try`. -/
def placeOrder (checkout : Except AppError Checkout) (lock : Option (Key × ℕ))
    (idempotencyKey : Option Key) : Service OrderId :=
  match checkout with
  | .error error => throw error
  | .ok checkout => do
    let tx ← Proc.read
    checkStock [] checkout.items
    let db ← Proc.commit (.createOrder checkout (tx.clock + minutes 30) lock)
    let orderId := db.book.orders.length - 1
    -- the order is loaded again for the response
    let _ ← Proc.read
    match idempotencyKey with
    | some key => do
      finalizeKey key orderId
      pure orderId
    | none => pure orderId

/-- Places an order; the response is given as the order it describes. -/
def createOrder (userId : UserId) (checkout : Except AppError Checkout)
    (idempotencyKey : Option Key) : Service OrderId := do
  let idempotency ← resolveOrLockKey idempotencyKey userId
  match idempotency with
  | .cached responseBody => pure responseBody
  | .fresh lock =>
    Proc.tryCatch (placeOrder checkout lock idempotencyKey) fun error => do
      releaseKey idempotencyKey
      throw error

/-! ## What a checkout commits -/

/-- The batches of a checkout. -/
def CheckoutBatch (userId : UserId) (checkout : Except AppError Checkout) (key : Option Key) :
    Commit → Prop
  | .lockKey k user => key = some k ∧ user = userId
  | .deleteStaleKey k | .finalizeKey k _ | .releaseKey k => key = some k
  | .createOrder placed _ _ => checkout = .ok placed
  | _ => False

section Emits

variable {userId : UserId} {checkout : Except AppError Checkout} {key : Option Key}

lemma insertLock_emits {k : Key} (hk : key = some k) :
    (insertLock k userId).Emits Commit.apply I G
      (fun _ => CheckoutBatch userId checkout key) Any s₀ :=
  (emits_commit (fun _ _ => ⟨hk, rfl⟩) fun _ _ _ _ _ => emits_pure).orElse
    fun _ _ => emits_throw

lemma resolveOrLockKey_emits :
    (resolveOrLockKey key userId).Emits Commit.apply I G
      (fun _ => CheckoutBatch userId checkout key) Any s₀ := by
  cases key with
  | none => exact emits_pure
  | some k =>
    refine emits_read fun s _ => ?_
    split
    · exact insertLock_emits rfl
    · split
      · exact emits_pure
      · split
        · exact emits_commit (fun _ _ => rfl) fun _ _ _ _ _ => insertLock_emits rfl
        · exact emits_throw
      · exact insertLock_emits rfl

lemma checkStock_emits {held items : List OrderItem} :
    (checkStock held items).Emits Commit.apply I G
      (fun _ => CheckoutBatch userId checkout key) Any s₀ := by
  induction items generalizing held s₀ with
  | nil => exact emits_pure
  | cons item rest ih =>
    refine emits_read fun s _ => ?_
    split
    · exact emits_throw
    · dsimp only
      split
      · exact emits_throw
      · exact ih

lemma finalizeKey_emits {k : Key} {orderId : OrderId} (hk : key = some k) :
    (finalizeKey k orderId).Emits Commit.apply I G
      (fun _ => CheckoutBatch userId checkout key) Any s₀ :=
  emits_attempt fun _ _ => hk

lemma releaseKey_emits :
    (releaseKey key).Emits Commit.apply I G
      (fun _ => CheckoutBatch userId checkout key) Any s₀ := by
  cases key with
  | none => exact emits_pure
  | some k => exact emits_attempt fun _ _ => rfl

lemma placeOrder_emits {lock : Option (Key × ℕ)} :
    (placeOrder checkout lock key).Emits Commit.apply I G
      (fun _ => CheckoutBatch userId checkout key) Any s₀ := by
  cases checkout with
  | error error => exact emits_throw
  | ok checkout =>
    refine emits_read fun s _ => checkStock_emits.andThen fun _ _ => ?_
    refine emits_commit (fun _ _ => rfl) fun _ _ _ _ _ => emits_read fun _ _ => ?_
    split
    · exact (finalizeKey_emits rfl).andThen fun _ _ => emits_pure
    · exact emits_pure

lemma createOrder_emits :
    (createOrder userId checkout key).Emits Commit.apply I G
      (fun _ => CheckoutBatch userId checkout key) Any s₀ := by
  refine resolveOrLockKey_emits.andThen fun idempotency s => ?_
  split
  · exact emits_pure
  · exact placeOrder_emits.orElse fun error s =>
      releaseKey_emits.andThen fun _ _ => emits_throw

end Emits

end MeeoServer
