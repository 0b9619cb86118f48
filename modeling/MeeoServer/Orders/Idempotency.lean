/-
# Idempotent checkout

The row of an idempotency key is a lock.  A checkout inserts it, and knows its identifier from
then on; but a lock can be deleted under its holder, and nobody looks at the lock again before
the order is committed.  In the runs in which an order is committed while the lock of its call
is still there, and a lock is deleted only while no order has been placed under its key, at most
one order is ever committed for a key.
-/
import MeeoServer.Process.Protocol
import MeeoServer.Server.Tables

namespace MeeoServer

open Protocol

/-! ## Locks -/

/-- The lock under a key: the identifier of its row. -/
def IdempotencyTable.lockOf (t : IdempotencyTable) (key : Key) : Option ℕ :=
  (t.rows key).map IdempotencyKey.id

/-- The locks under which the orders were placed. -/
def OrderBook.placements (b : OrderBook) : List (Option (Key × ℕ)) :=
  b.orders.map Order.placedUnder

/-- The number of orders that were placed under a key. -/
def OrderBook.ordersUnder (b : OrderBook) (key : Key) : ℕ :=
  b.placements.countP fun placed => placed.map Prod.fst = some key

/-- An order is committed while the lock of its call is there, and a lock is deleted only while
no order has been placed under its key. -/
def KeepsLock (s : Database) : Commit → Prop
  | .createOrder _ _ (some (key, lock)) => s.keys.lockOf key = some lock
  | .deleteStaleKey key | .releaseKey key => s.book.ordersUnder key = 0
  | _ => True

instance (s : Database) (c : Commit) : Decidable (KeepsLock s c) := by
  unfold KeepsLock
  split <;> infer_instance

/-- The checkouts of a user with a key. -/
def Call.checksOut (userId : UserId) (key : Key) : Call → Bool
  | .createOrder user _ (some k) => user = userId ∧ k = key
  | _ => false

/-- What a checkout does with its lock: it obtains one, and spends it on an order. -/
def lockProtocol : Protocol Database Commit (Option (Key × ℕ)) where
  start := none
  allow held
    | .createOrder _ _ placedUnder => ∀ lock ∈ placedUnder, held = some lock
    | _ => True
  after held
    | .lockKey key _, some db => some (key, db.keys.nextId - 1)
    | .createOrder .., _ => none
    | _, _ => held

/-- A lock that is held after a batch was held before, or the batch has inserted it. -/
lemma after_eq_some {held : Option (Key × ℕ)} {c : Commit} {o : Option Database} {l : Key × ℕ}
    (h : lockProtocol.after held c o = some l) :
    held = some l ∨ ∃ key user db, c = .lockKey key user ∧ o = some db ∧
      l = (key, db.keys.nextId - 1) := by
  cases c with
  | lockKey key user =>
    cases o with
    | none => exact Or.inl h
    | some db => exact Or.inr ⟨key, user, db, rfl, rfl, (Option.some.inj h).symm⟩
  | createOrder checkout expiresAt placedUnder => cases h
  | _ => exact Or.inl h

/-! ## The calls follow the protocol -/

section Follows

variable {userId : UserId} {checkout : Except AppError Checkout} {key : Option Key}
  {held : Option (Key × ℕ)}

/-- A call that has been given a lock holds it. -/
def HoldsLock : Except AppError Resolution → Option (Key × ℕ) → Prop
  | .ok (.fresh (some lock)), held => held = some lock
  | _, _ => True

lemma insertLock_follows (k : Key) :
    lockProtocol.Follows Commit.apply (insertLock k userId) HoldsLock held := by
  refine Follows.tryCatch (follows_commit trivial trivial fun s s' _ => ?_)
  rfl

lemma resolveOrLockKey_follows :
    lockProtocol.Follows Commit.apply (resolveOrLockKey key userId) HoldsLock held := by
  cases key with
  | none => trivial
  | some k =>
    refine follows_read trivial fun s => ?_
    split
    · exact insertLock_follows k
    · split
      · trivial
      · split
        · exact follows_commit trivial trivial fun _ _ _ => insertLock_follows k
        · trivial
      · exact insertLock_follows k

lemma checkStock_follows {sold items : List OrderItem} :
    lockProtocol.Follows Commit.apply (checkStock sold items) (fun _ t => t = held) held := by
  induction items generalizing sold with
  | nil => rfl
  | cons item rest ih =>
    refine follows_read rfl fun s => ?_
    split
    · rfl
    · dsimp only
      split
      · rfl
      · exact ih

lemma placeOrder_follows {lock : Option (Key × ℕ)} (hlock : ∀ l ∈ lock, held = some l) :
    lockProtocol.Follows Commit.apply (placeOrder checkout lock key) Ends held := by
  cases checkout with
  | error error => trivial
  | ok checkout =>
    refine follows_read trivial fun s => Follows.bind (checkStock_follows.mono fun r t ht => ?_)
    subst ht
    cases r with
    | error error => trivial
    | ok _ =>
      refine follows_commit hlock trivial fun s s' _ => follows_read trivial fun s => ?_
      split
      · exact (follows_attempt trivial).andThen fun _ _ => trivial
      · trivial

lemma createOrder_follows :
    lockProtocol.Follows Commit.apply (createOrder userId checkout key) Ends held := by
  refine Follows.bind (resolveOrLockKey_follows.mono fun r t ht => ?_)
  cases r with
  | error error => trivial
  | ok idempotency =>
    cases idempotency with
    | cached responseBody => trivial
    | fresh lock =>
      refine (placeOrder_follows fun l hl => ?_).orElse fun error t => ?_
      · obtain rfl := hl
        exact ht
      · refine Follows.andThen ?_ fun _ _ => trivial
        cases key with
        | none => trivial
        | some k => exact follows_attempt trivial

/-- The batches of the other calls neither obtain nor spend a lock. -/
lemma lockless_of_spec {I : Database → Database → Prop} {config : GatewayConfig} {x : Call}
    {s : Database} {c : Commit} (hx : ∀ userId checkout key, x ≠ .createOrder userId checkout key)
    (h : Call.Spec I config x s c) :
    lockProtocol.allow held c ∧ ∀ o, lockProtocol.after held c o = held := by
  cases c with
  | lockKey key userId | createOrder checkout expiresAt placedUnder =>
    cases x with
    | createOrder userId checkout key => exact absurd rfl (hx userId checkout key)
    | _ =>
      simp [Call.Spec, TransitionBatch, ConfirmBatch, InitializeBatch, AttemptBatch, VerifyBatch,
        FailureBatch, ManualBatch, RefundBatch] at h
  | _ => exact ⟨trivial, fun _ => rfl⟩

lemma Call.follows (config : GatewayConfig) (x : Call) :
    lockProtocol.Follows Commit.apply (x.proc config) Ends held := by
  by_cases hx : ∃ userId checkout key, x = .createOrder userId checkout key
  · obtain ⟨userId, checkout, key, rfl⟩ := hx
    exact createOrder_follows.andThen fun _ _ => trivial
  · have hemits : (x.proc config).Emits Commit.apply (fun _ _ => True) (fun _ _ => True)
        (x.Spec (fun _ _ => True) config) Proc.Any (.stocked 0) :=
      Call.emits (fun _ _ => trivial) (fun _ => trivial)
        (fun s => expireStaleReservations_emits (fun _ => trivial) (fun _ _ => trivial)
          fun _ _ h => h) x _
    refine (follows_of_emits hemits fun s c hspec => lockless_of_spec ?_ hspec).mono
      fun _ _ _ => trivial
    rintro userId checkout key rfl
    exact hx ⟨userId, checkout, key, rfl⟩

end Follows

/-! ## One batch -/

section Batches

variable {s s' : Database} {c : Commit} {key : Key}

/-- The batches that write a key. -/
def Commit.writesKey : Commit → Option Key
  | .lockKey key _ | .deleteStaleKey key | .finalizeKey key _ | .releaseKey key => some key
  | _ => none

lemma keys_of_apply (happ : c.apply s = some s') (hc : c.writesKey = none) : s'.keys = s.keys := by
  cases c with
  | lockKey key userId | deleteStaleKey key | finalizeKey key orderId | releaseKey key => cases hc
  | reserveStock input expiresAt | confirmReservation hold orderId =>
    simp only [Commit.apply, Option.ite_none_right_eq_some, Option.bind_eq_bind,
      Option.bind_eq_some_iff, Option.some.injEq] at happ
    obtain ⟨-, stock, -, rfl⟩ := happ
    rfl
  | createNextAttempt paymentId attemptNumber providerPaymentId amount =>
    simp only [Commit.apply, Option.ite_none_left_eq_some, Option.some.injEq] at happ
    obtain ⟨-, rfl⟩ := happ
    rfl
  | releaseReservation hold | expireReservation hold | removeStock v quantity
  | adjustStock input delta | createOrder checkout expiresAt placedUnder
  | confirmHolds orderId holds
  | updateOrderStatus orderId previousStatus newStatus codPayment holds
  | verifyPayment input payment orderStatus latestAttempt holds =>
    simp only [Commit.apply, Option.bind_eq_bind, Option.bind_eq_some_iff,
      Option.some.injEq] at happ
    obtain ⟨stock, -, rfl⟩ := happ
    rfl
  | _ =>
    obtain rfl := Option.some.inj happ
    rfl

/-- What a batch does to the lock under a key. -/
inductive LockStep (key : Key) (c : Commit) (t t' : IdempotencyTable) : Prop
  | same : (∀ userId, c ≠ .lockKey key userId) → t'.lockOf key = t.lockOf key →
      t.nextId ≤ t'.nextId → LockStep key c t t'
  | locked : t.lockOf key = none → t'.lockOf key = some t.nextId → t'.nextId = t.nextId + 1 →
      LockStep key c t t'
  | deleted : c = .deleteStaleKey key ∨ c = .releaseKey key → t'.lockOf key = none →
      t'.nextId = t.nextId → LockStep key c t t'

lemma lockStep_of_apply (happ : c.apply s = some s') (key : Key) :
    LockStep key c s.keys s'.keys := by
  -- a batch writes one key at most; the locks under the others are the same
  cases hc : c.writesKey with
  | none =>
    rw [keys_of_apply happ hc]
    refine .same ?_ rfl le_rfl
    rintro userId rfl
    cases hc
  | some k =>
    cases c with
    | lockKey k' userId =>
      obtain rfl : k' = k := Option.some.inj hc
      simp only [Commit.apply] at happ
      split at happ
      · cases happ
      · rename_i hrow
        obtain rfl := Option.some.inj happ
        by_cases hk : key = k'
        · subst hk
          refine .locked ?_ ?_ rfl <;> simp [IdempotencyTable.lockOf, hrow]
        · refine .same (fun user heq => ?_) ?_ (Nat.le_succ _)
          · cases heq
            exact hk rfl
          · simp [IdempotencyTable.lockOf, hk]
    | deleteStaleKey k' | releaseKey k' =>
      obtain rfl : k' = k := Option.some.inj hc
      simp only [Commit.apply] at happ
      split at happ
      · obtain rfl := Option.some.inj happ
        by_cases hk : key = k'
        · subst hk
          refine .deleted (by simp) ?_ rfl
          simp [IdempotencyTable.lockOf]
        · refine .same (by simp) ?_ le_rfl
          simp [IdempotencyTable.lockOf, hk]
      · cases happ
    | finalizeKey k' orderId =>
      simp only [Commit.apply] at happ
      split at happ
      · rename_i row hrow
        obtain rfl := Option.some.inj happ
        -- a finalised key keeps its lock
        refine .same (by simp) ?_ le_rfl
        by_cases hk : key = k'
        · subst hk
          simp [IdempotencyTable.lockOf, hrow]
        · simp [IdempotencyTable.lockOf, hk]
      · cases happ
    | _ => cases hc

/-- The placements after a batch. -/
def Commit.placementsAfter (l : List (Option (Key × ℕ))) : Commit → List (Option (Key × ℕ))
  | .createOrder _ _ placedUnder => l ++ [placedUnder]
  | _ => l

lemma placements_of_apply (happ : c.apply s = some s') :
    s'.book.placements = c.placementsAfter s.book.placements := by
  rw [(Commit.apply_eq_some happ).2.1]
  have hchange : ∀ (o : OrderId) (prev new : OrderStatus),
      (s.book.changeStatus o prev new).placements = s.book.placements :=
    fun o prev new => Table.map_modify_of_eq o fun _ => rfl
  have hkept : ∀ c : Commit, (∀ checkout expiresAt placedUnder,
      c = .createOrder checkout expiresAt placedUnder → False) →
      c.placementsAfter s.book.placements = s.book.placements := by
    intro c hc
    cases c with
    | createOrder checkout expiresAt placedUnder => exact absurd rfl (hc _ _ _)
    | _ => rfl
  unfold Commit.bookAfter
  split
  · simp [OrderBook.placements, OrderBook.createOrder, Commit.orderOf, Commit.placementsAfter]
  · rename_i hc _
    rw [hchange, hkept _ hc]
  · rename_i hc _
    rw [hkept _ hc]

end Batches

/-! ## Whole runs -/

/-- The locks under `key`: those that the calls hold are different ones, and no order was
placed with them; those the orders were placed with are the present one, so there is at most
one such order. -/
structure Exclusive (key : Key) (s : Database) (held : ℕ → Option (Key × ℕ)) : Prop where
  lock_lt : ∀ lock, s.keys.lockOf key = some lock → lock < s.keys.nextId
  held_lt : ∀ i lock, held i = some (key, lock) → lock < s.keys.nextId
  unspent : ∀ i lock, held i = some (key, lock) → some (key, lock) ∉ s.book.placements
  distinct : ∀ i j lock, held i = some (key, lock) → held j = some (key, lock) → i = j
  placed : ∀ lock, some (key, lock) ∈ s.book.placements → s.keys.lockOf key = some lock
  once : s.book.ordersUnder key ≤ 1

lemma OrderBook.ordersUnder_eq_zero {b : OrderBook} {key : Key} :
    b.ordersUnder key = 0 ↔ ∀ lock, some (key, lock) ∉ b.placements := by
  rw [ordersUnder, List.countP_eq_zero]
  constructor
  · intro h lock hmem
    exact h _ hmem (by simp)
  · rintro h placed hmem hkey
    obtain ⟨⟨k, lock⟩, rfl, rfl⟩ : ∃ l, placed = some l ∧ l.1 = key := by
      simpa [Option.map_eq_some_iff] using hkey
    exact h lock hmem

namespace Exclusive

variable {s s' : Database} {c : Commit} {key : Key} {held held' : ℕ → Option (Key × ℕ)}

/-- Locks may be dropped. -/
lemma drop (h : Exclusive key s held)
    (hheld : ∀ i lock, held' i = some (key, lock) → held i = some (key, lock)) :
    Exclusive key s held' where
  lock_lt := h.lock_lt
  held_lt i lock hi := h.held_lt i lock (hheld i lock hi)
  unspent i lock hi := h.unspent i lock (hheld i lock hi)
  distinct i j lock hi hj := h.distinct i j lock (hheld i lock hi) (hheld j lock hj)
  placed := h.placed
  once := h.once

/-- A batch that leaves the orders and the lock alone. -/
lemma same (h : Exclusive key s held) (hplaced : s'.book.placements = s.book.placements)
    (hlock : s'.keys.lockOf key = s.keys.lockOf key) (hnext : s.keys.nextId ≤ s'.keys.nextId) :
    Exclusive key s' held where
  lock_lt lock hl := (h.lock_lt lock (hlock ▸ hl)).trans_le hnext
  held_lt i lock hi := (h.held_lt i lock hi).trans_le hnext
  unspent i lock hi := by
    rw [hplaced]
    exact h.unspent i lock hi
  distinct := h.distinct
  placed lock hl := by
    rw [hplaced] at hl
    rw [hlock]
    exact h.placed lock hl
  once := by
    rw [OrderBook.ordersUnder, hplaced]
    exact h.once

/-- A lock is deleted while no order has been placed under the key. -/
lemma delete (h : Exclusive key s held) (hplaced : s'.book.placements = s.book.placements)
    (hlock : s'.keys.lockOf key = none) (hnext : s'.keys.nextId = s.keys.nextId)
    (hzero : s.book.ordersUnder key = 0) : Exclusive key s' held where
  lock_lt lock hl := by
    rw [hlock] at hl
    cases hl
  held_lt i lock hi := by
    rw [hnext]
    exact h.held_lt i lock hi
  unspent i lock hi := by
    rw [hplaced]
    exact h.unspent i lock hi
  distinct := h.distinct
  placed lock hl := by
    rw [hplaced] at hl
    exact absurd hl (OrderBook.ordersUnder_eq_zero.mp hzero lock)
  once := by
    rw [OrderBook.ordersUnder, hplaced]
    exact h.once

/-- A new lock is inserted, and the call `i` may be told. -/
lemma lock (h : Exclusive key s held) (hplaced : s'.book.placements = s.book.placements)
    (hfree : s.keys.lockOf key = none) (hlock : s'.keys.lockOf key = some s.keys.nextId)
    (hnext : s'.keys.nextId = s.keys.nextId + 1) {i : ℕ} {t : Option (Key × ℕ)}
    (ht : ∀ lock, t = some (key, lock) → lock = s.keys.nextId ∨ held i = some (key, lock)) :
    Exclusive key s' (Function.update held i t) := by
  -- an order under the key would have the lock that is not there
  have hnone : ∀ lock, some (key, lock) ∉ s.book.placements := by
    intro lock hmem
    have hplace := h.placed lock hmem
    rw [hfree] at hplace
    cases hplace
  have hcases : ∀ j lock, Function.update held i t j = some (key, lock) →
      j = i ∧ lock = s.keys.nextId ∨ held j = some (key, lock) := by
    intro j lock hj
    rcases eq_of_update hj with ⟨rfl, hnew⟩ | ⟨-, hold⟩
    · rcases ht lock hnew with hid | hold
      · exact Or.inl ⟨rfl, hid⟩
      · exact Or.inr hold
    · exact Or.inr hold
  constructor
  · intro lock hl
    rw [hlock] at hl
    obtain rfl := Option.some.inj hl
    omega
  · intro j lock hj
    rcases hcases j lock hj with ⟨-, rfl⟩ | hold
    · omega
    · have := h.held_lt j lock hold
      omega
  · intro j lock hj
    rw [hplaced]
    exact hnone lock
  · intro j k lock hj hk
    rcases hcases j lock hj with ⟨rfl, rfl⟩ | hold
    · rcases hcases k _ hk with ⟨rfl, -⟩ | hold'
      · rfl
      · exact absurd (h.held_lt k _ hold') (lt_irrefl _)
    · rcases hcases k _ hk with ⟨rfl, rfl⟩ | hold'
      · exact absurd (h.held_lt j _ hold) (lt_irrefl _)
      · exact h.distinct j k lock hold hold'
  · intro lock hl
    rw [hplaced] at hl
    exact absurd hl (hnone lock)
  · rw [OrderBook.ordersUnder, hplaced]
    exact h.once

/-- An order is placed, with the lock that its call holds and that is still there. -/
lemma place (h : Exclusive key s held) {placed : Option (Key × ℕ)}
    (hplaced : s'.book.placements = s.book.placements ++ [placed]) (hkeys : s'.keys = s.keys)
    {i : ℕ} (hheld : ∀ lock ∈ placed, held i = some lock)
    (hlock : ∀ lock, placed = some (key, lock) → s.keys.lockOf key = some lock) :
    Exclusive key s' (Function.update held i none) := by
  have hothers : ∀ j lock, Function.update held i none j = some (key, lock) →
      j ≠ i ∧ held j = some (key, lock) := by
    intro j lock hj
    rcases eq_of_update hj with ⟨-, hnone⟩ | hold
    · cases hnone
    · exact hold
  constructor
  · rw [hkeys]
    exact h.lock_lt
  · intro j lock hj
    rw [hkeys]
    exact h.held_lt j lock (hothers j lock hj).2
  · intro j lock hj hmem
    obtain ⟨hij, hj⟩ := hothers j lock hj
    rw [hplaced, List.mem_append, List.mem_singleton] at hmem
    rcases hmem with hmem | rfl
    · exact h.unspent j lock hj hmem
    · -- the lock that was spent is held by the call `i` alone
      exact hij (h.distinct j i lock hj (hheld _ rfl))
  · intro j k lock hj hk
    exact h.distinct j k lock (hothers j lock hj).2 (hothers k lock hk).2
  · intro lock hmem
    rw [hplaced, List.mem_append, List.mem_singleton] at hmem
    rw [hkeys]
    rcases hmem with hmem | rfl
    · exact h.placed lock hmem
    · exact hlock lock rfl
  · rw [OrderBook.ordersUnder, hplaced, List.countP_append, List.countP_singleton]
    by_cases hkey : ∃ lock, placed = some (key, lock)
    · -- the lock has not been spent, so no order has been placed under the key
      obtain ⟨lock, rfl⟩ := hkey
      have hzero : s.book.ordersUnder key = 0 := by
        refine OrderBook.ordersUnder_eq_zero.mpr fun lock' hmem => ?_
        obtain rfl : lock = lock' :=
          Option.some.inj ((hlock lock rfl).symm.trans (h.placed lock' hmem))
        exact h.unspent i lock (hheld _ rfl) hmem
      rw [OrderBook.ordersUnder] at hzero
      simp [hzero]
    · have hother : ¬ placed.map Prod.fst = some key := by
        intro hsome
        obtain ⟨⟨k, lock⟩, rfl, rfl⟩ := Option.map_eq_some_iff.mp hsome
        exact hkey ⟨lock, rfl⟩
      have honce := h.once
      rw [OrderBook.ordersUnder] at honce
      simpa [hother] using honce

/-- **The step lemma.** -/
lemma of_apply (h : Exclusive key s held) {i : ℕ} (hallow : lockProtocol.allow (held i) c)
    (hcond : KeepsLock s c) (happ : c.apply s = some s') {o : Option Database}
    (ho : o = none ∨ o = some s') :
    Exclusive key s' (Function.update held i (lockProtocol.after (held i) c o)) := by
  have hplacements := placements_of_apply happ
  by_cases hplace : ∃ checkout expiresAt placed, c = .createOrder checkout expiresAt placed
  · obtain ⟨checkout, expiresAt, placed, rfl⟩ := hplace
    refine h.place hplacements (keys_of_apply happ rfl) hallow ?_
    rintro lock rfl
    exact hcond
  · have hplaced : s'.book.placements = s.book.placements := by
      rw [hplacements]
      cases c with
      | createOrder checkout expiresAt placed => exact absurd ⟨_, _, _, rfl⟩ hplace
      | _ => rfl
    cases lockStep_of_apply happ key with
    | same hne hlock hnext =>
      refine (h.same hplaced hlock hnext).drop fun j lock hj => ?_
      rcases eq_of_update hj with ⟨rfl, hafter⟩ | ⟨-, hold⟩
      · rcases after_eq_some hafter with hheld | ⟨k, user, db, rfl, -, heq⟩
        · exact hheld
        · -- the lock of another key
          obtain rfl : key = k := (Prod.ext_iff.mp heq).1
          exact absurd rfl (hne user)
      · exact hold
    | locked hfree hlock hnext =>
      refine h.lock hplaced hfree hlock hnext fun lock ht => ?_
      rcases after_eq_some ht with hheld | ⟨k, user, db, rfl, rfl, heq⟩
      · exact Or.inr hheld
      · left
        obtain rfl : db = s' := by simpa using ho
        have hid : lock = db.keys.nextId - 1 := (Prod.ext_iff.mp heq).2
        omega
    | deleted hc hlock hnext =>
      have hzero : s.book.ordersUnder key = 0 := by
        rcases hc with rfl | rfl <;> exact hcond
      have hsame : lockProtocol.after (held i) c o = held i := by
        rcases hc with rfl | rfl <;> rfl
      rw [hsame, Function.update_eq_self]
      exact h.delete hplaced hlock hnext hzero

/-- A batch that fails inserts no lock. -/
lemma failed (h : Exclusive key s held) (i : ℕ) (c : Commit) :
    Exclusive key s (Function.update held i (lockProtocol.after (held i) c none)) := by
  refine h.drop fun j lock hj => ?_
  rcases eq_of_update hj with ⟨rfl, hafter⟩ | ⟨-, hold⟩
  · rcases after_eq_some hafter with hheld | ⟨k, user, db, -, hnone, -⟩
    · exact hheld
    · cases hnone
  · exact hold

end Exclusive

/-- **Idempotent checkout**, in the runs in which an order is committed while the lock of its
call is still there, and a lock is deleted only while no order has been placed under its key:
however the calls are interleaved and wherever they fail, at most one order is committed for a
key under which none had been placed at the start. -/
theorem ordersUnder_le_one (config : GatewayConfig) (Allowed : Call → Prop) {s₀ : Database}
    {key : Key} (h₀ : s₀.book.ordersUnder key = 0)
    (hlock : ∀ lock, s₀.keys.lockOf key = some lock → lock < s₀.keys.nextId)
    {cfg : Config Database Commit AppError}
    (hr : (server config).Reachable Allowed KeepsLock s₀ cfg) :
    cfg.store.book.ordersUnder key ≤ 1 := by
  have hstart : Exclusive key s₀ fun _ => lockProtocol.start := by
    constructor
    · exact hlock
    · rintro i lock ⟨⟩
    · rintro i lock ⟨⟩
    · rintro i j lock ⟨⟩
    · exact fun lock hmem => absurd hmem (OrderBook.ordersUnder_eq_zero.mp h₀ lock)
    · omega
  obtain ⟨held, hexclusive, -⟩ := Protocol.invariant (fun x _ => x.follows config) hr hstart
    (fun e s held hs => hs.same (by simp [server]) (by simp [server]) (by simp [server]))
    (fun s held i c _ hs => hs.failed i c)
    fun s s' held i c o hallow hcond happ ho hs => hs.of_apply hallow hcond happ ho
  exact hexclusive.once

/-- The order of a checkout is there, and a second call with the key does nothing. -/
theorem ordersUnder_le_one_repeated :
    ∃ cfg, (server .unchecked).Reachable (fun x => x.checksOut 7 4 = true) KeepsLock
        (.stocked 5) cfg ∧
      cfg.store.book.orders.length = 1 ∧ cfg.store.book.ordersUnder 4 ≤ 1 := by
  obtain ⟨cfg, hr, hlength⟩ := Machine.exists_reachable_of_exec
    (server .unchecked) (fun x => x.checksOut 7 4 = true) KeepsLock
    [.call (.createOrder 7 (.ok ⟨7, [⟨0, 2, "Tee", "TEE-1"⟩], 1000, false⟩) (some 4)),
      .call (.createOrder 7 (.ok ⟨7, [⟨0, 2, "Tee", "TEE-1"⟩], 1000, false⟩) (some 4)),
      .step 0 .ok, .step 0 .ok, .step 0 .ok, .step 0 .ok, .step 0 .ok, .step 0 .ok, .step 0 .ok,
      .step 1 .ok]
    (.stocked 5) (fun s => s.book.orders.length) 1 (by decide)
  exact ⟨cfg, hr, hlength, ordersUnder_le_one .unchecked _ rfl
    (fun lock hlock => by simp [Database.stocked, IdempotencyTable.lockOf] at hlock) hr⟩

/-- Without the condition a checkout is repeated: the order is committed, loading it again
fails, the lock is deleted, and the customer tries again. -/
theorem two_orders_under_key :
    ¬ ∀ (config : GatewayConfig) (s₀ : Database) (userId : UserId) (key : Key)
      (cfg : Config Database Commit AppError), s₀.book.ordersUnder key = 0 →
      (∀ lock, s₀.keys.lockOf key = some lock → lock < s₀.keys.nextId) →
      (server config).Reachable (fun x => x.checksOut userId key = true) Free s₀ cfg →
      cfg.store.book.ordersUnder key ≤ 1 := by
  intro h
  obtain ⟨cfg, hr, htwo⟩ := Machine.exists_reachable_of_exec
    (server .unchecked) (fun x => x.checksOut 7 4 = true) Free
    [.call (.createOrder 7 (.ok ⟨7, [⟨0, 2, "Tee", "TEE-1"⟩], 1000, false⟩) (some 4)),
      .step 0 .ok, .step 0 .ok, .step 0 .ok, .step 0 .ok, .step 0 .ok, .step 0 .failed,
      .step 0 .ok,
      .call (.createOrder 7 (.ok ⟨7, [⟨0, 2, "Tee", "TEE-1"⟩], 1000, false⟩) (some 4)),
      .step 1 .ok, .step 1 .ok, .step 1 .ok, .step 1 .ok, .step 1 .ok]
    (.stocked 5) (fun s => s.book.ordersUnder 4) 2 (by decide)
  have hle := h .unchecked (.stocked 5) 7 4 cfg rfl
    (fun lock hlock => by simp [Database.stocked, IdempotencyTable.lockOf] at hlock) hr
  rw [htwo] at hle
  exact absurd hle (by decide)

end MeeoServer
