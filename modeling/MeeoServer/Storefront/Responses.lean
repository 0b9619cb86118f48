/-
# The responses under an idempotency key

`orders/services/idempotency.service.ts`, and the beginning and the end of `createOrder` of
`orders/services/orderCreation.service.ts`.  A request that finds a completed key is answered with
the response that is stored there.  The row has columns for the user and for a hash of the request;
`createOrder` does not pass a hash, and the lookup compares neither.  So the answers are as
private as the keys are.

A response carries the request that it answers, and the table the responses that were ever stored
in it; no program reads these.  Rows of keys may be deleted by others at any time.
-/
import MeeoServer.Storefront.Interleaved

namespace MeeoServer.Storefront.Responses

open Proc
open Checkouts (Shop)

/-! ## The tables -/

/-- A checkout as it comes from the controller, with the text of its header. -/
structure Request where
  userId : UserId
  input : CheckoutInput
  idempotencyKey : Option String
deriving DecidableEq

structure Response where
  order : PlacedOrder
  request : Request
deriving DecidableEq

structure IdempotencyKey where
  userId : Option UserId
  requestHash : Option String
  status : IdempotencyStatus
  responseStatus : Option ℕ
  responseBody : Option Response
  createdAt : Millis
deriving DecidableEq

/-- The keys; `key` is unique. -/
structure KeyTable where
  rows : String → Option IdempotencyKey
  /-- All responses that were ever stored, with their keys. -/
  stored : List (String × Response)
  mem_stored : ∀ key row response, rows key = some row → row.responseBody = some response →
    (key, response) ∈ stored

namespace KeyTable

variable (t : KeyTable)

/-- `idempotencyKey.create` -/
def create (key : String) (row : IdempotencyKey) (hrow : row.responseBody = none) : KeyTable where
  rows := Function.update t.rows key (some row)
  stored := t.stored
  mem_stored k r response hr hresponse := by
    rw [Function.update_apply] at hr
    split at hr
    · obtain rfl := Option.some.inj hr
      rw [hrow] at hresponse
      exact nomatch hresponse
    · exact t.mem_stored k r response hr hresponse

def delete (key : String) : KeyTable where
  rows := Function.update t.rows key none
  stored := t.stored
  mem_stored k r response hr hresponse := by
    rw [Function.update_apply] at hr
    split at hr
    · exact nomatch hr
    · exact t.mem_stored k r response hr hresponse

/-- `idempotencyKey.update` with a response. -/
def finalize (key : String) (row : IdempotencyKey) (responseStatus : ℕ) (response : Response) :
    KeyTable where
  rows := Function.update t.rows key (some { row with
    status := .completed, responseStatus := some responseStatus, responseBody := some response })
  stored := (key, response) :: t.stored
  mem_stored k r response' hr hresponse := by
    rw [Function.update_apply] at hr
    split at hr
    · rename_i hk
      obtain rfl := Option.some.inj hr
      obtain rfl := Option.some.inj hresponse
      rw [hk]
      exact List.mem_cons_self
    · exact List.mem_cons_of_mem _ (t.mem_stored k r response' hr hresponse)

end KeyTable

/-- The shop, its keys, and the answers that were sent. -/
structure Desk where
  shop : Shop
  keys : KeyTable
  sent : List (Request × Response)

inductive Commit where
  | shop (c : Checkouts.Commit)
  | createKey (key : String) (userId : Option UserId) (requestHash : Option String)
  | deleteKey (key : String)
  | finalizeKey (key : String) (responseStatus : ℕ) (response : Response)
  | send (request : Request) (response : Response)

def Commit.apply : Commit → Desk → Option Desk
  | .shop c, db => (c.apply db.shop).map fun shop => { db with shop := shop }
  | .createKey key userId requestHash, db =>
    match db.keys.rows key with
    | some _ => none
    | none => some { db with
        keys := db.keys.create key ⟨userId, requestHash, .processing, none, none, db.shop.clock⟩
          rfl }
  | .deleteKey key, db =>
    (db.keys.rows key).map fun _ => { db with keys := db.keys.delete key }
  | .finalizeKey key responseStatus response, db =>
    (db.keys.rows key).map fun row =>
      { db with keys := db.keys.finalize key row responseStatus response }
  | .send request response, db => some { db with sent := db.sent ++ [(request, response)] }

abbrev Service := Proc Desk Commit AppError

/-! ## The lock of a key -/

/-- What `resolveOrLockKey` answers. -/
structure Resolution where
  isCached : Bool
  responseStatus : Option ℕ
  responseBody : Option Response

def Resolution.fresh : Resolution := ⟨false, none, none⟩

def checkoutInProgress : AppError :=
  ⟨"A checkout request with this Idempotency-Key is currently in progress. Please wait.", 409⟩

/-- The insertion of the lock; whatever fails here is taken for a concurrent checkout. -/
def insertLock (key : String) (userId : Option UserId) (requestHash : Option String) :
    Service Resolution :=
  Proc.tryCatch
    (do
      let _ ← Proc.commit (.createKey key userId requestHash)
      pure .fresh)
    fun _ => throw checkoutInProgress

/-- Checks if an idempotency key was already completed, or locks it in PROCESSING state. -/
def resolveOrLockKey (key : Option String) (userId : Option UserId)
    (requestHash : Option String) : Service Resolution :=
  let key := key.getD ""
  if key = "" then pure .fresh
  else do
    let db ← Proc.read
    match db.keys.rows key with
    | none => insertLock key userId requestHash
    | some existing =>
      match existing.status, existing.responseBody with
      | .completed, some responseBody =>
        pure ⟨true, some (existing.responseStatus.getD 200), some responseBody⟩
      | .processing, _ =>
        -- a lock older than two minutes is taken over
        if existing.createdAt + minutes 2 < db.shop.clock then
          let _ ← Proc.commit (.deleteKey key)
          insertLock key userId requestHash
        else
          throw checkoutInProgress
      -- a failed key, or a completed one without a response: the insertion conflicts with it
      | _, _ => insertLock key userId requestHash

/-- Marks an idempotency key as COMPLETED; a failure is ignored. -/
def finalizeKey (key : String) (responseStatus : ℕ) (response : Response) : Service Unit :=
  Proc.attempt (.finalizeKey key responseStatus response)

/-- Cleans up an idempotency key upon an error; a failure is ignored. -/
def releaseKey (key : Option String) : Service Unit :=
  let key := key.getD ""
  if key = "" then pure () else Proc.attempt (.deleteKey key)

/-! ## A checkout -/

section Programs

variable (toUpperCase : String → String)

/-- What `createOrder` does inside its `try`; the order is loaded again for the response. -/
def placeOrder (orderNumber : String) (request : Request) : Service Response := do
  let order ← (Checkouts.createOrder toUpperCase orderNumber request.userId request.input).zoom
    Desk.shop Commit.shop
  let _ ← Proc.read
  let formattedResponse : Response := ⟨order, request⟩
  let key := request.idempotencyKey.getD ""
  if key = "" then pure formattedResponse
  else do
    finalizeKey key 201 formattedResponse
    pure formattedResponse

/-- Transactionally creates an order, or answers with the response that is stored under the
key. -/
def createOrder (orderNumber : String) (request : Request) : Service Response := do
  let idempotency ← resolveOrLockKey request.idempotencyKey (some request.userId) none
  match idempotency.isCached, idempotency.responseBody with
  | true, some responseBody => pure responseBody
  | _, _ =>
    Proc.tryCatch (placeOrder toUpperCase orderNumber request) fun error => do
      releaseKey request.idempotencyKey
      throw error

/-- Executes atomic checkout, and sends the response. -/
def checkout (orderNumber : String) (request : Request) : Service Unit := do
  let result ← createOrder toUpperCase orderNumber request
  let _ ← Proc.commit (.send request result)
  pure ()

end Programs

/-! ## The machine -/

structure Call where
  orderNumber : String
  request : Request

/-- The shop lives on, and somebody deletes a key. -/
inductive Environ where
  | shop (e : Checkouts.Environ)
  | deleteKey (key : String)

def Environ.apply : Environ → Desk → Desk
  | .shop e, db => { db with shop := e.apply db.shop }
  | .deleteKey key, db => { db with keys := db.keys.delete key }

def checkoutDesk (toUpperCase : String → String) : Machine Desk Commit AppError Call Environ where
  apply := Commit.apply
  proc x := checkout toUpperCase x.orderNumber x.request
  environ := Environ.apply

/-! ## Whose responses are sent -/

/-- Every response was worked out for a request of the same user with the same input. -/
def NotShared (db : Desk) : Prop :=
  ∀ answer ∈ db.sent, answer.2.request.userId = answer.1.userId ∧
    answer.2.request.input = answer.1.input

/-- The keys that a request locks. -/
def Request.Locks (request : Request) (key : String) : Prop :=
  request.idempotencyKey = some key ∧ key ≠ ""

/-- No key is used for the requests of two users, or for two different inputs. -/
def KeysApart (Requests : Request → Prop) : Prop :=
  ∀ x y key, Requests x → Requests y → x.Locks key → y.Locks key →
    x.userId = y.userId ∧ x.input = y.input

/-- The stored responses answer such requests, each under its own key; nothing was sent yet. -/
structure Sourced (Requests : Request → Prop) (db : Desk) : Prop where
  stored : ∀ entry ∈ db.keys.stored, Requests entry.2.request ∧ entry.2.request.Locks entry.1
  sent : db.sent = []

/-- What a checkout commits: it stores its own response under its own key, and sends its own, or
one that was stored under its key. -/
def Call.Spec (x : Call) (db : Desk) : Commit → Prop
  | .finalizeKey key _ response => x.request.Locks key ∧ response.request = x.request
  | .send request response => request = x.request ∧ (response.request = x.request ∨
      ∃ key, x.request.Locks key ∧ (key, response) ∈ db.keys.stored)
  | _ => True

/-- What was stored is not forgotten. -/
def Remembers (db db' : Desk) : Prop := ∀ entry ∈ db.keys.stored, entry ∈ db'.keys.stored

lemma remembers_of_apply {db db' : Desk} {c : Commit} (h : c.apply db = some db') :
    Remembers db db' := by
  intro entry hentry
  cases c with
  | shop c =>
    obtain ⟨_, -, rfl⟩ := Option.map_eq_some_iff.mp h
    exact hentry
  | createKey key userId requestHash =>
    rw [Commit.apply] at h
    split at h
    · exact nomatch h
    · obtain rfl := Option.some.inj h
      exact hentry
  | deleteKey key =>
    obtain ⟨_, -, rfl⟩ := Option.map_eq_some_iff.mp h
    exact hentry
  | finalizeKey key responseStatus response =>
    obtain ⟨_, -, rfl⟩ := Option.map_eq_some_iff.mp h
    exact List.mem_cons_of_mem _ hentry
  | send request response =>
    obtain rfl := Option.some.inj h
    exact hentry

section Emits

variable {toUpperCase : String → String} {x : Call} {db₀ : Desk}

/-- A response that the checkout may send. -/
def Answers (x : Call) (response : Response) (db : Desk) : Prop :=
  response.request = x.request ∨
    ∃ key, x.request.Locks key ∧ (key, response) ∈ db.keys.stored

lemma Answers.mono {response : Response} {db db' : Desk} (h : Answers x response db)
    (hdb : Remembers db db') : Answers x response db' := by
  rcases h with h | ⟨key, hkey, hmem⟩
  · exact .inl h
  · exact .inr ⟨key, hkey, hdb _ hmem⟩

/-- The response of a resolution, if it has one, is stored under the key. -/
def Resolution.Stored (x : Call) (r : Resolution) (db : Desk) : Prop :=
  ∀ response ∈ r.responseBody, Answers x response db

lemma insertLock_emits (key : String) (userId : Option UserId) (requestHash : Option String) :
    (insertLock key userId requestHash).Emits Commit.apply Remembers Remembers x.Spec
      (fun r db => ∀ resolution, r = .ok resolution → resolution.Stored x db) db₀ := by
  refine Emits.tryCatch (emits_commit_post ?_ (fun _ _ => trivial) fun _ _ _ _ _ => ?_)
  · rintro _ _ ⟨⟩
  · rintro _ ⟨⟩ response hresponse
    exact nomatch hresponse

lemma resolveOrLockKey_emits (userId : Option UserId) (requestHash : Option String) :
    (resolveOrLockKey x.request.idempotencyKey userId requestHash).Emits Commit.apply Remembers
      Remembers x.Spec (fun r db => ∀ resolution, r = .ok resolution → resolution.Stored x db)
      db₀ := by
  unfold resolveOrLockKey
  dsimp only
  split
  · rintro _ ⟨⟩ response hresponse
    exact nomatch hresponse
  · rename_i hkey
    refine emits_read_post (fun _ _ heq => nomatch heq) fun db _ => ?_
    cases hrow : db.keys.rows (x.request.idempotencyKey.getD "") with
    | none => exact insertLock_emits _ _ _
    | some existing =>
      dsimp only
      split
      · rename_i responseBody hstatus hbody
        rintro _ ⟨⟩ response hresponse
        obtain rfl := Option.some.inj hresponse
        refine .inr ⟨_, ⟨?_, hkey⟩, db.keys.mem_stored _ existing _ hrow hbody⟩
        cases hheader : x.request.idempotencyKey with
        | none => rw [hheader] at hkey; exact absurd rfl hkey
        | some key => rfl
      · split
        · exact emits_commit_post (fun _ _ heq => nomatch heq) (fun _ _ => trivial)
            fun _ _ _ _ _ => insertLock_emits _ _ _
        · exact fun _ heq => nomatch heq
      · exact insertLock_emits _ _ _

lemma releaseKey_emits :
    (releaseKey x.request.idempotencyKey).Emits Commit.apply Remembers Remembers x.Spec Any
      db₀ := by
  unfold releaseKey
  dsimp only
  split
  · exact emits_pure
  · exact emits_attempt fun _ _ => trivial

lemma placeOrder_emits :
    (placeOrder toUpperCase x.orderNumber x.request).Emits Commit.apply Remembers Remembers
      x.Spec (fun r _ => ∀ response, r = .ok response → response.request = x.request) db₀ := by
  unfold placeOrder
  have hzoom : ((Checkouts.createOrder toUpperCase x.orderNumber x.request.userId
      x.request.input).zoom Desk.shop Commit.shop).Emits Commit.apply Remembers Remembers x.Spec
      Any db₀ := (emits_zoom _ _).imp fun db c ⟨b, hb⟩ => hb ▸ trivial
  refine Emits.bind (hzoom.mono fun r db _ => ?_)
  cases r with
  | error e => exact fun _ heq => nomatch heq
  | ok order =>
    refine emits_read_post (fun _ _ heq => nomatch heq) fun db _ => ?_
    dsimp only
    split
    · rintro _ ⟨⟩
      rfl
    · rename_i hkey
      have hlocks : x.request.Locks (x.request.idempotencyKey.getD "") := by
        refine ⟨?_, hkey⟩
        cases hheader : x.request.idempotencyKey with
        | none => rw [hheader] at hkey; exact absurd rfl hkey
        | some key => rfl
      refine emits_attempt_bind (fun _ _ => ⟨hlocks, rfl⟩) (fun _ _ => ?_) fun _ _ _ _ _ => ?_
      · rintro _ ⟨⟩
        rfl
      · rintro _ ⟨⟩
        rfl

lemma createOrder_emits :
    (createOrder toUpperCase x.orderNumber x.request).Emits Commit.apply Remembers Remembers
      x.Spec (fun r db => ∀ response, r = .ok response → Answers x response db) db₀ := by
  unfold createOrder
  refine Emits.bind ((resolveOrLockKey_emits _ _).mono fun r db hresolution => ?_)
  cases r with
  | error e => exact fun _ heq => nomatch heq
  | ok idempotency =>
    dsimp only
    split
    · rename_i responseBody _ hbody
      rintro _ ⟨⟩
      exact hresolution idempotency rfl responseBody hbody
    · refine Emits.tryCatch (placeOrder_emits.mono fun r db hresponse => ?_)
      cases r with
      | ok response =>
        rintro _ ⟨⟩
        exact .inl (hresponse response rfl)
      | error e =>
        refine Emits.bind (releaseKey_emits.mono fun r db _ => ?_)
        cases r with
        | ok u => exact fun _ heq => nomatch heq
        | error e => exact fun _ heq => nomatch heq

lemma checkout_emits :
    (checkout toUpperCase x.orderNumber x.request).Emits Commit.apply Remembers Remembers x.Spec
      Any db₀ := by
  unfold checkout
  refine Emits.bind (createOrder_emits.mono fun r db hresponse => ?_)
  cases r with
  | error e => trivial
  | ok response =>
    refine emits_commit (fun db' hdb => ⟨rfl, ?_⟩) fun _ _ _ _ _ => emits_pure
    exact (hresponse response rfl).mono hdb

end Emits

/-! ## Runs -/

section Runs

variable {toUpperCase : String → String} {Requests : Request → Prop} {db₀ : Desk}
  {cfg : Config Desk Commit AppError}

lemma checkouts_rely (toUpperCase : String → String) (Allowed : Call → Prop) :
    Rely (checkoutDesk toUpperCase) Allowed Free Remembers Call.Spec where
  refl _ _ h := h
  trans h h' entry hentry := h' entry (h entry hentry)
  env e _ entry hentry := by
    cases e with
    | shop e => exact hentry
    | deleteKey key => exact hentry
  commit _ _ _ happ := remembers_of_apply happ
  emits x _ _ := checkout_emits

/-- What is stored answers the requests of the run, and what was sent was either worked out for
the request, or for one with the same key. -/
structure Traced (Requests : Request → Prop) (db : Desk) : Prop where
  stored : ∀ entry ∈ db.keys.stored, Requests entry.2.request ∧ entry.2.request.Locks entry.1
  sent : ∀ answer ∈ db.sent, Requests answer.1 ∧ (answer.2.request = answer.1 ∨
    Requests answer.2.request ∧ ∃ key, answer.1.Locks key ∧ answer.2.request.Locks key)

lemma Traced.of_apply {x : Call} {db db' : Desk} {c : Commit} (h : Traced Requests db)
    (hx : Requests x.request) (hc : x.Spec db c) (happ : c.apply db = some db') :
    Traced Requests db' := by
  cases c with
  | shop c =>
    obtain ⟨_, -, rfl⟩ := Option.map_eq_some_iff.mp happ
    exact ⟨h.stored, h.sent⟩
  | createKey key userId requestHash =>
    rw [Commit.apply] at happ
    split at happ
    · exact nomatch happ
    · obtain rfl := Option.some.inj happ
      exact ⟨h.stored, h.sent⟩
  | deleteKey key =>
    obtain ⟨_, -, rfl⟩ := Option.map_eq_some_iff.mp happ
    exact ⟨h.stored, h.sent⟩
  | finalizeKey key responseStatus response =>
    obtain ⟨_, -, rfl⟩ := Option.map_eq_some_iff.mp happ
    refine ⟨fun entry hentry => ?_, h.sent⟩
    rcases List.mem_cons.mp hentry with rfl | hentry
    · obtain ⟨hlocks, hresponse⟩ := hc
      rw [← hresponse] at hx hlocks
      exact ⟨hx, hlocks⟩
    · exact h.stored entry hentry
  | send request response =>
    obtain rfl := Option.some.inj happ
    refine ⟨h.stored, fun answer hanswer => ?_⟩
    rcases List.mem_append.mp hanswer with hanswer | hanswer
    · exact h.sent answer hanswer
    · obtain rfl := List.mem_singleton.mp hanswer
      obtain ⟨rfl, hresponse⟩ := hc
      refine ⟨hx, hresponse.imp_right ?_⟩
      rintro ⟨key, hlocks, hmem⟩
      obtain ⟨hrequest, hlocks'⟩ := h.stored _ hmem
      exact ⟨hrequest, key, hlocks, hlocks'⟩

/-- Where every answer comes from, in every run. -/
theorem traced_of_reachable (h₀ : Sourced Requests db₀)
    (hr : (checkoutDesk toUpperCase).Reachable (fun x => Requests x.request) Free db₀ cfg) :
    Traced Requests cfg.store := by
  refine (checkouts_rely toUpperCase _).invariant hr ⟨h₀.stored, ?_⟩ ?_
    fun hx hspec _ happ h => h.of_apply hx hspec happ
  · rw [h₀.sent]
    exact fun _ hanswer => nomatch hanswer
  · intro e db h
    cases e with
    | shop e => exact ⟨h.stored, h.sent⟩
    | deleteKey key => exact ⟨h.stored, h.sent⟩

end Runs

/-! ## A key that is used twice -/

/-- A key under which one response is stored. -/
def storedKey (key : String) (response : Response) : KeyTable where
  rows := Function.update (fun _ => none) key (some
    ⟨some response.request.userId, none, .completed, some 201, some response, 0⟩)
  stored := [(key, response)]
  mem_stored k row response' hrow hresponse := by
    rw [Function.update_apply] at hrow
    split at hrow
    · rename_i hk
      obtain rfl := Option.some.inj hrow
      obtain rfl := Option.some.inj hresponse
      rw [hk]
      exact List.mem_singleton_self _
    · exact nomatch hrow

/-- The next request with the key is answered with the response. -/
lemma reachable_of_storedKey (toUpperCase : String → String) {Requests : Request → Prop}
    (shop : Shop) (response : Response) {key : String} {request : Request}
    (hrequest : Requests request) (hlocks : request.Locks key) :
    ∃ cfg, (checkoutDesk toUpperCase).Reachable (fun x => Requests x.request) Free
        ⟨shop, storedKey key response, []⟩ cfg ∧ cfg.store.sent = [(request, response)] := by
  obtain ⟨hheader, hkey⟩ := hlocks
  set db : Desk := ⟨shop, storedKey key response, []⟩
  have hlookup : db.keys.rows key = some
      ⟨some response.request.userId, none, .completed, some 201, some response, 0⟩ := by
    simp [db, storedKey]
  obtain ⟨k, hproc, k', hk⟩ : ∃ k, checkout toUpperCase "" request = .stmt none k ∧
      ∃ k', k (some db) = .stmt (some (.send request response)) k' := by
    unfold checkout createOrder resolveOrLockKey
    simp only [hheader, Option.getD_some, if_neg hkey]
    refine ⟨_, rfl, ?_⟩
    simp only [Proc.bind, hlookup]
    exact ⟨_, rfl⟩
  have hcall : (checkoutDesk toUpperCase).Step (fun x => Requests x.request) Free ⟨db, []⟩
      ⟨db, [] ++ [checkout toUpperCase "" request]⟩ := .call (⟨"", request⟩ : Call) hrequest
  rw [hproc] at hcall
  have hread : (checkoutDesk toUpperCase).Step (fun x => Requests x.request) Free
      ⟨db, [.stmt none k]⟩ ⟨db, [k (some db)]⟩ :=
    .ok (i := 0) (k := k) rfl rfl fun _ heq => nomatch heq
  rw [hk] at hread
  have hsend : (checkoutDesk toUpperCase).Step (fun x => Requests x.request) Free
      ⟨db, [.stmt (some (.send request response)) k']⟩
      ⟨{ db with sent := [(request, response)] },
        [k' (some { db with sent := [(request, response)] })]⟩ :=
    .ok (i := 0) (k := k') rfl rfl fun _ _ => trivial
  exact ⟨_, ((Relation.ReflTransGen.single hcall).tail hread).tail hsend, rfl⟩

lemma fromDatabase_nil : ∀ promo ∈ ([] : List Promotion), promo.FromDatabase :=
  List.forall_mem_nil _

def noPromotions : PromotionTable :=
  ⟨[], List.nodup_nil, List.nodup_nil, fromDatabase_nil⟩

/-- A shop without goods. -/
def closedShop : Shop where
  products := []
  variants := []
  stock := ⟨fun _ => false, fun _ => none, [], []⟩
  carts := []
  addresses := []
  coupons := []
  couponUsages := []
  promotions := noPromotions
  promotionUsages := []
  promotionCache := .empty
  gstRules := []
  sellers := []
  standardShippingFee := none
  orders := []
  clock := 0

/-- **Stored responses are not shared** in any run exactly if the requests of one key all come from
one user and carry one input. -/
theorem responses_not_shared_iff (toUpperCase : String → String) (Requests : Request → Prop) :
    (∀ db₀ cfg, Sourced Requests db₀ →
      (checkoutDesk toUpperCase).Reachable (fun x => Requests x.request) Free db₀ cfg →
      NotShared cfg.store) ↔ KeysApart Requests := by
  constructor
  · intro h x y key hx hy hxkey hykey
    let response : Response := ⟨⟨"ORD-1", y.userId, 0, .pending, "INR", ⟨0, 0, 0, 0, 0⟩, none, [],
      ⟨"", none, "", none, "", "", "", "", none, none⟩, none⟩, y⟩
    obtain ⟨cfg, hr, hsent⟩ := reachable_of_storedKey toUpperCase closedShop response hx hxkey
    have hsourced : Sourced Requests ⟨closedShop, storedKey key response, []⟩ := by
      refine ⟨fun entry hentry => ?_, rfl⟩
      obtain rfl := List.mem_singleton.mp hentry
      exact ⟨hy, hykey⟩
    have hanswer := h _ cfg hsourced hr (x, response) (hsent ▸ List.mem_singleton_self _)
    exact ⟨hanswer.1.symm, hanswer.2.symm⟩
  · intro hapart db₀ cfg h₀ hr answer hanswer
    obtain ⟨hrequest, hown | ⟨hstored, key, hlocks, hlocks'⟩⟩ :=
      (traced_of_reachable h₀ hr).sent answer hanswer
    · rw [hown]
      exact ⟨rfl, rfl⟩
    · exact hapart _ _ key hstored hrequest hlocks' hlocks

/-- A shop in which user 1 can order, without stored responses. -/
def lampDesk : Desk where
  shop := { lampShop none noPromotions [] with clock := 0 }
  keys := ⟨fun _ => none, [], by simp⟩
  sent := []

/-- User 1 orders with a key, and then user 2 comes with the same key. -/
def twoCustomers : List (Event Call Environ) :=
  .call ⟨"ORD-1", ⟨1, lampRequest, some "9f82d5a3"⟩⟩ :: List.replicate 17 (.step 0 .ok) ++
    .call ⟨"ORD-2", ⟨2, lampRequest, some "9f82d5a3"⟩⟩ :: List.replicate 2 (.step 1 .ok)

/-- User 2 receives the order of user 1. -/
theorem order_of_another_user :
    ¬∀ (toUpperCase : String → String) (db₀ : Desk) (cfg : Config Desk Commit AppError),
      db₀.keys.stored = [] → db₀.sent = [] →
      (checkoutDesk toUpperCase).Reachable (fun _ => True) Free db₀ cfg →
      NotShared cfg.store := by
  intro h
  obtain ⟨cfg, hr, hsent⟩ := (checkoutDesk id).exists_reachable_of_exec (fun _ => True) Free
    twoCustomers lampDesk
    (fun db => db.sent.map fun answer => (answer.1.userId, answer.2.request.userId))
    [(1, 1), (2, 1)] (by decide +kernel)
  have hprivate := h id lampDesk cfg rfl rfl hr
  have hmem : (2, 1) ∈ cfg.store.sent.map fun answer =>
      (answer.1.userId, answer.2.request.userId) := by
    rw [hsent]
    decide
  obtain ⟨answer, hanswer, heq⟩ := List.mem_map.mp hmem
  obtain ⟨hreceiver, howner⟩ := Prod.mk.inj heq
  have hsame := (hprivate answer hanswer).1
  rw [hreceiver, howner] at hsame
  exact absurd hsame (by decide)

end MeeoServer.Storefront.Responses
