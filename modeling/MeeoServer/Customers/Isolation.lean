/-
# Customer isolation

The customer endpoints as one server: a request comes with the user that was authenticated, and
with identifiers that the client has chosen.  Between the requests of a customer `u` the other
customers send theirs, and anything else happens that keeps the tables sound.

Two things are wanted for another customer `v`.  The requests of `u` leave the rows of `v` as they
are; this is proved of all requests but a verification and a reported failure, which settle the
payment of whatever order they name.  And what `u` is answered does not depend on the rows of `v`:
two runs that differ in them look the same to `u`, as long as no request of `u` names an order, a
payment or a key of `v`, or is refused for that in both.
-/
import MeeoServer.Customers.Addresses
import MeeoServer.Customers.Carts
import MeeoServer.Customers.Payments
import MeeoServer.Payments.RealRefunds
import MeeoServer.Process.Noninterference

namespace MeeoServer.Customers

open Storefront

/-! ## Requests -/

inductive Request where
  | validateCheckout (input : CheckoutInput)
  | checkout (input : CheckoutInput) (key : Option Key)
  | cancelOrder (orderId : OrderId) (reason : Option String)
  | initializePayment (input : CreatePaymentIntentInput)
  | verifyPayment (input : Razorpay.VerifyInput)
  | failPayment (input : RecordPaymentFailureInput)
  | retryPayment (paymentId : PaymentId)
  | getCart
  | addItem (input : AddCartItemInput)
  | updateItemQuantity (itemId : CartItemId) (quantity : ℕ)
  | removeItem (itemId : CartItemId)
  | clearCart
  | getAddresses
  | createAddress (payload : UserAddressPayload)
  | updateAddress (payload : UpdateUserAddressPayload) (addressId : AddressId)
  | deleteAddress (addressId : AddressId)

inductive Answer where
  | preview (preview : CheckoutPreview)
  | order (order : OrderResponse)
  | session (session : PaymentSession)
  | result (result : PaymentResult)
  | cart (cart : CartResponse)
  | addresses (addresses : List AddressView)
  | address (address : AddressView)
  | deleted

/-- What the server is configured with. -/
structure Site where
  toUpperCase : String → String
  gateway : Razorpay.Config

/-- A request of a customer, who is not an administrator. -/
def Request.handle (site : Site) (userId : UserId) (d : Draw) : Request → Handler Answer
  | .validateCheckout input =>
    Answer.preview <$> Customers.validateCheckout site.toUpperCase userId input
  | .checkout input key => Answer.order <$> createOrder site.toUpperCase userId input key d
  | .cancelOrder orderId reason =>
    Answer.order <$> Customers.cancelOrder orderId userId reason false d
  | .initializePayment input =>
    Answer.session <$> Customers.initializePayment site.gateway userId input d
  | .verifyPayment input => Answer.result <$> Customers.verifyPayment site.gateway input d
  | .failPayment input => Answer.result <$> recordPaymentFailure input d
  | .retryPayment paymentId =>
    Answer.session <$> Customers.retryPayment site.gateway userId paymentId d
  | .getCart => Answer.cart <$> Customers.getCart userId d
  | .addItem input => Answer.cart <$> Customers.addItem userId input d
  | .updateItemQuantity itemId quantity =>
    Answer.cart <$> Customers.updateItemQuantity userId itemId quantity d
  | .removeItem itemId => Answer.cart <$> Customers.removeItem userId itemId d
  | .clearCart => Answer.cart <$> Customers.clearCart userId d
  | .getAddresses => Answer.addresses <$> Customers.getAddresses userId
  | .createAddress payload => Answer.address <$> Customers.createAddress userId payload d
  | .updateAddress payload addressId =>
    Answer.address <$> Customers.updateAddress userId payload addressId
  | .deleteAddress addressId =>
    (fun _ => Answer.deleted) <$> Customers.deleteAddress userId addressId

/-- A step that is not a request of the observed customer. -/
inductive Event where
  | request (userId : UserId) (r : Request) (d : Draw)
  | elsewhere (t : Shop)

namespace Site

variable (site : Site)

/-- What the rest of the world does to the tables. -/
def environ (s : Shop) : Event → Shop
  | .request userId r d => endStore (r.handle site userId d s)
  | .elsewhere t => t

/-- The server, as it is seen by one customer. -/
def customer (u : UserId) : Responder Shop Request Draw (Except AppError Answer) Event where
  serve s r d := (answerOf (r.handle site u d s), endStore (r.handle site u d s))
  environ := site.environ

end Site

/-- Identifiers that are drawn are new, and anything else keeps the tables sound. -/
def Event.Legal (s : Shop) : Event → Prop
  | .request _ _ d => d.Fresh s
  | .elsewhere t => t.Sound

/-- The tables that a run from `s` leads to. -/
inductive Site.Reachable (site : Site) (s : Shop) : Shop → Prop where
  | start : Reachable site s s
  | step {t : Shop} (h : Reachable site s t) {e : Event} (he : e.Legal t) :
    Reachable site s (site.environ t e)

/-! ## Conditions on a request -/

namespace Request

variable (site : Site) (s : Shop) (v : UserId) (d : Draw)

/-- The request does not settle a payment of `v`. -/
def Spares : Request → Prop
  | .verifyPayment input =>
    signatureAccepted site.gateway input = true → ¬s.OwesFor v input.orderId d
  | .failPayment input => ¬s.OwesFor v input.orderId d
  | _ => True

/-- The request names no order, payment or key of `v`, and the number that is drawn for a new order
is not the number of an order of `v`. -/
def Avoids : Request → Prop
  | .checkout _ key => (∀ k ∈ key, s.KeyFree v k) ∧ s.NumberFree v d.orderNumber
  | .cancelOrder orderId _ => s.orderIsOf v orderId = false
  | .initializePayment input => s.orderIsOf v input.orderId = false
  | .verifyPayment input =>
    signatureAccepted site.gateway input = true → s.orderIsOf v input.orderId = false
  | .failPayment input => s.orderIsOf v input.orderId = false
  | .retryPayment paymentId => s.paymentIsOf v paymentId = false
  | _ => True

/-- The request names an order or a payment of `v`, and its customer is checked. -/
def Refused : Request → Prop
  | .cancelOrder orderId _ => s.orderIsOf v orderId = true
  | .initializePayment input => s.orderIsOf v input.orderId = true
  | .retryPayment paymentId => s.paymentIsOf v paymentId = true
  | _ => False

end Request

/-- In two runs side by side the same is drawn for a request; it names nothing of `v` in either
run, or it is refused in both. -/
def Site.Discreet (site : Site) (v : UserId) (s s' : Shop) (r : Request) (d d' : Draw) : Prop :=
  d = d' ∧ (d.Fresh s ∧ d.Fresh s') ∧
    ((r.Avoids site s v d ∧ r.Avoids site s' v d) ∨ (r.Refused s v ∧ r.Refused s' v))

/-- The rest of the world does the same in both runs, up to the rows of `v`. -/
def Site.Hidden (site : Site) (v : UserId) (s s' : Shop) (e e' : Event) : Prop :=
  (e.Legal s ∧ e'.Legal s') ∧ (site.environ s e).without v = (site.environ s' e').without v

section Handle

variable {site : Site} {u v : UserId} {d : Draw} {s s' : Shop} {r : Request}

/-- What was proved of the single requests. -/
lemma handle_isolated (hs : s.Sound) (hd : d.Fresh s) (r : Request) :
    Isolated v (u ≠ v ∧ r.Spares site s v d) (u ≠ v ∧ r.Avoids site s v d)
      (r.handle site u d) s := by
  cases r with
  | validateCheckout input => exact ((validateCheckout_isolated hs).imp And.left And.left).map _
  | checkout input key =>
    refine Confined.map _ (Confined.imp
      (B := u ≠ v ∧ Request.Avoids site s v d (.checkout input key))
      (createOrder_isolated hs hd And.left ?_ ?_) And.left id)
    · exact fun hB => hB.2.1
    · exact fun hB => hB.2.2
  | cancelOrder orderId reason =>
    exact ((cancelOrder_isolated hs And.right).imp And.left id).map _
  | initializePayment input =>
    exact ((initializePayment_isolated hs hd And.right).imp And.left id).map _
  | verifyPayment input => exact (verifyPayment_isolated hs And.right And.right).map _
  | failPayment input => exact (recordPaymentFailure_isolated hs And.right And.right).map _
  | retryPayment paymentId =>
    exact ((retryPayment_isolated hs hd And.right).imp And.left id).map _
  | getCart => exact ((getCart_isolated hs hd).imp And.left And.left).map _
  | addItem input => exact ((addItem_isolated hs hd).imp And.left And.left).map _
  | updateItemQuantity itemId quantity =>
    exact ((updateItemQuantity_isolated hs hd).imp And.left And.left).map _
  | removeItem itemId => exact ((removeItem_isolated hs hd).imp And.left And.left).map _
  | clearCart => exact ((clearCart_isolated hs hd).imp And.left And.left).map _
  | getAddresses => exact ((getAddresses_isolated hs).imp And.left And.left).map _
  | createAddress payload => exact ((createAddress_isolated hs hd).imp And.left And.left).map _
  | updateAddress payload addressId =>
    exact ((updateAddress_isolated hs).imp And.left And.left).map _
  | deleteAddress addressId => exact ((deleteAddress_isolated hs).imp And.left And.left).map _

/-- A request that names an order or a payment of `v` does nothing, and is answered in the same
words whichever it is. -/
lemma handle_refused (hne : u ≠ v) (r : Request) :
    ∃ e, ∀ (d : Draw) (s : Shop), s.Sound → r.Refused s v → r.handle site u d s = .error e s := by
  cases r with
  | cancelOrder orderId reason =>
    exact ⟨_, fun d s hs hv => map_eq_error (cancelOrder_refused hs hne hv)⟩
  | initializePayment input =>
    exact ⟨_, fun d s hs hv => map_eq_error (initializePayment_refused hs hne hv)⟩
  | retryPayment paymentId =>
    exact ⟨_, fun d s hs hv => map_eq_error (retryPayment_refused hs hne hv)⟩
  | _ => exact ⟨recordNotFound, fun _ _ _ => False.elim⟩

lemma handle_keeps (hs : s.Sound) (hd : d.Fresh s) (r : Request) :
    (endStore (r.handle site u d s)).Sound :=
  (handle_isolated (v := u) hs hd r).keeps

lemma environ_keeps {e : Event} (hs : s.Sound) (he : e.Legal s) : (site.environ s e).Sound := by
  cases e with
  | request userId r d => exact handle_keeps hs he r
  | elsewhere t => exact he

lemma Site.Reachable.sound (hs : s.Sound) (h : site.Reachable s s') : s'.Sound := by
  induction h with
  | start => exact hs
  | step _ he ih => exact environ_keeps ih he

end Handle

/-- Two shops that differ in the rows of `v`. -/
structure Alike (v : UserId) (s s' : Shop) : Prop where
  left : s.Sound
  right : s'.Sound
  same : s.without v = s'.without v

lemma customer_unwinding (site : Site) {u v : UserId} (hne : u ≠ v) :
    Responder.Unwinding (site.customer u) (Alike v) (site.Discreet v) (site.Hidden v) where
  observer := by
    rintro s s' r d _ ⟨hs, hs', hsame⟩ ⟨rfl, ⟨hd, hd'⟩, ⟨havoids, havoids'⟩ | ⟨hv, hv'⟩⟩
    · have hleft : Isolated v _ _ (r.handle site u d) s := handle_isolated hs hd r
      have hright : Isolated v _ _ (r.handle site u d) s' := handle_isolated hs' hd' r
      obtain ⟨hanswer, hstore⟩ := hleft.agree hright ⟨hne, havoids⟩ ⟨hne, havoids'⟩ hsame
      exact ⟨hanswer, handle_keeps hs hd r, handle_keeps hs' hd' r, hstore⟩
    · obtain ⟨e, hrefused⟩ : ∃ e, ∀ (d : Draw) (s : Shop), s.Sound → r.Refused s v →
          r.handle site u d s = .error e s := handle_refused hne r
      show answerOf (r.handle site u d s) = answerOf (r.handle site u d s') ∧
        Alike v (endStore (r.handle site u d s)) (endStore (r.handle site u d s'))
      rw [hrefused d s hs hv, hrefused d s' hs' hv']
      exact ⟨rfl, hs, hs', hsame⟩
  environ := by
    rintro s s' e e' ⟨hs, hs', -⟩ ⟨⟨he, he'⟩, hsame⟩
    exact ⟨environ_keeps hs he, environ_keeps hs' he', hsame⟩

/-- **Customer isolation.**  In every run a request of `u` leaves the rows of `v` as they are unless
it settles a payment of `v`; and `u` sees the same in two runs that differ in the rows of `v`, as
long as its requests are discreet. -/
theorem customers_isolated (site : Site) {u v : UserId} (hne : u ≠ v) :
    (∀ {s₀ s : Shop}, s₀.Sound → site.Reachable s₀ s → ∀ (r : Request) (d : Draw), d.Fresh s →
        r.Spares site s v d → (endStore (r.handle site u d s)).rowsOf v = s.rowsOf v) ∧
      ∀ (ask : View Request (Except AppError Answer) → Request) (twins : List (Twin Draw Event))
        {s s' : Shop}, Alike v s s' →
        (site.customer u).Along ask (site.Discreet v) (site.Hidden v) twins s s' [] →
        ((site.customer u).run ask (twins.map Twin.left) s []).1 =
          ((site.customer u).run ask (twins.map Twin.right) s' []).1 := by
  constructor
  · intro s₀ s hs₀ hreach r d hd hspares
    exact (handle_isolated (hreach.sound hs₀) hd r).leaves ⟨hne, hspares⟩
  · intro ask twins s s' halike halong
    exact ((customer_unwinding site hne).run halike halong).1

/-! ## Two customers -/

/-- A site with a gateway that signs. -/
def lampSite : Site := ⟨id, .sample⟩

/-- An order of customer 2, to be paid for. -/
def lampOrder : Order where
  orderNumber := "ORD-1"
  userId := 2
  cartId := 5
  status := .paymentPending
  currency := "INR"
  financials := ⟨100, 0, 0, 0, 100⟩
  notes := none
  items := []
  address := ⟨"Ada", none, "1 Road", none, "Pune", "MH", "411001", "IN", none, none⟩
  codPayment := none
  id := 0
  cart := some 5
  statusHistory := []

/-- Customer 2 has ordered a lamp; customer 1 has an empty cart. -/
def twoCustomers : Shop where
  clock := 0
  catalogue :=
    { products := []
      variants := []
      stock := ⟨fun _ => false, fun _ => none, [], []⟩
      coupons := []
      couponUsages := []
      promotions := ⟨[], List.nodup_nil, List.nodup_nil, List.forall_mem_nil _⟩
      promotionUsages := []
      promotionCache := .empty
      gstRules := []
      sellers := []
      standardShippingFee := none }
  orders := [lampOrder]
  payments := [⟨0, 0, "RAZORPAY", none, .processing, "INR", 100, 0⟩]
  attempts := [⟨0, 0, 1, some "order_1", .processing, 100, none, none⟩]
  carts := [⟨5, some 2, []⟩, ⟨6, some 1, []⟩]
  addresses := []
  keys := []

lemma twoCustomers_sound : twoCustomers.Sound where
  orders_nodup := by decide
  payments_nodup := by decide
  attempts_nodup := by decide
  carts_nodup := by decide
  addresses_nodup := by decide
  order_cart := by decide +kernel

/-- Draws that are new there. -/
def lampDraw : Draw := ⟨1, "ORD-2", 1, 1, 7, 0, 0, .failed, "00", 0⟩

lemma lampDraw_fresh : lampDraw.Fresh twoCustomers where
  orderId := by decide
  paymentId := by decide
  attemptId := by decide
  cartId := by decide
  addressId := by decide

/-- The same shop after customer 2 has paid. -/
def paidLamp : Shop :=
  { twoCustomers with payments := [⟨0, 0, "RAZORPAY", none, .success, "INR", 100, 100⟩] }

lemma twoCustomers_alike : Alike 2 twoCustomers paidLamp where
  left := twoCustomers_sound
  right := twoCustomers_sound.sameRows ⟨rfl, rfl, rfl, rfl, rfl⟩
  same := rfl

/-- Customer 1 tries to cancel the order of the other, and looks at its own cart. -/
def nosy (view : View Request (Except AppError Answer)) : Request :=
  if view.length = 0 then .cancelOrder 0 none else .getCart

/-- Meanwhile customer 2 cancels the order that is not paid, or looks at it. -/
def nosyRun : List (Twin Draw Event) :=
  [.observer lampDraw lampDraw,
    .environ (.request 2 (.cancelOrder 0 none) lampDraw) (.request 2 .getCart lampDraw),
    .observer lampDraw lampDraw]

theorem customers_isolated_nosy :
    (endStore ((Request.cancelOrder 0 none).handle lampSite 1 lampDraw twoCustomers)).rowsOf 2 =
        twoCustomers.rowsOf 2 ∧
      ((lampSite.customer 1).run nosy (nosyRun.map Twin.left) twoCustomers []).1 =
        ((lampSite.customer 1).run nosy (nosyRun.map Twin.right) paidLamp []).1 := by
  obtain ⟨hrows, hviews⟩ := customers_isolated lampSite (by decide : (1 : UserId) ≠ 2)
  have hd : lampDraw.Fresh paidLamp := lampDraw_fresh.sameRows ⟨rfl, rfl, rfl, rfl, rfl⟩
  refine ⟨hrows twoCustomers_sound .start _ lampDraw lampDraw_fresh trivial,
    hviews nosy nosyRun twoCustomers_alike ?_⟩
  refine ⟨⟨rfl, ⟨lampDraw_fresh, hd⟩, Or.inr ⟨?_, ?_⟩⟩, ⟨⟨?_, ?_⟩, ?_⟩,
    ⟨rfl, ⟨?_, ?_⟩, Or.inl ⟨trivial, trivial⟩⟩, trivial⟩
  · exact (rfl : twoCustomers.orderIsOf 2 0 = true)
  · exact (rfl : paidLamp.orderIsOf 2 0 = true)
  · exact lampDraw_fresh
  · exact hd
  · rfl
  · exact lampDraw_fresh.sameRows ⟨rfl, rfl, rfl, rfl, rfl⟩
  · exact hd.sameRows ⟨rfl, rfl, rfl, rfl, rfl⟩

/-- Customer 1 verifies a payment of its own for the order of customer 2. -/
theorem other_payment_settled :
    ¬∀ (site : Site) (u v : UserId) (s₀ s : Shop) (r : Request) (d : Draw), u ≠ v → s₀.Sound →
      site.Reachable s₀ s → d.Fresh s →
      (endStore (r.handle site u d s)).rowsOf v = s.rowsOf v := by
  intro h
  have hrows := h lampSite 1 2 twoCustomers twoCustomers
    (.verifyPayment ⟨0, "order_9", "pay_9", "secretorder_9|pay_9"⟩) lampDraw (by decide)
    twoCustomers_sound .start lampDraw_fresh
  have hpaid := congrArg (fun rows => rows.payments.map Payment.status) hrows
  revert hpaid
  decide +kernel

end MeeoServer.Customers
