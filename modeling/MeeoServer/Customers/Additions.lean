/-
# Additions to a cart

`addItem` of `cart/services/cartItem.service.ts` and `getOrCreateCart` of
`cart/services/cartSession.service.ts`, one statement after another.  Nothing keeps a second cart
of a user out of the table, and the quantity of a line is written as the sum of what was read and
what is added.

The store lists, next to the tables, what has been added so far; no program reads the list.  The
rest of the catalogue, with the stock, may change at any time.
-/
import MeeoServer.Customers.Carts
import MeeoServer.Process.Tally

namespace MeeoServer.Customers.Additions

open Proc
open Storefront

/-! ## The tables -/

structure CartRow where
  id : CartId
  userId : Option UserId
deriving DecidableEq

structure CartItemRow where
  id : CartItemId
  cartId : CartId
  variantId : VariantId
  quantity : ℕ
deriving DecidableEq

/-- A cart has at most one line for a variant. -/
def CartItemRow.key (item : CartItemRow) : CartId × VariantId := (item.cartId, item.variantId)

/-- The constraints of the tables. -/
structure Valid (carts : List CartRow) (items : List CartItemRow) : Prop where
  carts_nodup : (carts.map CartRow.id).Nodup
  items_nodup : (items.map CartItemRow.id).Nodup
  keys_nodup : (items.map CartItemRow.key).Nodup
  cart_mem : ∀ item ∈ items, item.cartId ∈ carts.map CartRow.id

lemma valid_iff {carts : List CartRow} {items : List CartItemRow} : Valid carts items ↔
    (carts.map CartRow.id).Nodup ∧ (items.map CartItemRow.id).Nodup ∧
      (items.map CartItemRow.key).Nodup ∧ ∀ item ∈ items, item.cartId ∈ carts.map CartRow.id :=
  ⟨fun h => ⟨h.carts_nodup, h.items_nodup, h.keys_nodup, h.cart_mem⟩,
    fun h => ⟨h.1, h.2.1, h.2.2.1, h.2.2.2⟩⟩

instance (carts : List CartRow) (items : List CartItemRow) : Decidable (Valid carts items) :=
  decidable_of_iff' _ valid_iff

structure Store where
  catalogue : Catalogue
  carts : List CartRow
  items : List CartItemRow
  valid : Valid carts items
  /-- What has been added, and for whom. -/
  added : List (UserId × AddCartItemInput)

inductive Commit where
  | createCart (cart : CartRow)
  /-- `cartItem.update({ where: { id: existing.id }, data: { quantity } })`, for the request
  `input` of `userId`. -/
  | updateItem (userId : UserId) (input : AddCartItemInput) (existing : CartItemRow)
      (quantity : ℕ)
  | createItem (userId : UserId) (input : AddCartItemInput) (item : CartItemRow)

/-- What a batch adds. -/
def Commit.added : Commit → List (UserId × AddCartItemInput)
  | .createCart _ => []
  | .updateItem userId input _ _ => [(userId, input)]
  | .createItem userId input _ => [(userId, input)]

def Commit.carts (carts : List CartRow) : Commit → List CartRow
  | .createCart cart => carts ++ [cart]
  | _ => carts

def Commit.items (items : List CartItemRow) : Commit → List CartItemRow
  | .createCart _ => items
  | .updateItem _ _ existing quantity =>
    Table.updateWhere (fun item => item.id = existing.id)
      (fun item => { item with quantity := quantity }) items
  | .createItem _ _ item => items ++ [item]

/-- Is there a row to update? -/
def Commit.Found (items : List CartItemRow) : Commit → Prop
  | .updateItem _ _ existing _ => existing.id ∈ items.map CartItemRow.id
  | _ => True

instance (items : List CartItemRow) : (c : Commit) → Decidable (c.Found items)
  | .createCart _ => .isTrue trivial
  | .updateItem _ _ _ _ => by unfold Commit.Found; infer_instance
  | .createItem _ _ _ => .isTrue trivial

def Commit.apply (c : Commit) (s : Store) : Option Store :=
  if h : c.Found s.items ∧ Valid (c.carts s.carts) (c.items s.items) then
    some { s with
      carts := c.carts s.carts
      items := c.items s.items
      valid := h.2
      added := s.added ++ c.added }
  else none

/-! ## The service -/

abbrev Service := Proc Store Commit AppError

/-- A cart with its items. -/
def Store.cart (s : Store) (cart : CartRow) : Cart :=
  ⟨cart.id, cart.userId, (s.items.filter fun item => item.cartId = cart.id).map fun item =>
    ⟨item.id, item.variantId, item.quantity⟩⟩

/-- Resolves or creates a permanent shopping cart for the authenticated user; `pick` says which
cart the query returns, and the database draws `cartId`. -/
def getOrCreateCart (userId : UserId) (cartId : CartId) (pick : ℕ) : Service CartRow := do
  let s ← Proc.read
  match Table.pickFirst (fun cart => cart.userId = some userId) pick s.carts with
  | some cart => pure cart
  | none =>
    let _ ← Proc.commit (.createCart ⟨cartId, some userId⟩)
    pure ⟨cartId, some userId⟩

/-- The name and the available stock of a variant that is for sale. -/
def purchasable (c : Catalogue) (variantId : VariantId) : Except AppError (String × ℤ) :=
  let unavailable : AppError := ⟨"Product variant is inactive or unavailable", 400⟩
  match c.variant variantId with
  | none => .error unavailable
  | some variant =>
    let product := c.product variant.productId
    if variant.status ≠ .active ∨ product.any (·.status ≠ .active) then .error unavailable
    else
      let availableStock := c.stock.available variant.id
      let name := (product.map Product.name).getD variant.sku
      if availableStock ≤ 0 then .error ⟨s!"Item \"{name}\" is currently out of stock", 400⟩
      else .ok (name, availableStock)

/-- The new quantity of a line, if there is enough stock. -/
def checkedQuantity (name : String) (availableStock : ℤ) (newQuantity : ℕ) : Except AppError ℕ :=
  if availableStock < newQuantity then
    .error ⟨s!"Requested total quantity ({newQuantity}) exceeds available stock " ++
      s!"({availableStock}) for \"{name}\"", 400⟩
  else .ok newQuantity

/-- Served alone, a request makes the checks of `addItem` in one piece. -/
lemma addedQuantity_eq (c : Catalogue) (cart : Cart) (input : AddCartItemInput) :
    addedQuantity c cart input = (do
      let (name, availableStock) ← purchasable c input.variantId
      let existingItem := cart.items.find? fun i => i.variantId = input.variantId
      checkedQuantity name availableStock
        ((existingItem.map CartItem.quantity).getD 0 + input.quantity)) := by
  unfold addedQuantity purchasable checkedQuantity
  cases c.variant input.variantId with
  | none => rfl
  | some variant =>
    dsimp only
    split
    · rfl
    · split <;> rfl

structure Call where
  userId : UserId
  input : AddCartItemInput
  /-- The identifiers that the database draws for a new cart and a new item. -/
  cartId : CartId
  itemId : CartItemId
  pick : ℕ

/-- Adds an item / variant to the user's cart with inventory availability validation. -/
def addItem (x : Call) : Service CartResponse := do
  let cart ← getOrCreateCart x.userId x.cartId x.pick
  let s ← Proc.read
  let (name, availableStock) ← Proc.done (purchasable s.catalogue x.input.variantId)
  let s ← Proc.read
  let existingItem := s.items.find? fun item => item.key = (cart.id, x.input.variantId)
  match existingItem with
  | some existing =>
    let newQuantity ← Proc.done
      (checkedQuantity name availableStock (existing.quantity + x.input.quantity))
    let _ ← Proc.commit (.updateItem x.userId x.input existing newQuantity)
    let s ← Proc.read
    pure (formatCart s.catalogue (s.cart cart))
  | none =>
    let newQuantity ← Proc.done (checkedQuantity name availableStock x.input.quantity)
    let _ ← Proc.commit (.createItem x.userId x.input
      ⟨x.itemId, cart.id, x.input.variantId, newQuantity⟩)
    let s ← Proc.read
    pure (formatCart s.catalogue (s.cart cart))

/-- The cart service; the environment changes the catalogue. -/
def cartService : Machine Store Commit AppError Call Catalogue where
  apply := Commit.apply
  proc x := do
    let _ ← addItem x
    pure ()
  environ catalogue s := { s with catalogue := catalogue }

/-! ## Carts and lines -/

def OneCart (carts : List CartRow) : Prop :=
  ∀ userId, carts.countP (fun cart => cart.userId = some userId) ≤ 1

def cartOf (carts : List CartRow) (userId : UserId) : Option CartRow :=
  carts.find? fun cart => cart.userId = some userId

def line (items : List CartItemRow) (key : CartId × VariantId) : Option CartItemRow :=
  items.find? fun item => item.key = key

/-- How much of a variant a user has in the cart. -/
def Store.quantity (s : Store) (userId : UserId) (variantId : VariantId) : ℕ :=
  (((cartOf s.carts userId).bind fun cart => line s.items (cart.id, variantId)).map
    CartItemRow.quantity).getD 0

/-- How much of a variant has been added for a user. -/
def amount (added : List (UserId × AddCartItemInput)) (userId : UserId) (variantId : VariantId) :
    ℕ :=
  ((added.filter fun entry => entry.1 = userId ∧ entry.2.variantId = variantId).map
    fun entry => entry.2.quantity).sum

section Lookup

variable {carts : List CartRow} {items : List CartItemRow} {userId : UserId} {cart : CartRow}
  {item : CartItemRow} {key : CartId × VariantId}

lemma find?_eq_some_of_unique {α : Type} {p : α → Bool} {l : List α} {a : α} (ha : a ∈ l)
    (hp : p a = true) (hunique : ∀ b ∈ l, p b = true → b = a) : l.find? p = some a := by
  have hsome : (l.find? p).isSome := List.find?_isSome.mpr ⟨a, ha, hp⟩
  obtain ⟨b, hb⟩ := Option.isSome_iff_exists.mp hsome
  rw [hb, hunique b (List.mem_of_find?_eq_some hb) (List.find?_some hb)]

/-- The only cart of a user is found. -/
lemma OneCart.cartOf_eq (h : OneCart carts) (hcart : cart ∈ carts)
    (huser : cart.userId = some userId) : cartOf carts userId = some cart := by
  refine find?_eq_some_of_unique hcart (decide_eq_true huser) fun other hother hother' => ?_
  have hle := h userId
  rw [List.countP_eq_length_filter] at hle
  have hmem : cart ∈ carts.filter fun cart => cart.userId = some userId :=
    List.mem_filter.mpr ⟨hcart, decide_eq_true huser⟩
  have hmem' : other ∈ carts.filter fun cart => cart.userId = some userId :=
    List.mem_filter.mpr ⟨hother, hother'⟩
  match hfilter : carts.filter fun cart => cart.userId = some userId with
  | [] =>
    rw [hfilter] at hmem
    exact absurd hmem List.not_mem_nil
  | [a] =>
    rw [hfilter, List.mem_singleton] at hmem hmem'
    rw [hmem, hmem']
  | a :: b :: rest =>
    rw [hfilter] at hle
    exact absurd hle (by simp)

lemma cartOf_eq_some (h : cartOf carts userId = some cart) :
    cart ∈ carts ∧ cart.userId = some userId :=
  ⟨List.mem_of_find?_eq_some h, by simpa using List.find?_some h⟩

/-- The line with a key is found. -/
lemma Valid.line_eq (h : Valid carts items) (hitem : item ∈ items) :
    line items item.key = some item := by
  refine find?_eq_some_of_unique hitem (decide_eq_true rfl) fun other hother hkey => ?_
  exact List.inj_on_of_nodup_map h.keys_nodup hother hitem (of_decide_eq_true hkey)

lemma line_eq_some (h : line items key = some item) : item ∈ items ∧ item.key = key :=
  ⟨List.mem_of_find?_eq_some h, by simpa using List.find?_some h⟩

lemma line_append (new : CartItemRow) :
    line (items ++ [new]) key = (line items key).or (if new.key = key then some new else none) := by
  unfold line
  rw [List.find?_append, List.find?_singleton]
  simp

lemma line_updateWhere (id : CartItemId) (quantity : ℕ) :
    line (Table.updateWhere (fun item => item.id = id)
      (fun item => { item with quantity := quantity }) items) key =
      (line items key).map fun item =>
        if item.id = id then { item with quantity := quantity } else item := by
  unfold line Table.updateWhere
  rw [List.find?_map]
  have hkey : (fun item : CartItemRow => decide (item.key = key)) ∘ (fun item =>
      if decide (item.id = id) = true then { item with quantity := quantity } else item) =
      fun item => decide (item.key = key) := by
    funext item
    rw [Function.comp_apply]
    split <;> rfl
  rw [hkey]
  simp

end Lookup

/-! ## One batch -/

/-- What a request knows of the cart whose line it writes, and of the line: the cart is the
user's, and the line is there, for the same variant. -/
def Commit.Known (s : Store) : Commit → Prop
  | .createCart cart => cart.userId ≠ none
  | .updateItem userId input existing quantity =>
    quantity = existing.quantity + input.quantity ∧ existing.variantId = input.variantId ∧
      (⟨existing.cartId, some userId⟩ : CartRow) ∈ s.carts ∧
      ∃ q, { existing with quantity := q } ∈ s.items
  | .createItem userId input item =>
    item.quantity = input.quantity ∧ item.variantId = input.variantId ∧
      (⟨item.cartId, some userId⟩ : CartRow) ∈ s.carts

/-- Nobody has been there between the look and the write: a user who gets a cart has none, and a
line that is written is as it was read. -/
def Undisturbed (s : Store) : Commit → Prop
  | .createCart cart => ∀ other ∈ s.carts, other.userId ≠ cart.userId
  | .updateItem _ _ existing _ => existing ∈ s.items
  | .createItem _ _ _ => True

instance (s : Store) : (c : Commit) → Decidable (Undisturbed s c)
  | .createCart _ => by unfold Undisturbed; infer_instance
  | .updateItem _ _ _ _ => by unfold Undisturbed; infer_instance
  | .createItem _ _ _ => .isTrue trivial

/-- The batch adds what it is meant to add, and to one cart. -/
structure Adds (s s' : Store) (c : Commit) : Prop where
  oneCart : OneCart s'.carts
  quantity : ∀ userId variantId,
    s'.quantity userId variantId = s.quantity userId variantId + amount c.added userId variantId

section Batch

variable {s s' : Store} {c : Commit}

lemma Commit.apply_eq_some (happ : c.apply s = some s') :
    c.Found s.items ∧ s'.carts = c.carts s.carts ∧ s'.items = c.items s.items ∧
      s'.added = s.added ++ c.added := by
  obtain ⟨h, hs'⟩ := Option.dite_none_right_eq_some.mp happ
  obtain rfl := Option.some.inj hs'
  exact ⟨h.1, rfl, rfl, rfl⟩

/-- A cart, and the line of a variant in it. -/
lemma Store.quantity_of_cart (hone : OneCart s.carts) {id : CartId} {userId : UserId}
    (hcart : (⟨id, some userId⟩ : CartRow) ∈ s.carts) (variantId : VariantId) :
    s.quantity userId variantId =
      ((line s.items (id, variantId)).map CartItemRow.quantity).getD 0 := by
  rw [Store.quantity, hone.cartOf_eq hcart rfl, Option.bind_some]

/-- A change of one line of a user is noticed there alone. -/
lemma Store.quantity_congr (hcarts : s'.carts = s.carts) {id : CartId}
    {userId₀ : UserId} (hcart : (⟨id, some userId₀⟩ : CartRow) ∈ s.carts)
    {variantId₀ : VariantId}
    (hlines : ∀ key, key ≠ (id, variantId₀) → line s'.items key = line s.items key)
    {userId : UserId} {variantId : VariantId} (hne : ¬(userId₀ = userId ∧ variantId₀ = variantId)) :
    s'.quantity userId variantId = s.quantity userId variantId := by
  unfold Store.quantity
  rw [hcarts]
  cases hfind : cartOf s.carts userId with
  | none => rfl
  | some cart =>
    rw [Option.bind_some, Option.bind_some, hlines]
    intro heq
    obtain ⟨hid, rfl⟩ := Prod.mk.inj heq
    obtain ⟨hmem, huser⟩ := cartOf_eq_some hfind
    have hsame : cart = ⟨id, some userId₀⟩ :=
      List.inj_on_of_nodup_map s.valid.carts_nodup hmem hcart hid
    rw [hsame] at huser
    exact hne ⟨Option.some.inj huser, rfl⟩

lemma amount_singleton (userId₀ userId : UserId) (input : AddCartItemInput)
    (variantId : VariantId) : amount [(userId₀, input)] userId variantId =
      if userId₀ = userId ∧ input.variantId = variantId then input.quantity else 0 := by
  by_cases h : userId₀ = userId ∧ input.variantId = variantId
  · simp [amount, h]
  · rw [if_neg h]
    have hnone : (decide (userId₀ = userId) && decide (input.variantId = variantId)) = false := by
      simpa using h
    simp [amount, hnone]

/-- A user gets a cart. -/
lemma adds_createCart_iff {cart : CartRow} (hone : OneCart s.carts) (huser : cart.userId ≠ none)
    (happ : (Commit.createCart cart).apply s = some s') :
    Adds s s' (.createCart cart) ↔ Undisturbed s (.createCart cart) := by
  obtain ⟨-, hcarts, hitems, -⟩ := Commit.apply_eq_some happ
  obtain ⟨owner, howner⟩ := Option.ne_none_iff_exists'.mp huser
  have hcount : ∀ u, s'.carts.countP (fun other => other.userId = some u) =
      s.carts.countP (fun other => other.userId = some u) + if owner = u then 1 else 0 := by
    intro u
    rw [hcarts, Commit.carts, List.countP_append, List.countP_singleton, howner]
    simp
  have hnone : Undisturbed s (.createCart cart) ↔
      s.carts.countP (fun other => other.userId = some owner) = 0 := by
    rw [Undisturbed, howner, List.countP_eq_zero]
    simp
  rw [hnone]
  constructor
  · intro h
    have hle := h.oneCart owner
    rw [hcount, if_pos rfl] at hle
    omega
  · intro hzero
    refine ⟨fun u => ?_, fun u variantId => ?_⟩
    · rw [hcount]
      split
      · rename_i heq
        rw [← heq, hzero]
      · exact hone u
    · show s'.quantity u variantId = s.quantity u variantId + 0
      unfold Store.quantity cartOf
      rw [hcarts, hitems, Commit.carts, Commit.items, List.find?_append]
      cases hfind : s.carts.find? fun cart => cart.userId = some u with
      | some other => rfl
      | none =>
        -- the new cart is empty
        rw [Option.none_or, Option.bind_none]
        have hempty : line s.items (cart.id, variantId) = none := by
          unfold line
          rw [List.find?_eq_none]
          intro item hitem hkey
          have hid : item.cartId = cart.id := congrArg Prod.fst (of_decide_eq_true hkey)
          have hnodup := s'.valid.carts_nodup
          rw [hcarts, Commit.carts, List.map_append] at hnodup
          refine List.disjoint_of_nodup_append hnodup (s.valid.cart_mem item hitem) ?_
          simp [hid]
        by_cases hu : cart.userId = some u
        · have hfound : [cart].find? (fun cart => cart.userId = some u) = some cart := by simp [hu]
          rw [hfound, Option.bind_some, hempty]
          rfl
        · have hfound : [cart].find? (fun cart => cart.userId = some u) = none := by simp [hu]
          rw [hfound]
          rfl

/-- A line gets a new quantity. -/
lemma adds_updateItem_iff {userId : UserId} {input : AddCartItemInput} {existing : CartItemRow}
    {quantity : ℕ} (hone : OneCart s.carts)
    (hknown : (Commit.updateItem userId input existing quantity).Known s)
    (happ : (Commit.updateItem userId input existing quantity).apply s = some s') :
    Adds s s' (.updateItem userId input existing quantity) ↔ existing ∈ s.items := by
  obtain ⟨-, hcarts, hitems, -⟩ := Commit.apply_eq_some happ
  obtain ⟨rfl, hvariant, hcart, q, hrow⟩ := hknown
  change s'.carts = s.carts at hcarts
  rw [Commit.items] at hitems
  have hline : line s.items existing.key = some { existing with quantity := q } :=
    s.valid.line_eq hrow
  have hline' : line s'.items existing.key =
      some { existing with quantity := existing.quantity + input.quantity } := by
    rw [hitems, line_updateWhere, hline, Option.map_some, if_pos rfl]
  have hother : ∀ key, key ≠ existing.key → line s'.items key = line s.items key := by
    intro key hne
    rw [hitems, line_updateWhere]
    cases hfind : line s.items key with
    | none => rfl
    | some item =>
      obtain ⟨hitem, hkey⟩ := line_eq_some hfind
      have hid : item.id ≠ existing.id := by
        intro heq
        have hsame := List.inj_on_of_nodup_map s.valid.items_nodup hitem hrow heq
        rw [hsame] at hkey
        exact hne hkey.symm
      rw [Option.map_some, if_neg hid]
  -- what the user had, and what the user has now
  have hbefore : s.quantity userId existing.variantId = q := by
    rw [Store.quantity_of_cart hone hcart]
    exact congrArg (fun l => (l.map CartItemRow.quantity).getD 0) hline
  have hafter : s'.quantity userId existing.variantId = existing.quantity + input.quantity := by
    rw [Store.quantity_of_cart (hcarts ▸ hone) (hcarts ▸ hcart)]
    exact congrArg (fun l => (l.map CartItemRow.quantity).getD 0) hline'
  have hmem : existing ∈ s.items ↔ existing.quantity = q := by
    constructor
    · intro hexisting
      have hsame := List.inj_on_of_nodup_map s.valid.items_nodup hexisting hrow rfl
      exact congrArg CartItemRow.quantity hsame
    · rintro rfl
      exact hrow
  rw [hmem]
  constructor
  · intro h
    have hadds := h.quantity userId existing.variantId
    rw [hafter, hbefore, Commit.added, amount_singleton, if_pos ⟨rfl, hvariant.symm⟩] at hadds
    exact Nat.add_right_cancel hadds
  · intro heq
    refine ⟨hcarts ▸ hone, fun u variantId => ?_⟩
    rw [Commit.added, amount_singleton]
    split
    · rename_i hsame
      obtain ⟨rfl, rfl⟩ := hsame
      rw [← hvariant, hafter, hbefore, heq]
    · rename_i hne
      rw [← hvariant] at hne
      exact Store.quantity_congr hcarts hcart hother hne

/-- A line is new; the database rejects a second one. -/
lemma adds_createItem {userId : UserId} {input : AddCartItemInput} {item : CartItemRow}
    (hone : OneCart s.carts) (hknown : (Commit.createItem userId input item).Known s)
    (happ : (Commit.createItem userId input item).apply s = some s') :
    Adds s s' (.createItem userId input item) := by
  obtain ⟨-, hcarts, hitems, -⟩ := Commit.apply_eq_some happ
  obtain ⟨hquantity, hvariant, hcart⟩ := hknown
  change s'.carts = s.carts at hcarts
  rw [Commit.items] at hitems
  have hline : line s.items item.key = none := by
    unfold line
    rw [List.find?_eq_none]
    intro other hother hkey
    have hnodup := s'.valid.keys_nodup
    rw [hitems, List.map_append] at hnodup
    refine List.disjoint_of_nodup_append hnodup (List.mem_map_of_mem hother) ?_
    simpa using of_decide_eq_true hkey
  have hline' : ∀ key, line s'.items key =
      (line s.items key).or (if item.key = key then some item else none) := by
    intro key
    rw [hitems, line_append]
  refine ⟨hcarts ▸ hone, fun u variantId => ?_⟩
  rw [Commit.added, amount_singleton]
  split
  · rename_i hsame
    obtain ⟨rfl, rfl⟩ := hsame
    rw [Store.quantity_of_cart (hcarts ▸ hone) (hcarts ▸ hcart),
      Store.quantity_of_cart hone hcart, ← hvariant]
    have hkey : (item.cartId, item.variantId) = item.key := rfl
    rw [hkey, hline', hline, if_pos rfl, Option.none_or]
    simp [hquantity]
  · rename_i hne
    refine Store.quantity_congr hcarts hcart (fun key hkey => ?_) (hvariant ▸ hne)
    have hne' : item.key ≠ key := fun heq => hkey heq.symm
    rw [hline', if_neg hne', Option.or_none]

/-- **One batch** adds what it is meant to add exactly if nobody has been there. -/
theorem adds_iff_undisturbed (hone : OneCart s.carts) (hknown : c.Known s)
    (happ : c.apply s = some s') : Adds s s' c ↔ Undisturbed s c := by
  cases c with
  | createCart cart => exact adds_createCart_iff hone hknown happ
  | updateItem userId input existing quantity => exact adds_updateItem_iff hone hknown happ
  | createItem userId input item => exact iff_of_true (adds_createItem hone hknown happ) trivial

end Batch

/-! ## What a request knows -/

/-- Carts stay, and so do the lines, with other quantities. -/
structure Later (s s' : Store) : Prop where
  carts : ∀ cart ∈ s.carts, cart ∈ s'.carts
  items : ∀ item ∈ s.items, ∃ q, { item with quantity := q } ∈ s'.items

lemma Later.refl (s : Store) : Later s s := ⟨fun _ h => h, fun item h => ⟨item.quantity, h⟩⟩

lemma Later.trans {s t u : Store} (h : Later s t) (h' : Later t u) : Later s u := by
  refine ⟨fun cart hcart => h'.carts cart (h.carts cart hcart), fun item hitem => ?_⟩
  obtain ⟨q, hq⟩ := h.items item hitem
  obtain ⟨q', hq'⟩ := h'.items _ hq
  exact ⟨q', hq'⟩

lemma Later.of_apply {s s' : Store} {c : Commit} (happ : c.apply s = some s') : Later s s' := by
  obtain ⟨-, hcarts, hitems, -⟩ := Commit.apply_eq_some happ
  constructor
  · intro cart hcart
    rw [hcarts]
    cases c with
    | createCart new => exact List.mem_append_left _ hcart
    | updateItem _ _ _ _ | createItem _ _ _ => exact hcart
  · intro item hitem
    rw [hitems]
    cases c with
    | createCart new => exact ⟨item.quantity, hitem⟩
    | createItem _ _ new => exact ⟨item.quantity, List.mem_append_left _ hitem⟩
    | updateItem _ _ existing quantity =>
      by_cases hid : item.id = existing.id
      · refine ⟨quantity, List.mem_map.mpr ⟨item, hitem, ?_⟩⟩
        rw [if_pos (decide_eq_true hid)]
      · refine ⟨item.quantity, List.mem_map.mpr ⟨item, hitem, ?_⟩⟩
        rw [if_neg (by simpa using hid)]

lemma checkedQuantity_eq_ok {name : String} {availableStock : ℤ} {newQuantity quantity : ℕ}
    (h : checkedQuantity name availableStock newQuantity = .ok quantity) :
    quantity = newQuantity := by
  unfold checkedQuantity at h
  split at h
  · exact nomatch h
  · exact (Except.ok.inj h).symm

section Requests

/-- The cart that a request works on is the user's. -/
lemma getOrCreateCart_emits (userId : UserId) (cartId : CartId) (pick : ℕ)
    (s : Store) :
    (getOrCreateCart userId cartId pick).Emits Commit.apply Later Later (fun s c => c.Known s)
      (fun r s => ∀ cart, r = .ok cart → cart ∈ s.carts ∧ cart.userId = some userId) s := by
  refine emits_read_post (fun _ _ hcart => nomatch hcart) fun s _ => ?_
  split
  · rename_i cart hpick
    rintro _ ⟨⟩
    obtain ⟨hmem, huser⟩ := Table.mem_of_pickFirst hpick
    exact ⟨hmem, of_decide_eq_true huser⟩
  · refine emits_commit_post (fun _ _ hcart => nomatch hcart)
      (fun _ _ => Option.some_ne_none userId) fun s s' _ happ _ => ?_
    rintro _ ⟨⟩
    obtain ⟨-, hcarts, -, -⟩ := Commit.apply_eq_some happ
    rw [hcarts]
    exact ⟨List.mem_append_right _ (List.mem_singleton_self _), rfl⟩

lemma addItem_emits (x : Call) (s : Store) :
    (addItem x).Emits Commit.apply Later Later (fun s c => c.Known s) Any s := by
  refine Emits.bind ((getOrCreateCart_emits x.userId x.cartId x.pick s).mono fun r s hr => ?_)
  cases r with
  | error e => trivial
  | ok cart =>
    obtain ⟨hcart, huser⟩ := hr cart rfl
    have hrow : cart = ⟨cart.id, some x.userId⟩ := by rw [← huser]
    refine emits_read fun s₁ hs₁ => ?_
    cases purchasable s₁.catalogue x.input.variantId with
    | error e => exact emits_throw
    | ok forSale =>
      show Emits _ _ _ _ (Proc.read >>= _) _ _
      refine emits_read fun s₂ hs₂ => ?_
      have hcart₂ : (⟨cart.id, some x.userId⟩ : CartRow) ∈ s₂.carts :=
        hrow ▸ hs₂.carts cart (hs₁.carts cart hcart)
      dsimp only
      split
      · rename_i existing hfind
        obtain ⟨hexisting, hkey⟩ := line_eq_some hfind
        obtain ⟨hcartId, hvariantId⟩ := Prod.mk.inj hkey
        cases hchecked : checkedQuantity forSale.1 forSale.2
            (existing.quantity + x.input.quantity) with
        | error e => exact emits_throw
        | ok newQuantity =>
          refine emits_commit (fun s₃ hs₃ => ?_) fun _ _ _ _ _ => ?_
          · refine ⟨checkedQuantity_eq_ok hchecked, hvariantId, ?_, hs₃.items existing hexisting⟩
            rw [hcartId]
            exact hs₃.carts _ hcart₂
          · exact emits_read fun _ _ => emits_pure
      · cases hchecked : checkedQuantity forSale.1 forSale.2 x.input.quantity with
        | error e => exact emits_throw
        | ok newQuantity =>
          refine emits_commit (fun s₃ hs₃ => ?_) fun _ _ _ _ _ => ?_
          · exact ⟨checkedQuantity_eq_ok hchecked, rfl, hs₃.carts _ hcart₂⟩
          · exact emits_read fun _ _ => emits_pure

lemma cart_rely (Allowed : Call → Prop) (Cond : Store → Commit → Prop) :
    Rely cartService Allowed Cond Later fun _ s c => c.Known s where
  refl := Later.refl
  trans := Later.trans
  env _ _ := ⟨fun _ h => h, fun item h => ⟨item.quantity, h⟩⟩
  commit _ _ _ happ := .of_apply happ
  emits x s _ := Emits.andThen (addItem_emits x s) fun _ _ => emits_pure

/-- A request that returns has added its quantity. -/
lemma addItem_adds (x : Call) :
    (addItem x).Adds (fun c => (c.added : Multiset (UserId × AddCartItemInput)))
      {(x.userId, x.input)} := by
  have hcart : (getOrCreateCart x.userId x.cartId x.pick).Adds
      (fun c => (c.added : Multiset (UserId × AddCartItemInput))) 0 := by
    refine adds_read fun s => ?_
    split
    · exact adds_pure _
    · exact adds_commit fun _ => adds_pure _
  rw [← zero_add {(x.userId, x.input)}]
  refine hcart.bind fun cart => adds_read fun s => ?_
  cases purchasable s.catalogue x.input.variantId with
  | error e => exact adds_throw e
  | ok forSale =>
    refine adds_read fun s => ?_
    dsimp only
    rw [← add_zero {(x.userId, x.input)}]
    split
    · rename_i existing _
      cases checkedQuantity forSale.1 forSale.2 (existing.quantity + x.input.quantity) with
      | error e => exact adds_throw e
      | ok newQuantity =>
        exact adds_commit fun _ => adds_read fun _ => adds_pure _
    · cases checkedQuantity forSale.1 forSale.2 x.input.quantity with
      | error e => exact adds_throw e
      | ok newQuantity =>
        exact adds_commit fun _ => adds_read fun _ => adds_pure _

end Requests

/-! ## Runs -/

/-- Before the requests: nothing has been added yet, and no user has two carts. -/
structure Ready (s : Store) : Prop where
  oneCart : OneCart s.carts
  added : s.added = []

/-- Everything that has been added is in the carts. -/
structure Kept (s₀ s : Store) : Prop where
  oneCart : OneCart s.carts
  cart : ∀ entry ∈ s.added, ∃ cart ∈ s.carts, cart.userId = some entry.1
  quantity : ∀ userId variantId,
    s.quantity userId variantId = s₀.quantity userId variantId + amount s.added userId variantId

lemma amount_append (l l' : List (UserId × AddCartItemInput)) (userId : UserId)
    (variantId : VariantId) :
    amount (l ++ l') userId variantId = amount l userId variantId + amount l' userId variantId := by
  simp [amount]

section Runs

variable {calls : List Call} {s₀ s : Store}

lemma Ready.kept (h : Ready s₀) : Kept s₀ s₀ where
  oneCart := h.oneCart
  cart entry hentry := by
    rw [h.added] at hentry
    exact absurd hentry List.not_mem_nil
  quantity userId variantId := by
    rw [h.added]
    rfl

lemma Kept.of_apply {s' : Store} {c : Commit} (h : Kept s₀ s) (hknown : c.Known s)
    (hcond : Undisturbed s c) (happ : c.apply s = some s') : Kept s₀ s' := by
  have hadds := (adds_iff_undisturbed h.oneCart hknown happ).mpr hcond
  have hlater := Later.of_apply happ
  obtain ⟨-, -, -, hadded⟩ := Commit.apply_eq_some happ
  refine ⟨hadds.oneCart, fun entry hentry => ?_, fun userId variantId => ?_⟩
  · rw [hadded] at hentry
    rcases List.mem_append.mp hentry with hentry | hentry
    · obtain ⟨cart, hcart, huser⟩ := h.cart entry hentry
      exact ⟨cart, hlater.carts cart hcart, huser⟩
    · cases c with
      | createCart cart => exact absurd hentry List.not_mem_nil
      | updateItem userId input existing quantity =>
        obtain rfl := List.mem_singleton.mp hentry
        exact ⟨_, hlater.carts _ hknown.2.2.1, rfl⟩
      | createItem userId input item =>
        obtain rfl := List.mem_singleton.mp hentry
        exact ⟨_, hlater.carts _ hknown.2.2, rfl⟩
  · rw [hadds.quantity, h.quantity, hadded, amount_append, add_assoc]

lemma kept_of_reachable {Allowed : Call → Prop} {cfg : Config Store Commit AppError}
    (h₀ : Ready s₀) (hr : cartService.Reachable Allowed Undisturbed s₀ cfg) :
    Kept s₀ cfg.store := by
  refine (cart_rely Allowed Undisturbed).invariant (P := Kept s₀) hr h₀.kept
    (fun _ _ hs => ⟨hs.oneCart, hs.cart, hs.quantity⟩) ?_
  intro x s c s' _ hknown hcond happ hs
  exact hs.of_apply hknown hcond happ

/-- When all requests have returned, each of them has added its quantity once. -/
lemma added_of_completes {Cond : Store → Commit → Prop} (h₀ : s₀.added = [])
    (h : cartService.Completes Cond calls s₀ s) :
    s.added.Perm (calls.map fun x => (x.userId, x.input)) := by
  have htally := h.tally (fun c => (c.added : Multiset (UserId × AddCartItemInput)))
    (fun s => (s.added : Multiset (UserId × AddCartItemInput)))
    (fun x => {(x.userId, x.input)}) ?_ (fun _ _ => rfl) ?_
  · have hsum : ∀ calls : List Call,
        (calls.map fun x => ({(x.userId, x.input)} : Multiset (UserId × AddCartItemInput))).sum =
          (calls.map fun x => (x.userId, x.input) : List (UserId × AddCartItemInput)) := by
      intro calls
      induction calls with
      | nil => rfl
      | cons x calls ih =>
        rw [List.map_cons, List.sum_cons, ih, List.map_cons]
        rfl
    rw [hsum, h₀] at htally
    exact Multiset.coe_eq_coe.mp (htally.trans (zero_add _))
  · intro c s s' happ
    obtain ⟨-, -, -, hadded⟩ := Commit.apply_eq_some happ
    rw [hadded]
    rfl
  · intro x _
    rw [← add_zero {(x.userId, x.input)}]
    exact (addItem_adds x).bind fun _ => adds_pure ()

/-- **Cart additions are not lost** in the runs in which nobody has been there between the look
and the write: when all requests have returned, a user who has added something has one cart, and
what is in the cart is what was there before and everything that was added. -/
theorem additions_kept (h₀ : Ready s₀) (h : cartService.Completes Undisturbed calls s₀ s) :
    (∀ x ∈ calls, s.carts.countP (fun cart => cart.userId = some x.userId) = 1) ∧
      ∀ userId variantId, s.quantity userId variantId = s₀.quantity userId variantId +
        ((calls.filter fun x => x.userId = userId ∧ x.input.variantId = variantId).map
          fun x => x.input.quantity).sum := by
  obtain ⟨ps, hr⟩ := h.reachable (fun _ => True) fun _ _ => trivial
  have hkept : Kept s₀ s := kept_of_reachable h₀ hr
  have hadded := added_of_completes h₀.added h
  constructor
  · intro x hx
    have hmem : (x.userId, x.input) ∈ s.added :=
      hadded.mem_iff.mpr (List.mem_map_of_mem (f := fun x => (x.userId, x.input)) hx)
    obtain ⟨cart, hcart, huser⟩ := hkept.cart _ hmem
    refine le_antisymm (hkept.oneCart x.userId) (List.countP_pos_iff.mpr ⟨cart, hcart, ?_⟩)
    exact decide_eq_true huser
  · intro userId variantId
    rw [hkept.quantity, amount, ((hadded.filter _).map _).sum_eq, List.filter_map, List.map_map]
    rfl

/-- Lamps for sale, and a user who has one of them in the cart. -/
def lampCart : Store where
  catalogue :=
    { products := [⟨1, none, none, "Lamp", .active, 1, none, none⟩]
      variants := [⟨1, 1, "LAMP", 1, none, .active⟩]
      stock := ⟨fun _ => true, fun _ => some ⟨50, 0, none⟩, [], []⟩
      coupons := []
      couponUsages := []
      promotions := ⟨[], List.nodup_nil, List.nodup_nil, List.forall_mem_nil _⟩
      promotionUsages := []
      promotionCache := .empty
      gstRules := []
      sellers := []
      standardShippingFee := none }
  carts := [⟨1, some 1⟩]
  items := [⟨1, 1, 1, 1⟩]
  valid := by decide
  added := []

lemma ready_lampCart : Ready lampCart := by
  refine ⟨fun userId => ?_, rfl⟩
  exact List.countP_le_length

/-- User 1 adds `quantity` lamps, and user 2 as well. -/
def addLamps (userId : UserId) (quantity : ℕ) : Call := ⟨userId, ⟨1, quantity⟩, 2, 2, 0⟩

/-- The two users add lamps at the same time. -/
theorem additions_kept_lamps : ∃ s,
    cartService.Completes Undisturbed [addLamps 1 2, addLamps 2 3] lampCart s ∧
      s.carts.countP (fun cart => cart.userId = some 2) = 1 ∧ s.quantity 1 1 = 3 ∧
      s.quantity 2 1 = 3 := by
  obtain ⟨s, h, -⟩ := cartService.exists_completes_of_exec Undisturbed
    [addLamps 1 2, addLamps 2 3]
    [.step 0 .ok, .step 1 .ok, .step 1 .ok, .step 0 .ok, .step 1 .ok, .step 0 .ok, .step 1 .ok,
      .step 0 .ok, .step 1 .ok, .step 0 .ok, .step 1 .ok]
    lampCart (fun s => s.items.length) 2 (by decide +kernel)
  obtain ⟨hcarts, hquantity⟩ := additions_kept ready_lampCart h
  exact ⟨s, h, hcarts (addLamps 2 3) (by simp), hquantity 1 1, hquantity 2 1⟩

/-- Two requests of one user read the same line; the second one overwrites what the first one has
added. -/
theorem addition_lost : ¬∀ (calls : List Call) (s₀ s : Store), Ready s₀ →
    cartService.Completes Free calls s₀ s →
    (∀ x ∈ calls, s.carts.countP (fun cart => cart.userId = some x.userId) = 1) ∧
      ∀ userId variantId, s.quantity userId variantId = s₀.quantity userId variantId +
        ((calls.filter fun x => x.userId = userId ∧ x.input.variantId = variantId).map
          fun x => x.input.quantity).sum := by
  intro h
  obtain ⟨s, hs, hquantity⟩ := cartService.exists_completes_of_exec Free
    [addLamps 1 2, addLamps 1 3]
    [.step 0 .ok, .step 0 .ok, .step 0 .ok, .step 1 .ok, .step 1 .ok, .step 1 .ok,
      .step 0 .ok, .step 0 .ok, .step 1 .ok, .step 1 .ok]
    lampCart (fun s => s.quantity 1 1) 4 (by decide +kernel)
  have hkept := (h _ _ _ ready_lampCart hs).2 1 1
  rw [hquantity] at hkept
  exact absurd hkept (by decide)

end Runs

end MeeoServer.Customers.Additions
