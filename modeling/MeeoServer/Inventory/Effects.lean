/-
# What the stock operations do

The counters and the reservation table after each of the operations of
`MeeoServer.Schema.Stock`.  The operations fold over lists of items and of reservations; the
lemmas here describe their result in closed form, or give the induction that a property of
the result is proved with (`closeHolds_induction`), so no later proof unfolds them.
-/
import MeeoServer.Schema.Stock

namespace MeeoServer

/-- The units of the variant `v` in the reservations that satisfy `p`. -/
def unitsOf (p : InventoryReservation → Bool) (l : List InventoryReservation)
    (v : VariantId) : ℤ :=
  (l.map fun r => if r.variantId = v ∧ p r then (r.quantity : ℤ) else 0).sum

/-- The units of the variant `v` in a list of order items. -/
def itemUnits (items : List OrderItem) (v : VariantId) : ℤ :=
  (items.map fun i => if i.variantId = v then (i.quantity : ℤ) else 0).sum

@[simp] lemma itemUnits_nil (v : VariantId) : itemUnits [] v = 0 := rfl

lemma itemUnits_cons (i : OrderItem) (items : List OrderItem) (v : VariantId) :
    itemUnits (i :: items) v = (if i.variantId = v then (i.quantity : ℤ) else 0) +
      itemUnits items v := by
  simp [itemUnits]

lemma unitsOf_append (p : InventoryReservation → Bool) (l m : List InventoryReservation)
    (v : VariantId) : unitsOf p (l ++ m) v = unitsOf p l v + unitsOf p m v := by
  simp [unitsOf]

lemma unitsOf_nonneg (p : InventoryReservation → Bool) (l : List InventoryReservation)
    (v : VariantId) : 0 ≤ unitsOf p l v := by
  induction l with
  | nil => exact le_refl 0
  | cons r l ih =>
    have hcons : unitsOf p (r :: l) v =
        (if r.variantId = v ∧ p r then (r.quantity : ℤ) else 0) + unitsOf p l v := by
      simp [unitsOf]
    rw [hcons]
    split <;> omega

lemma unitsOf_congr {p q : InventoryReservation → Bool} {l : List InventoryReservation}
    (h : ∀ r ∈ l, p r = q r) (v : VariantId) : unitsOf p l v = unitsOf q l v := by
  unfold unitsOf
  congr 1
  refine List.map_congr_left fun r hr => ?_
  rw [h r hr]

lemma unitsOf_modify (p : InventoryReservation → Bool) {l : List InventoryReservation} {i : ℕ}
    {r : InventoryReservation} (f : InventoryReservation → InventoryReservation)
    (h : l[i]? = some r) (v : VariantId) :
    unitsOf p (l.modify i f) v = unitsOf p l v
      - (if r.variantId = v ∧ p r then (r.quantity : ℤ) else 0)
      + (if (f r).variantId = v ∧ p (f r) then ((f r).quantity : ℤ) else 0) :=
  Table.sum_map_modify f _ h

/-- A reservation is active. -/
def isActive (r : InventoryReservation) : Bool := r.status = .active

/-- A reservation is confirmed. -/
def isConfirmed (r : InventoryReservation) : Bool := r.status = .confirmed

namespace Stock

variable {s s' : Stock} {v w : VariantId}

/-! ## The counters -/

lemma incrementInventory_eq_some {a r : ℤ} (h : s.incrementInventory v a r = some s') :
    (∀ w, s'.available w = s.available w + if w = v then a else 0) ∧
      (∀ w, s'.reserved w = s.reserved w + if w = v then r else 0) ∧
      s'.reservations = s.reservations ∧ (s'.inventory w).isSome = (s.inventory w).isSome := by
  obtain ⟨row, hrow, rfl⟩ := Option.map_eq_some_iff.mp h
  refine ⟨fun w => ?_, fun w => ?_, rfl, ?_⟩
  · by_cases hw : w = v
    · subst hw
      simp [available, hrow]
    · simp [available, hw]
  · by_cases hw : w = v
    · subst hw
      simp [reserved, hrow]
    · simp [reserved, hw]
  · by_cases hw : w = v
    · subst hw
      simp [hrow]
    · simp [hw]

lemma incrementInventory_transactions {a r : ℤ} (h : s.incrementInventory v a r = some s') :
    s'.inventoryTransactions = s.inventoryTransactions := by
  obtain ⟨row, -, rfl⟩ := Option.map_eq_some_iff.mp h
  rfl

@[simp] lemma createTransaction_available (s : Stock) (t : InventoryTransactionType) (q : ℤ) :
    (s.createTransaction v t q).available w = s.available w := rfl

@[simp] lemma createTransaction_reserved (s : Stock) (t : InventoryTransactionType) (q : ℤ) :
    (s.createTransaction v t q).reserved w = s.reserved w := rfl

@[simp] lemma createTransaction_reservations (s : Stock) (t : InventoryTransactionType) (q : ℤ) :
    (s.createTransaction v t q).reservations = s.reservations := rfl

/-! ## Holding stock -/

/-- The reservation that holds an item of an order. -/
def heldRow (orderId : OrderId) (expiresAt : Millis) (i : OrderItem) : InventoryReservation :=
  ⟨i.variantId, some orderId, i.quantity, .active, expiresAt⟩

lemma hold_eq_some {q : ℕ} {o : Option OrderId} {e : Millis} (h : s.hold v q o e = some s') :
    (∀ w, s'.available w = s.available w - if w = v then (q : ℤ) else 0) ∧
      (∀ w, s'.reserved w = s.reserved w + if w = v then (q : ℤ) else 0) ∧
      s'.reservations = s.reservations ++ [⟨v, o, q, .active, e⟩] := by
  simp only [hold, Option.bind_eq_bind, Option.bind_eq_some_iff, Option.pure_def,
    Option.some.injEq] at h
  obtain ⟨t, ht, rfl⟩ := h
  obtain ⟨ha, hr, hres, -⟩ := incrementInventory_eq_some (w := v) ht
  refine ⟨fun w => ?_, fun w => ?_, ?_⟩
  · show t.available w = _
    rw [ha w]
    split <;> omega
  · show t.reserved w = _
    rw [hr w]
  · show t.reservations ++ _ = _
    rw [hres]

lemma holdItems_eq_some {o : OrderId} {e : Millis} {items : List OrderItem}
    (h : s.holdItems o e items = some s') :
    (∀ w, s'.available w = s.available w - itemUnits items w) ∧
      (∀ w, s'.reserved w = s.reserved w + itemUnits items w) ∧
      s'.reservations = s.reservations ++ items.map (heldRow o e) := by
  induction items generalizing s with
  | nil =>
    obtain rfl : s = s' := by simpa [holdItems] using h
    simp
  | cons i items ih =>
    simp only [holdItems, List.foldlM_cons, Option.bind_eq_bind, Option.bind_eq_some_iff] at h
    obtain ⟨t, ht, hrest⟩ := h
    obtain ⟨ha, hr, hres⟩ := hold_eq_some ht
    obtain ⟨ha', hr', hres'⟩ := ih hrest
    refine ⟨fun w => ?_, fun w => ?_, ?_⟩
    · rw [ha' w, ha w, itemUnits_cons]
      simp only [eq_comm (a := w)]
      omega
    · rw [hr' w, hr w, itemUnits_cons]
      simp only [eq_comm (a := w)]
      omega
    · rw [hres', hres]
      simp [heldRow]

lemma foldlM_increment_eq_some {items : List OrderItem}
    (h : items.foldlM
      (fun s item => incrementInventory s item.variantId 0 (-item.quantity)) s = some s') :
    (∀ w, s'.available w = s.available w) ∧
      (∀ w, s'.reserved w = s.reserved w - itemUnits items w) ∧
      s'.reservations = s.reservations := by
  induction items generalizing s with
  | nil =>
    obtain rfl : s = s' := by simpa using h
    simp
  | cons i items ih =>
    simp only [List.foldlM_cons, Option.bind_eq_bind, Option.bind_eq_some_iff] at h
    obtain ⟨t, ht, hrest⟩ := h
    obtain ⟨ha, hr, hres, -⟩ := incrementInventory_eq_some (w := 0) ht
    obtain ⟨ha', hr', hres'⟩ := ih hrest
    refine ⟨fun w => ?_, fun w => ?_, ?_⟩
    · rw [ha' w, ha w]
      simp
    · rw [hr' w, hr w, itemUnits_cons]
      simp only [eq_comm (a := w)]
      split <;> omega
    · rw [hres', hres]

lemma foldl_createTransaction (items : List OrderItem) (t : InventoryTransactionType) :
    let s' := items.foldl (fun s i => createTransaction s i.variantId t i.quantity) s
    (∀ w, s'.available w = s.available w) ∧ (∀ w, s'.reserved w = s.reserved w) ∧
      s'.reservations = s.reservations := by
  induction items generalizing s with
  | nil => simp
  | cons i items ih => simpa using ih (s := s.createTransaction i.variantId t i.quantity)

/-- Selling the items that were just held confirms exactly their reservations, provided that
no older reservation belongs to the same order. -/
lemma sellItems_eq_some {o : OrderId} {e : Millis} {items : List OrderItem}
    {old : List InventoryReservation} (hres : s.reservations = old ++ items.map (heldRow o e))
    (hold : ∀ r ∈ old, r.orderId ≠ some o) (h : s.sellItems o items = some s') :
    (∀ w, s'.available w = s.available w) ∧
      (∀ w, s'.reserved w = s.reserved w - itemUnits items w) ∧
      s'.reservations =
        old ++ items.map fun i => { heldRow o e i with status := .confirmed } := by
  simp only [sellItems, Option.bind_eq_bind, Option.bind_eq_some_iff, Option.pure_def,
    Option.some.injEq] at h
  obtain ⟨t, ht, rfl⟩ := h
  obtain ⟨ha, hr, hres'⟩ := foldlM_increment_eq_some ht
  set u : Stock := { t with
    reservations := t.reservations.map fun r =>
      if r.orderId = some o ∧ r.status = .active then { r with status := .confirmed } else r }
    with hu
  obtain ⟨ha', hr', hres''⟩ :=
    foldl_createTransaction (s := u) items InventoryTransactionType.orderConfirmed
  refine ⟨fun w => (ha' w).trans (ha w), fun w => (hr' w).trans (hr w), ?_⟩
  rw [hres'', hu]
  simp only [hres', hres, List.map_append, List.map_map]
  congr 1
  · have hid : ∀ r ∈ old,
        (if r.orderId = some o ∧ r.status = .active then { r with status := .confirmed }
          else r) = r := by
      intro r hr
      rw [if_neg fun hc => hold r hr hc.1]
    exact (List.map_congr_left hid).trans (List.map_id' old)
  · refine List.map_congr_left fun i _ => ?_
    simp [heldRow]

/-! ## Closing reservations -/

/-- The reservation `h` is still active, with the variant and the quantity it was read
with. -/
def LiveHold (l : List InventoryReservation) (h : Hold) : Prop :=
  ∃ r, l[h.id]? = some r ∧ r.status = .active ∧ r.variantId = h.val.variantId ∧
    r.quantity = h.val.quantity

variable {c : Closing} {order : InventoryReservation → Option OrderId} {h : Hold}

lemma closeHold_eq_some (hc : s.closeHold c order h = some s') :
    (∀ w, s'.available w = s.available w +
      if w = h.val.variantId ∧ c.returns then (h.val.quantity : ℤ) else 0) ∧
      (∀ w, s'.reserved w = s.reserved w -
        if w = h.val.variantId then (h.val.quantity : ℤ) else 0) ∧
      s'.reservations =
        s.reservations.modify h.id fun r => { r with status := c.status, orderId := order r } := by
  simp only [closeHold, Option.bind_eq_bind, Option.bind_eq_some_iff, Option.pure_def,
    Option.some.injEq] at hc
  obtain ⟨t, ht, rfl⟩ := hc
  obtain ⟨ha, hr, hres, -⟩ := incrementInventory_eq_some (w := 0) ht
  refine ⟨fun w => ?_, fun w => ?_, ?_⟩
  · show t.available w = _
    rw [ha w]
    by_cases hw : w = h.val.variantId <;> by_cases hret : c.returns <;> simp [hw, hret]
  · show t.reserved w = _
    rw [hr w]
    split <;> omega
  · show t.reservations.modify _ _ = _
    rw [hres]

lemma closeHold_transactions (hc : s.closeHold c order h = some s') :
    s'.inventoryTransactions =
      s.inventoryTransactions ++ [⟨h.val.variantId, c.type, h.val.quantity⟩] := by
  simp only [closeHold, Option.bind_eq_bind, Option.bind_eq_some_iff, Option.pure_def,
    Option.some.injEq] at hc
  obtain ⟨t, ht, rfl⟩ := hc
  show t.inventoryTransactions ++ _ = _
  rw [incrementInventory_transactions ht]

/-- The units of the reservations in `p` after an active reservation was closed. -/
lemma unitsOf_closeHold (p : InventoryReservation → Bool) {r : InventoryReservation}
    (hrow : s.reservations[h.id]? = some r) (hv : r.variantId = h.val.variantId)
    (hq : r.quantity = h.val.quantity) (hc : s.closeHold c order h = some s') (w : VariantId) :
    unitsOf p s'.reservations w = unitsOf p s.reservations w
      - (if w = h.val.variantId ∧ p r then (h.val.quantity : ℤ) else 0)
      + (if w = h.val.variantId ∧ p { r with status := c.status, orderId := order r } then
          (h.val.quantity : ℤ) else 0) := by
  rw [(closeHold_eq_some hc).2.2, unitsOf_modify p _ hrow]
  simp only [hv, hq, eq_comm (a := w)]

/-- Closing one reservation leaves every other one alone. -/
lemma LiveHold.closeHold {h' : Hold} (hl : LiveHold s.reservations h') (hne : h.id ≠ h'.id)
    (hc : s.closeHold c order h = some s') : LiveHold s'.reservations h' := by
  obtain ⟨r, hr, hrest⟩ := hl
  refine ⟨r, ?_, hrest⟩
  rw [(closeHold_eq_some hc).2.2, List.getElem?_modify_ne _ _ hne, hr]

/-- What closing any reservation preserves is preserved by closing a list of them. -/
lemma closeHolds_preserves {P : Stock → Prop} {holds : List Hold}
    (hP : ∀ {s s' h}, s.closeHold c InventoryReservation.orderId h = some s' → P s → P s')
    (hs : P s) (hc : s.closeHolds c holds = some s') : P s' := by
  induction holds generalizing s with
  | nil =>
    obtain rfl : s = s' := by simpa [closeHolds] using hc
    exact hs
  | cons h holds ih =>
    simp only [closeHolds, List.foldlM_cons, Option.bind_eq_bind, Option.bind_eq_some_iff] at hc
    obtain ⟨t, ht, hrest⟩ := hc
    exact ih (hP ht hs) hrest

/-- What closing one active reservation preserves is preserved by closing a list of them, if
no reservation is listed twice. -/
lemma closeHolds_induction {P : Stock → Prop} {holds : List Hold}
    (hP : ∀ {s s' h}, h ∈ holds → LiveHold s.reservations h →
      s.closeHold c InventoryReservation.orderId h = some s' → P s → P s')
    (hnodup : (holds.map Row.id).Nodup) (hlive : ∀ h ∈ holds, LiveHold s.reservations h)
    (hs : P s) (hc : s.closeHolds c holds = some s') : P s' := by
  induction holds generalizing s with
  | nil =>
    obtain rfl : s = s' := by simpa [closeHolds] using hc
    exact hs
  | cons h holds ih =>
    simp only [closeHolds, List.foldlM_cons, Option.bind_eq_bind, Option.bind_eq_some_iff] at hc
    obtain ⟨t, ht, hrest⟩ := hc
    simp only [List.map_cons, List.nodup_cons, List.mem_map, not_exists, not_and] at hnodup
    -- the rest of the list is still live, since none of it is `h`
    refine ih (fun hmem => hP (List.mem_cons_of_mem h hmem)) hnodup.2 (fun h' hh' => ?_)
      (hP List.mem_cons_self (hlive h List.mem_cons_self) ht hs) hrest
    exact (hlive h' (List.mem_cons_of_mem h hh')).closeHold
      (fun heq => hnodup.1 h' hh' heq.symm) ht

/-- The reservation table after a list of reservations was closed. -/
lemma closeHolds_reservations {holds : List Hold} (hc : s.closeHolds c holds = some s') :
    s'.reservations = s.reservations.mapIdx fun i r =>
      if i ∈ holds.map Row.id then { r with status := c.status } else r := by
  induction holds generalizing s with
  | nil =>
    obtain rfl : s = s' := by simpa [closeHolds] using hc
    refine List.ext_getElem? fun i => ?_
    simp
  | cons h holds ih =>
    simp only [closeHolds, List.foldlM_cons, Option.bind_eq_bind, Option.bind_eq_some_iff] at hc
    obtain ⟨t, ht, hrest⟩ := hc
    rw [ih hrest, (closeHold_eq_some ht).2.2]
    refine List.ext_getElem? fun i => ?_
    simp only [List.getElem?_mapIdx, List.getElem?_modify, List.map_cons, List.mem_cons]
    by_cases hi : h.id = i
    · subst hi
      cases s.reservations[h.id]? <;> simp
    · have hne : ¬ i = h.id := fun heq => hi heq.symm
      cases s.reservations[i]? <;> simp [hi, hne]

lemma closeHolds_singleton :
    s.closeHolds c [h] = s.closeHold c InventoryReservation.orderId h := by
  simp [closeHolds]

/-- A row after a list of reservations was closed: it was closed, or it is unchanged. -/
lemma mem_closeHolds {holds : List Hold} (hc : s.closeHolds c holds = some s')
    {r' : InventoryReservation} (hr' : r' ∈ s'.reservations) :
    ∃ i r, s.reservations[i]? = some r ∧ r'.orderId = r.orderId ∧
      ((∃ h ∈ holds, h.id = i) ∧ r'.status = c.status ∨ (∀ h ∈ holds, h.id ≠ i) ∧ r' = r) := by
  rw [closeHolds_reservations hc] at hr'
  obtain ⟨i, hi⟩ := List.mem_iff_getElem?.mp hr'
  rw [List.getElem?_mapIdx] at hi
  obtain ⟨r, hr, rfl⟩ := Option.map_eq_some_iff.mp hi
  refine ⟨i, r, hr, ?_, ?_⟩
  · split <;> rfl
  · split
    · rename_i hmem
      exact Or.inl ⟨List.mem_map.mp hmem, rfl⟩
    · rename_i hmem
      exact Or.inr ⟨fun h hh heq => hmem (List.mem_map.mpr ⟨h, hh, heq⟩), rfl⟩

end Stock

end MeeoServer
