/-
# The addresses, statement by statement

`saveAddress` and `deleteAddress` of `user/services/userAddress.service.ts` once more, statement
by statement: each of them may fail, and what the ones before it have written stays.  Where no
statement fails this is Customers/Addresses.
-/
import MeeoServer.Customers.Addresses
import MeeoServer.Process.Faults

namespace MeeoServer.AddressService

open Customers Storefront

/-! ## The table -/

/-- The addresses of all users, in the order in which they were created. -/
structure AddressBook where
  rows : List SavedAddress
  ids_nodup : (rows.map fun a => a.id).Nodup

namespace AddressBook

variable (s : AddressBook)

def addressesOf (userId : UserId) : List SavedAddress :=
  s.rows.filter fun a => a.userId = userId

def hasAddress (userId : UserId) (addressId : AddressId) : Bool :=
  (s.addressesOf userId).any fun a => a.id = addressId

def updateWhere (p : SavedAddress → Bool) (f : SavedAddress → SavedAddress)
    (hid : ∀ a, (f a).id = a.id) : AddressBook where
  rows := Table.updateWhere p f s.rows
  ids_nodup := by
    rw [Table.map_updateWhere hid]
    exact s.ids_nodup

/-- `updateMany({ where: { userId, isDefault: true, … } })` -/
def clear (userId : UserId) (spared : Option AddressId) : AddressBook :=
  s.updateWhere (fun a => a.userId = userId && a.isDefault && some a.id ≠ spared) clearDefault
    fun _ => rfl

def append (row : SavedAddress) (hid : row.id ∉ s.rows.map fun a => a.id) : AddressBook where
  rows := s.rows ++ [row]
  ids_nodup := by
    rw [List.map_append, List.map_singleton, List.nodup_append]
    refine ⟨s.ids_nodup, List.nodup_singleton _, ?_⟩
    rintro a ha b hb rfl
    exact hid (List.mem_singleton.mp hb ▸ ha)

def filter (p : SavedAddress → Bool) : AddressBook where
  rows := s.rows.filter p
  ids_nodup := s.ids_nodup.sublist (List.filter_sublist.map _)

/-- `prisma.address.update` -/
def updated (userId : UserId) (addressId : AddressId) (payload : UpdateUserAddressPayload) :
    AddressBook :=
  s.updateWhere (fun a => a.userId = userId && a.id = addressId) (updateData payload) fun _ => rfl

/-- `prisma.address.delete` -/
def deleted (userId : UserId) (addressId : AddressId) : AddressBook :=
  s.filter fun a => !(a.userId = userId && a.id = addressId)

end AddressBook

inductive Statement where
  | clearDefaults (userId : UserId) (spared : Option AddressId)
  | update (userId : UserId) (addressId : AddressId) (payload : UpdateUserAddressPayload)
  | create (row : SavedAddress)
  | delete (userId : UserId) (addressId : AddressId)
  | makeDefault (addressId : AddressId)

def makeDefault (a : SavedAddress) : SavedAddress := { a with isDefault := true }

def Statement.apply (statement : Statement) (s : AddressBook) : Option AddressBook :=
  match statement with
  | clearDefaults userId spared => some (s.clear userId spared)
  | update userId addressId payload =>
    if s.hasAddress userId addressId then some (s.updated userId addressId payload) else none
  | create row =>
    if h : row.id ∉ s.rows.map fun a => a.id then some (s.append row h) else none
  | delete userId addressId =>
    if s.hasAddress userId addressId then some (s.deleted userId addressId) else none
  | makeDefault addressId =>
    if s.rows.any fun a => a.id = addressId then
      some (s.updateWhere (fun a => a.id = addressId) AddressService.makeDefault fun _ => rfl)
    else none

abbrev Service (α : Type) := Proc AddressBook Statement AppError α

/-! ## The service -/

/-- `prisma.address.create` -/
def insertAddress (row : SavedAddress) : Service AddressView := do
  let _ ← Proc.commit (.create row)
  pure (selectFields row)

/-- Creates a new address for the requesting user; the first one is the default, unless the
payload says otherwise. -/
def createAddress (userId : UserId) (payload : UserAddressPayload) (d : Draw) :
    Service AddressView := do
  let s ← Proc.read
  let existingCount := (s.addressesOf userId).length
  let isDefault := payload.isDefault.getD (existingCount = 0)
  if isDefault && 0 < existingCount then do
    let _ ← Proc.commit (.clearDefaults userId none)
    insertAddress (newAddress userId payload isDefault d)
  else insertAddress (newAddress userId payload isDefault d)

/-- `prisma.address.update`, with the row that it answers. -/
def updateFields (userId : UserId) (payload : UpdateUserAddressPayload) (addressId : AddressId) :
    Service (Option AddressView) := do
  let s ← Proc.commit (.update userId addressId payload)
  pure (((s.addressesOf userId).find? fun a => a.id = addressId).map selectFields)

/-- Updates an existing address owned by the requesting user. -/
def updateAddress (userId : UserId) (payload : UpdateUserAddressPayload)
    (addressId : Option AddressId) : Service (Option AddressView) :=
  match addressId with
  | none => throw ⟨"Address ID is required for updates", 400⟩
  | some addressId =>
    if payload.isDefault = some true then do
      let _ ← Proc.commit (.clearDefaults userId (some addressId))
      updateFields userId payload addressId
    else updateFields userId payload addressId

/-- If the default address was deleted, marks the newest remaining address as default. -/
def promoteNewest (userId : UserId) : Service Unit := do
  let s ← Proc.read
  match (s.addressesOf userId).getLast? with
  | none => pure ()
  | some nextAddress => do
    let _ ← Proc.commit (.makeDefault nextAddress.id)
    pure ()

/-- Safely deletes an address owned by the requesting user. -/
def deleteAddress (userId : UserId) (addressId : AddressId) : Service Unit := do
  let s ← Proc.read
  match (s.addressesOf userId).find? fun a => a.id = addressId with
  | none => throw ⟨"Address not found or unauthorized to delete", 404⟩
  | some address => do
    let _ ← Proc.commit (.delete userId addressId)
    if address.isDefault then promoteNewest userId else pure ()

/-! ## Outcomes -/

/-- Whether a program has returned, and the table that it leaves. -/
def outcomeOf {α : Type} (program : Service α) (faults : Faults) (s : AddressBook) :
    Bool × AddressBook :=
  let result := program.runFaulty Statement.apply faults s
  (result.1.isOk, result.2)

section Outcomes

variable {userId : UserId} {faults : Faults} {s : AddressBook}

lemma AddressBook.ext_rows {t : AddressBook} (h : s.rows = t.rows) : s = t := by
  cases s
  cases t
  cases h
  rfl

lemma outcomeOf_read {α : Type} {f : AddressBook → Service α} :
    outcomeOf (Proc.read >>= f) faults s =
      if faults 0 then (false, s) else outcomeOf (f s) faults.next s := by
  unfold outcomeOf
  rw [Proc.runFaulty_read]
  cases faults 0 <;> rfl

lemma outcomeOf_commit {α : Type} {f : AddressBook → Service α} {statement : Statement} :
    outcomeOf (Proc.commit statement >>= f) faults s =
      match if faults 0 then none else statement.apply s with
      | some s' => outcomeOf (f s') faults.next s'
      | none => (false, s) := by
  unfold outcomeOf
  rw [Proc.runFaulty_commit]
  cases (if faults 0 = true then none else statement.apply s) <;> rfl

/-- An insertion fails and changes nothing, or appends the row. -/
lemma insertAddress_outcome (row : SavedAddress) (faults : Faults) (s : AddressBook) :
    ((faults 0 = true ∨ row.id ∈ s.rows.map fun a => a.id) ∧
      outcomeOf (insertAddress row) faults s = (false, s)) ∨
    faults 0 = false ∧ ∃ hid,
      outcomeOf (insertAddress row) faults s = (true, s.append row hid) := by
  unfold insertAddress
  rw [outcomeOf_commit]
  dsimp only [Statement.apply]
  cases hfault : faults 0 with
  | true => exact Or.inl ⟨Or.inl rfl, rfl⟩
  | false =>
    by_cases hid : row.id ∉ s.rows.map fun a => a.id
    · refine Or.inr ⟨rfl, hid, ?_⟩
      rw [dif_pos hid]
      rfl
    · refine Or.inl ⟨Or.inr (not_not.mp hid), ?_⟩
      rw [dif_neg hid]
      rfl

lemma ids_clear {spared : Option AddressId} :
    ((s.clear userId spared).rows.map fun a => a.id) = s.rows.map fun a => a.id :=
  Table.map_updateWhere fun _ => rfl

/-- An update fails and changes nothing, or writes the row of the user. -/
lemma updateFields_outcome (userId : UserId) (payload : UpdateUserAddressPayload)
    (addressId : AddressId) (faults : Faults) (s : AddressBook) :
    ((faults 0 = true ∨ ¬s.hasAddress userId addressId = true) ∧
      outcomeOf (updateFields userId payload addressId) faults s = (false, s)) ∨
    (faults 0 = false ∧ s.hasAddress userId addressId = true) ∧
      outcomeOf (updateFields userId payload addressId) faults s =
        (true, s.updated userId addressId payload) := by
  unfold updateFields
  rw [outcomeOf_commit]
  dsimp only [Statement.apply]
  cases faults 0 with
  | true => exact Or.inl ⟨Or.inl rfl, rfl⟩
  | false =>
    cases hhas : s.hasAddress userId addressId with
    | true => exact Or.inr ⟨⟨rfl, rfl⟩, rfl⟩
    | false => exact Or.inl ⟨Or.inr Bool.false_ne_true, rfl⟩

end Outcomes

/-! ## Without failures -/

section Agreement

variable {α : Type} {userId : UserId} {addressId : AddressId} {s : AddressBook} {shop : Shop}

/-- The handler and the program have both returned or both failed, and have left the same
addresses. -/
def Agrees (result : EStateM.Result AppError Shop α) (outcome : Bool × AddressBook) : Prop :=
  match result with
  | .ok _ shop => outcome.1 = true ∧ outcome.2.rows = shop.addresses
  | .error _ shop => outcome.1 = false ∧ outcome.2.rows = shop.addresses

lemma addressesOf_eq (h : s.rows = shop.addresses) :
    s.addressesOf userId = shop.addressesOf userId :=
  congrArg (List.filter _) h

lemma insertAddress_none {row : SavedAddress} (hid : row.id ∉ s.rows.map fun a => a.id) :
    outcomeOf (insertAddress row) Faults.none s = (true, s.append row hid) := by
  rcases insertAddress_outcome row Faults.none s with
    ⟨hfails, -⟩ | ⟨-, _, heq⟩
  · exact absurd hfails (not_or.mpr ⟨Bool.false_ne_true, hid⟩)
  · exact heq

lemma outcomeOf_read_none {β : Type} {f : AddressBook → Service β} :
    outcomeOf (Proc.read >>= f) Faults.none s = outcomeOf (f s) Faults.none s := outcomeOf_read

lemma outcomeOf_commit_none {β : Type} {f : AddressBook → Service β} {statement : Statement}
    {t : AddressBook} (h : statement.apply s = some t) :
    outcomeOf (Proc.commit statement >>= f) Faults.none s = outcomeOf (f t) Faults.none t := by
  rw [outcomeOf_commit, if_neg (show ¬Faults.none 0 = true from Bool.false_ne_true), h]
  rfl

lemma run_get_bind {α : Type} {f : Shop → Handler α} : (get >>= f).run shop = (f shop).run shop :=
  rfl

/-- What the handler of a new address ends with. -/
lemma run_createAddress {payload : UserAddressPayload} {d : Draw} :
    (Customers.createAddress userId payload d).run shop =
      let isDefault := payload.isDefault.getD ((shop.addressesOf userId).length = 0)
      let row := newAddress userId payload isDefault d
      if isDefault && 0 < (shop.addressesOf userId).length then
        .ok (selectFields row) ((shop.updateAddresses
          (fun a => a.userId = userId && a.isDefault) clearDefault).insertAddress row)
      else .ok (selectFields row) (shop.insertAddress row) := by
  unfold Customers.createAddress
  rw [run_get_bind]
  dsimp only
  split_ifs <;> rfl

lemma rows_clear {spared : Option AddressId} (h : s.rows = shop.addresses)
    {p : SavedAddress → Bool}
    (hp : ∀ a, p a = (a.userId = userId && a.isDefault && some a.id ≠ spared)) :
    (s.clear userId spared).rows = (shop.updateAddresses p clearDefault).addresses := by
  show Table.updateWhere _ _ s.rows = Table.updateWhere p _ shop.addresses
  rw [h, funext hp]

lemma createAddress_agrees (h : s.rows = shop.addresses) {payload : UserAddressPayload} {d : Draw}
    (hd : d.addressId ∉ shop.addresses.map fun a => a.id) :
    Agrees ((Customers.createAddress userId payload d).run shop)
      (outcomeOf (createAddress userId payload d) Faults.none s) := by
  rw [run_createAddress]
  unfold createAddress
  rw [outcomeOf_read_none, addressesOf_eq h]
  dsimp only
  split_ifs
  · have hfresh : ∀ isDefault, (newAddress userId payload isDefault d).id ∉
        (s.clear userId none).rows.map fun a => a.id := by
      intro isDefault
      rw [ids_clear, h]
      exact hd
    rw [outcomeOf_commit_none rfl, insertAddress_none (hfresh _)]
    exact ⟨rfl, congrArg (· ++ [_]) (rows_clear h fun a => by simp)⟩
  · rw [insertAddress_none (h ▸ hd)]
    exact ⟨rfl, congrArg (· ++ [_]) h⟩

/-- The last statements of the handler of an update. -/
def findAndUpdate (userId : UserId) (payload : UpdateUserAddressPayload)
    (addressId : AddressId) : Handler AddressView := do
  let s ← get
  match (s.addressesOf userId).find? fun a => a.id = addressId with
  | none => throw Customers.recordNotFound
  | some address =>
    modify fun s => s.updateAddresses (fun a => a.userId = userId && a.id = addressId)
      (updateData payload)
    pure (selectFields (updateData payload address))

lemma run_findAndUpdate {payload : UpdateUserAddressPayload} :
    (findAndUpdate userId payload addressId).run shop =
      match (shop.addressesOf userId).find? fun a => a.id = addressId with
      | none => .error Customers.recordNotFound shop
      | some address => .ok (selectFields (updateData payload address))
        (shop.updateAddresses (fun a => a.userId = userId && a.id = addressId)
          (updateData payload)) := by
  show EStateM.run (match (shop.addressesOf userId).find? fun a => a.id = addressId with
    | none => throw Customers.recordNotFound
    | some address => do
      modify fun s => s.updateAddresses (fun a => a.userId = userId && a.id = addressId)
        (updateData payload)
      pure (selectFields (updateData payload address))) shop = _
  cases (shop.addressesOf userId).find? fun a => a.id = addressId <;> rfl

lemma run_updateAddress {payload : UpdateUserAddressPayload} :
    (Customers.updateAddress userId payload addressId).run shop =
      (findAndUpdate userId payload addressId).run (if payload.isDefault = some true then
        shop.updateAddresses (fun a => a.userId = userId && a.isDefault && a.id ≠ addressId)
          clearDefault
      else shop) := by
  unfold Customers.updateAddress findAndUpdate
  split_ifs <;> rfl

lemma updateFields_agrees (h : s.rows = shop.addresses) {payload : UpdateUserAddressPayload} :
    Agrees ((findAndUpdate userId payload addressId).run shop)
      (outcomeOf (updateFields userId payload addressId) Faults.none s) := by
  have hhas : s.hasAddress userId addressId =
      ((shop.addressesOf userId).find? fun a => a.id = addressId).isSome := by
    rw [List.isSome_find?, ← addressesOf_eq h]
    rfl
  rw [run_findAndUpdate]
  rcases updateFields_outcome userId payload addressId Faults.none s with
    ⟨hfails, heq⟩ | ⟨hdone, heq⟩
  · have hnone := hfails.resolve_left Bool.false_ne_true
    rw [hhas, Option.isSome_iff_ne_none, not_not] at hnone
    rw [heq, hnone]
    exact ⟨rfl, h⟩
  · have hsome := hdone.2
    rw [hhas, Option.isSome_iff_exists] at hsome
    obtain ⟨address, hfind⟩ := hsome
    rw [heq, hfind]
    exact ⟨rfl, congrArg (Table.updateWhere _ _) h⟩

lemma updateAddress_agrees (h : s.rows = shop.addresses) {payload : UpdateUserAddressPayload} :
    Agrees ((Customers.updateAddress userId payload addressId).run shop)
      (outcomeOf (updateAddress userId payload (some addressId)) Faults.none s) := by
  rw [run_updateAddress]
  unfold updateAddress
  dsimp only
  split_ifs
  · rw [outcomeOf_commit_none rfl]
    exact updateFields_agrees (rows_clear h fun a => by simp)
  · exact updateFields_agrees h

/-- What the handler of a deletion ends with. -/
lemma run_deleteAddress : (Customers.deleteAddress userId addressId).run shop =
    match (shop.addressesOf userId).find? fun a => a.id = addressId with
    | none => .error ⟨"Address not found or unauthorized to delete", 404⟩ shop
    | some address =>
      let shop := shop.deleteAddress fun a => a.userId = userId && a.id = addressId
      match if address.isDefault then (shop.addressesOf userId).getLast? else none with
      | none => .ok () shop
      | some nextAddress => .ok ()
        (shop.updateAddresses (fun a => a.id = nextAddress.id) AddressService.makeDefault) := by
  show EStateM.run (match (shop.addressesOf userId).find? fun a => a.id = addressId with
    | none => (throw ⟨"Address not found or unauthorized to delete", 404⟩ : Handler Unit)
    | some address => _) shop = _
  cases (shop.addressesOf userId).find? fun a => a.id = addressId with
  | none => rfl
  | some address =>
    dsimp only
    cases address.isDefault with
    | false => rfl
    | true =>
      rw [if_pos rfl]
      show EStateM.run (match ((shop.deleteAddress fun a =>
          a.userId = userId && a.id = addressId).addressesOf userId).getLast? with
        | none => pure ()
        | some nextAddress => modify fun s => s.updateAddresses
            (fun a => a.id = nextAddress.id) fun a => { a with isDefault := true })
        (shop.deleteAddress fun a => a.userId = userId && a.id = addressId) = _
      cases ((shop.deleteAddress fun a =>
        a.userId = userId && a.id = addressId).addressesOf userId).getLast? <;> rfl

lemma promoteNewest_none :
    outcomeOf (promoteNewest userId) Faults.none s =
      (true, match (s.addressesOf userId).getLast? with
        | none => s
        | some nextAddress => s.updateWhere (fun a => a.id = nextAddress.id) makeDefault
          fun _ => rfl) := by
  unfold promoteNewest
  rw [outcomeOf_read_none]
  cases hlast : (s.addressesOf userId).getLast? with
  | none => rfl
  | some nextAddress =>
    have hany : (s.rows.any fun a => a.id = nextAddress.id) = true :=
      List.any_eq_true.mpr ⟨nextAddress, List.mem_of_mem_filter (List.mem_of_getLast? hlast),
        decide_eq_true rfl⟩
    exact outcomeOf_commit_none (if_pos hany)

lemma deleteAddress_agrees (h : s.rows = shop.addresses) :
    Agrees ((Customers.deleteAddress userId addressId).run shop)
      (outcomeOf (deleteAddress userId addressId) Faults.none s) := by
  rw [run_deleteAddress]
  unfold deleteAddress
  rw [outcomeOf_read_none, addressesOf_eq h]
  cases hfind : (shop.addressesOf userId).find? fun a => a.id = addressId with
  | none => exact ⟨rfl, h⟩
  | some address =>
    have hhas : s.hasAddress userId addressId = true := by
      have hfound := List.find?_some hfind
      rw [← addressesOf_eq h] at hfind
      exact List.any_eq_true.mpr ⟨address, List.mem_of_find?_eq_some hfind, hfound⟩
    have hdeleted : (s.deleted userId addressId).rows =
        (shop.deleteAddress fun a => a.userId = userId && a.id = addressId).addresses :=
      congrArg (List.filter _) h
    have happ : (Statement.delete userId addressId).apply s =
        some (s.deleted userId addressId) := if_pos hhas
    dsimp only
    rw [outcomeOf_commit_none happ]
    cases address.isDefault with
    | false => exact ⟨rfl, hdeleted⟩
    | true =>
      rw [if_pos rfl, if_pos rfl, promoteNewest_none, addressesOf_eq hdeleted]
      cases ((shop.deleteAddress fun a =>
          a.userId = userId && a.id = addressId).addressesOf userId).getLast? with
      | none => exact ⟨rfl, hdeleted⟩
      | some nextAddress => exact ⟨rfl, congrArg (Table.updateWhere _ _) hdeleted⟩

end Agreement

end MeeoServer.AddressService
