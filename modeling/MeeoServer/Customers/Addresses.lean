/-
# Saved addresses

`user/services/userAddress.service.ts`.  Every query names the user besides the identifier that
the client sends.
-/
import MeeoServer.Customers.Ownership

namespace MeeoServer.Customers

open Storefront

structure UserAddressPayload where
  recipientName : String
  phone : Option String
  label : Option String
  addressLine1 : String
  addressLine2 : Option String
  city : String
  state : String
  postalCode : String
  country : String
  isDefault : Option Bool
deriving DecidableEq

structure UpdateUserAddressPayload where
  recipientName : Option String
  phone : Option String
  label : Option String
  addressLine1 : Option String
  addressLine2 : Option String
  city : Option String
  state : Option String
  postalCode : Option String
  country : Option String
  isDefault : Option Bool
deriving DecidableEq

/-- The columns that are answered. -/
structure AddressView where
  id : AddressId
  address : AddressSnapshot
  label : Option String
  isDefault : Bool
deriving DecidableEq

/-- Reusable select fields for address queries. -/
def selectFields (a : SavedAddress) : AddressView :=
  ⟨a.id, { a.snapshot with latitude := none, longitude := none }, a.label, a.isDefault⟩

def Shop.addressesOf (s : Shop) (userId : UserId) : List SavedAddress :=
  s.addresses.filter fun a => a.userId = userId

/-- Retrieves all saved addresses for the requesting user, the default address first, followed by
the newest. -/
def getAddresses (userId : UserId) : Handler (List AddressView) := do
  let s ← get
  let rows := (s.addressesOf userId).reverse
  pure (((rows.filter fun a => a.isDefault) ++ rows.filter fun a => !a.isDefault).map selectFields)

def clearDefault (a : SavedAddress) : SavedAddress := { a with isDefault := false }

/-- The row that a payload creates. -/
def newAddress (userId : UserId) (payload : UserAddressPayload) (isDefault : Bool) (d : Draw) :
    SavedAddress where
  id := d.addressId
  userId := userId
  snapshot :=
    ⟨payload.recipientName, payload.phone, payload.addressLine1, payload.addressLine2, payload.city,
      payload.state, payload.postalCode, payload.country, none, none⟩
  label := payload.label
  isDefault := isDefault

/-- Creates a new address for the requesting user; the first one is the default. -/
def createAddress (userId : UserId) (payload : UserAddressPayload) (d : Draw) :
    Handler AddressView := do
  let s ← get
  let existingCount := (s.addressesOf userId).length
  let isDefault := payload.isDefault.getD (existingCount = 0)
  if isDefault && 0 < existingCount then
    modify fun s => s.updateAddresses (fun a => a.userId = userId && a.isDefault) clearDefault
  modify fun s => s.insertAddress (newAddress userId payload isDefault d)
  pure (selectFields (newAddress userId payload isDefault d))

/-- The fields that the payload has. -/
def updateData (payload : UpdateUserAddressPayload) (a : SavedAddress) : SavedAddress :=
  { a with
    snapshot :=
      { a.snapshot with
        recipientName := payload.recipientName.getD a.snapshot.recipientName
        phone := payload.phone.or a.snapshot.phone
        addressLine1 := payload.addressLine1.getD a.snapshot.addressLine1
        addressLine2 := payload.addressLine2.or a.snapshot.addressLine2
        city := payload.city.getD a.snapshot.city
        state := payload.state.getD a.snapshot.state
        postalCode := payload.postalCode.getD a.snapshot.postalCode
        country := payload.country.getD a.snapshot.country }
    label := payload.label.or a.label
    isDefault := payload.isDefault.getD a.isDefault }

/-- Updates an existing address owned by the requesting user.  The flags of the other addresses
are cleared before the address is looked for. -/
def updateAddress (userId : UserId) (payload : UpdateUserAddressPayload) (addressId : AddressId) :
    Handler AddressView := do
  if payload.isDefault = some true then
    modify fun s => s.updateAddresses
      (fun a => a.userId = userId && a.isDefault && a.id ≠ addressId) clearDefault
  let s ← get
  match (s.addressesOf userId).find? fun a => a.id = addressId with
  | none => throw recordNotFound
  | some address =>
    modify fun s => s.updateAddresses (fun a => a.userId = userId && a.id = addressId)
      (updateData payload)
    pure (selectFields (updateData payload address))

/-- Safely deletes an address owned by the requesting user.  If the deleted address was default,
marks the newest remaining address as default. -/
def deleteAddress (userId : UserId) (addressId : AddressId) : Handler Unit := do
  let s ← get
  match (s.addressesOf userId).find? fun a => a.id = addressId with
  | none => throw ⟨"Address not found or unauthorized to delete", 404⟩
  | some address =>
    modify fun s => s.deleteAddress fun a => a.userId = userId && a.id = addressId
    if address.isDefault then
      let s ← get
      match (s.addressesOf userId).getLast? with
      | none => pure ()
      | some nextAddress =>
        modify fun s => s.updateAddresses (fun a => a.id = nextAddress.id)
          fun a => { a with isDefault := true }

/-! ## Whose addresses they are -/

section Isolated

variable {v userId : UserId} {d : Draw} {s : Shop} {A B : Prop}

lemma Shop.addressesOf_without (hne : userId ≠ v) :
    (s.without v).addressesOf userId = s.addressesOf userId := by
  refine Table.filter_filter_of fun a _ huser => ?_
  rw [of_decide_eq_true huser]
  exact decide_eq_true hne

/-- An update of addresses of the user. -/
lemma updateAddresses_isolated {p : SavedAddress → Bool} {f : SavedAddress → SavedAddress}
    (hs : s.Sound) (hid : ∀ a, (f a).id = a.id) (huser : ∀ a, (f a).userId = a.userId)
    (hp : ∀ a ∈ s.addresses, p a = true → a.userId = userId) :
    Isolated v (userId ≠ v) (userId ≠ v) (modify fun s => s.updateAddresses p f) s :=
  confined_modify (hs.sameRows (Shop.sameRows_updateAddresses hid huser))
    (fun hne => Shop.rowsOf_updateAddresses hid huser fun a ha hpa => hp a ha hpa ▸ hne)
    fun _ => Shop.without_updateAddresses hid huser

lemma getAddresses_isolated (hs : s.Sound) :
    Isolated v (userId ≠ v) (userId ≠ v) (getAddresses userId) s :=
  confined_get (fun hne => by rw [Shop.addressesOf_without hne]) (confined_pure hs _)

lemma insertAddress_isolated {payload : UserAddressPayload} {isDefault : Bool} (hs : s.Sound)
    (hd : d.addressId ∉ s.addresses.map fun a => a.id) :
    Isolated v (userId ≠ v) (userId ≠ v)
      (do
        modify fun s => s.insertAddress (newAddress userId payload isDefault d)
        pure (selectFields (newAddress userId payload isDefault d))) s := by
  refine (confined_modify ?_ ?_ ?_).bind fun _ _ _ ht => confined_pure ht _
  · exact hs.insertAddress hd
  · intro hne
    exact Shop.rowsOf_insertAddress hne
  · intro hne
    exact Shop.without_insertAddress hne

lemma createAddress_isolated {payload : UserAddressPayload} (hs : s.Sound) (hd : d.Fresh s) :
    Isolated v (userId ≠ v) (userId ≠ v) (createAddress userId payload d) s := by
  refine confined_get (fun hne => by rw [Shop.addressesOf_without hne]) ?_
  dsimp only
  split_ifs
  · refine (updateAddresses_isolated hs ?_ ?_ ?_).bind
      fun _ t hrun ht => insertAddress_isolated ht ?_
    · exact fun _ => rfl
    · exact fun _ => rfl
    · intro a _ hp
      exact of_decide_eq_true (Bool.and_eq_true_iff.mp hp).1
    · obtain ⟨-, rfl⟩ := EStateM.Result.ok.inj hrun
      have hids : (Table.updateWhere (fun a => a.userId = userId && a.isDefault) clearDefault
          s.addresses).map (fun a => a.id) = s.addresses.map fun a => a.id :=
        Table.map_updateWhere fun _ => rfl
      exact hids ▸ hd.addressId
  · exact insertAddress_isolated hs hd.addressId

lemma updateAddress_isolated {payload : UpdateUserAddressPayload} {addressId : AddressId}
    (hs : s.Sound) :
    Isolated v (userId ≠ v) (userId ≠ v) (updateAddress userId payload addressId) s := by
  have hupdate : ∀ t : Shop, t.Sound → Isolated v (userId ≠ v) (userId ≠ v)
      (do
        let s ← get
        match (s.addressesOf userId).find? fun a => a.id = addressId with
        | none => throw recordNotFound
        | some address =>
          modify fun s => s.updateAddresses (fun a => a.userId = userId && a.id = addressId)
            (updateData payload)
          pure (selectFields (updateData payload address))) t := by
    intro t ht
    refine confined_get (fun hne => by rw [Shop.addressesOf_without hne]) ?_
    split
    · exact confined_throw ht _
    · refine (updateAddresses_isolated ht ?_ ?_ ?_).bind fun _ _ _ ht' => confined_pure ht' _
      · exact fun _ => rfl
      · exact fun _ => rfl
      · intro a _ hp
        exact of_decide_eq_true (Bool.and_eq_true_iff.mp hp).1
  unfold updateAddress
  split_ifs
  · refine (updateAddresses_isolated hs ?_ ?_ ?_).bind fun _ t _ ht => hupdate t ht
    · exact fun _ => rfl
    · exact fun _ => rfl
    · intro a _ hp
      simp only [Bool.and_eq_true, decide_eq_true_eq] at hp
      exact hp.1.1
  · exact hupdate s hs

lemma deleteAddress_isolated {addressId : AddressId} (hs : s.Sound) :
    Isolated v (userId ≠ v) (userId ≠ v) (deleteAddress userId addressId) s := by
  refine confined_get (fun hne => by rw [Shop.addressesOf_without hne]) ?_
  split
  · exact confined_throw hs _
  · refine Confined.bind (confined_modify hs.deleteAddress (fun hne => ?_)
      fun _ => Shop.without_deleteAddress) fun _ t _ ht => ?_
    · refine Shop.rowsOf_deleteAddress fun a _ hp => ?_
      have huser : a.userId = userId := of_decide_eq_true (Bool.and_eq_true_iff.mp hp).1
      exact huser ▸ hne
    · split_ifs
      · refine confined_get (fun hne => by rw [Shop.addressesOf_without hne]) ?_
        split
        · exact confined_pure ht _
        · rename_i nextAddress hnext
          refine updateAddresses_isolated ht (fun _ => rfl) (fun _ => rfl) fun a ha hid => ?_
          have hmem := List.mem_filter.mp (List.mem_of_getLast? hnext)
          obtain rfl := List.inj_on_of_nodup_map ht.addresses_nodup ha hmem.1
            (of_decide_eq_true hid)
          exact of_decide_eq_true hmem.2
      · exact confined_pure ht _

end Isolated

end MeeoServer.Customers
