/-
# The default address

A user who has addresses is to have exactly one that is the default.  Whether a call keeps it
that way, and changes nothing if it fails, is worked out from the numbers of addresses that
satisfy a condition.
-/
import MeeoServer.Customers.AddressBook
import MeeoServer.Process.Sequences

namespace MeeoServer.AddressService

open Customers Storefront

/-! ## Calls -/

/-- A call of one user; `create` and `update` are `saveAddress`. -/
inductive Request where
  | create (payload : UserAddressPayload) (d : Draw)
  | update (payload : UpdateUserAddressPayload) (addressId : Option AddressId)
  | delete (addressId : AddressId)

structure Call where
  request : Request
  faults : Faults

section

variable (userId : UserId)

def Call.outcome (call : Call) (s : AddressBook) : Bool × AddressBook :=
  match call.request with
  | .create payload d => outcomeOf (createAddress userId payload d) call.faults s
  | .update payload addressId => outcomeOf (updateAddress userId payload addressId) call.faults s
  | .delete addressId => outcomeOf (deleteAddress userId addressId) call.faults s

def Call.leaves (call : Call) (s : AddressBook) : AddressBook := (call.outcome userId s).2

/-- A user who has an address has one that is the default. -/
def OneDefault (s : AddressBook) : Prop :=
  s.addressesOf userId ≠ [] → (s.addressesOf userId).countP (·.isDefault) = 1

instance (s : AddressBook) : Decidable (OneDefault userId s) := by
  unfold OneDefault
  infer_instance

/-- There is one default afterwards, and a call that fails changes nothing. -/
def Keeps (s : AddressBook) (outcome : Bool × AddressBook) : Prop :=
  OneDefault userId outcome.2 ∧ (outcome.1 = false → outcome.2 = s)

/-- The default address has this identifier. -/
def IsDefault (s : AddressBook) (addressId : AddressId) : Prop :=
  ∃ a ∈ s.addressesOf userId, a.id = addressId ∧ a.isDefault = true

instance (s : AddressBook) (addressId : AddressId) :
    Decidable (IsDefault userId s addressId) := by
  unfold IsDefault
  infer_instance

/-- The first address is not created without the flag; no default is cleared in vain, nor given up
by an update; and once the default is deleted, no statement fails. -/
def Call.Safe (call : Call) (s : AddressBook) : Prop :=
  match call.request with
  | .create payload d =>
    if s.addressesOf userId = [] then
      payload.isDefault = some false → call.faults 0 = true ∨ call.faults 1 = true ∨
        d.addressId ∈ s.rows.map fun a => a.id
    else
      payload.isDefault = some true → call.faults 0 = true ∨ call.faults 1 = true ∨
        call.faults 2 = false ∧ d.addressId ∉ s.rows.map fun a => a.id
  | .update _ none => True
  | .update payload (some addressId) =>
    match payload.isDefault with
    | none => True
    | some false => IsDefault userId s addressId → call.faults 0 = true
    | some true => call.faults 0 = true ∨ s.addressesOf userId = [] ∨
        IsDefault userId s addressId ∨
        call.faults 1 = false ∧ s.hasAddress userId addressId = true
  | .delete addressId => IsDefault userId s addressId → call.faults 0 = true ∨
      call.faults 1 = true ∨ call.faults 2 = false ∧
        ((s.addressesOf userId).length = 1 ∨ call.faults 3 = false)

instance (call : Call) (s : AddressBook) : Decidable (call.Safe userId s) := by
  unfold Call.Safe
  split
  · infer_instance
  · infer_instance
  · split <;> infer_instance
  · infer_instance

end

/-! ## Counting -/

section Counting

variable {userId : UserId} {addressId : AddressId} {s : AddressBook} {p q : SavedAddress → Bool}
  {f : SavedAddress → SavedAddress} {hid : ∀ a, (f a).id = a.id}

/-- The number of addresses of a user that satisfy a condition. -/
def tally (userId : UserId) (q : SavedAddress → Bool) (s : AddressBook) : ℕ :=
  (s.addressesOf userId).countP q

lemma tally_congr (h : ∀ a ∈ s.addressesOf userId, p a = q a) :
    tally userId p s = tally userId q s :=
  List.countP_congr fun a ha => by rw [h a ha]

lemma tally_pos_iff : 0 < tally userId q s ↔ ∃ a ∈ s.addressesOf userId, q a = true :=
  List.countP_pos_iff

lemma tally_eq_zero_iff : tally userId q s = 0 ↔ ∀ a ∈ s.addressesOf userId, ¬q a = true :=
  List.countP_eq_zero

/-- The number of all addresses of the user. -/
abbrev size (userId : UserId) (s : AddressBook) : ℕ := tally userId (fun _ => true) s

lemma size_eq : size userId s = (s.addressesOf userId).length :=
  congrFun List.countP_true _

lemma addressesOf_eq_nil_iff : s.addressesOf userId = [] ↔ size userId s = 0 := by
  rw [size_eq, List.length_eq_zero_iff]

lemma oneDefault_iff : OneDefault userId s ↔
    (size userId s = 0 ∨ tally userId (·.isDefault) s = 1) := by
  unfold OneDefault
  rw [Ne, addressesOf_eq_nil_iff, ← or_iff_not_imp_left]
  rfl

lemma tally_split (q p : SavedAddress → Bool) :
    tally userId q s =
      tally userId (fun a => q a && p a) s + tally userId (fun a => q a && !p a) s := by
  unfold tally
  rw [List.countP_eq_countP_filter_add _ q p, List.countP_filter, List.countP_filter]

lemma tally_le (h : ∀ a, p a = true → q a = true) : tally userId p s ≤ tally userId q s :=
  List.countP_mono_left fun a _ => h a

lemma tally_id_le_one : tally userId (fun a => a.id = addressId) s ≤ 1 :=
  (List.filter_sublist.countP_le).trans (Table.countP_key_le_one s.ids_nodup addressId)

lemma hasAddress_iff : s.hasAddress userId addressId = true ↔
    tally userId (fun a => a.id = addressId) s = 1 := by
  have hle : tally userId (fun a => a.id = addressId) s ≤ 1 := tally_id_le_one
  unfold AddressBook.hasAddress
  rw [List.any_eq_true, ← tally_pos_iff]
  omega

/-- The default with this identifier is counted by this condition. -/
abbrev defaultAt (addressId : AddressId) (a : SavedAddress) : Bool :=
  a.isDefault && a.id = addressId

lemma tally_defaultAt_le (userId : UserId) (addressId : AddressId) (s : AddressBook) :
    tally userId (defaultAt addressId) s ≤ tally userId (fun a => a.id = addressId) s :=
  tally_le fun _ h => (Bool.and_eq_true_iff.mp h).2

lemma isDefault_iff : IsDefault userId s addressId ↔ tally userId (defaultAt addressId) s = 1 := by
  have hle := tally_defaultAt_le userId addressId s
  have hone : tally userId (fun a => a.id = addressId) s ≤ 1 := tally_id_le_one
  have hpos : IsDefault userId s addressId ↔ 0 < tally userId (defaultAt addressId) s := by
    rw [tally_pos_iff]
    refine exists_congr fun a => and_congr_right fun _ => ?_
    rw [Bool.and_eq_true, decide_eq_true_iff, and_comm]
  rw [hpos]
  omega

lemma addressesOf_updateWhere (huser : ∀ a, (f a).userId = a.userId) :
    (s.updateWhere p f hid).addressesOf userId =
      Table.updateWhere p f (s.addressesOf userId) :=
  Table.filter_updateWhere fun a _ _ => by rw [huser]

lemma tally_updateWhere (huser : ∀ a, (f a).userId = a.userId) :
    tally userId q (s.updateWhere p f hid) =
      tally userId (fun a => if p a then q (f a) else q a) s := by
  unfold tally
  rw [addressesOf_updateWhere huser, Table.countP_updateWhere]

end Counting

/-! ## What the statements leave -/

section Effects

variable {userId : UserId} {addressId : AddressId} {s : AddressBook} {spared : Option AddressId}
  {payload : UpdateUserAddressPayload} {row : SavedAddress}

/-- An address of the user that is a default, but not this one. -/
abbrev defaultElsewhere (addressId : AddressId) (a : SavedAddress) : Bool :=
  a.isDefault && !(a.id = addressId : Bool)

lemma tally_isDefault (userId : UserId) (addressId : AddressId) (s : AddressBook) :
    tally userId (·.isDefault) s =
      tally userId (defaultAt addressId) s + tally userId (defaultElsewhere addressId) s :=
  tally_split _ _

lemma owner_of_mem {a : SavedAddress} (h : a ∈ s.addressesOf userId) : a.userId = userId :=
  of_decide_eq_true (List.mem_filter.mp h).2

lemma tally_clear {q : SavedAddress → Bool} : tally userId q (s.clear userId spared) =
    tally userId (fun a => if a.isDefault && some a.id ≠ spared then q (clearDefault a) else q a)
      s := by
  refine (tally_updateWhere (f := clearDefault) fun _ => rfl).trans (tally_congr fun a ha => ?_)
  rw [owner_of_mem ha, decide_eq_true rfl, Bool.true_and]

lemma tally_isDefault_clear_none : tally userId (·.isDefault) (s.clear userId none) = 0 := by
  rw [tally_clear, tally_eq_zero_iff]
  intro a _
  cases a.isDefault
  · simp
  · simp [clearDefault]

lemma tally_elsewhere_clear :
    tally userId (defaultElsewhere addressId) (s.clear userId (some addressId)) = 0 := by
  rw [tally_clear, tally_eq_zero_iff]
  intro a _
  by_cases hid : a.id = addressId <;> cases hdefault : a.isDefault <;>
    simp [defaultElsewhere, clearDefault, hid, hdefault]

lemma tally_id_clear : tally userId (fun a => a.id = addressId) (s.clear userId spared) =
    tally userId (fun a => a.id = addressId) s := by
  rw [tally_clear]
  exact tally_congr fun a _ => ite_self _

/-- Nothing is cleared if no default is to be cleared. -/
lemma clear_eq_self (h : ∀ a ∈ s.addressesOf userId, a.isDefault = true → some a.id = spared) :
    s.clear userId spared = s := by
  refine AddressBook.ext_rows (Table.updateWhere_of_not fun a ha => ?_)
  by_contra hp
  simp only [Bool.not_eq_false, Bool.and_eq_true, decide_eq_true_eq] at hp
  exact hp.2 (h a (List.mem_filter.mpr ⟨ha, decide_eq_true hp.1.1⟩) hp.1.2)

lemma clear_some_eq_self (h : tally userId (defaultElsewhere addressId) s = 0) :
    s.clear userId (some addressId) = s := by
  refine clear_eq_self fun a ha hdefault => congrArg some ?_
  by_contra hid
  refine tally_eq_zero_iff.mp h a ha ?_
  rw [defaultElsewhere, hdefault, decide_eq_false hid]
  rfl

lemma tally_updated {q : SavedAddress → Bool} :
    tally userId q (s.updated userId addressId payload) =
      tally userId (fun a => if a.id = addressId then q (updateData payload a) else q a) s := by
  refine (tally_updateWhere (f := updateData payload) fun _ => rfl).trans
    (tally_congr fun a ha => ?_)
  rw [owner_of_mem ha, decide_eq_true rfl, Bool.true_and]
  simp only [decide_eq_true_eq]

lemma size_updated : size userId (s.updated userId addressId payload) = size userId s := by
  rw [size, tally_updated]
  exact tally_congr fun a _ => ite_self _

lemma tally_isDefault_updated_none (h : payload.isDefault = none) :
    tally userId (·.isDefault) (s.updated userId addressId payload) =
      tally userId (·.isDefault) s := by
  rw [tally_updated]
  refine tally_congr fun a _ => ?_
  simp only [updateData, h, Option.getD_none, ite_self]

lemma tally_isDefault_updated_false (h : payload.isDefault = some false) :
    tally userId (·.isDefault) (s.updated userId addressId payload) =
      tally userId (defaultElsewhere addressId) s := by
  rw [tally_updated]
  refine tally_congr fun a _ => ?_
  by_cases hid : a.id = addressId <;> simp [updateData, h, defaultElsewhere, hid]

lemma tally_isDefault_updated_true (h : payload.isDefault = some true) :
    tally userId (·.isDefault) (s.updated userId addressId payload) =
      tally userId (fun a => a.id = addressId) s + tally userId (defaultElsewhere addressId) s := by
  rw [tally_updated, tally_split _ fun a => a.id = addressId]
  congr 1
  · refine tally_congr fun a _ => ?_
    by_cases hid : a.id = addressId <;> simp [updateData, h, hid]
  · refine tally_congr fun a _ => ?_
    by_cases hid : a.id = addressId <;> simp [defaultElsewhere, hid]

lemma tally_append {q : SavedAddress → Bool} {hid : row.id ∉ s.rows.map fun a => a.id}
    (huser : row.userId = userId) :
    tally userId q (s.append row hid) = tally userId q s + if q row then 1 else 0 := by
  have happend : (s.append row hid).addressesOf userId = s.addressesOf userId ++ [row] :=
    Table.filter_append_of (decide_eq_true huser)
  unfold tally
  rw [happend, List.countP_append, List.countP_singleton]

lemma addressesOf_deleted : (s.deleted userId addressId).addressesOf userId =
    (s.addressesOf userId).filter fun a => !(a.id = addressId : Bool) := by
  unfold AddressBook.deleted AddressBook.filter AddressBook.addressesOf
  dsimp only
  rw [Table.filter_comm]
  refine List.filter_congr fun a ha => ?_
  rw [owner_of_mem ha, decide_eq_true rfl, Bool.true_and]

lemma tally_deleted {q : SavedAddress → Bool} : tally userId q (s.deleted userId addressId) =
    tally userId (fun a => q a && !(a.id = addressId : Bool)) s := by
  unfold tally
  rw [addressesOf_deleted, List.countP_filter]

/-- The address is counted among all that there were. -/
lemma size_deleted (userId : UserId) (addressId : AddressId) (s : AddressBook) :
    size userId (s.deleted userId addressId) + tally userId (fun a => a.id = addressId) s =
      size userId s := by
  have hsplit : size userId s = _ := tally_split (fun _ => true) fun a => a.id = addressId
  have hdeleted : size userId (s.deleted userId addressId) = _ := tally_deleted
  simp only [Bool.true_and] at hsplit hdeleted
  omega

/-- The newest address of the user becomes the default, where there is no other. -/
lemma tally_isDefault_makeDefault {a : SavedAddress} (ha : a ∈ s.addressesOf userId)
    (hnone : tally userId (·.isDefault) s = 0) :
    tally userId (·.isDefault) (s.updateWhere (fun b => b.id = a.id) makeDefault fun _ => rfl) =
      1 := by
  have hone : tally userId (fun b => b.id = a.id) s = 1 := by
    refine le_antisymm tally_id_le_one (Nat.succ_le_of_lt (tally_pos_iff.mpr ⟨a, ha, ?_⟩))
    exact decide_eq_true rfl
  rw [← hone]
  refine (tally_updateWhere (f := makeDefault) fun _ => rfl).trans (tally_congr fun b hb => ?_)
  by_cases hid : b.id = a.id
  · simp [makeDefault, hid]
  · simpa [hid] using tally_eq_zero_iff.mp hnone b hb

end Effects

/-! ## Calls that keep the default -/

section Calls

variable {userId : UserId} {addressId : AddressId} {s t : AddressBook} {faults : Faults}
  {row : SavedAddress}

lemma keeps_refl (hs : OneDefault userId s) (ok : Bool) : Keeps userId s (ok, s) :=
  ⟨hs, fun _ => rfl⟩

/-- A call that has returned. -/
lemma keeps_ok_iff : Keeps userId s (true, t) ↔
    (size userId t = 0 ∨ tally userId (·.isDefault) t = 1) := by
  unfold Keeps
  rw [oneDefault_iff]
  exact and_iff_left fun h => nomatch h

/-- A call that has failed must not have changed the number of the defaults. -/
lemma not_keeps_failed (h : tally userId (·.isDefault) t ≠ tally userId (·.isDefault) s) :
    ¬Keeps userId s (false, t) :=
  fun hkeeps => h (congrArg _ (hkeeps.2 rfl))

/-- The first address. -/
lemma insert_first_keeps_iff (hs : size userId s = 0) (huser : row.userId = userId) :
    Keeps userId s (outcomeOf (insertAddress row) faults s) ↔
      (row.isDefault = false → faults 0 = true ∨ row.id ∈ s.rows.map fun a => a.id) := by
  have hdefaults : tally userId (·.isDefault) s = 0 :=
    Nat.le_zero.mp (hs ▸ tally_le fun _ _ => rfl)
  rcases insertAddress_outcome row faults s with
    ⟨hfails, heq⟩ | ⟨hfault, hid, heq⟩
  · rw [heq]
    exact iff_of_true (keeps_refl (oneDefault_iff.mpr (Or.inl hs)) false) fun _ => hfails
  · rw [heq]
    refine keeps_ok_iff.trans ?_
    have hnone : tally userId (fun _ => true) s = 0 := hs
    rw [tally_append huser, size, tally_append huser, hnone, hdefaults, hfault]
    cases row.isDefault <;> simp [hid]

/-- A further address, which is not the default. -/
lemma insert_other_keeps (hs : tally userId (·.isDefault) s = 1) (huser : row.userId = userId)
    (hrow : row.isDefault = false) : Keeps userId s (outcomeOf (insertAddress row) faults s) := by
  rcases insertAddress_outcome row faults s with
    ⟨-, heq⟩ | ⟨-, hid, heq⟩
  · rw [heq]
    exact keeps_refl (oneDefault_iff.mpr (Or.inr hs)) false
  · rw [heq]
    refine keeps_ok_iff.mpr (Or.inr ?_)
    rw [tally_append huser, hs, hrow]
    rfl

/-- A further address, which takes the place of the default. -/
lemma insert_default_keeps_iff (faults : Faults) (hs : tally userId (·.isDefault) s = 1)
    (huser : row.userId = userId) (hrow : row.isDefault = true) :
    Keeps userId s (outcomeOf (insertAddress row) faults (s.clear userId none)) ↔
      faults 0 = false ∧ row.id ∉ s.rows.map fun a => a.id := by
  rcases insertAddress_outcome row faults (s.clear userId none) with
    ⟨hfails, heq⟩ | ⟨hfault, hid, heq⟩
  · rw [heq]
    refine iff_of_false (not_keeps_failed ?_) fun h => ?_
    · rw [tally_isDefault_clear_none, hs]
      exact Nat.zero_ne_one
    · rw [ids_clear, h.1] at hfails
      exact hfails.elim Bool.false_ne_true h.2
  · rw [heq]
    refine iff_of_true (keeps_ok_iff.mpr (Or.inr ?_)) ⟨hfault, ids_clear ▸ hid⟩
    rw [tally_append huser, tally_isDefault_clear_none, hrow]
    rfl

lemma create_keeps_iff (hs : OneDefault userId s) {payload : UserAddressPayload} {d : Draw} :
    Keeps userId s (Call.outcome userId ⟨.create payload d, faults⟩ s) ↔
      Call.Safe userId ⟨.create payload d, faults⟩ s := by
  unfold Call.outcome Call.Safe createAddress
  dsimp only
  rw [outcomeOf_read]
  cases faults 0 with
  | true =>
    -- the count fails, and the call with it
    refine iff_of_true (keeps_refl hs false) ?_
    split_ifs
    · exact fun _ => Or.inl rfl
    · exact fun _ => Or.inl rfl
  | false =>
    rw [if_neg Bool.false_ne_true, ← size_eq]
    by_cases hempty : size userId s = 0
    · -- the first address is the default unless the payload says that it is not
      rw [if_pos (addressesOf_eq_nil_iff.mpr hempty), hempty, if_neg (by simp)]
      refine (insert_first_keeps_iff hempty rfl).trans ?_
      cases payload.isDefault with
      | none => exact iff_of_true (fun h => nomatch h) fun h => nomatch h
      | some flag => cases flag <;> simp [newAddress, Faults.next]
    · have hone := (oneDefault_iff.mp hs).resolve_left hempty
      rw [if_neg (mt addressesOf_eq_nil_iff.mp hempty), decide_eq_false hempty,
        decide_eq_true (Nat.pos_of_ne_zero hempty), Bool.and_true]
      cases hflag : payload.isDefault.getD false with
      | false =>
        -- the flags of the others are not touched
        rw [if_neg Bool.false_ne_true]
        refine iff_of_true (insert_other_keeps hone rfl rfl) fun hasked => ?_
        rw [hasked] at hflag
        cases hflag
      | true =>
        have hasked : payload.isDefault = some true := by
          cases hpayload : payload.isDefault with
          | none => rw [hpayload] at hflag; cases hflag
          | some flag => rw [hpayload] at hflag; exact congrArg some hflag
        rw [if_pos rfl, outcomeOf_commit]
        cases hfault : faults.next 0 with
        | true => exact iff_of_true (keeps_refl hs false) fun _ => Or.inr (Or.inl hfault)
        | false =>
          -- the others have lost the flag: now the insertion must not fail
          refine (insert_default_keeps_iff faults.next.next hone rfl rfl).trans ?_
          have hone' : faults 1 = false := hfault
          rw [hone']
          constructor
          · exact fun h _ => Or.inr (Or.inr h)
          · exact fun h =>
              ((h hasked).resolve_left Bool.false_ne_true).resolve_left Bool.false_ne_true

lemma size_pos_of_hasAddress (h : s.hasAddress userId addressId = true) :
    0 < size userId s := by
  obtain ⟨a, ha, -⟩ := List.any_eq_true.mp h
  exact tally_pos_iff.mpr ⟨a, ha, rfl⟩

/-- A user whose default is nowhere else has it here, or has no address. -/
lemma elsewhere_eq_zero_iff (hs : OneDefault userId s) :
    tally userId (defaultElsewhere addressId) s = 0 ↔
      (size userId s = 0 ∨ tally userId (defaultAt addressId) s = 1) := by
  have hsplit := tally_isDefault userId addressId s
  have hle : tally userId (·.isDefault) s ≤ size userId s := tally_le fun _ _ => rfl
  rcases oneDefault_iff.mp hs with hempty | hone <;> omega

/-- An update that is to make the address the default. -/
lemma update_true_keeps_iff (faults : Faults) (hs : OneDefault userId s)
    {payload : UpdateUserAddressPayload} (h : payload.isDefault = some true) :
    Keeps userId s (outcomeOf (updateFields userId payload addressId) faults
      (s.clear userId (some addressId))) ↔
      (s.addressesOf userId = [] ∨ IsDefault userId s addressId ∨
        faults 0 = false ∧ s.hasAddress userId addressId = true) := by
  have hhas : (s.clear userId (some addressId)).hasAddress userId addressId = true ↔
      s.hasAddress userId addressId = true := by
    rw [hasAddress_iff, hasAddress_iff, tally_id_clear]
  rcases updateFields_outcome userId payload addressId faults
    (s.clear userId (some addressId)) with ⟨hfails, heq⟩ | ⟨hdone, heq⟩
  · -- the update fails after the demotion, which is harmless only if it has changed nothing
    have hnot : ¬(faults 0 = false ∧ s.hasAddress userId addressId = true) := by
      rintro ⟨hfault, hsome⟩
      rw [hfault] at hfails
      exact hfails.elim Bool.false_ne_true fun h => h (hhas.mpr hsome)
    rw [heq, or_iff_left hnot, addressesOf_eq_nil_iff, isDefault_iff, ← elsewhere_eq_zero_iff hs]
    constructor
    · intro hkeeps
      have hsame := hkeeps.2 rfl
      rw [← hsame]
      exact tally_elsewhere_clear
    · intro hzero
      rw [clear_some_eq_self hzero]
      exact keeps_refl hs false
  · rw [heq]
    refine iff_of_true (keeps_ok_iff.mpr (Or.inr ?_)) (Or.inr (Or.inr ⟨hdone.1, hhas.mp hdone.2⟩))
    rw [tally_isDefault_updated_true h, tally_elsewhere_clear, hasAddress_iff.mp hdone.2]

/-- An update that is to take the flag away. -/
lemma update_false_keeps_iff (hs : OneDefault userId s) {payload : UpdateUserAddressPayload}
    (h : payload.isDefault = some false) :
    Keeps userId s (outcomeOf (updateFields userId payload addressId) faults s) ↔
      (IsDefault userId s addressId → faults 0 = true) := by
  have hsplit := tally_isDefault userId addressId s
  have hle := tally_defaultAt_le userId addressId s
  rw [isDefault_iff]
  rcases updateFields_outcome userId payload addressId faults s with
    ⟨hfails, heq⟩ | ⟨⟨hfault, hhas⟩, heq⟩
  · rw [heq]
    refine iff_of_true (keeps_refl hs false) fun hat => hfails.resolve_right fun hnone => ?_
    have hid : tally userId (fun a => a.id = addressId) s ≤ 1 := tally_id_le_one
    exact hnone (hasAddress_iff.mpr (by omega))
  · have hpos := size_pos_of_hasAddress hhas
    have hone := (oneDefault_iff.mp hs).resolve_left (by omega)
    rw [heq, keeps_ok_iff, size_updated, tally_isDefault_updated_false h, hfault]
    constructor
    · intro hkeeps hat
      omega
    · intro hsafe
      have hnot : tally userId (defaultAt addressId) s ≠ 1 :=
        fun hat => Bool.false_ne_true (hsafe hat)
      have hid : tally userId (fun a => a.id = addressId) s ≤ 1 := tally_id_le_one
      omega

/-- An update that says nothing of the flag. -/
lemma update_none_keeps (hs : OneDefault userId s) {payload : UpdateUserAddressPayload}
    (h : payload.isDefault = none) :
    Keeps userId s (outcomeOf (updateFields userId payload addressId) faults s) := by
  rcases updateFields_outcome userId payload addressId faults s with ⟨-, heq⟩ | ⟨-, heq⟩
  · rw [heq]
    exact keeps_refl hs false
  · rw [heq, keeps_ok_iff, size_updated, tally_isDefault_updated_none h]
    exact oneDefault_iff.mp hs

lemma update_keeps_iff (hs : OneDefault userId s) {payload : UpdateUserAddressPayload}
    {addressId : Option AddressId} :
    Keeps userId s (Call.outcome userId ⟨.update payload addressId, faults⟩ s) ↔
      Call.Safe userId ⟨.update payload addressId, faults⟩ s := by
  unfold Call.outcome Call.Safe updateAddress
  cases addressId with
  | none => exact iff_of_true (keeps_refl hs false) trivial
  | some addressId =>
    dsimp only
    cases hflag : payload.isDefault with
    | none =>
      rw [if_neg (by simp)]
      exact iff_of_true (update_none_keeps hs hflag) trivial
    | some flag =>
      cases flag with
      | false =>
        rw [if_neg (by simp)]
        exact update_false_keeps_iff hs hflag
      | true =>
        rw [if_pos rfl, outcomeOf_commit]
        cases faults 0 with
        | true => exact iff_of_true (keeps_refl hs false) (Or.inl rfl)
        | false =>
          rw [or_iff_right Bool.false_ne_true]
          exact update_true_keeps_iff faults.next hs hflag

lemma isDefault_iff_of_find {address : SavedAddress}
    (h : (s.addressesOf userId).find? (fun a => a.id = addressId) = some address) :
    IsDefault userId s addressId ↔ address.isDefault = true := by
  have hmem := List.mem_of_find?_eq_some h
  have hfound := List.find?_some h
  have hid : address.id = addressId := of_decide_eq_true hfound
  constructor
  · rintro ⟨a, ha, haid, hdefault⟩
    have heq : a = address := List.inj_on_of_nodup_map s.ids_nodup (List.mem_of_mem_filter ha)
      (List.mem_of_mem_filter hmem) (haid.trans hid.symm)
    exact heq ▸ hdefault
  · exact fun hdefault => ⟨address, hmem, hid, hdefault⟩

/-- After the default has been deleted. -/
lemma promoteNewest_keeps_iff (faults : Faults) (hs : OneDefault userId s)
    (hdefault : IsDefault userId s addressId) :
    Keeps userId s (outcomeOf (promoteNewest userId) faults (s.deleted userId addressId)) ↔
      faults 0 = false ∧ ((s.addressesOf userId).length = 1 ∨ faults 1 = false) := by
  have hat := isDefault_iff.mp hdefault
  have hid : tally userId (fun a => a.id = addressId) s = 1 := by
    have hle := tally_defaultAt_le userId addressId s
    have hone : tally userId (fun a => a.id = addressId) s ≤ 1 := tally_id_le_one
    omega
  have hsize := size_deleted userId addressId s
  have hnone : tally userId (·.isDefault) (s.deleted userId addressId) = 0 := by
    rw [tally_deleted]
    exact (elsewhere_eq_zero_iff hs).mpr (Or.inr hat)
  have hfailed : ¬Keeps userId s (false, s.deleted userId addressId) := by
    intro hkeeps
    have hsame : s.deleted userId addressId = s := hkeeps.2 rfl
    rw [hsame] at hsize
    omega
  unfold promoteNewest
  rw [outcomeOf_read, ← size_eq]
  -- from here on every failure leaves the addresses without a default
  cases faults 0 with
  | true => exact iff_of_false hfailed fun h => nomatch h.1
  | false =>
    rw [if_neg Bool.false_ne_true, and_iff_right rfl]
    cases hlast : ((s.deleted userId addressId).addressesOf userId).getLast? with
    | none =>
      have hempty := addressesOf_eq_nil_iff.mp (List.getLast?_eq_none_iff.mp hlast)
      exact iff_of_true (keeps_ok_iff.mpr (Or.inl hempty)) (Or.inl (by omega))
    | some nextAddress =>
      have hmem := List.mem_of_getLast? hlast
      have hpos : 0 < size userId (s.deleted userId addressId) :=
        tally_pos_iff.mpr ⟨nextAddress, hmem, rfl⟩
      rw [or_iff_right (by omega)]
      dsimp only
      rw [outcomeOf_commit]
      have hany : ((s.deleted userId addressId).rows.any fun a => a.id = nextAddress.id) = true :=
        List.any_eq_true.mpr ⟨nextAddress, List.mem_of_mem_filter hmem, decide_eq_true rfl⟩
      dsimp only [Statement.apply]
      rw [hany]
      cases hfault : faults.next 0 with
      | true => exact iff_of_false hfailed fun h => Bool.false_ne_true (h.symm.trans hfault)
      | false =>
        have hkeeps := tally_isDefault_makeDefault hmem hnone
        exact iff_of_true (keeps_ok_iff.mpr (Or.inr hkeeps)) hfault

lemma delete_keeps_iff (hs : OneDefault userId s) :
    Keeps userId s (Call.outcome userId ⟨.delete addressId, faults⟩ s) ↔
      Call.Safe userId ⟨.delete addressId, faults⟩ s := by
  unfold Call.outcome Call.Safe deleteAddress
  dsimp only
  rw [outcomeOf_read]
  cases faults 0 with
  | true => exact iff_of_true (keeps_refl hs false) fun _ => Or.inl rfl
  | false =>
    rw [if_neg Bool.false_ne_true, or_iff_right Bool.false_ne_true]
    cases hfind : (s.addressesOf userId).find? fun a => a.id = addressId with
    | none =>
      refine iff_of_true (keeps_refl hs false) fun ⟨a, ha, hid, _⟩ => ?_
      exact absurd (decide_eq_true hid) (List.find?_eq_none.mp hfind a ha)
    | some address =>
      have hfound := List.find?_some hfind
      have hhas : s.hasAddress userId addressId = true :=
        List.any_eq_true.mpr ⟨address, List.mem_of_find?_eq_some hfind, hfound⟩
      rw [isDefault_iff_of_find hfind]
      dsimp only
      rw [outcomeOf_commit]
      dsimp only [Statement.apply]
      rw [if_pos hhas]
      cases hfault : faults.next 0 with
      | true => exact iff_of_true (keeps_refl hs false) fun _ => Or.inl hfault
      | false =>
        have hone : faults 1 = false := hfault
        rw [hone, or_iff_right Bool.false_ne_true]
        cases hdefault : address.isDefault with
        | true =>
          -- the default is gone, and the newest address takes its place
          have hat := (isDefault_iff_of_find hfind).mpr hdefault
          refine (promoteNewest_keeps_iff faults.next.next hs hat).trans ?_
          exact ⟨fun h _ => h, fun h => h rfl⟩
        | false =>
          refine iff_of_true (keeps_ok_iff.mpr ?_) fun h => nomatch h
          have hat : tally userId (defaultAt addressId) s ≠ 1 := fun hat => by
            have htrue := (isDefault_iff_of_find hfind).mp (isDefault_iff.mpr hat)
            rw [hdefault] at htrue
            cases htrue
          have hsplit := tally_isDefault userId addressId s
          have hle := tally_defaultAt_le userId addressId s
          have hid : tally userId (fun a => a.id = addressId) s ≤ 1 := tally_id_le_one
          have hpos := size_pos_of_hasAddress hhas
          have hone := (oneDefault_iff.mp hs).resolve_left (by omega)
          have hleft : tally userId (·.isDefault) (s.deleted userId addressId) =
              tally userId (defaultElsewhere addressId) s := tally_deleted
          exact Or.inr (hleft.trans (by omega))

/-- One call. -/
lemma Call.keeps_iff {call : Call} (hs : OneDefault userId s) :
    Keeps userId s (call.outcome userId s) ↔ call.Safe userId s := by
  obtain ⟨request, faults⟩ := call
  cases request with
  | create payload d => exact create_keeps_iff hs
  | update payload addressId => exact update_keeps_iff hs
  | delete addressId => exact delete_keeps_iff hs

/-- **Exactly one default address**: every call of a sequence keeps it, and changes nothing if it
fails, exactly if every call is safe where the ones before it have led. -/
theorem oneDefault_run_iff (userId : UserId) (calls : List Call) {s : AddressBook}
    (hs : OneDefault userId s) :
    Sequences.Along (Call.leaves userId)
        (fun call s => Keeps userId s (call.outcome userId s)) calls s ↔
      Sequences.Along (Call.leaves userId) (Call.Safe userId) calls s :=
  Sequences.along_congr hs (fun _ _ hs => Call.keeps_iff hs) fun _ _ _ hkeeps => hkeeps.1

def noAddresses : AddressBook := ⟨[], List.nodup_nil⟩

def homeDraw (addressId : AddressId) : Draw := ⟨0, "ORD-1", 0, 0, 0, 0, addressId, .failed, "00", 0⟩

def homeAddress (isDefault : Option Bool) : UserAddressPayload :=
  ⟨"A", none, none, "Road 1", none, "Mumbai", "Maharashtra", "400001", "India", isDefault⟩

/-- An address, and a second one that becomes the default. -/
theorem oneDefault_run_iff_moved : OneDefault 1 noAddresses ∧
    Sequences.Along (Call.leaves 1) (fun call s => Keeps 1 s (call.outcome 1 s))
      [⟨.create (homeAddress none) (homeDraw 0), Faults.none⟩,
        ⟨.create (homeAddress (some true)) (homeDraw 1), Faults.none⟩]
      noAddresses :=
  ⟨by decide +kernel, (oneDefault_run_iff 1 _ (by decide +kernel)).mpr (by decide +kernel)⟩

/-- The first address is created without the flag. -/
theorem first_without_default : ¬∀ (userId : UserId) (calls : List Call),
    Sequences.Along (Call.leaves userId)
      (fun call s => Keeps userId s (call.outcome userId s)) calls noAddresses := by
  intro h
  have hkeeps := (h 1 [⟨.create (homeAddress (some false)) (homeDraw 0), Faults.none⟩]).1
  exact absurd hkeeps.1 (by decide +kernel)

end Calls

end MeeoServer.AddressService
