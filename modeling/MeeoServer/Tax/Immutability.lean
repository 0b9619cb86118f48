/-
# Invoices after the fact

An invoice takes the name of the state, the address, the city and the postal code of its supplier
from the present default seller.  It stays as it was for as long as this is the seller that the
order has recorded, or one that cannot be told from it by these columns.
-/
import MeeoServer.Process.Sequences
import MeeoServer.Tax.Invoices

namespace MeeoServer.Invoices

open SellerTax

/-! ## The seller that is recorded -/

/-- The snapshot holds the columns of this seller. -/
structure OrderTaxSnapshot.Records (snapshot : OrderTaxSnapshot) (seller : SellerTaxProfile) :
    Prop where
  id : snapshot.sellerProfileId = some seller.id
  legalName : snapshot.sellerLegalName = seller.legalBusinessName
  tradeName : snapshot.sellerTradeName = seller.tradeName
  gstin : snapshot.sellerGstin = seller.gstin
  stateCode : snapshot.sellerStateCode = seller.stateCode

lemma createTaxSnapshot_records {seller : SellerTaxProfile} {customerGstin : Option String}
    {gst : GstCalculationResult} : (createTaxSnapshot seller customerGstin gst).Records seller :=
  ⟨rfl, rfl, rfl, rfl, rfl⟩

/-- On an invoice, `current` cannot be told from the recorded seller. -/
structure SuppliesAs (seller current : SellerTaxProfile) : Prop where
  stateName : current.stateName = seller.stateName
  address : addressText current.addressLine1 current.addressLine2 =
    addressText seller.addressLine1 seller.addressLine2
  city : current.city = seller.city
  postalCode : current.postalCode = seller.postalCode
  legalName : presentOr (some seller.legalBusinessName) current.legalBusinessName =
    seller.legalBusinessName
  tradeName : presentOr (some seller.tradeName) current.tradeName = seller.tradeName
  gstin : presentOr (some seller.gstin) current.gstin = seller.gstin
  stateCode : presentOr (some seller.stateCode) current.stateCode = seller.stateCode

instance (seller current : SellerTaxProfile) : Decidable (SuppliesAs seller current) :=
  decidable_of_iff (current.stateName = seller.stateName ∧
    addressText current.addressLine1 current.addressLine2 =
      addressText seller.addressLine1 seller.addressLine2 ∧
    current.city = seller.city ∧ current.postalCode = seller.postalCode ∧
    presentOr (some seller.legalBusinessName) current.legalBusinessName =
      seller.legalBusinessName ∧
    presentOr (some seller.tradeName) current.tradeName = seller.tradeName ∧
    presentOr (some seller.gstin) current.gstin = seller.gstin ∧
    presentOr (some seller.stateCode) current.stateCode = seller.stateCode)
    ⟨fun ⟨h₁, h₂, h₃, h₄, h₅, h₆, h₇, h₈⟩ => ⟨h₁, h₂, h₃, h₄, h₅, h₆, h₇, h₈⟩,
      fun ⟨h₁, h₂, h₃, h₄, h₅, h₆, h₇, h₈⟩ => ⟨h₁, h₂, h₃, h₄, h₅, h₆, h₇, h₈⟩⟩

/-- The block of a seller who is recorded and still the default. -/
def supplierBlock (seller : SellerTaxProfile) : Supplier where
  legalName := seller.legalBusinessName
  tradeName := seller.tradeName
  gstin := seller.gstin
  stateCode := seller.stateCode
  stateName := seller.stateName
  address := addressText seller.addressLine1 seller.addressLine2
  city := seller.city
  postalCode := seller.postalCode

lemma presentOr_self {text : String} : presentOr (some text) text = text := by
  unfold presentOr orText
  split_ifs <;> rfl

lemma suppliesAs_refl (seller : SellerTaxProfile) : SuppliesAs seller seller :=
  ⟨rfl, rfl, rfl, rfl, presentOr_self, presentOr_self, presentOr_self, presentOr_self⟩

lemma supplierOf_eq_iff {snapshot : OrderTaxSnapshot} {seller current : SellerTaxProfile}
    (h : snapshot.Records seller) :
    supplierOf (some snapshot) current = supplierBlock seller ↔ SuppliesAs seller current := by
  unfold supplierOf supplierBlock
  rw [Option.map_some, Option.map_some, Option.map_some, Option.map_some, h.legalName,
    h.tradeName, h.gstin, h.stateCode, Supplier.mk.injEq]
  constructor
  · rintro ⟨hlegal, htrade, hgstin, hcode, hname, haddress, hcity, hpostal⟩
    exact ⟨hname, haddress, hcity, hpostal, hlegal, htrade, hgstin, hcode⟩
  · intro h
    exact ⟨h.legalName, h.tradeName, h.gstin, h.stateCode, h.stateName, h.address, h.city,
      h.postalCode⟩

/-- The table has an active default, and on an invoice it cannot be told from the recorded
seller. -/
def SuppliedBy (seller : SellerTaxProfile) (rows : List SellerTaxProfile) : Prop :=
  ∃ current, findDefault rows = some current ∧ SuppliesAs seller current

instance (seller : SellerTaxProfile) (rows : List SellerTaxProfile) :
    Decidable (SuppliedBy seller rows) :=
  match h : findDefault rows with
  | some current => decidable_of_iff (SuppliesAs seller current)
      ⟨fun hcurrent => ⟨current, h, hcurrent⟩,
        fun ⟨_, hfind, hother⟩ => Option.some.inj (h.symm.trans hfind) ▸ hother⟩
  | none => isFalse fun ⟨_, hfind, _⟩ => Option.some_ne_none _ (hfind.symm.trans h)

/-! ## Calls that keep it -/

/-- A call, with the identifier that the database draws for it and the statements that fail. -/
structure UpsertCall where
  newId : SellerId
  input : UpsertSellerProfileInput
  faults : Faults

namespace UpsertCall

variable (toUpperCase : String → String) (seller : SellerTaxProfile)

/-- The profiles after the call. -/
def leaves (call : UpsertCall) (s : Sellers) : Sellers :=
  ((upsertSellerProfile toUpperCase call.newId call.input).runFaulty Statement.apply
    call.faults s).2

/-- The statement changes nothing. -/
def Fails (fault : Bool) (statement : Statement) (s : Sellers) : Prop :=
  fault = true ∨ ¬statement.Accepted s.rows

instance (fault : Bool) (statement : Statement) (s : Sellers) :
    Decidable (Fails fault statement s) := by
  unfold Fails
  infer_instance

/-- The call fails its checks or fails before it has changed anything; or it does not ask to be
the default, and does not overwrite the only suitable one; or it names a new default, which
cannot be told from the recorded seller. -/
def KeepsSupplier (call : UpsertCall) (s : Sellers) : Prop :=
  match validatedSeller toUpperCase call.input with
  | .error _ => True
  | .ok (gstin, stateInfo) =>
    let row := profileRow (call.input.id.getD call.newId) call.input gstin stateInfo
    let statement := writeProfile call.newId call.input gstin stateInfo
    if call.input.isDefaultPlatformSeller = some true then
      call.faults 0 = true ∨
        ¬Fails (call.faults 1) statement s ∧ row.isActive = true ∧ SuppliesAs seller row
    else
      Fails (call.faults 0) statement s ∨ call.input.id = none ∨
        SuppliedBy seller (s.rows.filter (·.id ≠ row.id))

instance (call : UpsertCall) (s : Sellers) :
    Decidable (call.KeepsSupplier toUpperCase seller s) := by
  unfold KeepsSupplier
  cases validatedSeller toUpperCase call.input <;> infer_instance

end UpsertCall

/-! ## The default after a call -/

section Defaults

variable {s s' : Sellers} {row : SellerTaxProfile}

/-- The condition of `findFirst` -/
abbrev isDefault (row : SellerTaxProfile) : Bool := row.isDefaultPlatformSeller && row.isActive

lemma findDefault_eq_head? (rows : List SellerTaxProfile) :
    findDefault rows = (rows.filter isDefault).head? := List.head?_filter.symm

/-- A profile that is overwritten, and is not the default afterwards. -/
lemma findDefault_update_of_not (happ : (Statement.update row).apply s = some s')
    (hrow : isDefault row = false) :
    findDefault s'.rows = findDefault (s.rows.filter (·.id ≠ row.id)) := by
  obtain ⟨-, heq⟩ := Option.ite_none_right_eq_some.mp happ
  obtain rfl := Option.some.inj heq
  rw [findDefault_eq_head?, findDefault_eq_head?]
  show ((Table.updateWhere _ _ s.rows).filter _).head? = _
  rw [Table.filter_updateWhere_of_leave fun _ _ => hrow]
  simp only [decide_not]

lemma findDefault_create_of_not (happ : (Statement.create row).apply s = some s')
    (hrow : isDefault row = false) : findDefault s'.rows = findDefault s.rows := by
  unfold Statement.apply at happ
  dsimp only at happ
  split at happ
  · obtain rfl := Option.some.inj happ
    rw [findDefault_eq_head?, findDefault_eq_head?]
    exact congrArg List.head? (Table.filter_append_of_not hrow)
  · cases happ

/-- The only default is the profile that is written. -/
lemma findDefault_write_of (h : ∀ other ∈ s.rows, isDefault other = false)
    (hrow : isDefault row = true) {statement : Statement}
    (hstatement : statement = .update row ∨ statement = .create row)
    (happ : statement.apply s = some s') : findDefault s'.rows = some row := by
  rcases hstatement with rfl | rfl
  · obtain ⟨hcan, heq⟩ := Option.ite_none_right_eq_some.mp happ
    obtain rfl := Option.some.inj heq
    obtain ⟨other, hother, hid⟩ := List.mem_map.mp hcan.1
    exact Table.find?_updateWhere_const ⟨other, hother, decide_eq_true hid⟩ h hrow
  · unfold Statement.apply at happ
    dsimp only at happ
    split at happ
    · obtain rfl := Option.some.inj happ
      rw [findDefault_eq_head?]
      show ((s.rows ++ [row]).filter _).head? = some row
      rw [Table.filter_append_of hrow, List.filter_eq_nil_iff.mpr fun other hother => by
        rw [h other hother]; exact Bool.false_ne_true]
      rfl
    · cases happ

end Defaults

namespace UpsertCall

variable {toUpperCase : String → String} {seller : SellerTaxProfile} {call : UpsertCall}
  {s : Sellers} {gstin : String} {stateInfo : IndianStateInfo}

/-- The row that the call writes. -/
abbrev row (call : UpsertCall) (gstin : String) (stateInfo : IndianStateInfo) :
    SellerTaxProfile :=
  profileRow (call.input.id.getD call.newId) call.input gstin stateInfo

/-- The statement that writes it. -/
abbrev write (call : UpsertCall) (gstin : String) (stateInfo : IndianStateInfo) : Statement :=
  writeProfile call.newId call.input gstin stateInfo

lemma write_eq (call : UpsertCall) (gstin : String) (stateInfo : IndianStateInfo) :
    call.write gstin stateInfo = .update (call.row gstin stateInfo) ∨
    call.write gstin stateInfo = .create (call.row gstin stateInfo) := by
  unfold write row writeProfile
  cases call.input.id with
  | some id => exact Or.inl rfl
  | none => exact Or.inr rfl

/-- What a statement leaves, if it may fail. -/
def written (fault : Bool) (statement : Statement) (s : Sellers) : Option Sellers :=
  if fault then none else statement.apply s

lemma written_eq_none_iff {fault : Bool} {statement : Statement} :
    written fault statement s = none ↔ Fails fault statement s := by
  unfold written Fails
  rw [← Statement.apply_eq_none_iff]
  cases fault <;> simp

lemma fails_demoteDefaults {fault : Bool} {statement : Statement} :
    Fails fault statement s.demoteDefaults ↔ Fails fault statement s :=
  or_congr_right (not_congr Statement.accepted_demoteDefaults)

lemma leaves_of_error {e : AppError} (h : validatedSeller toUpperCase call.input = .error e) :
    call.leaves toUpperCase s = s := by
  unfold leaves upsertSellerProfile
  rw [h]
  rfl

lemma runFaulty_write (faults : Faults) {statement : Statement} :
    ((do let _ ← Proc.commit statement; pure () : SellerTax.Service Unit).runFaulty
      Statement.apply faults s).2 = (written (faults 0) statement s).getD s := by
  rw [Proc.runFaulty_commit_pure]
  unfold written
  cases (if faults 0 = true then none else statement.apply s) <;> rfl

lemma leaves_of_not_asked
    (h : validatedSeller toUpperCase call.input = .ok (gstin, stateInfo))
    (hasked : call.input.isDefaultPlatformSeller ≠ some true) :
    call.leaves toUpperCase s =
      (written (call.faults 0) (call.write gstin stateInfo) s).getD s := by
  unfold leaves upsertSellerProfile
  rw [h]
  show (Proc.runFaulty Statement.apply (if _ then _ else _) call.faults s).2 = _
  rw [if_neg hasked]
  exact runFaulty_write call.faults

lemma leaves_of_asked (h : validatedSeller toUpperCase call.input = .ok (gstin, stateInfo))
    (hasked : call.input.isDefaultPlatformSeller = some true) :
    call.leaves toUpperCase s =
      if call.faults 0 then s
      else (written (call.faults 1) (call.write gstin stateInfo) s.demoteDefaults).getD
        s.demoteDefaults := by
  unfold leaves upsertSellerProfile
  rw [h]
  show (Proc.runFaulty Statement.apply (if _ then _ else _) call.faults s).2 = _
  rw [if_pos hasked, Proc.runFaulty_commit]
  cases call.faults 0 with
  | true => rfl
  | false => exact runFaulty_write call.faults.next

lemma isDefault_row : isDefault (call.row gstin stateInfo) = true ↔
    call.input.isDefaultPlatformSeller = some true ∧
      (call.row gstin stateInfo).isActive = true := by
  unfold isDefault
  rw [Bool.and_eq_true]
  refine and_congr_left' ?_
  show call.input.isDefaultPlatformSeller.getD false = true ↔ _
  cases call.input.isDefaultPlatformSeller <;> simp

/-- A call that does not ask to be the default. -/
lemma suppliedBy_leaves_of_not_asked (hs : SuppliedBy seller s.rows)
    (h : validatedSeller toUpperCase call.input = .ok (gstin, stateInfo))
    (hasked : call.input.isDefaultPlatformSeller ≠ some true) :
    SuppliedBy seller (call.leaves toUpperCase s).rows ↔
      Fails (call.faults 0) (call.write gstin stateInfo) s ∨ call.input.id = none ∨
        SuppliedBy seller (s.rows.filter (·.id ≠ (call.row gstin stateInfo).id)) := by
  rw [leaves_of_not_asked h hasked]
  have hrow : isDefault (call.row gstin stateInfo) = false :=
    Bool.eq_false_iff.mpr fun hdefault => hasked (isDefault_row.mp hdefault).1
  -- the row that is written is no default, so only the row it takes away matters
  cases hwritten : written (call.faults 0) (call.write gstin stateInfo) s with
  | none => exact iff_of_true hs (Or.inl (written_eq_none_iff.mp hwritten))
  | some s' =>
    have hfails : ¬Fails (call.faults 0) (call.write gstin stateInfo) s := by
      rw [← written_eq_none_iff, hwritten]
      exact Option.some_ne_none s'
    obtain ⟨-, happ⟩ := Option.ite_none_left_eq_some.mp hwritten
    rw [or_iff_right hfails]
    show SuppliedBy seller s'.rows ↔ _
    unfold SuppliedBy at hs ⊢
    cases hid : call.input.id with
    | some id =>
      have hwrite : call.write gstin stateInfo = .update (call.row gstin stateInfo) := by
        unfold write row writeProfile
        rw [hid]
        rfl
      rw [findDefault_update_of_not (hwrite ▸ happ) hrow, or_iff_right (Option.some_ne_none id)]
    | none =>
      have hwrite : call.write gstin stateInfo = .create (call.row gstin stateInfo) := by
        unfold write row writeProfile
        rw [hid]
        rfl
      rw [findDefault_create_of_not (hwrite ▸ happ) hrow]
      exact iff_of_true hs (Or.inl rfl)

lemma not_isDefault_of_mem_demoteDefaults {other : SellerTaxProfile}
    (h : other ∈ s.demoteDefaults.rows) : isDefault other = false := by
  have hnot := List.countP_eq_zero.mp Sellers.defaults_demoteDefaults other h
  unfold isDefault
  rw [Bool.eq_false_iff.mpr hnot, Bool.false_and]

/-- A call that asks to be the default. -/
lemma suppliedBy_leaves_of_asked (hs : SuppliedBy seller s.rows)
    (h : validatedSeller toUpperCase call.input = .ok (gstin, stateInfo))
    (hasked : call.input.isDefaultPlatformSeller = some true) :
    SuppliedBy seller (call.leaves toUpperCase s).rows ↔
      call.faults 0 = true ∨ ¬Fails (call.faults 1) (call.write gstin stateInfo) s ∧
        (call.row gstin stateInfo).isActive = true ∧
        SuppliesAs seller (call.row gstin stateInfo) := by
  rw [leaves_of_asked h hasked]
  cases call.faults 0 with
  | true => exact iff_of_true hs (Or.inl rfl)
  | false =>
    rw [if_neg Bool.false_ne_true, or_iff_right Bool.false_ne_true, ← fails_demoteDefaults]
    have hnone : ∀ {rows : List SellerTaxProfile}, (∀ other ∈ rows, isDefault other = false) →
        ¬SuppliedBy seller rows := by
      rintro rows hrows ⟨current, hfind, -⟩
      exact Bool.eq_false_iff.mp (hrows current (List.mem_of_find?_eq_some hfind))
        (List.find?_some hfind)
    cases hwritten : written (call.faults 1) (call.write gstin stateInfo) s.demoteDefaults with
    | none =>
      -- the default was demoted in vain, and none is left
      refine iff_of_false (hnone fun _ => not_isDefault_of_mem_demoteDefaults) fun hkeeps => ?_
      exact hkeeps.1 (written_eq_none_iff.mp hwritten)
    | some s' =>
      have hfails : ¬Fails (call.faults 1) (call.write gstin stateInfo) s.demoteDefaults := by
        rw [← written_eq_none_iff, hwritten]
        exact Option.some_ne_none s'
      obtain ⟨-, happ⟩ := Option.ite_none_left_eq_some.mp hwritten
      rw [and_iff_right hfails]
      show SuppliedBy seller s'.rows ↔ _
      by_cases hactive : (call.row gstin stateInfo).isActive = true
      · -- the row that was written is the only default now
        have hfind := findDefault_write_of (fun _ => not_isDefault_of_mem_demoteDefaults)
          (isDefault_row.mpr ⟨hasked, hactive⟩) (write_eq call gstin stateInfo) happ
        rw [and_iff_right hactive]
        unfold SuppliedBy
        rw [hfind]
        exact ⟨fun ⟨_, heq, hsupplies⟩ => Option.some.inj heq ▸ hsupplies,
          fun hsupplies => ⟨_, rfl, hsupplies⟩⟩
      · refine iff_of_false ?_ fun hkeeps => hactive hkeeps.1
        have hrow : isDefault (call.row gstin stateInfo) = false :=
          Bool.eq_false_iff.mpr fun hdefault => hactive (isDefault_row.mp hdefault).2
        unfold SuppliedBy
        rcases write_eq call gstin stateInfo with hw | hw
        · rw [findDefault_update_of_not (hw ▸ happ) hrow]
          exact hnone fun other hother =>
            not_isDefault_of_mem_demoteDefaults (List.mem_of_mem_filter hother)
        · rw [findDefault_create_of_not (hw ▸ happ) hrow]
          exact hnone fun _ => not_isDefault_of_mem_demoteDefaults

/-- Exactly these calls leave a default that cannot be told from the recorded seller. -/
lemma suppliedBy_leaves_iff (hs : SuppliedBy seller s.rows) :
    SuppliedBy seller (call.leaves toUpperCase s).rows ↔
      call.KeepsSupplier toUpperCase seller s := by
  unfold KeepsSupplier
  cases hvalid : validatedSeller toUpperCase call.input with
  | error e =>
    rw [leaves_of_error hvalid]
    exact iff_of_true hs trivial
  | ok checked =>
    obtain ⟨gstin, stateInfo⟩ := checked
    by_cases hasked : call.input.isDefaultPlatformSeller = some true
    · simp only [if_pos hasked]
      exact suppliedBy_leaves_of_asked hs hvalid hasked
    · simp only [if_neg hasked]
      exact suppliedBy_leaves_of_not_asked hs hvalid hasked

end UpsertCall

/-! ## The invoice before and after -/

/-- The later invoice is the same, and its supplier is the one that is recorded. -/
structure InvoiceKept (seller : SellerTaxProfile) (before after : TaxInvoice) : Prop where
  supplier : after.supplier = before.supplier
  recipient : after.recipient = before.recipient
  placeOfSupply : after.placeOfSupply = before.placeOfSupply
  items : after.items = before.items
  totals : after.totals = before.totals
  stateName : after.supplier.stateName = seller.stateName
  address : after.supplier.address = addressText seller.addressLine1 seller.addressLine2
  city : after.supplier.city = seller.city
  postalCode : after.supplier.postalCode = seller.postalCode
  stateCode : after.supplier.stateCode = seller.stateCode

section Immutability

variable {toUpperCase : String → String} {orders : OrderId → Option InvoicedOrder}
  {orderId : OrderId} {order : InvoicedOrder} {snapshot : OrderTaxSnapshot}
  {seller current : SellerTaxProfile} {s : Sellers} {newId : SellerId}
  {requestedByUserId : Option UserId} {isAdmin : Bool}

/-- Whoever may request the invoice gets one before the calls and one after them, and the later
one is kept. -/
def InvoiceImmutable (toUpperCase : String → String) (orders : OrderId → Option InvoicedOrder)
    (orderId : OrderId) (order : InvoicedOrder) (seller : SellerTaxProfile)
    (calls : List UpsertCall) (s : Sellers) : Prop :=
  ∀ newId newId' requestedByUserId isAdmin, order.mayRequest requestedByUserId isAdmin = true →
    ∃ before after,
      ((generateTaxInvoice orders newId orderId requestedByUserId isAdmin).perform
        Statement.apply s).1 = .ok before ∧
      ((generateTaxInvoice orders newId' orderId requestedByUserId isAdmin).perform
        Statement.apply (Sequences.after (UpsertCall.leaves toUpperCase) calls s)).1 = .ok after ∧
      InvoiceKept seller before after

lemma generateTaxInvoice_of_findDefault (horder : orders orderId = some order)
    (hmay : order.mayRequest requestedByUserId isAdmin = true)
    (hfind : findDefault s.rows = some current) :
    (generateTaxInvoice orders newId orderId requestedByUserId isAdmin).perform
      Statement.apply s = (.ok (taxInvoice order current), s) := by
  unfold generateTaxInvoice
  rw [horder]
  dsimp only
  rw [hmay]
  show (getDefaultSellerProfile newId >>= _).perform Statement.apply s = _
  rw [perform_bind, perform_getDefaultSellerProfile, hfind]
  rfl

/-- The supplier is the one that is recorded, whichever default is found. -/
lemma supplier_taxInvoice (hsnapshot : order.taxSnapshot = some snapshot)
    (hrecords : snapshot.Records seller) (hcurrent : SuppliesAs seller current) :
    (taxInvoice order current).supplier = supplierBlock seller := by
  show supplierOf order.taxSnapshot current = _
  rw [hsnapshot]
  exact (supplierOf_eq_iff hrecords).mpr hcurrent

/-- **Invoices are immutable** while every call keeps the supplier. -/
theorem invoice_immutable (horder : orders orderId = some order)
    (hsnapshot : order.taxSnapshot = some snapshot) (hrecords : snapshot.Records seller)
    (hs : SuppliedBy seller s.rows) {calls : List UpsertCall}
    (hcalls : Sequences.Along (UpsertCall.leaves toUpperCase)
      (UpsertCall.KeepsSupplier toUpperCase seller) calls s) :
    InvoiceImmutable toUpperCase orders orderId order seller calls s := by
  intro newId newId' requestedByUserId isAdmin hmay
  obtain ⟨first, hfirst, hsupplies⟩ := hs
  obtain ⟨last, hlast, hsupplies'⟩ := hcalls.after ⟨first, hfirst, hsupplies⟩
    fun _ _ hsupplied => (UpsertCall.suppliedBy_leaves_iff hsupplied).mpr
  have hbefore := supplier_taxInvoice hsnapshot hrecords hsupplies
  have hafter := supplier_taxInvoice hsnapshot hrecords hsupplies'
  refine ⟨taxInvoice order first, taxInvoice order last, ?_, ?_, ?_⟩
  · rw [generateTaxInvoice_of_findDefault horder hmay hfirst]
  · rw [generateTaxInvoice_of_findDefault horder hmay hlast]
  · exact
      { supplier := hafter.trans hbefore.symm
        recipient := rfl
        placeOfSupply := rfl
        items := rfl
        totals := rfl
        stateName := congrArg Supplier.stateName hafter
        address := congrArg Supplier.address hafter
        city := congrArg Supplier.city hafter
        postalCode := congrArg Supplier.postalCode hafter
        stateCode := congrArg Supplier.stateCode hafter }

end Immutability

/-- An order of one lamp, sold within Maharashtra. -/
def lampOrder : InvoicedOrder where
  id := 0
  orderNumber := "MEEO-1"
  userId := some 1
  status := .confirmed
  currency := "INR"
  subtotal := 1000
  discountTotal := 0
  taxTotal := 120
  shippingTotal := 0
  grandTotal := 1120
  createdAt := 0
  address := some
    ⟨"A", none, "Road 1", none, "Mumbai", "Maharashtra", "400001", "India", none, none⟩
  items := [⟨1, "Lamp", some "LAMP", 1000, 1, 0, 120, 1120, none⟩]
  taxSnapshot := some
    { sellerProfileId := some 0
      sellerLegalName := "Meeo E-Commerce Private Limited"
      sellerTradeName := "Meeo Store"
      sellerGstin := "27AAACM1234F1Z5"
      sellerStateCode := "27"
      customerGstin := none
      placeOfSupplyStateCode := "27"
      placeOfSupplyStateName := "Maharashtra"
      isInterState := false
      totalTaxableAmount := 1000
      totalCgstAmount := 60
      totalSgstAmount := 60
      totalIgstAmount := 0
      totalCessAmount := 0
      shippingTaxableAmount := 0
      shippingGstRate := 18
      shippingCgstAmount := 0
      shippingSgstAmount := 0
      shippingIgstAmount := 0 }
  payments := []

/-- A second seller is added, who does not become the default. -/
theorem invoice_immutable_lamp :
    Sequences.Along (UpsertCall.leaves id) (UpsertCall.KeepsSupplier id (platformSeller 0))
      [⟨1, karnataka false "29AAACM1234F1Z5", Faults.none⟩] seededSellers ∧
    InvoiceImmutable id (fun _ => some lampOrder) 0 lampOrder (platformSeller 0)
      [⟨1, karnataka false "29AAACM1234F1Z5", Faults.none⟩] seededSellers :=
  ⟨by decide +kernel, invoice_immutable rfl rfl ⟨rfl, rfl, rfl, rfl, rfl⟩
    ⟨platformSeller 0, rfl, suppliesAs_refl _⟩ (by decide +kernel)⟩

/-- The order was placed under the seeded seller; then one from Karnataka becomes the default. -/
theorem invoice_moved_to_karnataka : ¬∀ (toUpperCase : String → String)
    (orders : OrderId → Option InvoicedOrder) (orderId : OrderId) (order : InvoicedOrder)
    (snapshot : OrderTaxSnapshot) (seller : SellerTaxProfile) (calls : List UpsertCall)
    (s : Sellers), orders orderId = some order → order.taxSnapshot = some snapshot →
    snapshot.Records seller → findDefault s.rows = some seller →
    InvoiceImmutable toUpperCase orders orderId order seller calls s := by
  intro h
  let calls : List UpsertCall := [⟨1, karnataka true "29AAACM1234F1Z5", Faults.none⟩]
  obtain ⟨before, after, -, hafter, hkept⟩ := h id (fun _ => some lampOrder) 0 lampOrder _
    (platformSeller 0) calls seededSellers rfl rfl ⟨rfl, rfl, rfl, rfl, rfl⟩ rfl 2 2 none true rfl
  have hdefault : (findDefault
      (Sequences.after (UpsertCall.leaves id) calls seededSellers).rows).map
        SellerTaxProfile.stateName = some "Karnataka" := by decide +kernel
  obtain ⟨current, hfind, hname⟩ := Option.map_eq_some_iff.mp hdefault
  rw [generateTaxInvoice_of_findDefault rfl rfl hfind] at hafter
  obtain rfl := Except.ok.inj hafter
  have hstate : current.stateName = "Maharashtra" := hkept.stateName
  rw [hname] at hstate
  exact absurd hstate (by decide)

end MeeoServer.Invoices
