/-
# Seller tax profiles

`tax/services/sellerTax.service.ts`, with the check of a GSTIN from `tax/constants/indianStates.ts`.
The default seller is demoted in a statement of its own, before the profile is written that
takes its place; any statement may fail.

`toUpperCase` is that of JavaScript.
-/
import MeeoServer.Process.Faults
import MeeoServer.Storefront.Checkout
import MeeoServer.Storefront.Worth
import MeeoServer.Table.Updates
import MeeoServer.Tax.IndianStates

namespace MeeoServer.SellerTax

open Proc

abbrev SellerId := ℕ

/-! ## The table -/

inductive RegistrationType where
  | regular
  | composition
  | unregistered
deriving DecidableEq

/-- A row of the table, with the columns that a checkout does not read. -/
structure SellerTaxProfile extends Storefront.SellerTaxProfile where
  id : SellerId
  userId : Option UserId
  stateName : String
  addressLine1 : String
  addressLine2 : Option String
  city : String
  postalCode : String
  registrationType : RegistrationType
deriving DecidableEq

/-- The table; its identifiers are unique, and so are the GSTINs, which the statements check. -/
structure Sellers where
  rows : List SellerTaxProfile
  ids_nodup : (rows.map SellerTaxProfile.id).Nodup

/-- The profiles that are the default. -/
def Sellers.defaults (s : Sellers) : ℕ := s.rows.countP (·.isDefaultPlatformSeller)

inductive Statement where
  /-- `updateMany({ where: { isDefaultPlatformSeller: true }, … })` -/
  | demoteDefaults
  /-- All columns but the identifier are written. -/
  | update (row : SellerTaxProfile)
  | create (row : SellerTaxProfile)

def demoted (row : SellerTaxProfile) : SellerTaxProfile :=
  { row with isDefaultPlatformSeller := false }

/-- The row is there, and no other one has its GSTIN. -/
def CanUpdate (rows : List SellerTaxProfile) (row : SellerTaxProfile) : Prop :=
  row.id ∈ rows.map SellerTaxProfile.id ∧
    ∀ other ∈ rows, other.gstin = row.gstin → other.id = row.id

/-- Neither the identifier nor the GSTIN is taken. -/
def CanCreate (rows : List SellerTaxProfile) (row : SellerTaxProfile) : Prop :=
  row.id ∉ rows.map SellerTaxProfile.id ∧ ∀ other ∈ rows, other.gstin ≠ row.gstin

instance (rows : List SellerTaxProfile) (row : SellerTaxProfile) :
    Decidable (CanUpdate rows row) := by
  unfold CanUpdate
  infer_instance

instance (rows : List SellerTaxProfile) (row : SellerTaxProfile) :
    Decidable (CanCreate rows row) := by
  unfold CanCreate
  infer_instance

/-- An update that keeps the identifiers. -/
def Sellers.updateWhere (s : Sellers) (p : SellerTaxProfile → Bool)
    (f : SellerTaxProfile → SellerTaxProfile) (hid : ∀ row, p row → (f row).id = row.id) :
    Sellers where
  rows := Table.updateWhere p f s.rows
  ids_nodup := by
    have hids : (Table.updateWhere p f s.rows).map SellerTaxProfile.id =
        s.rows.map SellerTaxProfile.id := by
      unfold Table.updateWhere
      rw [List.map_map]
      refine List.map_congr_left fun row _ => ?_
      show (if p row = true then f row else row).id = row.id
      split
      · exact hid row ‹_›
      · rfl
    exact hids ▸ s.ids_nodup

def Sellers.append (s : Sellers) (row : SellerTaxProfile)
    (hid : row.id ∉ s.rows.map SellerTaxProfile.id) : Sellers where
  rows := s.rows ++ [row]
  ids_nodup := by
    rw [List.map_append, List.map_singleton, List.nodup_append]
    refine ⟨s.ids_nodup, List.nodup_singleton _, ?_⟩
    rintro a ha b hb rfl
    exact hid (List.mem_singleton.mp hb ▸ ha)

def Statement.apply (statement : Statement) (s : Sellers) : Option Sellers :=
  match statement with
  | demoteDefaults => some (s.updateWhere (·.isDefaultPlatformSeller) demoted fun _ _ => rfl)
  | update row =>
    if CanUpdate s.rows row then
      some (s.updateWhere (fun other => other.id = row.id) (fun _ => row)
        fun _ h => (of_decide_eq_true h).symm)
    else none
  | create row => if h : CanCreate s.rows row then some (s.append row h.1) else none

abbrev Service (α : Type) := Proc Sellers Statement AppError α

/-! ## The default -/

/-- The profile that is seeded; the database draws its identifier. -/
def platformSeller (id : SellerId) : SellerTaxProfile where
  toSellerTaxProfile := Storefront.platformSeller
  id := id
  userId := none
  stateName := "Maharashtra"
  addressLine1 := "Plot 42, Bandra Kurla Complex"
  addressLine2 := none
  city := "Mumbai"
  postalCode := "400051"
  registrationType := .regular

/-- The condition of `findFirst`. -/
def findDefault (rows : List SellerTaxProfile) : Option SellerTaxProfile :=
  rows.find? fun row => row.isDefaultPlatformSeller && row.isActive

/-- Resolves the primary seller tax profile for first-party platform orders, and seeds it if it
does not exist. -/
def getDefaultSellerProfile (newId : SellerId) : Service SellerTaxProfile := do
  let s ← Proc.read
  match findDefault s.rows with
  | some seller => pure seller
  | none => do
    let _ ← Proc.commit (.create (platformSeller newId))
    pure (platformSeller newId)

lemma perform_getDefaultSellerProfile {s : Sellers} {newId : SellerId} :
    (getDefaultSellerProfile newId).perform Statement.apply s =
      match findDefault s.rows with
      | some seller => (.ok seller, s)
      | none =>
        match (Statement.create (platformSeller newId)).apply s with
        | some s' => (.ok (platformSeller newId), s')
        | none => (.error default, s) := by
  unfold getDefaultSellerProfile
  rw [perform_read]
  cases findDefault s.rows with
  | some seller => rfl
  | none =>
    dsimp only
    rw [perform_commit_bind]
    cases (Statement.create (platformSeller newId)).apply s <;> rfl

/-- What a checkout reads of the default seller and of the table. -/
def checkoutView (result : Except AppError SellerTaxProfile × Sellers) :
    Except AppError (Storefront.SellerTaxProfile × List Storefront.SellerTaxProfile) :=
  result.1.map fun seller =>
    (seller.toSellerTaxProfile, result.2.rows.map SellerTaxProfile.toSellerTaxProfile)

/-- A checkout sees the same seller. -/
lemma getDefaultSellerProfile_checkout {s : Sellers} {newId : SellerId}
    (hid : newId ∉ s.rows.map SellerTaxProfile.id) {tables : Storefront.Tables}
    (htables : tables.sellers = s.rows.map SellerTaxProfile.toSellerTaxProfile) :
    Storefront.getDefaultSellerProfile tables =
      checkoutView ((getDefaultSellerProfile newId).perform Statement.apply s) := by
  have hfind : tables.sellers.find? (fun seller => seller.isDefaultPlatformSeller &&
      seller.isActive) = (findDefault s.rows).map SellerTaxProfile.toSellerTaxProfile := by
    rw [htables, List.find?_map]
    rfl
  unfold Storefront.getDefaultSellerProfile
  rw [hfind, perform_getDefaultSellerProfile]
  cases findDefault s.rows with
  | some seller => exact congrArg (fun rows => Except.ok (_, rows)) htables
  | none =>
    have hgstins : Storefront.platformSeller.gstin ∈
        tables.sellers.map Storefront.SellerTaxProfile.gstin ↔
        ¬CanCreate s.rows (platformSeller newId) := by
      unfold CanCreate
      rw [htables, List.map_map, List.mem_map, not_and]
      refine ⟨fun ⟨row, hrow, hgstin⟩ _ hall => hall row hrow hgstin, fun h => ?_⟩
      by_contra hnone
      exact h hid fun row hrow hgstin => hnone ⟨row, hrow, hgstin⟩
    rw [htables] at hgstins ⊢
    rw [Option.map_none]
    dsimp only [Statement.apply]
    by_cases hcan : CanCreate s.rows (platformSeller newId)
    · rw [if_neg fun hmem => hgstins.mp hmem hcan, dif_pos hcan]
      show Except.ok (_, _) = Except.ok (_, List.map _ (s.rows ++ [platformSeller newId]))
      rw [List.map_append]
      rfl
    · rw [if_pos (hgstins.mpr hcan), dif_neg hcan]
      rfl

/-! ## Creating and updating -/

section

variable (toUpperCase : String → String)

/-- `GSTIN_REGEX` -/
def gstinRegex (gstin : List Char) : Bool :=
  gstin.length = 15 && (gstin.take 2).all Char.isDigit &&
    ((gstin.drop 2).take 5).all Char.isUpper &&
    ((gstin.drop 7).take 4).all Char.isDigit && ((gstin.drop 11).take 1).all Char.isUpper &&
    ((gstin.drop 12).take 1).all (fun c => (c.isDigit && c ≠ '0') || c.isUpper) &&
    ((gstin.drop 13).take 1).all (· = 'Z') &&
    (gstin.drop 14).all (fun c => c.isDigit || c.isUpper)

/-- Validates a 15-character Indian Goods and Services Tax Identification Number (GSTIN). -/
def isValidGstin (gstin : String) : Bool :=
  gstin ≠ "" &&
    let clean := (toUpperCase (Storefront.trimmed gstin)).toList
    gstinRegex clean && (stateByCode (clean.take 2)).isSome

structure UpsertSellerProfileInput where
  id : Option SellerId
  userId : Option UserId
  legalBusinessName : String
  tradeName : String
  gstin : String
  stateCode : String
  addressLine1 : String
  addressLine2 : Option String
  city : String
  postalCode : String
  registrationType : Option RegistrationType
  isActive : Option Bool
  isDefaultPlatformSeller : Option Bool
deriving DecidableEq

/-- The checks, with the GSTIN and the state that are stored. -/
def validatedSeller (input : UpsertSellerProfileInput) :
    Except AppError (String × IndianStateInfo) :=
  let cleanGstin := toUpperCase (Storefront.trimmed input.gstin)
  if !isValidGstin toUpperCase cleanGstin then
    .error ⟨s!"Invalid Indian GSTIN: \"{cleanGstin}\". A valid GSTIN must be 15 alphanumeric " ++
      "characters beginning with a valid 2-digit State Code.", 400⟩
  else
    match normalizeIndianState input.stateCode with
    | none => .error ⟨s!"Invalid Indian State Code or Name: \"{input.stateCode}\"", 400⟩
    | some stateInfo =>
      let gstinStatePrefix := String.ofList (cleanGstin.toList.take 2)
      if gstinStatePrefix ≠ stateInfo.code then
        .error ⟨s!"GSTIN prefix ({gstinStatePrefix}) does not match the specified State Code " ++
          s!"({stateInfo.code} - {stateInfo.name})", 400⟩
      else .ok (cleanGstin, stateInfo)

/-- The row that a call writes. -/
def profileRow (id : SellerId) (input : UpsertSellerProfileInput) (gstin : String)
    (stateInfo : IndianStateInfo) : SellerTaxProfile where
  id := id
  userId := input.userId
  legalBusinessName := input.legalBusinessName
  tradeName := input.tradeName
  gstin := gstin
  stateCode := stateInfo.code
  stateName := stateInfo.name
  addressLine1 := input.addressLine1
  addressLine2 := input.addressLine2
  city := input.city
  postalCode := input.postalCode
  registrationType := input.registrationType.getD .regular
  isActive := input.isActive.getD true
  isDefaultPlatformSeller := input.isDefaultPlatformSeller.getD false

/-- The last statement of a call; the database draws `newId`. -/
def writeProfile (newId : SellerId) (input : UpsertSellerProfileInput) (gstin : String)
    (stateInfo : IndianStateInfo) : Statement :=
  match input.id with
  | some id => .update (profileRow id input gstin stateInfo)
  | none => .create (profileRow newId input gstin stateInfo)

/-- Creates or updates a seller tax profile with statutory GSTIN validation. -/
def upsertSellerProfile (newId : SellerId) (input : UpsertSellerProfileInput) : Service Unit := do
  let (gstin, stateInfo) ← Proc.done (validatedSeller toUpperCase input)
  if input.isDefaultPlatformSeller = some true then do
    let _ ← Proc.commit .demoteDefaults
    let _ ← Proc.commit (writeProfile newId input gstin stateInfo)
    pure ()
  else do
    let _ ← Proc.commit (writeProfile newId input gstin stateInfo)
    pure ()

end

/-! ## The default after a call -/

/-- The table accepts the statement. -/
def Statement.Accepted (rows : List SellerTaxProfile) : Statement → Prop
  | demoteDefaults => True
  | update row => CanUpdate rows row
  | create row => CanCreate rows row

instance (rows : List SellerTaxProfile) (statement : Statement) :
    Decidable (statement.Accepted rows) := by
  unfold Statement.Accepted
  split <;> infer_instance

/-- At most one profile is the default, and a call that fails changes nothing. -/
structure SurvivesFailure (s : Sellers) (result : Except AppError Unit × Sellers) : Prop where
  one_default : result.2.defaults ≤ 1
  kept : ¬result.1.isOk → result.2 = s

/-- The call passes the checks and demotes the default, and then its own statement fails. -/
def DemotesInVain (toUpperCase : String → String) (newId : SellerId)
    (input : UpsertSellerProfileInput) (faults : Faults) (s : Sellers) : Prop :=
  input.isDefaultPlatformSeller = some true ∧ 0 < s.defaults ∧ faults 0 = false ∧
    match validatedSeller toUpperCase input with
    | .ok (gstin, stateInfo) =>
      faults 1 = true ∨ ¬(writeProfile newId input gstin stateInfo).Accepted s.rows
    | .error _ => False

instance (toUpperCase : String → String) (newId : SellerId) (input : UpsertSellerProfileInput)
    (faults : Faults) (s : Sellers) :
    Decidable (DemotesInVain toUpperCase newId input faults s) := by
  unfold DemotesInVain
  cases validatedSeller toUpperCase input <;> infer_instance

section Statements

variable {s s' : Sellers} {statement : Statement}

lemma Sellers.ext_rows (h : s'.rows = s.rows) : s' = s := by
  cases s
  cases s'
  cases h
  rfl

/-- The table after the demotion. -/
def Sellers.demoteDefaults (s : Sellers) : Sellers :=
  s.updateWhere (·.isDefaultPlatformSeller) demoted fun _ _ => rfl

lemma Sellers.defaults_demoteDefaults : s.demoteDefaults.defaults = 0 := by
  rw [defaults, List.countP_eq_zero]
  intro row hrow
  obtain ⟨old, -, rfl⟩ := List.mem_map.mp hrow
  split
  · exact Bool.false_ne_true
  · assumption

lemma Sellers.demoteDefaults_eq_iff : s.demoteDefaults = s ↔ s.defaults = 0 := by
  constructor
  · intro h
    rw [← h]
    exact defaults_demoteDefaults
  · intro h
    refine ext_rows (Table.updateWhere_of_not fun row hrow => ?_)
    exact Bool.eq_false_iff.mpr (List.countP_eq_zero.mp h row hrow)

lemma Statement.apply_eq_none_iff : statement.apply s = none ↔ ¬statement.Accepted s.rows := by
  cases statement with
  | demoteDefaults => simp [apply, Accepted]
  | update row => simp [apply, Accepted]
  | create row => simp [apply, Accepted]

/-- The demotion does not change what the table accepts. -/
lemma Statement.accepted_demoteDefaults :
    statement.Accepted s.demoteDefaults.rows ↔ statement.Accepted s.rows := by
  have hids : s.demoteDefaults.rows.map SellerTaxProfile.id = s.rows.map SellerTaxProfile.id :=
    Table.map_updateWhere fun _ => rfl
  have hall : ∀ P : String → SellerId → Prop, (∀ other ∈ s.demoteDefaults.rows,
      P other.gstin other.id) ↔ ∀ other ∈ s.rows, P other.gstin other.id := by
    intro P
    have hmap : s.demoteDefaults.rows.map (fun row => (row.gstin, row.id)) =
        s.rows.map fun row => (row.gstin, row.id) := Table.map_updateWhere fun _ => rfl
    have hforall : ∀ l : List SellerTaxProfile, (∀ other ∈ l, P other.gstin other.id) ↔
        ∀ x ∈ l.map (fun row => (row.gstin, row.id)), P x.1 x.2 := by
      intro l
      rw [List.forall_mem_map]
    rw [hforall, hforall, hmap]
  cases statement with
  | demoteDefaults => exact Iff.rfl
  | update row =>
    unfold Accepted CanUpdate
    rw [hids]
    exact and_congr_right fun _ => hall fun gstin id => gstin = row.gstin → id = row.id
  | create row =>
    unfold Accepted CanCreate
    rw [hids]
    exact and_congr_right fun _ => hall fun gstin _ => gstin ≠ row.gstin

/-- A profile that is written adds at most itself to the defaults. -/
lemma defaults_of_writeProfile {newId : SellerId} {input : UpsertSellerProfileInput}
    {gstin : String} {stateInfo : IndianStateInfo}
    (h : (writeProfile newId input gstin stateInfo).apply s = some s') :
    s'.defaults ≤ s.defaults + if input.isDefaultPlatformSeller = some true then 1 else 0 := by
  have hdefault : ∀ id, (profileRow id input gstin stateInfo).isDefaultPlatformSeller = true ↔
      input.isDefaultPlatformSeller = some true := by
    intro id
    show input.isDefaultPlatformSeller.getD false = true ↔ _
    cases input.isDefaultPlatformSeller <;> simp
  unfold writeProfile at h
  split at h
  · -- an update writes the row with its identifier, of which there is one
    rename_i id _
    obtain ⟨-, heq⟩ := Option.ite_none_right_eq_some.mp h
    obtain rfl := Option.some.inj heq
    by_cases hasked : input.isDefaultPlatformSeller = some true
    · rw [if_pos hasked]
      refine (Table.countP_updateWhere_le _ _ _ _).trans (Nat.add_le_add_left ?_ _)
      exact Table.countP_key_le_one s.ids_nodup id
    · rw [if_neg hasked]
      refine Table.countP_updateWhere_le_of_not fun _ _ => ?_
      exact Bool.eq_false_iff.mpr fun hrow => hasked ((hdefault id).mp hrow)
  · unfold Statement.apply at h
    dsimp only at h
    split at h
    · obtain rfl := Option.some.inj h
      show (s.rows ++ [_]).countP _ ≤ _
      rw [List.countP_append, List.countP_singleton]
      refine Nat.add_le_add_left (le_of_eq ?_) _
      exact if_congr (hdefault newId) rfl rfl
    · cases h

end Statements

/-! ## Failures -/

section Failures

variable {toUpperCase : String → String} {newId : SellerId} {input : UpsertSellerProfileInput}
  {faults : Faults} {s : Sellers}

/-- What is left if nothing is demoted, or nothing fails afterwards. -/
lemma survives_refl {result : Except AppError Unit} (h : s.defaults ≤ 1) :
    SurvivesFailure s (result, s) := ⟨h, fun _ => rfl⟩

lemma survives_write (hs : s.defaults ≤ 1) {gstin : String} {stateInfo : IndianStateInfo}
    (hasked : input.isDefaultPlatformSeller ≠ some true) :
    SurvivesFailure s ((do
      let _ ← Proc.commit (writeProfile newId input gstin stateInfo)
      pure () : Service Unit).runFaulty Statement.apply faults s) := by
  rw [Proc.runFaulty_commit_pure]
  split
  · rename_i s' hs'
    obtain ⟨-, happ⟩ := Option.ite_none_left_eq_some.mp hs'
    have hle := defaults_of_writeProfile happ
    rw [if_neg hasked] at hle
    exact ⟨hle.trans hs, fun hfailed => absurd rfl hfailed⟩
  · exact survives_refl hs

/-- After the demotion, the call survives its own statement if this succeeds, or if there was
nothing to demote. -/
lemma survives_demoted_iff (faults : Faults) {gstin : String} {stateInfo : IndianStateInfo}
    (hasked : input.isDefaultPlatformSeller = some true) :
    SurvivesFailure s ((do
      let _ ← Proc.commit (writeProfile newId input gstin stateInfo)
      pure () : Service Unit).runFaulty Statement.apply faults s.demoteDefaults) ↔
      ¬(0 < s.defaults ∧
        (faults 0 = true ∨ ¬(writeProfile newId input gstin stateInfo).Accepted s.rows)) := by
  have hnone : (if faults 0 then none
      else (writeProfile newId input gstin stateInfo).apply s.demoteDefaults) = none ↔
      faults 0 = true ∨ ¬(writeProfile newId input gstin stateInfo).Accepted s.rows := by
    rw [← Statement.accepted_demoteDefaults, ← Statement.apply_eq_none_iff]
    cases faults 0 <;> simp
  rw [Proc.runFaulty_commit_pure]
  split
  · rename_i s' hs'
    have hfails : ¬(faults 0 = true ∨
        ¬(writeProfile newId input gstin stateInfo).Accepted s.rows) := by
      rw [← hnone, hs']
      exact Option.some_ne_none s'
    obtain ⟨-, happ⟩ := Option.ite_none_left_eq_some.mp hs'
    have hle := defaults_of_writeProfile happ
    rw [if_pos hasked, Sellers.defaults_demoteDefaults] at hle
    exact iff_of_true ⟨hle, fun hfailed => absurd rfl hfailed⟩ fun h => hfails h.2
  · -- the write fails: the call is harmless only if there was nothing to demote
    rename_i hs'
    constructor
    · rintro h ⟨hpos, -⟩
      have hzero := Sellers.demoteDefaults_eq_iff.mp (h.kept Bool.false_ne_true)
      omega
    · intro h
      have hzero : s.defaults = 0 := by
        by_contra hne
        exact h ⟨Nat.pos_of_ne_zero hne, hnone.mp hs'⟩
      exact ⟨Sellers.defaults_demoteDefaults.le.trans (Nat.zero_le 1),
        fun _ => Sellers.demoteDefaults_eq_iff.mpr hzero⟩

/-- **The default seller survives a failure** exactly if the call does not demote it in vain. -/
theorem upsertSellerProfile_survives_iff (toUpperCase : String → String) (newId : SellerId)
    (input : UpsertSellerProfileInput) (faults : Faults) {s : Sellers} (hs : s.defaults ≤ 1) :
    SurvivesFailure s
        ((upsertSellerProfile toUpperCase newId input).runFaulty Statement.apply faults s) ↔
      ¬DemotesInVain toUpperCase newId input faults s := by
  unfold upsertSellerProfile DemotesInVain
  cases hvalid : validatedSeller toUpperCase input with
  | error e => exact iff_of_true (survives_refl hs) fun h => h.2.2.2
  | ok checked =>
    obtain ⟨gstin, stateInfo⟩ := checked
    by_cases hasked : input.isDefaultPlatformSeller = some true
    · show SurvivesFailure s (Proc.runFaulty Statement.apply (if _ then _ else _) faults s) ↔ _
      rw [if_pos hasked, Proc.runFaulty_commit]
      cases hfault : faults 0 with
      | true => exact iff_of_true (survives_refl hs) fun h => nomatch h.2.2.1
      | false =>
        refine (survives_demoted_iff faults.next hasked).trans (not_congr ?_)
        exact ⟨fun h => ⟨hasked, h.1, rfl, h.2⟩, fun h => ⟨h.2.1, h.2.2.2⟩⟩
    · show SurvivesFailure s (Proc.runFaulty Statement.apply (if _ then _ else _) faults s) ↔ _
      rw [if_neg hasked]
      exact iff_of_true (survives_write hs hasked) fun h => hasked h.1

/-- A shop with the seeded seller. -/
def seededSellers : Sellers := ⟨[platformSeller 0], by decide⟩

def karnataka (isDefault : Bool) (gstin : String) : UpsertSellerProfileInput where
  id := none
  userId := none
  legalBusinessName := "Lamps Private Limited"
  tradeName := "Lamps"
  gstin := gstin
  stateCode := "Karnataka"
  addressLine1 := "12, Residency Road"
  addressLine2 := none
  city := "Bengaluru"
  postalCode := "560025"
  registrationType := none
  isActive := none
  isDefaultPlatformSeller := some isDefault

/-- A new default, whose two statements succeed. -/
theorem upsertSellerProfile_survives_iff_karnataka :
    seededSellers.defaults ≤ 1 ∧ SurvivesFailure seededSellers
      ((upsertSellerProfile id 1 (karnataka true "29AAACM1234F1Z5")).runFaulty Statement.apply
        Faults.none seededSellers) :=
  ⟨by decide, (upsertSellerProfile_survives_iff id 1 (karnataka true "29AAACM1234F1Z5")
    Faults.none (by decide)).mpr (by decide +kernel)⟩

/-- The second of the two fails: no profile is the default. -/
theorem default_demoted_in_vain : ¬∀ (toUpperCase : String → String) (newId : SellerId)
    (input : UpsertSellerProfileInput) (faults : Faults) (s : Sellers), s.defaults ≤ 1 →
    SurvivesFailure s
      ((upsertSellerProfile toUpperCase newId input).runFaulty Statement.apply faults s) := by
  intro h
  have hkept := (h id 1 { karnataka true "27AAACM1234F1Z5" with stateCode := "27" } Faults.none
    seededSellers (by decide)).kept (by decide +kernel)
  exact absurd (congrArg Sellers.defaults hkept) (by decide +kernel)

end Failures

end MeeoServer.SellerTax
