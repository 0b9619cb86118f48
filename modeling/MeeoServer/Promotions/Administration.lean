/-
# Changing a promotion

`createPromotion` and `updatePromotion` of `promotions/services/promotion.service.ts`, behind the
schemas that `promotions/controller/promotion.controller.ts` applies to the bodies.

An update copies every key that the schema has made, and the schema fills in its defaults for
the keys that the body has left out.
-/
import MeeoServer.Process.Results
import MeeoServer.Promotions.Schemas
import MeeoServer.Promotions.Totals
import MeeoServer.Table.Updates

namespace MeeoServer

/-- The row of `prisma/schema/promotion/promotion.prisma`. -/
structure StoredPromotion extends Promotion where
  metadata : Option JsonValue

namespace PromotionField

/-- The values that the column of a field holds. -/
abbrev Column : PromotionField → Type
  | .name | .slug => String
  | .description | .code | .timeOfDayStart | .timeOfDayEnd => Option String
  | .startsAt | .endsAt => Option JsDate
  | .type => PromotionType
  | .status => PromotionStatus
  | .stackingRule => PromotionStackingRule
  | .customerSegment => CustomerSegment
  | .isStackable | .isAutomatic | .firstOrderOnly => Bool
  | .discountValue | .maxDiscountAmount | .minOrderSubtotal | .getYDiscountPercentage =>
    Option JsDecimal
  | .minQuantity | .buyXQuantity | .getYQuantity => Option ℕ+
  | .totalUsageLimit | .userUsageLimit => Option ℕ
  | .priority => ℕ
  | .daysOfWeek | .targetProductIds | .targetCategoryIds | .targetBrandIds
  | .excludedProductIds | .excludedCategoryIds => List ℕ
  | .metadata => Option JsonValue

/-- The column of a field, from a value of the schema; `none` if the value does not fit. -/
def column (newDate : String → Millis) : (f : PromotionField) → f.Value → Option f.Column
  | .startsAt | .endsAt => fun val => some ((dateColumn newDate val).map .date)
  | .discountValue | .maxDiscountAmount | .minOrderSubtotal =>
    nullableColumn fun x => (decimalColumn 12 x).map .decimal
  | .getYDiscountPercentage => nullableColumn fun x => (decimalColumn 5 x).map .decimal
  | .minQuantity | .buyXQuantity | .getYQuantity =>
    nullableColumn fun n => (intColumn n).map fun _ => n
  | .totalUsageLimit | .userUsageLimit =>
    nullableColumn fun n => intColumn n
  | .priority => intColumn
  | .name | .slug | .description | .code | .timeOfDayStart | .timeOfDayEnd | .type | .status
  | .stackingRule | .customerSegment | .isStackable | .isAutomatic | .firstOrderOnly
  | .daysOfWeek | .targetProductIds | .targetCategoryIds | .targetBrandIds
  | .excludedProductIds | .excludedCategoryIds | .metadata => some

end PromotionField

namespace StoredPromotion

/-- The column of a field. -/
def get (row : StoredPromotion) : (f : PromotionField) → f.Column
  | .name => row.name
  | .slug => row.slug
  | .description => row.description
  | .code => row.code
  | .type => row.type
  | .status => row.status
  | .priority => row.priority
  | .isStackable => row.isStackable
  | .stackingRule => row.stackingRule
  | .isAutomatic => row.isAutomatic
  | .customerSegment => row.customerSegment
  | .firstOrderOnly => row.firstOrderOnly
  | .discountValue => row.discountValue
  | .maxDiscountAmount => row.maxDiscountAmount
  | .minOrderSubtotal => row.minOrderSubtotal
  | .minQuantity => row.minQuantity
  | .buyXQuantity => row.buyXQuantity
  | .getYQuantity => row.getYQuantity
  | .getYDiscountPercentage => row.getYDiscountPercentage
  | .startsAt => row.startsAt
  | .endsAt => row.endsAt
  | .timeOfDayStart => row.timeOfDayStart
  | .timeOfDayEnd => row.timeOfDayEnd
  | .daysOfWeek => row.daysOfWeek
  | .totalUsageLimit => row.totalUsageLimit
  | .userUsageLimit => row.userUsageLimit
  | .targetProductIds => row.targetProductIds
  | .targetCategoryIds => row.targetCategoryIds
  | .targetBrandIds => row.targetBrandIds
  | .excludedProductIds => row.excludedProductIds
  | .excludedCategoryIds => row.excludedCategoryIds
  | .metadata => row.metadata

/-- The row with the columns of an object. -/
def ofColumns (id : PromotionId) (currentUsageCount : ℕ) (c : (f : PromotionField) → f.Column) :
    StoredPromotion where
  id := id
  name := c .name
  slug := c .slug
  description := c .description
  code := c .code
  type := c .type
  status := c .status
  priority := c .priority
  isStackable := c .isStackable
  stackingRule := c .stackingRule
  isAutomatic := c .isAutomatic
  customerSegment := c .customerSegment
  firstOrderOnly := c .firstOrderOnly
  discountValue := c .discountValue
  maxDiscountAmount := c .maxDiscountAmount
  minOrderSubtotal := c .minOrderSubtotal
  minQuantity := c .minQuantity
  buyXQuantity := c .buyXQuantity
  getYQuantity := c .getYQuantity
  getYDiscountPercentage := c .getYDiscountPercentage
  startsAt := c .startsAt
  endsAt := c .endsAt
  timeOfDayStart := c .timeOfDayStart
  timeOfDayEnd := c .timeOfDayEnd
  daysOfWeek := c .daysOfWeek
  totalUsageLimit := c .totalUsageLimit
  userUsageLimit := c .userUsageLimit
  currentUsageCount := currentUsageCount
  targetProductIds := c .targetProductIds
  targetCategoryIds := c .targetCategoryIds
  targetBrandIds := c .targetBrandIds
  excludedProductIds := c .excludedProductIds
  excludedCategoryIds := c .excludedCategoryIds
  metadata := c .metadata

@[simp] lemma get_ofColumns (id : PromotionId) (count : ℕ) (c : (f : PromotionField) → f.Column)
    (f : PromotionField) : (ofColumns id count c).get f = c f := by
  cases f <;> rfl

/-- The row with the values of a patch. -/
def assign (data : Patch PromotionField.Column) (row : StoredPromotion) : StoredPromotion :=
  ofColumns row.id row.currentUsageCount (data.overlay row.get)

/-- Two rows have the same slug, or the same code. -/
def Clashes (row other : StoredPromotion) : Prop :=
  row.slug = other.slug ∨ row.code.isSome ∧ row.code = other.code

instance (row other : StoredPromotion) : Decidable (row.Clashes other) := by
  unfold Clashes
  infer_instance

end StoredPromotion

namespace PromotionService

abbrev Input := Patch PromotionField.Value

/-- What `createPromotion` writes where the input has nothing: `input.status ?? "DRAFT"`. -/
def fallback : Patch PromotionField.Column
  | .name | .slug | .type => none
  | .status => some .draft
  | .priority => some 0
  | .isStackable | .isAutomatic | .firstOrderOnly => some false
  | .stackingRule => some .exclusive
  | .customerSegment => some .all
  | .daysOfWeek | .targetProductIds | .targetCategoryIds | .targetBrandIds
  | .excludedProductIds | .excludedCategoryIds => some []
  | .description | .code | .startsAt | .endsAt | .timeOfDayStart | .timeOfDayEnd
  | .discountValue | .maxDiscountAmount | .minOrderSubtotal | .getYDiscountPercentage
  | .minQuantity | .buyXQuantity | .getYQuantity | .totalUsageLimit | .userUsageLimit
  | .metadata => some none

section Services

variable (newDate : String → Millis) (promotions : List StoredPromotion) (id : PromotionId)
  (input : Input)

/-- The columns of a new row. -/
def createData : Option ((f : PromotionField) → f.Column) :=
  (input.store (PromotionField.column newDate)).bind fun data => data.complete fallback

/-- Creates a new promotional campaign, with the identifier `id`. -/
def createPromotion : Except AppError (StoredPromotion × List StoredPromotion) :=
  let slug := (input .slug).getD ""
  let code := ((input .code).getD none).getD ""
  if promotions.any fun p => p.slug = slug then
    .error ⟨s!"Promotion with slug \"{slug}\" already exists", 409⟩
  else if code ≠ "" ∧ promotions.any fun p => p.code = some code then
    .error ⟨s!"Promotion code \"{code}\" is already in use", 409⟩
  else
    match createData newDate input with
    | none => .error default
    | some columns =>
      let row := StoredPromotion.ofColumns id 0 columns
      if promotions.any fun p => p.id = id ∨ row.Clashes p then .error default
      else .ok (row, promotions ++ [row])

/-- Updates an existing promotion with cache invalidation and audit logging. -/
def updatePromotion : Except AppError (StoredPromotion × List StoredPromotion) :=
  match promotions.find? fun p => p.id = id with
  | none => .error ⟨s!"Promotion with ID \"{id}\" not found", 404⟩
  | some existing =>
    let slug := (input .slug).getD ""
    let code := ((input .code).getD none).getD ""
    if slug ≠ "" ∧ slug ≠ existing.slug ∧ promotions.any fun p => p.slug = slug then
      .error ⟨s!"Slug \"{slug}\" already exists", 409⟩
    else if code ≠ "" ∧ some code ≠ existing.code ∧ promotions.any fun p => p.code = some code then
      .error ⟨s!"Code \"{code}\" already exists", 409⟩
    else
      match input.store (PromotionField.column newDate) with
      | none => .error default
      | some data =>
        let updated := existing.assign data
        if promotions.any fun p => p.id ≠ id ∧ updated.Clashes p then .error default
        else
          .ok (updated, Table.updateWhere (fun p => p.id = id) (StoredPromotion.assign data)
            promotions)

variable {newDate promotions id input}

/-- What a creation that succeeds has done. -/
lemma createPromotion_eq_ok {row : StoredPromotion} {promotions' : List StoredPromotion}
    (h : createPromotion newDate promotions id input = .ok (row, promotions')) :
    ∃ data, input.store (PromotionField.column newDate) = some data ∧
      data.complete fallback = some row.get ∧ promotions' = promotions ++ [row] := by
  obtain ⟨-, h⟩ := check_eq_ok.mp h
  obtain ⟨-, h⟩ := check_eq_ok.mp h
  split at h
  · cases h
  · rename_i columns hcolumns
    obtain ⟨-, h⟩ := check_eq_ok.mp h
    obtain ⟨data, hdata, hcolumns⟩ := Option.bind_eq_some_iff.mp hcolumns
    cases h
    refine ⟨data, hdata, ?_, rfl⟩
    rw [hcolumns]
    exact congrArg some (funext fun f => (StoredPromotion.get_ofColumns id 0 columns f).symm)

/-- What an update that succeeds has done. -/
lemma updatePromotion_eq_ok {updated : StoredPromotion} {promotions' : List StoredPromotion}
    (h : updatePromotion newDate promotions id input = .ok (updated, promotions')) :
    ∃ existing data, (promotions.find? fun p => p.id = id) = some existing ∧
      input.store (PromotionField.column newDate) = some data ∧ updated = existing.assign data ∧
      promotions' = Table.updateWhere (fun p => p.id = id) (StoredPromotion.assign data)
        promotions := by
  unfold updatePromotion at h
  split at h
  · cases h
  · rename_i existing hexisting
    obtain ⟨-, h⟩ := check_eq_ok.mp h
    obtain ⟨-, h⟩ := check_eq_ok.mp h
    split at h
    · cases h
    · rename_i data hdata
      obtain ⟨-, h⟩ := check_eq_ok.mp h
      cases h
      exact ⟨existing, data, hexisting, hdata, rfl, rfl⟩

end Services

end PromotionService

/-! ## The requests -/

namespace PromotionController

variable (zod : Zod) (promotions : List StoredPromotion) (id : PromotionId)
  (body : List (String × JsonValue))

/-- `data.startsAt && data.endsAt`, and the end is before the start. -/
def datesOutOfOrder (data : PromotionService.Input) : Prop :=
  ∃ startsAt ∈ dateColumn zod.newDate ((data .startsAt).getD none),
    ∃ endsAt ∈ dateColumn zod.newDate ((data .endsAt).getD none), endsAt < startsAt

/-- A percentage that is not above 0, or above 100. -/
def percentageOutOfRange (data : PromotionService.Input) : Prop :=
  ∃ type ∈ data .type, type.isPercentage ∧
    ∃ discountValue ∈ (data .discountValue).getD none, discountValue ≤ 0 ∨ 100 < discountValue

/-- `BUY_X_GET_Y` without one of its quantities. -/
def quantityMissing (data : PromotionService.Input) : Prop :=
  data .type = some .buyXGetY ∧
    ((data .buyXQuantity).getD none = none ∨ (data .getYQuantity).getD none = none)

instance (data : PromotionService.Input) : Decidable (datesOutOfOrder zod data) := by
  unfold datesOutOfOrder
  infer_instance

instance (data : PromotionService.Input) : Decidable (percentageOutOfRange data) := by
  unfold percentageOutOfRange
  infer_instance

instance (data : PromotionService.Input) : Decidable (quantityMissing data) := by
  unfold quantityMissing
  infer_instance

/-- Validation schema for creating a new promotional campaign. -/
def createPromotionSchema : Option PromotionService.Input :=
  ((basePromotionSchema zod).parse fun f => property body f.key).filter fun data =>
    ¬datesOutOfOrder zod data ∧ ¬percentageOutOfRange data ∧ ¬quantityMissing data

/-- Validation schema for updating an existing promotion. -/
def updatePromotionSchema : Option PromotionService.Input :=
  (basePromotionSchema zod).asPartial.parse fun f => property body f.key

/-- Admin: Create a new promotion campaign. -/
def createPromotion : Except AppError (StoredPromotion × List StoredPromotion) :=
  match createPromotionSchema zod body with
  | none => .error validationFailed
  | some input => PromotionService.createPromotion zod.newDate promotions id input

/-- Admin: Update an existing promotion. -/
def updatePromotion : Except AppError (StoredPromotion × List StoredPromotion) :=
  match updatePromotionSchema zod body with
  | none => .error validationFailed
  | some input => PromotionService.updatePromotion zod.newDate promotions id input

variable {zod promotions id body} {existing updated : StoredPromotion}
  {promotions' : List StoredPromotion}

lemma createPromotion_eq_ok
    (h : createPromotion zod promotions id body = .ok (updated, promotions')) :
    ∃ input, createPromotionSchema zod body = some input ∧
      PromotionService.createPromotion zod.newDate promotions id input =
        .ok (updated, promotions') := by
  unfold createPromotion at h
  split at h
  · cases h
  · rename_i input hinput
    exact ⟨input, hinput, h⟩

lemma updatePromotion_eq_ok
    (h : updatePromotion zod promotions id body = .ok (updated, promotions')) :
    ∃ input, updatePromotionSchema zod body = some input ∧
      PromotionService.updatePromotion zod.newDate promotions id input =
        .ok (updated, promotions') := by
  unfold updatePromotion at h
  split at h
  · cases h
  · rename_i input hinput
    exact ⟨input, hinput, h⟩

/-- The promotion has kept what the body does not name. -/
structure KeepsRest (body : List (String × JsonValue)) (existing updated : StoredPromotion) :
    Prop where
  id_eq : updated.id = existing.id
  currentUsageCount_eq : updated.currentUsageCount = existing.currentUsageCount
  get_eq : ∀ f, property body f.key = none → updated.get f = existing.get f

/-- The values that the schema fills in. -/
def defaults : Patch PromotionField.Column
  | .status => some .draft
  | .priority => some 0
  | .isStackable | .isAutomatic | .firstOrderOnly => some false
  | .stackingRule => some .exclusive
  | .customerSegment => some .all
  | .daysOfWeek | .targetProductIds | .targetCategoryIds | .targetBrandIds
  | .excludedProductIds | .excludedCategoryIds => some []
  | _ => none

/-- They are the defaults of the schema, and they all fit into their columns. -/
lemma column_default_iff (f : PromotionField) (c : f.Column) :
    (∀ v, (basePromotionSchema zod).default f = some v →
        PromotionField.column zod.newDate f v = some c) ↔
      ∀ value, defaults f = some value → c = value := by
  have hbind : ((basePromotionSchema zod).default f).bind (PromotionField.column zod.newDate f) =
      defaults f := by
    cases f <;> rfl
  have hsome : ((basePromotionSchema zod).default f).isSome = (defaults f).isSome := by
    cases f <;> rfl
  cases hdefault : (basePromotionSchema zod).default f with
  | none =>
    rw [hdefault, Option.bind_none] at hbind
    simp [← hbind]
  | some v =>
    rw [hdefault, Option.bind_some] at hbind
    rw [hdefault] at hsome
    obtain ⟨value, hvalue⟩ := Option.isSome_iff_exists.mp hsome.symm
    simp [hbind, hvalue, eq_comm]

/-- **An update is a frame** exactly if each field that has a default is in the body, or has its
default already. -/
theorem updatePromotion_keepsRest_iff
    (hexisting : (promotions.find? fun p => p.id = id) = some existing)
    (h : updatePromotion zod promotions id body = .ok (updated, promotions')) :
    KeepsRest body existing updated ↔
      ∀ f value, defaults f = some value → property body f.key = none → existing.get f = value := by
  obtain ⟨input, hinput, h⟩ := updatePromotion_eq_ok h
  obtain ⟨row, data, hrow, hdata, rfl, -⟩ := PromotionService.updatePromotion_eq_ok h
  obtain rfl : existing = row := Option.some.inj (hexisting.symm.trans hrow)
  have hget : ∀ f, (existing.assign data).get f = data.overlay existing.get f :=
    StoredPromotion.get_ofColumns _ _ _
  have hframe := Patch.overlay_frame_iff hinput hdata existing.get
  calc KeepsRest body existing (existing.assign data)
    _ ↔ ∀ f, property body f.key = none → data.overlay existing.get f = existing.get f :=
      ⟨fun hkeeps f hbody => (hget f).symm.trans (hkeeps.get_eq f hbody),
        fun hkeeps => ⟨rfl, rfl, fun f hbody => (hget f).trans (hkeeps f hbody)⟩⟩
    _ ↔ ∀ f, property body f.key = none → ∀ v, (basePromotionSchema zod).default f = some v →
        PromotionField.column zod.newDate f v = some (existing.get f) := hframe
    _ ↔ ∀ f, property body f.key = none → ∀ value, defaults f = some value →
        existing.get f = value :=
      forall_congr' fun f => imp_congr_right fun _ => column_default_iff f (existing.get f)
    _ ↔ _ := forall_congr' fun f =>
      ⟨fun h value hvalue hbody => h hbody value hvalue,
        fun h hbody value hvalue => h value hvalue hbody⟩

/-- A request that renames a promotion: `{ "name": "Summer" }`. -/
def rename : List (String × JsonValue) := [("name", .string "Summer")]

/-- An active promotion that takes ten per cent off. -/
def winterSale : StoredPromotion where
  __ := cartSale 1 .percentage 10 3 true .stackableWithOthers
  metadata := none

/-- Texts and numbers, none of which is a date. -/
def plainZod : Zod where
  number
    | .number x => some x
    | _ => none
  uuid := fun _ => none
  datetime := fun _ => false
  newDate := fun _ => 0
  toUpperCase := fun s => s

theorem rename_keepsRest_iff : ∃ updated promotions',
    ([winterSale].find? fun p => p.id = 1) = some winterSale ∧
      updatePromotion plainZod [winterSale] 1 rename = .ok (updated, promotions') ∧
      (KeepsRest rename winterSale updated ↔ ∀ f value, defaults f = some value →
        property rename f.key = none → winterSale.get f = value) := by
  have hok : (updatePromotion plainZod [winterSale] 1 rename).toOption.isSome := by decide +kernel
  obtain ⟨⟨updated, promotions'⟩, hok⟩ := exists_ok_of_isSome hok
  exact ⟨updated, promotions', rfl, hok, updatePromotion_keepsRest_iff rfl hok⟩

/-- A promotion that is renamed is a draft again. -/
theorem rename_resets_status : ¬∀ (zod : Zod) (promotions : List StoredPromotion)
    (id : PromotionId) (body : List (String × JsonValue)) (existing updated : StoredPromotion)
    (promotions' : List StoredPromotion),
    (promotions.find? fun p => p.id = id) = some existing →
    updatePromotion zod promotions id body = .ok (updated, promotions') →
    KeepsRest body existing updated := by
  intro h
  have hdraft : (updatePromotion plainZod [winterSale] 1 rename).toOption.map
      (fun r => r.1.status) = some .draft := by decide +kernel
  cases hok : updatePromotion plainZod [winterSale] 1 rename with
  | error e =>
    rw [hok] at hdraft
    cases hdraft
  | ok r =>
    have hkeeps := (h plainZod [winterSale] 1 rename winterSale r.1 r.2 rfl hok).get_eq .status rfl
    rw [hok] at hdraft
    have hactive : r.1.status = .active := hkeeps
    rw [Except.toOption, Option.map_some, hactive] at hdraft
    cases hdraft

end PromotionController

end MeeoServer
