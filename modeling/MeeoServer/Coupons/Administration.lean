/-
# Changing a coupon

`createCouponSchema` and `updateCouponSchema` of `coupons/validations/coupon.validation.ts`, and
`createCoupon` and `updateCoupon` of `coupons/services/coupon.service.ts` behind them.
-/
import MeeoServer.Coupons.Preview
import MeeoServer.Storefront.Requests
import MeeoServer.Table.Patches
import MeeoServer.Table.Updates
import Mathlib.Data.Fintype.OfMap

namespace MeeoServer.Coupons

open Storefront (Coupon CouponId CouponType CouponStatus trimmed)

/-! ## The fields of a coupon -/

/-- The keys of the schemas. -/
inductive CouponField where
  | code
  | type
  | value
  | minimumOrderAmount
  | maximumDiscountAmount
  | usageLimit
  | usageLimitPerUser
  | startsAt
  | expiresAt
  | status
deriving DecidableEq

namespace CouponField

def all : List CouponField :=
  [.code, .type, .value, .minimumOrderAmount, .maximumDiscountAmount, .usageLimit,
    .usageLimitPerUser, .startsAt, .expiresAt, .status]

lemma mem_all (f : CouponField) : f ∈ all := by cases f <;> decide

instance : Fintype CouponField := Fintype.ofList all mem_all

def key : CouponField → String
  | .code => "code"
  | .type => "type"
  | .value => "value"
  | .minimumOrderAmount => "minimumOrderAmount"
  | .maximumDiscountAmount => "maximumDiscountAmount"
  | .usageLimit => "usageLimit"
  | .usageLimitPerUser => "usageLimitPerUser"
  | .startsAt => "startsAt"
  | .expiresAt => "expiresAt"
  | .status => "status"

/-- The values that the schemas make of a field. -/
abbrev Value : CouponField → Type
  | .code => String
  | .type => CouponType
  | .value => ℚ
  | .minimumOrderAmount | .maximumDiscountAmount => Option ℚ
  | .usageLimit | .usageLimitPerUser => Option ℕ+
  | .startsAt | .expiresAt => Option String
  | .status => CouponStatus

/-- The values that the column of a field holds. -/
abbrev Column : CouponField → Type
  | .code => String
  | .type => CouponType
  | .value => ℚ
  | .minimumOrderAmount | .maximumDiscountAmount => Option ℚ
  | .usageLimit | .usageLimitPerUser => Option ℕ
  | .startsAt | .expiresAt => Option Millis
  | .status => CouponStatus

/-- The column of a field, from a value of the schema: `input.code.trim().toUpperCase()`,
`input.startsAt ? new Date(input.startsAt) : null`, and the other values as they are. -/
def column (zod : Zod) : (f : CouponField) → f.Value → Option f.Column
  | .code => fun code => some (normalizeCode zod.toUpperCase code)
  | .value => decimalColumn 12
  | .minimumOrderAmount | .maximumDiscountAmount => nullableColumn (decimalColumn 12)
  | .usageLimit | .usageLimitPerUser => nullableColumn fun n => intColumn n
  | .startsAt | .expiresAt => fun val => some (dateColumn zod.newDate val)
  | .type | .status => some

end CouponField

def couponTypes : List (String × CouponType) :=
  [("PERCENTAGE", .percentage), ("FIXED_AMOUNT", .fixedAmount), ("FREE_SHIPPING", .freeShipping)]

def couponStatuses : List (String × CouponStatus) :=
  [("ACTIVE", .active), ("INACTIVE", .inactive), ("EXPIRED", .expired)]

section Schemas

variable (zod : Zod) (body : List (String × JsonValue))

open Zod

/-- What the two schemas make of the value of a field. -/
def readField : (f : CouponField) → JsonValue → Option f.Value
  | .code => zod.code 3 50
  | .type => enum couponTypes
  | .value => zod.nonNegative
  | .minimumOrderAmount | .maximumDiscountAmount => nullable zod.nonNegative
  | .usageLimit | .usageLimitPerUser => nullable zod.positive
  | .startsAt | .expiresAt => nullable zod.dateText
  | .status => enum couponStatuses

/-- The object of `createCouponSchema`. -/
def createCouponObject : ObjectSchema JsonValue CouponField.Value where
  read := readField zod
  default
    | .status => some .active
    | _ => none
  required
    | .code | .type | .value => true
    | _ => false

/-- The object of `updateCouponSchema`. -/
def updateCouponObject : ObjectSchema JsonValue CouponField.Value where
  read := readField zod
  default _ := none
  required _ := false

abbrev Input := Patch CouponField.Value

/-- `data.type === "PERCENTAGE" && data.value !== undefined` and a value outside of 1 to 100. -/
def percentageOutOfRange (data : Input) : Prop :=
  data .type = some .percentage ∧ ∃ value ∈ data .value, value < 1 ∨ 100 < value

instance (data : Input) : Decidable (percentageOutOfRange data) := by
  unfold percentageOutOfRange
  infer_instance

/-- `data.startsAt && data.expiresAt`, and the first one is not before the second one. -/
def datesOutOfOrder (data : Input) : Prop :=
  ∃ startsAt ∈ dateColumn zod.newDate ((data .startsAt).getD none),
    ∃ expiresAt ∈ dateColumn zod.newDate ((data .expiresAt).getD none), expiresAt ≤ startsAt

instance (data : Input) : Decidable (datesOutOfOrder zod data) := by
  unfold datesOutOfOrder
  infer_instance

/-- Validation schema for creating a new promotional coupon. -/
def createCouponSchema : Option Input :=
  ((createCouponObject zod).parse fun f => property body f.key).filter fun data =>
    ¬percentageOutOfRange data ∧ ¬datesOutOfOrder zod data

/-- Validation schema for updating an existing coupon. -/
def updateCouponSchema : Option Input :=
  ((updateCouponObject zod).parse fun f => property body f.key).filter fun data =>
    ¬percentageOutOfRange data

end Schemas

/-! ## The rows -/

/-- The column of a field. -/
def get (coupon : Coupon) : (f : CouponField) → f.Column
  | .code => coupon.code
  | .type => coupon.type
  | .value => coupon.value
  | .minimumOrderAmount => coupon.minimumOrderAmount
  | .maximumDiscountAmount => coupon.maximumDiscountAmount
  | .usageLimit => coupon.usageLimit
  | .usageLimitPerUser => coupon.usageLimitPerUser
  | .startsAt => coupon.startsAt
  | .expiresAt => coupon.expiresAt
  | .status => coupon.status

/-- The row with the columns of an object. -/
def ofColumns (id : CouponId) (c : (f : CouponField) → f.Column) : Coupon where
  id := id
  code := c .code
  type := c .type
  value := c .value
  minimumOrderAmount := c .minimumOrderAmount
  maximumDiscountAmount := c .maximumDiscountAmount
  usageLimit := c .usageLimit
  usageLimitPerUser := c .usageLimitPerUser
  startsAt := c .startsAt
  expiresAt := c .expiresAt
  status := c .status

lemma get_ofColumns (id : CouponId) (c : (f : CouponField) → f.Column) (f : CouponField) :
    get (ofColumns id c) f = c f := by
  cases f <;> rfl

/-- The row with the values of a patch. -/
def assign (data : Patch CouponField.Column) (coupon : Coupon) : Coupon :=
  ofColumns coupon.id (data.overlay (get coupon))

/-- What `createCoupon` writes where the input has nothing. -/
def fallback : Patch CouponField.Column
  | .code | .type | .value => none
  | .minimumOrderAmount | .maximumDiscountAmount | .usageLimit | .usageLimitPerUser | .startsAt
  | .expiresAt => some none
  | .status => some .active

/-! ## The services -/

namespace CouponService

variable (zod : Zod) (coupons : List Coupon) (id : CouponId) (input : Input)

/-- The columns of a new row. -/
def createData : Option ((f : CouponField) → f.Column) :=
  (input.store (CouponField.column zod)).bind fun data => data.complete fallback

/-- Creates a new promotional coupon, with the identifier `id`. -/
def createCoupon : Except AppError (Coupon × List Coupon) :=
  let normalizedCode := normalizeCode zod.toUpperCase ((input .code).getD "")
  if coupons.any fun c => c.code = normalizedCode then
    .error ⟨s!"Coupon with code \"{normalizedCode}\" already exists", 409⟩
  else
    match createData zod input with
    | none => .error default
    | some columns =>
      if coupons.any fun c => c.id = id then .error default
      else .ok (ofColumns id columns, coupons ++ [ofColumns id columns])

/-- Updates an existing coupon by ID. -/
def updateCoupon : Except AppError (Coupon × List Coupon) :=
  match coupons.find? fun c => c.id = id with
  | none => .error ⟨"Coupon not found", 404⟩
  | some coupon =>
    let code := (input .code).getD ""
    let normalizedCode := normalizeCode zod.toUpperCase code
    if code ≠ "" ∧ code ≠ coupon.code ∧
        coupons.any fun c => c.code = normalizedCode ∧ c.id ≠ id then
      .error ⟨s!"Coupon code \"{normalizedCode}\" already exists", 409⟩
    else
      match input.store (CouponField.column zod) with
      | none => .error default
      | some data =>
        let updated := assign data coupon
        if coupons.any fun c => c.id ≠ id ∧ c.code = updated.code then .error default
        else .ok (updated, Table.updateWhere (fun c => c.id = id) (assign data) coupons)

variable {zod coupons id input} {coupon : Coupon} {coupons' : List Coupon}

/-- What a creation that succeeds has done. -/
lemma createCoupon_eq_ok (h : createCoupon zod coupons id input = .ok (coupon, coupons')) :
    ∃ data, input.store (CouponField.column zod) = some data ∧
      data.complete fallback = some (get coupon) ∧ coupons' = coupons ++ [coupon] := by
  obtain ⟨-, h⟩ := check_eq_ok.mp h
  split at h
  · cases h
  · rename_i columns hcolumns
    obtain ⟨-, h⟩ := check_eq_ok.mp h
    obtain ⟨data, hdata, hcolumns⟩ := Option.bind_eq_some_iff.mp hcolumns
    cases h
    refine ⟨data, hdata, ?_, rfl⟩
    rw [hcolumns]
    exact congrArg some (funext fun f => (get_ofColumns id columns f).symm)

/-- What an update that succeeds has done. -/
lemma updateCoupon_eq_ok (h : updateCoupon zod coupons id input = .ok (coupon, coupons')) :
    ∃ data, input.store (CouponField.column zod) = some data ∧
      coupons' = Table.updateWhere (fun c => c.id = id) (assign data) coupons := by
  unfold updateCoupon at h
  split at h
  · cases h
  · obtain ⟨-, h⟩ := check_eq_ok.mp h
    split at h
    · cases h
    · rename_i data hdata
      obtain ⟨-, h⟩ := check_eq_ok.mp h
      cases h
      exact ⟨data, hdata, rfl⟩

end CouponService

/-! ## The requests -/

namespace CouponController

variable (zod : Zod) (coupons : List Coupon) (id : CouponId) (body : List (String × JsonValue))

def createCoupon : Except AppError (Coupon × List Coupon) :=
  match createCouponSchema zod body with
  | none => .error validationFailed
  | some input => CouponService.createCoupon zod coupons id input

def updateCoupon : Except AppError (Coupon × List Coupon) :=
  match updateCouponSchema zod body with
  | none => .error validationFailed
  | some input => CouponService.updateCoupon zod coupons id input

variable {zod coupons id body} {coupon : Coupon} {coupons' : List Coupon}

lemma createCoupon_eq_ok (h : createCoupon zod coupons id body = .ok (coupon, coupons')) :
    ∃ input, createCouponSchema zod body = some input ∧
      CouponService.createCoupon zod coupons id input = .ok (coupon, coupons') := by
  unfold createCoupon at h
  split at h
  · cases h
  · rename_i input hinput
    exact ⟨input, hinput, h⟩

lemma updateCoupon_eq_ok (h : updateCoupon zod coupons id body = .ok (coupon, coupons')) :
    ∃ input, updateCouponSchema zod body = some input ∧
      CouponService.updateCoupon zod coupons id input = .ok (coupon, coupons') := by
  unfold updateCoupon at h
  split at h
  · cases h
  · rename_i input hinput
    exact ⟨input, hinput, h⟩

end CouponController

end MeeoServer.Coupons
