/-
# The schemas of promotions

`basePromotionSchema`, `createPromotionSchema` and `updatePromotionSchema` of
`promotions/validations/promotion.validation.ts`.  A body is the object that the request has
sent; the schema reads it field by field.
-/
import MeeoServer.Promotions.Cache
import MeeoServer.Storefront.Requests
import MeeoServer.Table.Patches
import Mathlib.Data.Fintype.OfMap

namespace MeeoServer

/-! ## The fields of a promotion -/

/-- The keys of `basePromotionSchema`. -/
inductive PromotionField where
  | name
  | slug
  | description
  | code
  | type
  | status
  | priority
  | isStackable
  | stackingRule
  | isAutomatic
  | customerSegment
  | firstOrderOnly
  | discountValue
  | maxDiscountAmount
  | minOrderSubtotal
  | minQuantity
  | buyXQuantity
  | getYQuantity
  | getYDiscountPercentage
  | startsAt
  | endsAt
  | timeOfDayStart
  | timeOfDayEnd
  | daysOfWeek
  | totalUsageLimit
  | userUsageLimit
  | targetProductIds
  | targetCategoryIds
  | targetBrandIds
  | excludedProductIds
  | excludedCategoryIds
  | metadata
deriving DecidableEq

namespace PromotionField

def all : List PromotionField :=
  [.name, .slug, .description, .code, .type, .status, .priority, .isStackable, .stackingRule,
    .isAutomatic, .customerSegment, .firstOrderOnly, .discountValue, .maxDiscountAmount,
    .minOrderSubtotal, .minQuantity, .buyXQuantity, .getYQuantity, .getYDiscountPercentage,
    .startsAt, .endsAt, .timeOfDayStart, .timeOfDayEnd, .daysOfWeek, .totalUsageLimit,
    .userUsageLimit, .targetProductIds, .targetCategoryIds, .targetBrandIds, .excludedProductIds,
    .excludedCategoryIds, .metadata]

lemma mem_all (f : PromotionField) : f ∈ all := by cases f <;> decide

instance : Fintype PromotionField := Fintype.ofList all mem_all

def key : PromotionField → String
  | .name => "name"
  | .slug => "slug"
  | .description => "description"
  | .code => "code"
  | .type => "type"
  | .status => "status"
  | .priority => "priority"
  | .isStackable => "isStackable"
  | .stackingRule => "stackingRule"
  | .isAutomatic => "isAutomatic"
  | .customerSegment => "customerSegment"
  | .firstOrderOnly => "firstOrderOnly"
  | .discountValue => "discountValue"
  | .maxDiscountAmount => "maxDiscountAmount"
  | .minOrderSubtotal => "minOrderSubtotal"
  | .minQuantity => "minQuantity"
  | .buyXQuantity => "buyXQuantity"
  | .getYQuantity => "getYQuantity"
  | .getYDiscountPercentage => "getYDiscountPercentage"
  | .startsAt => "startsAt"
  | .endsAt => "endsAt"
  | .timeOfDayStart => "timeOfDayStart"
  | .timeOfDayEnd => "timeOfDayEnd"
  | .daysOfWeek => "daysOfWeek"
  | .totalUsageLimit => "totalUsageLimit"
  | .userUsageLimit => "userUsageLimit"
  | .targetProductIds => "targetProductIds"
  | .targetCategoryIds => "targetCategoryIds"
  | .targetBrandIds => "targetBrandIds"
  | .excludedProductIds => "excludedProductIds"
  | .excludedCategoryIds => "excludedCategoryIds"
  | .metadata => "metadata"

/-- The values that the schema makes of a field. -/
abbrev Value : PromotionField → Type
  | .name | .slug => String
  | .description | .code | .startsAt | .endsAt | .timeOfDayStart | .timeOfDayEnd => Option String
  | .type => PromotionType
  | .status => PromotionStatus
  | .stackingRule => PromotionStackingRule
  | .customerSegment => CustomerSegment
  | .isStackable | .isAutomatic | .firstOrderOnly => Bool
  | .discountValue | .maxDiscountAmount | .minOrderSubtotal | .getYDiscountPercentage => Option ℚ
  | .minQuantity | .buyXQuantity | .getYQuantity | .totalUsageLimit | .userUsageLimit => Option ℕ+
  | .priority => ℕ
  | .daysOfWeek | .targetProductIds | .targetCategoryIds | .targetBrandIds
  | .excludedProductIds | .excludedCategoryIds => List ℕ
  | .metadata => Option JsonValue

end PromotionField

/-! ## The schemas -/

/-- `/^[a-z0-9]+(?:-[a-z0-9]+)*$/`. -/
def isSlug (s : String) : Bool :=
  (s.toList.splitOn '-').all fun word =>
    !word.isEmpty && word.all fun c => ('a' ≤ c && c ≤ 'z') || ('0' ≤ c && c ≤ '9')

/-- `/^([01]\d|2[0-3]):([0-5]\d)$/`. -/
def isTimeOfDay (s : String) : Bool :=
  match s.toList with
  | [a, b, ':', c, d] =>
    (((a = '0' || a = '1') && b.isDigit) || (a = '2' && '0' ≤ b && b ≤ '3')) &&
      ('0' ≤ c && c ≤ '5') && d.isDigit
  | _ => false

def promotionTypes : List (String × PromotionType) :=
  [("PERCENTAGE", .percentage), ("FIXED_DISCOUNT", .fixedDiscount), ("BUY_X_GET_Y", .buyXGetY),
    ("FREE_SHIPPING", .freeShipping), ("PRODUCT_DISCOUNT", .productDiscount),
    ("CATEGORY_DISCOUNT", .categoryDiscount), ("BRAND_DISCOUNT", .brandDiscount),
    ("FLASH_SALE", .flashSale)]

def promotionStatuses : List (String × PromotionStatus) :=
  [("DRAFT", .draft), ("SCHEDULED", .scheduled), ("ACTIVE", .active), ("PAUSED", .paused),
    ("EXPIRED", .expired), ("ARCHIVED", .archived)]

def stackingRules : List (String × PromotionStackingRule) :=
  [("EXCLUSIVE", .exclusive), ("STACKABLE_WITH_OTHERS", .stackableWithOthers),
    ("STACKABLE_WITH_COUPONS", .stackableWithCoupons)]

def customerSegments : List (String × CustomerSegment) :=
  [("ALL", .all), ("FIRST_TIME_BUYER", .firstTimeBuyer), ("VIP", .vip),
    ("RETURNING", .returning), ("REGISTERED", .registered)]

section Schema

variable (zod : Zod)

open Zod Storefront

/-- Base Zod validation schema for promotion attributes. -/
def basePromotionSchema : ObjectSchema JsonValue PromotionField.Value where
  read
    | .name => fun v => (string v).bind (withLength 2 100)
    | .slug => fun v => ((string v).bind (withLength 2 100)).filter isSlug
    | .description => nullable fun v => (string v).bind (withLength 0 1000)
    | .code => nullable (zod.code 3 50)
    | .type => enum promotionTypes
    | .status => enum promotionStatuses
    | .priority => zod.natural
    | .isStackable | .isAutomatic | .firstOrderOnly => boolean
    | .stackingRule => enum stackingRules
    | .customerSegment => enum customerSegments
    | .discountValue | .maxDiscountAmount | .minOrderSubtotal => nullable zod.nonNegative
    | .getYDiscountPercentage => nullable fun v => (zod.nonNegative v).filter fun x => x ≤ 100
    | .minQuantity | .buyXQuantity | .getYQuantity | .totalUsageLimit | .userUsageLimit =>
      nullable zod.positive
    | .startsAt | .endsAt => nullable zod.dateText
    | .timeOfDayStart | .timeOfDayEnd => nullable fun v => (string v).filter isTimeOfDay
    | .daysOfWeek => array fun v => (zod.natural v).filter fun n => n ≤ 6
    | .targetProductIds | .targetCategoryIds | .targetBrandIds
    | .excludedProductIds | .excludedCategoryIds => array zod.uuidText
    | .metadata => nullable record
  default
    | .status => some .draft
    | .priority => some 0
    | .isStackable | .isAutomatic | .firstOrderOnly => some false
    | .stackingRule => some .exclusive
    | .customerSegment => some .all
    | .daysOfWeek | .targetProductIds | .targetCategoryIds | .targetBrandIds
    | .excludedProductIds | .excludedCategoryIds => some []
    | _ => none
  required
    | .name | .slug | .type => true
    | _ => false

end Schema

end MeeoServer
