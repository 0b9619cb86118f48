/-
# The bodies of requests

The values of JSON, and what zod reads out of them.  What zod and JavaScript make of numbers,
dates and identifiers is a parameter.  What a schema reports when it rejects a body is left out.
-/
import MeeoServer.Storefront.Worth

namespace MeeoServer

/-- The value of a JSON text. -/
inductive JsonValue where
  | null
  | bool (b : Bool)
  | number (x : ℚ)
  | string (s : String)
  | array (values : List JsonValue)
  | object (entries : List (String × JsonValue))

/-- What zod and JavaScript make of single values. -/
structure Zod where
  /-- `z.coerce.number()`. -/
  number : JsonValue → Option ℚ
  /-- `z.string().uuid()`. -/
  uuid : String → Option ℕ
  /-- `z.string().datetime()`. -/
  datetime : String → Bool
  /-- `new Date(text)`. -/
  newDate : String → Millis
  toUpperCase : String → String

namespace Zod

variable {α : Type} (zod : Zod)

def string : JsonValue → Option String
  | .string s => some s
  | _ => none

def boolean : JsonValue → Option Bool
  | .bool b => some b
  | _ => none

/-- `z.enum(names)`. -/
def enum (names : List (String × α)) (value : JsonValue) : Option α :=
  (string value).bind fun s => names.lookup s

/-- `schema.optional().nullable()`, of a value that is there. -/
def nullable (schema : JsonValue → Option α) : JsonValue → Option (Option α)
  | .null => some none
  | value => (schema value).map some

lemma of_nullable {schema : JsonValue → Option α} {value : JsonValue} {a : α}
    (h : nullable schema value = some (some a)) : schema value = some a := by
  unfold nullable at h
  split at h
  · cases h
  · obtain ⟨b, hb, hba⟩ := Option.map_eq_some_iff.mp h
    rw [hb, Option.some.inj hba]

/-- `z.array(schema)`. -/
def array (schema : JsonValue → Option α) : JsonValue → Option (List α)
  | .array values => values.mapM schema
  | _ => none

/-- `z.record(z.string(), z.any())`. -/
def record : JsonValue → Option JsonValue
  | .object entries => some (.object entries)
  | _ => none

/-- `z.coerce.number().min(0)`. -/
def nonNegative (value : JsonValue) : Option ℚ := (zod.number value).filter fun x => 0 ≤ x

variable {zod} in
lemma nonNegative_nonneg {value : JsonValue} {x : ℚ} (h : zod.nonNegative value = some x) :
    0 ≤ x := of_decide_eq_true (Option.filter_eq_some_iff.mp h).2

/-- `z.coerce.number().int()`: an integer that a double can hold exactly. -/
def int (value : JsonValue) : Option ℤ :=
  (zod.number value).bind fun x =>
    if x.den = 1 ∧ x.num.natAbs < 2 ^ 53 then some x.num else none

/-- `z.coerce.number().int().min(0).max(longest)`. -/
def natural (value : JsonValue) : Option ℕ :=
  (zod.int value).bind fun n => if 0 ≤ n then some n.toNat else none

/-- `z.coerce.number().int().min(1)`. -/
def positive (value : JsonValue) : Option ℕ+ :=
  (zod.int value).bind fun n => if h : 0 < n.toNat then some ⟨n.toNat, h⟩ else none

/-- `z.string().min(shortest).max(longest).trim().transform((val) => val.toUpperCase())`. -/
def code (shortest longest : ℕ) (value : JsonValue) : Option String :=
  ((string value).bind (Storefront.withLength shortest longest)).map fun s =>
    zod.toUpperCase (Storefront.trimmed s)

/-- `z.string().datetime()`. -/
def dateText (value : JsonValue) : Option String :=
  (string value).filter fun s => zod.datetime s

/-- `z.string().uuid()`. -/
def uuidText (value : JsonValue) : Option ℕ := (string value).bind zod.uuid

end Zod

/-- The error of a body that a schema rejects. -/
def validationFailed : AppError := ⟨"Validation failed", 400⟩

/-- The value of a key of a body. -/
def property (body : List (String × JsonValue)) (key : String) : Option JsonValue := body.lookup key

/-! ## Columns -/

/-- A column `Decimal(digits, 2)`, of a number that is not negative. -/
def decimalColumn (digits : ℕ) (x : ℚ) : Option ℚ :=
  if fixedTwo x < 10 ^ (digits - 2) then some (fixedTwo x) else none

lemma decimalColumn_eq_some {digits : ℕ} {x y : ℚ} (h : decimalColumn digits x = some y) :
    y = fixedTwo x := (Option.some.inj (Option.ite_none_right_eq_some.mp h).2).symm

/-- A column `Int`. -/
def intColumn (n : ℕ) : Option ℕ := if n < 2 ^ 31 then some n else none

/-- A column that may be null. -/
def nullableColumn {α β : Type} (column : α → Option β) : Option α → Option (Option β)
  | none => some none
  | some a => (column a).map some

lemma exists_of_nullableColumn {α β : Type} {column : α → Option β} {val : Option α} {b : β}
    (h : nullableColumn column val = some (some b)) : ∃ a, val = some a ∧ column a = some b := by
  cases val with
  | none => cases h
  | some a =>
    obtain ⟨c, hc, hcb⟩ := Option.map_eq_some_iff.mp h
    exact ⟨a, rfl, hc.trans hcb⟩

/-- `val ? new Date(val) : null`. -/
def dateColumn (newDate : String → Millis) (val : Option String) : Option Millis :=
  (val.filter fun text => text ≠ "").map newDate

end MeeoServer
