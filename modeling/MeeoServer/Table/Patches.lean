/-
# Objects whose fields may be missing

The fields of an object are the elements of a finite type `F`, and `V f` is the type of the
values of the field `f`.  An object may leave fields out: it is then laid over a complete one,
and what it does not name should stay.

A schema reads an object field by field out of a raw one.  It may know a value for a field that
is missing; then the field is never missing in what the schema makes of the object.
-/
import Mathlib.Data.Fintype.Defs

namespace MeeoServer

/-- An object that may leave fields out. -/
abbrev Patch {F : Type} (V : F → Type) := (f : F) → Option (V f)

variable {F J : Type} {V C : F → Type}

/-- All the values, unless one of them is missing. -/
def sequence [Fintype F] (g : (f : F) → Option (V f)) : Option ((f : F) → V f) :=
  if h : ∀ f, (g f).isSome then some fun f => (g f).get (h f) else none

lemma sequence_eq_some [Fintype F] {g : (f : F) → Option (V f)} {v : (f : F) → V f} :
    sequence g = some v ↔ ∀ f, g f = some (v f) := by
  unfold sequence
  constructor
  · intro h f
    split_ifs at h with hsome
    rw [← Option.some.inj h, Option.some_get]
  · intro h
    rw [dif_pos fun f => by rw [h f]; rfl]
    refine congrArg some (funext fun f => ?_)
    simp only [h f, Option.get_some]

/-! ## Schemas -/

/-- A schema of an object: how it reads the value of each field, the value it gives to a missing
field, and the fields that must not be missing. -/
structure ObjectSchema (J : Type) (V : F → Type) where
  read : (f : F) → J → Option (V f)
  default : Patch V
  required : F → Bool

namespace ObjectSchema

variable (schema : ObjectSchema J V) (body : F → Option J)

/-- What the schema makes of a field. -/
def field (f : F) : Option (Option (V f)) :=
  match body f with
  | some value => (schema.read f value).map some
  | none =>
    match schema.default f with
    | some value => some (some value)
    | none => if schema.required f then none else some none

def parse [Fintype F] : Option (Patch V) := sequence (schema.field body)

/-- No field is required; the values of the missing ones stay. -/
def asPartial : ObjectSchema J V := { schema with required := fun _ => false }

variable {schema body} [Fintype F] {patch : Patch V}

lemma parse_present (h : schema.parse body = some patch) {f : F} {value : J}
    (hbody : body f = some value) : ∃ v, schema.read f value = some v ∧ patch f = some v := by
  have hfield : schema.field body f = some (patch f) := sequence_eq_some.mp h f
  unfold field at hfield
  rw [hbody] at hfield
  obtain ⟨v, hv, hpatch⟩ := Option.map_eq_some_iff.mp hfield
  exact ⟨v, hv, hpatch.symm⟩

/-- What is missing has the value that the schema knows for it, or is missing still. -/
lemma parse_missing (h : schema.parse body = some patch) {f : F} (hbody : body f = none) :
    patch f = schema.default f := by
  have hfield : schema.field body f = some (patch f) := sequence_eq_some.mp h f
  unfold field at hfield
  rw [hbody] at hfield
  cases hdefault : schema.default f with
  | some v =>
    rw [hdefault] at hfield
    exact (Option.some.inj hfield).symm
  | none =>
    rw [hdefault] at hfield
    simp only [Option.ite_none_left_eq_some, Option.some.injEq] at hfield
    exact hfield.2.symm

/-- Every value of the result has been read, or is one that the schema knows. -/
lemma parse_value (h : schema.parse body = some patch) {f : F} {v : V f}
    (hv : patch f = some v) :
    (∃ value, schema.read f value = some v) ∨ schema.default f = some v := by
  cases hbody : body f with
  | some value =>
    obtain ⟨w, hw, hpatch⟩ := parse_present h hbody
    rw [hpatch] at hv
    exact .inl ⟨value, Option.some.inj hv ▸ hw⟩
  | none => exact .inr ((parse_missing h hbody).symm.trans hv)

end ObjectSchema

/-! ## Laying an object over another one -/

namespace Patch

/-- The values as they are stored, unless one of them cannot be. -/
def store [Fintype F] (column : (f : F) → V f → Option (C f)) (patch : Patch V) :
    Option (Patch C) :=
  sequence fun f =>
    match patch f with
    | none => some none
    | some v => (column f v).map some

section Store

variable [Fintype F] {column : (f : F) → V f → Option (C f)} {patch : Patch V} {data : Patch C}

lemma store_missing (h : patch.store column = some data) {f : F} (hpatch : patch f = none) :
    data f = none := by
  have hfield := sequence_eq_some.mp h f
  rw [hpatch] at hfield
  exact (Option.some.inj hfield).symm

lemma store_present (h : patch.store column = some data) {f : F} {v : V f}
    (hpatch : patch f = some v) : ∃ c, column f v = some c ∧ data f = some c := by
  have hfield := sequence_eq_some.mp h f
  rw [hpatch] at hfield
  obtain ⟨c, hc, hdata⟩ := Option.map_eq_some_iff.mp hfield
  exact ⟨c, hc, hdata.symm⟩

lemma exists_of_store (h : patch.store column = some data) {f : F} {c : C f}
    (hdata : data f = some c) : ∃ v, patch f = some v ∧ column f v = some c := by
  cases hpatch : patch f with
  | none =>
    rw [store_missing h hpatch] at hdata
    cases hdata
  | some v =>
    obtain ⟨c', hc', hdata'⟩ := store_present h hpatch
    exact ⟨v, rfl, hc'.trans (hdata'.symm.trans hdata)⟩

/-- All values of an object, with `fallback` where it has none; unless that has none either. -/
def complete (data fallback : Patch C) : Option ((f : F) → C f) :=
  sequence fun f => (data f).or (fallback f)

variable {fallback : Patch C} {row : (f : F) → C f}

lemma complete_present (h : patch.store column = some data)
    (hrow : data.complete fallback = some row) {f : F} {v : V f} (hpatch : patch f = some v) :
    column f v = some (row f) := by
  have hfield := sequence_eq_some.mp hrow f
  obtain ⟨c, hc, hdata⟩ := store_present h hpatch
  rw [hdata, Option.some_or] at hfield
  rw [hc, hfield]

lemma complete_missing (h : patch.store column = some data)
    (hrow : data.complete fallback = some row) {f : F} (hpatch : patch f = none) :
    fallback f = some (row f) := by
  have hfield := sequence_eq_some.mp hrow f
  rwa [store_missing h hpatch, Option.none_or] at hfield

/-- The value of a field that falls back on what is stored for `v`. -/
lemma complete_getD (h : patch.store column = some data) (hrow : data.complete fallback = some row)
    {f : F} {v : V f} (hfallback : column f v = fallback f) :
    column f ((patch f).getD v) = some (row f) := by
  cases hpatch : patch f with
  | none => exact hfallback.trans (complete_missing h hrow hpatch)
  | some w => exact complete_present h hrow hpatch

/-- A field that has nothing to fall back on is present. -/
lemma complete_required (h : patch.store column = some data)
    (hrow : data.complete fallback = some row) {f : F} (hfallback : fallback f = none) :
    ∃ v, patch f = some v ∧ column f v = some (row f) := by
  cases hpatch : patch f with
  | none =>
    rw [complete_missing h hrow hpatch] at hfallback
    cases hfallback
  | some v => exact ⟨v, rfl, complete_present h hrow hpatch⟩

end Store

/-- The object with the values of the patch. -/
def overlay (data : Patch C) (row : (f : F) → C f) : (f : F) → C f :=
  fun f => (data f).getD (row f)

/-- **The frame of a partial object.**  What is missing stays, exactly if the values that the
schema knows for missing fields are there already. -/
theorem overlay_frame_iff [Fintype F] {schema : ObjectSchema J V} {body : F → Option J}
    {patch : Patch V} {column : (f : F) → V f → Option (C f)} {data : Patch C}
    (hparse : schema.parse body = some patch) (hstore : patch.store column = some data)
    (row : (f : F) → C f) :
    (∀ f, body f = none → data.overlay row f = row f) ↔
      ∀ f, body f = none → ∀ v, schema.default f = some v → column f v = some (row f) := by
  refine forall_congr' fun f => imp_congr_right fun hbody => ?_
  have hpatch := ObjectSchema.parse_missing hparse hbody
  cases hdefault : schema.default f with
  | none =>
    have hdata : data f = none := store_missing hstore (hpatch.trans hdefault)
    simp [overlay, hdata]
  | some v =>
    obtain ⟨c, hcolumn, hdata⟩ := store_present hstore (hpatch.trans hdefault)
    simp [overlay, hdata, hcolumn]

/-! ## Two fields -/

section Pair

variable {a b : F} (R : C a → C b → Prop) (data : Patch C) (row : (f : F) → C f)

/-- What the patch says of two fields fits to what the row has: each value to the one of the row
if the patch has no other one, and else to that. -/
def Respects : Prop :=
  (∀ x ∈ data a, data b = none → R x (row b)) ∧
    (∀ y ∈ data b, data a = none → R (row a) y) ∧ ∀ x ∈ data a, ∀ y ∈ data b, R x y

instance [∀ x y, Decidable (R x y)] : Decidable (data.Respects R row) := by
  unfold Respects
  infer_instance

variable {R data row}

/-- **A relation between two fields** of a row is kept exactly if the patch respects it. -/
theorem overlay_pair_iff (h : R (row a) (row b)) :
    R (data.overlay row a) (data.overlay row b) ↔ data.Respects R row := by
  unfold Respects overlay
  cases data a <;> cases data b <;> simp [h]

end Pair

end Patch

end MeeoServer
