/-
# JSON values

A JSON value over a type of texts, with the entries of an object in order, and what is found in it
at any depth.
-/
import Mathlib.Data.List.Basic
import Mathlib.Data.Rat.Defs

namespace MeeoServer.Text

inductive Json (κ : Type) where
  | null
  | bool (b : Bool)
  | num (n : ℚ)
  | str (s : κ)
  | arr (items : List (Json κ))
  | obj (fields : List (κ × Json κ))

namespace Json

variable {κ : Type}

/-- What holds of a value if it holds of its items, or of the values of its fields, holds of all. -/
@[elab_as_elim]
theorem induction {P : Json κ → Prop} (null : P .null) (bool : ∀ b, P (.bool b))
    (num : ∀ n, P (.num n)) (str : ∀ s, P (.str s))
    (arr : ∀ items, (∀ v ∈ items, P v) → P (.arr items))
    (obj : ∀ fields, (∀ field ∈ fields, P field.2) → P (.obj fields)) (v : Json κ) : P v :=
  @Json.rec κ P (fun items => ∀ v ∈ items, P v) (fun fields => ∀ field ∈ fields, P field.2)
    (fun field => P field.2) null bool num str arr obj (by simp)
    (fun _ _ hhead htail => List.forall_mem_cons.mpr ⟨hhead, htail⟩) (by simp)
    (fun _ _ hhead htail => List.forall_mem_cons.mpr ⟨hhead, htail⟩) (fun _ _ h => h) v

/-- Some object in the value, at any depth, has a key with `P`. -/
inductive HasKey (P : κ → Prop) : Json κ → Prop where
  | here {key value fields} (hfield : (key, value) ∈ fields) (hkey : P key) : HasKey P (.obj fields)
  | item {value items} (hitem : value ∈ items) (h : HasKey P value) : HasKey P (.arr items)
  | field {key value fields} (hfield : (key, value) ∈ fields) (h : HasKey P value) :
      HasKey P (.obj fields)

/-- Some string in the value, at any depth, has `P`; keys are not counted. -/
inductive HasString (P : κ → Prop) : Json κ → Prop where
  | here {s} (h : P s) : HasString P (.str s)
  | item {value items} (hitem : value ∈ items) (h : HasString P value) : HasString P (.arr items)
  | field {key value fields} (hfield : (key, value) ∈ fields) (h : HasString P value) :
      HasString P (.obj fields)

lemma exists_ne (v : Json κ) : ∃ v', v' ≠ v := by
  cases v with
  | null => exact ⟨.bool true, by simp⟩
  | _ => exact ⟨.null, by simp⟩

end Json

/-! ## Lists that a function does not tell apart -/

section Images

variable {α β γ : Type} {f : α → β} {g : α → γ} {l l' : List α}

/-- If `f` depends on no more than `g` does, on the elements of a list, then so do the images. -/
lemma map_eq_map_of (heq : l'.map g = l.map g) (h : ∀ a ∈ l, ∀ a', g a' = g a → f a' = f a) :
    l'.map f = l.map f := by
  induction l generalizing l' with
  | nil => rw [List.map_eq_nil_iff.mp heq]
  | cons a l ih =>
    obtain ⟨a', rest, rfl, ha, hrest⟩ := List.map_eq_cons_iff.mp heq
    rw [List.map_cons, List.map_cons, h a List.mem_cons_self a' ha,
      ih hrest fun b hb => h b (List.mem_cons_of_mem a hb)]

lemma filterMap_eq_filterMap_of {f : α → Option β} (heq : l'.map g = l.map g)
    (h : ∀ a ∈ l, ∀ a', g a' = g a → f a' = f a) : l'.filterMap f = l.filterMap f := by
  have hid : ∀ l : List α, l.filterMap f = (l.map f).filterMap id := by
    intro l
    rw [List.filterMap_map]
    rfl
  rw [hid, hid, map_eq_map_of heq h]

end Images

end MeeoServer.Text
