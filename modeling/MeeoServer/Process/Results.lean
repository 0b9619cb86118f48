/-
# Results that may be errors

What a computation in `Except` has gone through if its result is a value.
-/
import Mathlib.Data.List.Forall2

namespace MeeoServer

lemma bind_eq_ok {ε α β : Type} {x : Except ε α} {f : α → Except ε β} {b : β} :
    x >>= f = .ok b ↔ ∃ a, x = .ok a ∧ f a = .ok b := by
  cases x with
  | error e => exact ⟨fun h => (nomatch h), fun ⟨_, h, _⟩ => (nomatch h)⟩
  | ok a => exact ⟨fun h => ⟨a, rfl, h⟩, fun ⟨_, h, hb⟩ => Except.ok.inj h ▸ hb⟩

/-- A check that throws has been passed. -/
lemma check_eq_ok {ε α : Type} {c : Prop} [Decidable c] {e : ε} {x : Except ε α} {a : α} :
    (if c then .error e else x) = .ok a ↔ ¬c ∧ x = .ok a := by
  by_cases h : c
  · rw [if_pos h]
    exact ⟨fun hok => (nomatch hok), fun hok => absurd h hok.1⟩
  · rw [if_neg h]
    exact ⟨fun hok => ⟨h, hok⟩, And.right⟩

/-- Two computations that make the same check and report it in different words. -/
lemma map_toOption_check {ε α β γ : Type} {c : Prop} [Decidable c] {e e' : ε} {x : Except ε α}
    {y : Except ε β} {f : α → γ} {g : β → γ} (h : x.toOption.map f = y.toOption.map g) :
    (if c then .error e else x).toOption.map f = (if c then .error e' else y).toOption.map g := by
  by_cases hc : c
  · rw [if_pos hc, if_pos hc]
    rfl
  · rw [if_neg hc, if_neg hc, h]

lemma exists_ok_of_isSome {ε α : Type} {x : Except ε α} (h : x.toOption.isSome) :
    ∃ a, x = .ok a := by
  cases x with
  | error e => exact nomatch h
  | ok a => exact ⟨a, rfl⟩

lemma mapM_eq_ok {ε α β : Type} {f : α → Except ε β} {l : List α} {l' : List β}
    (h : l.mapM f = .ok l') : List.Forall₂ (fun a b => f a = .ok b) l l' := by
  induction l generalizing l' with
  | nil =>
    obtain rfl : [] = l' := Except.ok.inj h
    exact .nil
  | cons a l ih =>
    rw [List.mapM_cons] at h
    obtain ⟨b, hb, h⟩ := bind_eq_ok.mp h
    obtain ⟨bs, hbs, h⟩ := bind_eq_ok.mp h
    obtain rfl : b :: bs = l' := Except.ok.inj h
    exact .cons hb (ih hbs)

/-- Every value of the result comes from one of the list. -/
lemma exists_of_mem_mapM {ε α β : Type} {f : α → Except ε β} {l : List α} {l' : List β}
    (h : l.mapM f = .ok l') {b : β} (hb : b ∈ l') : ∃ a ∈ l, f a = .ok b := by
  have hrows := mapM_eq_ok h
  clear h
  induction hrows with
  | nil => cases hb
  | cons hab _ ih =>
    rcases List.mem_cons.mp hb with rfl | hb
    · exact ⟨_, List.mem_cons_self, hab⟩
    · obtain ⟨a, ha, hab'⟩ := ih hb
      exact ⟨a, List.mem_cons_of_mem _ ha, hab'⟩

end MeeoServer
