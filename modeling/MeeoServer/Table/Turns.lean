/-
# The turns of a loop

A loop may pass over a row when its turn comes, depending on the state it is in.  `turns` lists
the other rows, each with the state that the loop was in.  What a loop collects or adds up can be
read off its turns, and an invariant needs to be kept by these only.
-/
import Mathlib.Algebra.BigOperators.Group.List.Basic

namespace MeeoServer.Table

variable {α β γ M : Type} (f : β → α → β) (skips : β → α → Prop) [∀ b a, Decidable (skips b a)]

/-- The rows that a loop does not pass over, each with the state of the loop before it. -/
def turns : β → List α → List (β × α)
  | _, [] => []
  | b, a :: l => if skips b a then turns (f b a) l else (b, a) :: turns (f b a) l

variable {f skips} {b : β} {l : List α} {t : β × α}

lemma turns_cons_of_skips {a : α} (h : skips b a) :
    turns f skips b (a :: l) = turns f skips (f b a) l := if_pos h

lemma turns_cons_of_not {a : α} (h : ¬skips b a) :
    turns f skips b (a :: l) = (b, a) :: turns f skips (f b a) l := if_neg h

lemma turns_sublist : ((turns f skips b l).map Prod.snd).Sublist l := by
  induction l generalizing b with
  | nil => exact List.Sublist.refl _
  | cons a l ih =>
    by_cases h : skips b a
    · rw [turns_cons_of_skips h]
      exact ih.cons a
    · rw [turns_cons_of_not h, List.map_cons]
      exact ih.cons_cons a

/-- A turn splits the loop in what comes before it and what comes after it. -/
lemma exists_of_mem_turns (h : t ∈ turns f skips b l) : ∃ pre post, l = pre ++ t.2 :: post ∧
    t.1 = pre.foldl f b ∧ ¬skips t.1 t.2 ∧
      turns f skips b l = turns f skips b pre ++ t :: turns f skips (f t.1 t.2) post := by
  induction l generalizing b with
  | nil => cases h
  | cons a l ih =>
    by_cases hs : skips b a
    · rw [turns_cons_of_skips hs] at h
      obtain ⟨pre, post, rfl, hstate, hnot, hturns⟩ := ih h
      exact ⟨a :: pre, post, rfl, hstate, hnot, by
        rw [turns_cons_of_skips hs, turns_cons_of_skips hs, hturns]⟩
    · rw [turns_cons_of_not hs] at h
      rcases List.mem_cons.mp h with rfl | h
      · exact ⟨[], l, rfl, rfl, hs, turns_cons_of_not hs⟩
      · obtain ⟨pre, post, rfl, hstate, hnot, hturns⟩ := ih h
        exact ⟨a :: pre, post, rfl, hstate, hnot, by
          rw [turns_cons_of_not hs, turns_cons_of_not hs, hturns, List.cons_append]⟩

lemma not_skips_of_mem_turns (h : t ∈ turns f skips b l) : ¬skips t.1 t.2 := by
  obtain ⟨_, _, _, _, hnot, _⟩ := exists_of_mem_turns h
  exact hnot

/-- In a state that passes over every row, no turn is left. -/
lemma turns_eq_nil (hskip : ∀ b a, skips b a → f b a = b) (h : ∀ a, skips b a) :
    turns f skips b l = [] := by
  induction l with
  | nil => rfl
  | cons a l ih => rw [turns_cons_of_skips (h a), hskip b a (h a), ih]

/-! ## Invariants -/

section Invariant

variable {P : β → Prop} (hskip : ∀ b a, skips b a → f b a = b)
  (hstep : ∀ b a, P b → ¬skips b a → P (f b a)) (hb : P b)
include hskip hstep hb

lemma foldl_of_turns : P (l.foldl f b) := by
  induction l generalizing b with
  | nil => exact hb
  | cons a l ih =>
    by_cases h : skips b a
    · rw [List.foldl_cons, hskip b a h]
      exact ih hb
    · exact ih (hstep b a hb h)

/-- What every turn keeps holds before every turn. -/
lemma turns_induction (h : t ∈ turns f skips b l) : P t.1 := by
  obtain ⟨pre, _, _, hstate, _, _⟩ := exists_of_mem_turns h
  rw [hstate]
  exact foldl_of_turns hskip hstep hb

end Invariant

/-! ## What a loop collects -/

lemma collect_foldl (collected : β → List γ) (g : β × α → List γ)
    (h : ∀ b a, collected (f b a) = collected b ++ if skips b a then [] else g (b, a)) :
    collected (l.foldl f b) = collected b ++ (turns f skips b l).flatMap g := by
  induction l generalizing b with
  | nil => exact (List.append_nil _).symm
  | cons a l ih =>
    rw [List.foldl_cons, ih, h]
    by_cases hs : skips b a
    · rw [turns_cons_of_skips hs, if_pos hs, List.append_nil]
    · rw [turns_cons_of_not hs, if_neg hs, List.flatMap_cons, List.append_assoc]

lemma sum_foldl [AddMonoid M] (total : β → M) (g : β × α → M)
    (h : ∀ b a, total (f b a) = total b + if skips b a then 0 else g (b, a)) :
    total (l.foldl f b) = total b + ((turns f skips b l).map g).sum := by
  induction l generalizing b with
  | nil => exact (add_zero _).symm
  | cons a l ih =>
    rw [List.foldl_cons, ih, h]
    by_cases hs : skips b a
    · rw [turns_cons_of_skips hs, if_pos hs, add_zero]
    · rw [turns_cons_of_not hs, if_neg hs, List.map_cons, List.sum_cons, add_assoc]

end MeeoServer.Table
