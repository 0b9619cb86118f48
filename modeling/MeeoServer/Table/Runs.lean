/-
# Rows that are collected in the order of their keys

A loop collects the rows of a sorted list in a map, under keys that change only where the order
does.  Then the entries of the map are runs of the list, one after the other.
-/
import MeeoServer.Table.Grouping
import Mathlib.Data.List.Forall2
import Mathlib.Data.List.Induction
import Mathlib.Order.Lattice

namespace MeeoServer.Table

variable {α β κ σ : Type}

/-! ## Two lists side by side -/

section Forall₂

variable {R : α → β → Prop} {l : List α} {l' : List β}

lemma exists_mem_of_forall₂ (h : List.Forall₂ R l l') {a : α} (ha : a ∈ l) :
    ∃ b ∈ l', R a b := by
  induction h with
  | nil => cases ha
  | cons hab _ ih =>
    rcases List.mem_cons.mp ha with rfl | ha
    · exact ⟨_, List.mem_cons_self, hab⟩
    · obtain ⟨b, hb, h⟩ := ih ha
      exact ⟨b, List.mem_cons_of_mem _ hb, h⟩

lemma forall₂_concat_right {b : β} (h : List.Forall₂ R l (l' ++ [b])) :
    ∃ m a, l = m ++ [a] ∧ List.Forall₂ R m l' ∧ R a b := by
  obtain ⟨a, hab, hlast⟩ : ∃ a, R a b ∧ l.drop l'.length = [a] := by
    have hdrop := List.forall₂_drop_append l l' [b] h
    obtain ⟨a, rest, hab, hrest, heq⟩ := List.forall₂_cons_right_iff.mp hdrop
    rw [List.forall₂_nil_right_iff.mp hrest] at heq
    exact ⟨a, hab, heq⟩
  refine ⟨l.take l'.length, a, ?_, List.forall₂_take_append l l' [b] h, hab⟩
  rw [← hlast, List.take_append_drop]

lemma forall₂_concat {a : α} {b : β} (h : List.Forall₂ R l l') (hab : R a b) :
    List.Forall₂ R (l ++ [a]) (l' ++ [b]) :=
  List.rel_append h (.cons hab .nil)

end Forall₂

/-! ## The loop -/

section Collect

lemma adjust_append_of_ne [DecidableEq κ] {k : κ} {m : List (κ × β)} (h : ∀ x ∈ m, x.1 ≠ k)
    (f : Option β → β) (m' : List (κ × β)) : adjust k f (m ++ m') = m ++ adjust k f m' := by
  induction m with
  | nil => rfl
  | cons x m ih =>
    rw [List.cons_append, adjust, if_neg (h x List.mem_cons_self),
      ih fun y hy => h y (List.mem_cons_of_mem x hy), List.cons_append]

variable (key : α → κ) (add : Option β → α → β)

/-- The map after the loop. -/
def collect [DecidableEq κ] (l : List α) : List (κ × β) :=
  l.foldl (fun m a => adjust (key a) (add · a) m) []

/-- An entry has collected a run of rows. -/
structure Collected (x : κ × β) (run : List α) : Prop where
  key_eq : ∀ a ∈ run, key a = x.1
  value : run.foldl (fun b a => some (add b a)) none = some x.2

variable {key add} {x : κ × β} {run : List α}

lemma Collected.singleton (a : α) : Collected key add (key a, add none a) [a] where
  key_eq := by simp
  value := rfl

lemma Collected.ne_nil (h : Collected key add x run) : run ≠ [] := by
  rintro rfl
  cases h.value

lemma Collected.concat {a : α} (h : Collected key add x run) (ha : key a = x.1) :
    Collected key add (x.1, add (some x.2) a) (run ++ [a]) where
  key_eq := by
    intro b hb
    rcases List.mem_append.mp hb with hb | hb
    · exact h.key_eq b hb
    · rw [List.mem_singleton.mp hb, ha]
  value := by
    rw [List.foldl_append, h.value]
    rfl

variable (key add) in
/-- **The entries are the runs of the list**, in its order. -/
theorem exists_runs [DecidableEq κ] [LinearOrder σ] {slot : α → σ} {l : List α}
    (hsorted : l.Pairwise fun a b => slot a ≤ slot b)
    (hkey : ∀ a ∈ l, ∀ b ∈ l, key a = key b ↔ slot a = slot b) :
    ∃ runs : List (List α), runs.flatten = l ∧
      List.Forall₂ (Collected key add) (collect key add l) runs ∧
        runs.Pairwise fun r r' => ∀ a ∈ r, ∀ b ∈ r', slot a < slot b := by
  induction l using List.reverseRecOn with
  | nil => exact ⟨[], rfl, .nil, .nil⟩
  | append_singleton l a ih =>
    obtain ⟨hl, -, hlast⟩ := List.pairwise_append.mp hsorted
    obtain ⟨runs, rfl, hcollected, hruns⟩ := ih hl fun b hb c hc =>
      hkey b (List.mem_append_left _ hb) c (List.mem_append_left _ hc)
    have hle : ∀ r ∈ runs, ∀ b ∈ r, slot b ≤ slot a := fun r hr b hb =>
      hlast b (List.mem_flatten_of_mem hr hb) a List.mem_cons_self
    have hkey : ∀ r ∈ runs, ∀ b ∈ r, key b = key a ↔ slot b = slot a := fun r hr b hb =>
      hkey b (List.mem_append_left _ (List.mem_flatten_of_mem hr hb)) a
        (List.mem_append_right _ List.mem_cons_self)
    have hfold : collect key add (runs.flatten ++ [a]) =
        adjust (key a) (add · a) (collect key add runs.flatten) := by
      rw [collect, List.foldl_append]
      rfl
    rw [hfold]
    rcases List.eq_nil_or_concat' runs with rfl | ⟨init, r, rfl⟩
    · -- the first row opens the first run
      rw [List.forall₂_nil_right_iff.mp hcollected]
      exact ⟨[[a]], rfl, .cons (.singleton a) .nil, List.pairwise_singleton _ _⟩
    obtain ⟨m, x, hm, hinit, hr⟩ := forall₂_concat_right hcollected
    obtain ⟨hpairs, -, hbefore⟩ := List.pairwise_append.mp hruns
    have hrmem : r ∈ init ++ [r] := List.mem_append_right _ List.mem_cons_self
    obtain ⟨b, hb⟩ := List.exists_mem_of_ne_nil r hr.ne_nil
    -- the rows of the earlier runs come before those of the last
    have hlt : ∀ r' ∈ init, ∀ c ∈ r', slot c < slot a := fun r' hr' c hc =>
      (hbefore r' hr' r List.mem_cons_self c hc b hb).trans_le (hle r hrmem b hb)
    have hne : ∀ y ∈ m, y.1 ≠ key a := by
      intro y hy heq
      obtain ⟨r', hr', hy⟩ := exists_mem_of_forall₂ hinit hy
      obtain ⟨c, hc⟩ := List.exists_mem_of_ne_nil r' hy.ne_nil
      have hslot := (hkey r' (List.mem_append_left _ hr') c hc).mp ((hy.key_eq c hc).trans heq)
      exact absurd hslot (hlt r' hr' c hc).ne
    rw [hm, adjust_append_of_ne hne, adjust]
    by_cases hx : x.1 = key a
    · -- the row continues the last run
      refine ⟨init ++ [r ++ [a]], by simp, ?_, ?_⟩
      · rw [if_pos hx]
        exact forall₂_concat hinit (hr.concat hx.symm)
      · refine List.pairwise_append.mpr ⟨hpairs, List.pairwise_singleton _ _, ?_⟩
        intro r' hr' r'' hr'' c hc d hd
        rw [List.mem_singleton.mp hr''] at hd
        rcases List.mem_append.mp hd with hd | hd
        · exact hbefore r' hr' r List.mem_cons_self c hc d hd
        · rw [List.mem_singleton.mp hd]
          exact hlt r' hr' c hc
    · -- the row opens a new run
      have hlast : ∀ c ∈ r, slot c < slot a := by
        intro c hc
        refine lt_of_le_of_ne (hle r hrmem c hc) fun heq => hx ?_
        rw [← hr.key_eq c hc]
        exact (hkey r hrmem c hc).mpr heq
      refine ⟨init ++ [r] ++ [[a]], by simp, ?_, ?_⟩
      · rw [if_neg hx, adjust, List.append_cons]
        exact forall₂_concat (forall₂_concat hinit hr) (.singleton a)
      · refine List.pairwise_append.mpr ⟨hruns, List.pairwise_singleton _ _, ?_⟩
        intro r' hr' r'' hr'' c hc d hd
        rw [List.mem_singleton.mp hr''] at hd
        rw [List.mem_singleton.mp hd]
        rcases List.mem_append.mp hr' with hr' | hr'
        · exact hlt r' hr' c hc
        · rw [List.mem_singleton.mp hr'] at hc
          exact hlast c hc

end Collect

/-! ## How a relation cuts a list -/

/-- The rows of a run are related, and those of different runs are not. -/
def Cuts (R : α → α → Prop) (runs : List (List α)) : Prop :=
  (∀ r ∈ runs, ∀ a ∈ r, ∀ b ∈ r, R a b) ∧
    runs.Pairwise fun r r' => ∀ a ∈ r, ∀ b ∈ r', ¬R a b

section Cuts

variable {R S : α → α → Prop} {runs : List (List α)}

lemma Cuts.of_iff (hR : Cuts R runs)
    (h : ∀ a ∈ runs.flatten, ∀ b ∈ runs.flatten, R a b ↔ S a b) : Cuts S runs := by
  refine ⟨fun r hr a ha b hb => (h a (List.mem_flatten_of_mem hr ha) b
    (List.mem_flatten_of_mem hr hb)).mp (hR.1 r hr a ha b hb), ?_⟩
  refine List.Pairwise.imp_of_mem (fun {r r'} hr hr' hnot a ha b hb hab => ?_) hR.2
  exact hnot a ha b hb ((h a (List.mem_flatten_of_mem hr ha) b
    (List.mem_flatten_of_mem hr' hb)).mpr hab)

/-- Two relations that cut a list into the same runs agree on it. -/
lemma Cuts.iff (hR : Cuts R runs) (hS : Cuts S runs) (hRsymm : ∀ a b, R a b → R b a)
    (hSsymm : ∀ a b, S a b → S b a) :
    ∀ a ∈ runs.flatten, ∀ b ∈ runs.flatten, R a b ↔ S a b := by
  induction runs with
  | nil => simp
  | cons r runs ih =>
    obtain ⟨hRr, hRruns⟩ := List.pairwise_cons.mp hR.2
    obtain ⟨hSr, hSruns⟩ := List.pairwise_cons.mp hS.2
    have hrest := ih ⟨fun r' hr' => hR.1 r' (List.mem_cons_of_mem r hr'), hRruns⟩
      ⟨fun r' hr' => hS.1 r' (List.mem_cons_of_mem r hr'), hSruns⟩
    -- a row of the first run is related to no later one
    have hcross : ∀ a ∈ r, ∀ b ∈ runs.flatten, ¬R a b ∧ ¬S a b := by
      intro a ha b hb
      obtain ⟨r', hr', hb⟩ := List.mem_flatten.mp hb
      exact ⟨hRr r' hr' a ha b hb, hSr r' hr' a ha b hb⟩
    intro a ha b hb
    rw [List.flatten_cons, List.mem_append] at ha hb
    rcases ha with ha | ha
    · rcases hb with hb | hb
      · exact iff_of_true (hR.1 r List.mem_cons_self a ha b hb)
          (hS.1 r List.mem_cons_self a ha b hb)
      · exact iff_of_false (hcross a ha b hb).1 (hcross a ha b hb).2
    · rcases hb with hb | hb
      · exact iff_of_false (fun h => (hcross b hb a ha).1 (hRsymm a b h))
          fun h => (hcross b hb a ha).2 (hSsymm a b h)
      · exact hrest a ha b hb

end Cuts

end MeeoServer.Table
