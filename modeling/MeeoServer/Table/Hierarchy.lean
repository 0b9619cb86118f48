/-
# Hierarchies

A table whose rows may name a parent in the same table is a partial function from identifiers to
identifiers.  `Reaches parent a b` says that `b` is `a` or one of its ancestors, and
`Acyclic parent` that nothing is an ancestor of itself.

Rows get another parent (`moved`), and a row is taken out of the hierarchy (`removed`).  The
first keeps a hierarchy acyclic exactly if the new parent reaches none of the rows that it gets.
In a finite table it can be computed what is reached, by climbing as many steps as there are rows
(`climbs`), or with a record of the rows that have been passed (`seek`).
-/
import Mathlib.Data.Finset.Card
import Mathlib.Logic.Relation

namespace MeeoServer.Table

open Relation

variable {ι : Type} (parent : ι → Option ι)

/-- One step up. -/
def ChildOf (a b : ι) : Prop := parent a = some b

/-- `b` is `a` or one of its ancestors. -/
def Reaches (a b : ι) : Prop := ReflTransGen (ChildOf parent) a b

/-- Nothing is an ancestor of itself. -/
def Acyclic : Prop := ∀ a, ¬TransGen (ChildOf parent) a a

variable {parent} {parent' : ι → Option ι} {a b c d : ι}

/-- A child that its parent reaches closes a cycle. -/
lemma Acyclic.not_reaches (h : Acyclic parent) (hparent : parent a = some b) :
    ¬Reaches parent b a :=
  fun hreaches => h a (TransGen.head' hparent hreaches)

lemma Acyclic.mono (h : Acyclic parent) (hsub : ∀ a b, parent' a = some b → parent a = some b) :
    Acyclic parent' :=
  fun a hcycle => h a (TransGen.mono hsub a a hcycle)

/-! ## Another parent -/

section Moved

variable (parent) (moves : ι → Prop) [DecidablePred moves] (target : Option ι)

/-- The rows in `moves` get the parent `target`. -/
def moved (a : ι) : Option ι := if moves a then target else parent a

variable {parent moves target}

lemma moved_of_pos (ha : moves a) : moved parent moves target a = target := if_pos ha

lemma moved_of_neg (ha : ¬moves a) : moved parent moves target a = parent a := if_neg ha

lemma childOf_moved (ha : ¬moves a) : ChildOf (moved parent moves target) a b ↔
    ChildOf parent a b := by
  unfold ChildOf
  rw [moved_of_neg ha]

/-- On the way up there is a first row that moves. -/
lemma exists_moves_of_reaches (hc : moves c) (h : Reaches parent a c) :
    ∃ first, moves first ∧ Reaches (moved parent moves target) a first := by
  induction h using ReflTransGen.head_induction_on with
  | refl => exact ⟨c, hc, ReflTransGen.refl⟩
  | @head x y hstep _ ih =>
    by_cases hx : moves x
    · exact ⟨x, hx, ReflTransGen.refl⟩
    · obtain ⟨first, hfirst, hreaches⟩ := ih
      exact ⟨first, hfirst, ReflTransGen.head ((childOf_moved hx).mpr hstep) hreaches⟩

/-- From a row that reaches none of those that move, the way up is the old one. -/
lemma transGen_of_moved (hnone : ∀ c, moves c → ¬Reaches parent a c)
    (h : TransGen (ChildOf (moved parent moves target)) a b) : TransGen (ChildOf parent) a b := by
  induction h with
  | single hstep =>
    have ha : ¬moves a := fun hmoves => hnone a hmoves ReflTransGen.refl
    exact .single ((childOf_moved ha).mp hstep)
  | @tail x y _ hstep ih =>
    have hx : ¬moves x := fun hmoves => hnone x hmoves ih.to_reflTransGen
    exact ih.tail ((childOf_moved hx).mp hstep)

lemma reaches_of_moved (hnone : ∀ c, moves c → ¬Reaches parent a c)
    (h : Reaches (moved parent moves target) a b) : Reaches parent a b := by
  rcases reflTransGen_iff_eq_or_transGen.mp h with rfl | h
  · exact ReflTransGen.refl
  · exact (transGen_of_moved hnone h).to_reflTransGen

/-- A way up in the new hierarchy is a way up in the old one, or it passes the new parent. -/
lemma transGen_or_reaches_of_moved (h : TransGen (ChildOf (moved parent moves target)) a b) :
    TransGen (ChildOf parent) a b ∨
      ∃ p, target = some p ∧ Reaches (moved parent moves target) p b := by
  induction h with
  | @single b hstep =>
    by_cases ha : moves a
    · refine .inr ⟨b, ?_, ReflTransGen.refl⟩
      rwa [ChildOf, moved_of_pos ha] at hstep
    · exact .inl (.single ((childOf_moved ha).mp hstep))
  | @tail x y _ hstep ih =>
    rcases ih with hold | ⟨p, hp, hreaches⟩
    · by_cases hx : moves x
      · refine .inr ⟨y, ?_, ReflTransGen.refl⟩
        rwa [ChildOf, moved_of_pos hx] at hstep
      · exact .inl (hold.tail ((childOf_moved hx).mp hstep))
    · exact .inr ⟨p, hp, ReflTransGen.tail hreaches hstep⟩

variable (moves target) in
/-- **Another parent** keeps a hierarchy acyclic exactly if it reaches none of the rows that it
gets. -/
theorem acyclic_moved_iff (h : Acyclic parent) : Acyclic (moved parent moves target) ↔
    ∀ p, target = some p → ∀ c, moves c → ¬Reaches parent p c := by
  constructor
  · intro hmoved p hp c hc hreaches
    obtain ⟨first, hfirst, hreaches⟩ := exists_moves_of_reaches hc hreaches
    refine hmoved first (TransGen.head' ?_ hreaches)
    rw [ChildOf, moved_of_pos hfirst, hp]
  · intro hnone a hcycle
    rcases transGen_or_reaches_of_moved hcycle with hold | ⟨p, hp, hreaches⟩
    · exact h a hold
    · -- the whole cycle is above the new parent, where nothing has moved
      have habove : Reaches parent p a := reaches_of_moved (hnone p hp) hreaches
      exact h a (transGen_of_moved (fun c hc hac => hnone p hp c hc (habove.trans hac)) hcycle)

end Moved

/-! ## A row less -/

section Removed

variable [DecidableEq ι]

variable (parent) in
/-- The row `d` is taken out; its children have no parent then. -/
def removed (d a : ι) : Option ι := if a = d then none else (parent a).filter (· ≠ d)

lemma removed_eq_some : removed parent d a = some b ↔ a ≠ d ∧ parent a = some b ∧ b ≠ d := by
  unfold removed
  split
  · rename_i ha
    simp [ha]
  · rename_i ha
    simp [ha, Option.filter_eq_some_iff]

lemma Acyclic.removed (h : Acyclic parent) (d : ι) : Acyclic (removed parent d) :=
  h.mono fun _ _ hstep => (removed_eq_some.mp hstep).2.1

/-- A row without children is on no cycle. -/
theorem acyclic_removed_iff (hnone : ∀ a, parent a ≠ some d) :
    Acyclic (Table.removed parent d) ↔ Acyclic parent := by
  refine ⟨fun h a hcycle => ?_, fun h => h.removed d⟩
  have hup : ∀ {a b}, a ≠ d → TransGen (ChildOf parent) a b →
      b ≠ d ∧ TransGen (ChildOf (Table.removed parent d)) a b := by
    intro a b ha hab
    induction hab with
    | @single b hstep =>
      have hb : b ≠ d := fun heq => hnone a (heq ▸ hstep)
      exact ⟨hb, .single (removed_eq_some.mpr ⟨ha, hstep, hb⟩)⟩
    | @tail x y _ hstep ih =>
      have hy : y ≠ d := fun heq => hnone x (heq ▸ hstep)
      exact ⟨hy, ih.2.tail (removed_eq_some.mpr ⟨ih.1, hstep, hy⟩)⟩
  have ha : a ≠ d := by
    rintro rfl
    obtain ⟨x, -, hstep⟩ := TransGen.tail'_iff.mp hcycle
    exact hnone x hstep
  exact h a (hup ha hcycle).2

end Removed

/-! ## Climbing -/

section Climbing

variable [DecidableEq ι]

variable (parent) in
/-- Does one meet `b` in `n` steps up from `a`? -/
def climbs : ℕ → ι → ι → Bool
  | 0, a, b => a = b
  | n + 1, a, b => a = b || (parent a).any fun c => climbs n c b

lemma reaches_of_climbs {n : ℕ} (h : climbs parent n a b = true) : Reaches parent a b := by
  induction n generalizing a with
  | zero =>
    obtain rfl : a = b := by simpa [climbs] using h
    exact ReflTransGen.refl
  | succ n ih =>
    simp only [climbs, Bool.or_eq_true, decide_eq_true_eq, Option.any_eq_true_iff_get] at h
    rcases h with rfl | ⟨hc, hclimbs⟩
    · exact ReflTransGen.refl
    · exact ReflTransGen.head (Option.some_get hc).symm (ih hclimbs)

/-- A way up need not come back to where it starts. -/
lemma exists_avoiding {r : ι → ι → Prop} (h : ReflTransGen r c b) :
    ReflTransGen (fun x y => x ≠ a ∧ r x y) c b ∨
      ∃ c, r a c ∧ ReflTransGen (fun x y => x ≠ a ∧ r x y) c b := by
  induction h using ReflTransGen.head_induction_on with
  | refl => exact .inl ReflTransGen.refl
  | @head x y hstep _ ih =>
    rcases ih with havoiding | hagain
    · by_cases hx : x = a
      · exact .inr ⟨y, hx ▸ hstep, havoiding⟩
      · exact .inl (ReflTransGen.head ⟨hx, hstep⟩ havoiding)
    · exact .inr hagain

/-- One climbs to everything that is reached, if there are as many steps as rows. -/
lemma climbs_of_reflTransGen (rows : Finset ι) {n : ℕ} (hn : rows.card ≤ n)
    (h : ReflTransGen (fun x y => x ∈ rows ∧ ChildOf parent x y) a b) :
    climbs parent n a b = true := by
  induction n generalizing rows a with
  | zero =>
    obtain rfl : rows = ∅ := Finset.card_eq_zero.mp (Nat.le_zero.mp hn)
    rcases ReflTransGen.cases_head h with rfl | ⟨c, ⟨hmem, -⟩, -⟩
    · simp [climbs]
    · exact absurd hmem (Finset.notMem_empty a)
  | succ n ih =>
    simp only [climbs, Bool.or_eq_true, decide_eq_true_eq]
    rcases ReflTransGen.cases_head h with rfl | ⟨c, ⟨hmem, hstep⟩, hup⟩
    · exact .inl rfl
    · refine .inr ?_
      -- the rest of the way avoids `a`, so it is a way in a smaller table
      have havoiding : ReflTransGen (fun x y => x ≠ a ∧ x ∈ rows ∧ ChildOf parent x y) c b := by
        rcases exists_avoiding (a := a) hup with havoiding | ⟨c', ⟨-, hstep'⟩, havoiding⟩
        · exact havoiding
        · obtain rfl : c = c' := Option.some.inj (hstep.symm.trans hstep')
          exact havoiding
      have hcard : (rows.erase a).card ≤ n := by
        rw [Finset.card_erase_of_mem hmem]
        exact Nat.sub_le_of_le_add hn
      have hclimbs : climbs parent n c b = true := by
        refine ih (rows.erase a) hcard (ReflTransGen.mono ?_ c b havoiding)
        rintro x y ⟨hne, hx, hxy⟩
        exact ⟨Finset.mem_erase.mpr ⟨hne, hx⟩, hxy⟩
      rw [hstep]
      exact hclimbs

/-- **Climbing** as many steps as there are rows finds out what is reached. -/
theorem climbs_iff {rows : List ι} (hrows : ∀ a, parent a ≠ none → a ∈ rows) :
    climbs parent rows.length a b = true ↔ Reaches parent a b := by
  refine ⟨reaches_of_climbs, fun h => ?_⟩
  refine climbs_of_reflTransGen rows.toFinset (List.toFinset_card_le rows) ?_
  refine ReflTransGen.mono ?_ a b h
  intro x y hxy
  refine ⟨?_, hxy⟩
  rw [List.mem_toFinset]
  exact hrows x (by rw [hxy]; exact Option.some_ne_none y)

end Climbing

/-! ## Climbing with a record -/

section Seeking

variable (parent b) in
/-- The rows in `visited` have been passed on the way to `next`. -/
structure Passed (visited : List ι) (next : Option ι) : Prop where
  ne : ∀ v ∈ visited, v ≠ b
  up : ∀ v ∈ visited, ∀ p ∈ parent v, p ∈ visited ∨ p ∈ next

variable {visited : List ι} {next : Option ι} {found : Bool} {n : ℕ}

lemma Passed.step (h : Passed parent b visited (some a)) (ha : a ≠ b) :
    Passed parent b (a :: visited) (parent a) := by
  constructor
  · exact List.forall_mem_cons.mpr ⟨ha, h.ne⟩
  · intro v hv p hp
    rcases List.mem_cons.mp hv with rfl | hv
    · exact .inr hp
    · rcases h.up v hv p hp with hmem | hmem
      · exact .inl (List.mem_cons_of_mem a hmem)
      · obtain rfl := Option.some.inj hmem
        exact .inl List.mem_cons_self

/-- From a row that has been passed one does not leave what has been passed. -/
lemma Passed.not_reaches (h : Passed parent b visited (some a)) (ha : a ∈ visited) :
    ¬Reaches parent a b := by
  intro hreaches
  have hall : ∀ c, Reaches parent a c → c ∈ visited := by
    intro c hc
    induction hc with
    | refl => exact ha
    | tail _ hstep ih =>
      rcases h.up _ ih _ hstep with hmem | hmem
      · exact hmem
      · exact Option.some.inj hmem ▸ ha
  exact h.ne b (hall b hreaches) rfl

variable [DecidableEq ι]

variable (parent) in
/-- Climb until one meets `b` or a row that has been passed before, in at most so many turns. -/
def seek (b : ι) : ℕ → List ι → Option ι → Option Bool
  | _, _, none => some false
  | 0, _, some _ => none
  | n + 1, visited, some a =>
    if a = b then some true
    else if a ∈ visited then some false
    else seek b n (a :: visited) (parent a)

lemma seek_eq_some (h : Passed parent b visited next)
    (hseek : seek parent b n visited next = some found) :
    found = true ↔ ∃ a ∈ next, Reaches parent a b := by
  induction n generalizing visited next with
  | zero =>
    cases next with
    | none =>
      obtain rfl := Option.some.inj hseek
      simp
    | some a => exact nomatch hseek
  | succ n ih =>
    cases next with
    | none =>
      obtain rfl := Option.some.inj hseek
      simp
    | some a =>
      have hnext : (∃ c ∈ some a, Reaches parent c b) ↔ Reaches parent a b := by simp
      rw [hnext]
      rw [seek] at hseek
      by_cases ha : a = b
      · rw [if_pos ha] at hseek
        exact iff_of_true (Option.some.inj hseek).symm (ha ▸ ReflTransGen.refl)
      · rw [if_neg ha] at hseek
        by_cases hmem : a ∈ visited
        · -- the climb has gone round a cycle
          rw [if_pos hmem] at hseek
          rw [← Option.some.inj hseek]
          exact iff_of_false Bool.false_ne_true (h.not_reaches hmem)
        · rw [if_neg hmem] at hseek
          rw [ih (h.step ha) hseek]
          constructor
          · rintro ⟨c, hc, hreaches⟩
            exact ReflTransGen.head hc hreaches
          · intro hreaches
            rcases ReflTransGen.cases_head hreaches with heq | ⟨c, hc, hreaches⟩
            · exact absurd heq ha
            · exact ⟨c, hc, hreaches⟩

/-- There are fewer rows to pass with every turn. -/
lemma seek_isSome {rows : Finset ι} (hrows : ∀ a, parent a ≠ none → a ∈ rows)
    (hn : (rows \ visited.toFinset).card < n) : (seek parent b n visited next).isSome := by
  induction n generalizing visited next with
  | zero => exact absurd hn (Nat.not_lt_zero _)
  | succ n ih =>
    cases next with
    | none => rfl
    | some a =>
      rw [seek]
      split_ifs with ha hmem
      · rfl
      · rfl
      · cases hparent : parent a with
        | none =>
          -- a row without a parent, or an identifier without a row
          cases n <;> rfl
        | some p =>
          refine ih (Nat.lt_of_lt_of_le (Finset.card_lt_card ?_) (Nat.lt_succ_iff.mp hn))
          have harow : a ∈ rows := hrows a (by rw [hparent]; exact Option.some_ne_none p)
          rw [List.toFinset_cons, Finset.sdiff_insert]
          exact Finset.erase_ssubset (by simp [harow, hmem])

/-- **A climb with a record** comes to an end in one turn more than there are rows, and has then
found out what is reached, also where the parents go round. -/
theorem seek_eq {rows : List ι} (hrows : ∀ a, parent a ≠ none → a ∈ rows)
    (hn : rows.length < n) :
    seek parent b n [] (some a) = some (climbs parent rows.length a b) := by
  have hcard : (rows.toFinset \ ([] : List ι).toFinset).card < n := by
    rw [List.toFinset_nil, Finset.sdiff_empty]
    exact (List.toFinset_card_le rows).trans_lt hn
  have hmem : ∀ c, parent c ≠ none → c ∈ rows.toFinset :=
    fun c hc => List.mem_toFinset.mpr (hrows c hc)
  have hends : (seek parent b n [] (some a)).isSome := seek_isSome hmem hcard
  obtain ⟨found, hfound⟩ := Option.isSome_iff_exists.mp hends
  have hstart : Passed parent b [] (some a) := ⟨by simp, by simp⟩
  have hreaches : found = true ↔ Reaches parent a b := by
    rw [seek_eq_some hstart hfound]
    simp
  rw [hfound, Bool.eq_iff_iff.mpr (hreaches.trans (climbs_iff hrows).symm)]

end Seeking

end MeeoServer.Table
