/-
# Collecting what is below a row

A search that starts at a row and collects the children of what it has collected, in the order
of a queue, without a record of the rows that it has met.

Every row has at most one parent.  So a row is collected as often as its parent is, and the start
once more; if the start is not its own ancestor, each row below it is collected once and the
search ends.  If it is, a search that ended would have collected it more often than itself.
-/
import MeeoServer.Table.Hierarchy

namespace MeeoServer.Table

open Relation

variable {ι : Type}

/-- The loop over the queue, in at most `n` turns: what is collected, and what is still queued. -/
def expand (children : ι → List ι) : ℕ → List ι → List ι → Option (List ι)
  | _, ids, [] => some ids
  | 0, _, _ :: _ => none
  | n + 1, ids, c :: queue => expand children n (ids ++ children c) (queue ++ children c)

/-- The lists of children tell what the parents tell, and a child is in a list once. -/
def Lists [DecidableEq ι] (parent : ι → Option ι) (children : ι → List ι) : Prop :=
  ∀ p x, (children p).count x = if parent x = some p then 1 else 0

/-- The search from `a` has `done` behind it, and has `queue` queued. -/
structure Expanding (children : ι → List ι) (a : ι) (done queue ids : List ι) : Prop where
  queued : ids = done ++ queue
  collected : ids = a :: done.flatMap children

variable {parent : ι → Option ι} {children : ι → List ι} {a b x y : ι}
  {done queue ids l : List ι} {n : ℕ}

lemma Expanding.start : Expanding children a [] [a] [a] := ⟨rfl, rfl⟩

lemma Expanding.step (h : Expanding children a done (x :: queue) ids) :
    Expanding children a (done ++ [x]) (queue ++ children x) (ids ++ children x) := by
  constructor
  · rw [h.queued]
    simp
  · rw [List.flatMap_append, List.flatMap_singleton, h.collected, List.cons_append]

/-- What is collected at the end is the start and the children of what is collected. -/
lemma Expanding.expand_eq_some (h : Expanding children a done queue ids)
    (hl : expand children n ids queue = some l) : l = a :: l.flatMap children := by
  induction n generalizing done queue ids with
  | zero =>
    cases queue with
    | nil =>
      obtain rfl := Option.some.inj hl
      have hdone : ids = done := h.queued.trans (List.append_nil done)
      exact hdone ▸ h.collected
    | cons x queue => exact nomatch hl
  | succ n ih =>
    cases queue with
    | nil =>
      obtain rfl := Option.some.inj hl
      have hdone : ids = done := h.queued.trans (List.append_nil done)
      exact hdone ▸ h.collected
    | cons x queue => exact ih h.step hl

namespace Lists

variable [DecidableEq ι] (hlists : Lists parent children)
include hlists

lemma mem_iff {p : ι} : x ∈ children p ↔ parent x = some p := by
  rw [← List.count_pos_iff, hlists]
  split <;> simp_all

/-- A row comes out of a list as often as its parent is in the list. -/
lemma count_flatMap (l : List ι) :
    (l.flatMap children).count x = (parent x).elim 0 fun p => l.count p := by
  induction l with
  | nil => cases parent x <;> rfl
  | cons c l ih =>
    rw [List.flatMap_cons, List.count_append, ih, hlists]
    cases parent x with
    | none => rfl
    | some p =>
      by_cases hp : p = c
      · simp [hp, Nat.add_comm]
      · simp [hp, List.count_cons_of_ne (Ne.symm hp)]

/-- Everything that is collected is below the start. -/
lemma reaches_of_mem (h : Expanding children a done queue ids) (hx : x ∈ ids)
    (hdone : ∀ y ∈ done, Reaches parent y a) : Reaches parent x a := by
  rw [h.collected] at hx
  rcases List.mem_cons.mp hx with rfl | hx
  · exact ReflTransGen.refl
  · obtain ⟨y, hy, hxy⟩ := List.mem_flatMap.mp hx
    exact ReflTransGen.head (hlists.mem_iff.mp hxy) (hdone y hy)

/-! ## The start on a cycle -/

/-- Down the hierarchy, rows are collected more and more often. -/
lemma count_mono (hl : l = a :: l.flatMap children) (h : Reaches parent x y) :
    l.count y ≤ l.count x := by
  induction h using ReflTransGen.head_induction_on with
  | refl => exact le_refl _
  | @head x z hstep _ ih =>
    have hx : (l.flatMap children).count x = l.count z := by
      rw [hlists.count_flatMap, hstep]
      rfl
    calc l.count y ≤ (l.flatMap children).count x := ih.trans_eq hx.symm
      _ ≤ (a :: l.flatMap children).count x := List.count_le_count_cons
      _ = l.count x := by rw [← hl]

/-- A search from a row on a cycle does not end. -/
theorem expand_cycle (hcycle : TransGen (ChildOf parent) a a) :
    expand children n [a] [a] = none := by
  cases hexpand : expand children n [a] [a] with
  | none => rfl
  | some l =>
    have hl := Expanding.start.expand_eq_some hexpand
    obtain ⟨p, hstep, hup⟩ := TransGen.head'_iff.mp hcycle
    have hmono : l.count a ≤ l.count p := hlists.count_mono hl hup
    have hmore : l.count a = l.count p + 1 := by
      conv_lhs => rw [hl]
      rw [List.count_cons_self, hlists.count_flatMap, hstep]
      rfl
    omega

/-! ## The start on no cycle -/

section

variable (hcycle : ¬TransGen (ChildOf parent) a a)
include hcycle

/-- Nothing below the start is collected twice. -/
lemma count_le_one (h : Expanding children a done queue ids)
    (hdone : ∀ y ∈ done, Reaches parent y a) (hx : Reaches parent x a) : ids.count x ≤ 1 := by
  have hle : ∀ p, done.count p ≤ ids.count p := by
    intro p
    rw [h.queued, List.count_append]
    omega
  have hcount : ∀ x, ids.count x =
      (if a = x then 1 else 0) + (parent x).elim 0 fun p => done.count p := by
    intro x
    rw [h.collected, List.count_cons, hlists.count_flatMap, Nat.add_comm]
    simp
  induction hx using ReflTransGen.head_induction_on with
  | refl =>
    rw [hcount, if_pos rfl]
    cases hparent : parent a with
    | none => exact le_refl 1
    | some p =>
      -- the parent of the start is not below it
      have hp : p ∉ done := fun hmem => hcycle (TransGen.head' hparent (hdone p hmem))
      rw [Option.elim_some, List.count_eq_zero.mpr hp]
  | @head x z hstep _ ih =>
    by_cases hxa : a = x
    · subst hxa
      have hz : z ∉ done := fun hmem => hcycle (TransGen.head' hstep (hdone z hmem))
      rw [hcount, if_pos rfl, hstep, Option.elim_some, List.count_eq_zero.mpr hz]
    · rw [hcount, if_neg hxa, hstep, Option.elim_some, Nat.zero_add]
      exact (hle z).trans ih

lemma nodup (h : Expanding children a done queue ids)
    (hdone : ∀ y ∈ done, Reaches parent y a) : ids.Nodup := by
  rw [List.nodup_iff_count_le_one]
  intro x
  by_cases hx : x ∈ ids
  · exact hlists.count_le_one hcycle h hdone (hlists.reaches_of_mem h hx hdone)
  · rw [List.count_eq_zero.mpr hx]
    exact Nat.zero_le 1

/-- As many turns are enough as there are rows with a parent, and one more. -/
lemma expand_isSome {rows : List ι} (hrows : ∀ x, parent x ≠ none → x ∈ rows)
    (h : Expanding children a done queue ids) (hdone : ∀ y ∈ done, Reaches parent y a)
    (hn : rows.length + 1 ≤ n + done.length) :
    ∃ l, expand children n ids queue = some l ∧ l.Nodup ∧ ∀ x ∈ l, Reaches parent x a := by
  have hids : ∀ x ∈ ids, Reaches parent x a := fun x hx => hlists.reaches_of_mem h hx hdone
  induction n generalizing done queue ids with
  | zero =>
    cases queue with
    | nil => exact ⟨ids, rfl, hlists.nodup hcycle h hdone, hids⟩
    | cons x queue =>
      -- everything collected is the start or a row with a parent, and there are more than these
      have hsub : ids ⊆ a :: rows := by
        intro y hy
        rcases ReflTransGen.cases_head (hids y hy) with rfl | ⟨p, hstep, -⟩
        · exact List.mem_cons_self
        · refine List.mem_cons_of_mem a (hrows y ?_)
          rw [show parent y = some p from hstep]
          exact Option.some_ne_none p
      have hle : ids.length ≤ (a :: rows).length :=
        ((hlists.nodup hcycle h hdone).subperm hsub).length_le
      rw [h.queued] at hle
      simp at hle
      omega
  | succ n ih =>
    cases queue with
    | nil => exact ⟨ids, rfl, hlists.nodup hcycle h hdone, hids⟩
    | cons x queue =>
      have hx : Reaches parent x a := hids x (by rw [h.queued]; simp)
      have hdone' : ∀ y ∈ done ++ [x], Reaches parent y a := by
        intro y hy
        rcases List.mem_append.mp hy with hy | hy
        · exact hdone y hy
        · exact List.mem_singleton.mp hy ▸ hx
      refine ih h.step hdone' ?_ fun y hy => hlists.reaches_of_mem h.step hy hdone'
      rw [List.length_append, List.length_singleton]
      omega

/-- A search from the start. -/
lemma expand_isSome_start {rows : List ι} (hrows : ∀ x, parent x ≠ none → x ∈ rows) :
    ∃ l, expand children (rows.length + 1) [a] [a] = some l ∧ l.Nodup ∧
      ∀ x ∈ l, Reaches parent x a :=
  hlists.expand_isSome hcycle hrows .start (fun _ hy => absurd hy List.not_mem_nil) (le_refl _)

end

/-- What is below the start is collected. -/
lemma mem_of_reaches (hl : l = a :: l.flatMap children) (h : Reaches parent x a) : x ∈ l := by
  have ha : a ∈ l := hl ▸ List.mem_cons_self
  exact List.count_pos_iff.mp
    ((List.count_pos_iff.mpr ha).trans_le (hlists.count_mono hl h))

/-- What a search has collected at its end is below the start. -/
lemma reaches_of_expand (h : Expanding children a done queue ids)
    (hdone : ∀ y ∈ done, Reaches parent y a) (hl : expand children n ids queue = some l) :
    ∀ x ∈ l, Reaches parent x a := by
  have hids : ∀ x ∈ ids, Reaches parent x a := fun x hx => hlists.reaches_of_mem h hx hdone
  induction n generalizing done queue ids with
  | zero =>
    cases queue with
    | nil => exact Option.some.inj hl ▸ hids
    | cons x queue => exact nomatch hl
  | succ n ih =>
    cases queue with
    | nil => exact Option.some.inj hl ▸ hids
    | cons x queue =>
      have hx : Reaches parent x a := hids x (by rw [h.queued]; simp)
      have hdone' : ∀ y ∈ done ++ [x], Reaches parent y a := by
        intro y hy
        rcases List.mem_append.mp hy with hy | hy
        · exact hdone y hy
        · exact List.mem_singleton.mp hy ▸ hx
      exact ih h.step hdone' hl fun y hy => hlists.reaches_of_mem h.step hy hdone'

/-- A search from the start collects what is below it, and nothing else. -/
lemma mem_expand_iff (hl : expand children n [a] [a] = some l) : x ∈ l ↔ Reaches parent x a :=
  ⟨hlists.reaches_of_expand .start (fun _ hy => absurd hy List.not_mem_nil) hl x,
    hlists.mem_of_reaches (Expanding.start.expand_eq_some hl)⟩

/-- **The search** ends, with the start and what is below it, each of them once, exactly if the
start is not its own ancestor. -/
theorem expand_iff (rows : List ι) (hrows : ∀ x, parent x ≠ none → x ∈ rows) :
    (∃ n l, expand children n [a] [a] = some l ∧ l.Nodup ∧ ∀ x, x ∈ l ↔ Reaches parent x a) ↔
      ¬TransGen (ChildOf parent) a a := by
  constructor
  · rintro ⟨n, l, hexpand, -⟩ hcycle
    rw [hlists.expand_cycle hcycle] at hexpand
    exact nomatch hexpand
  · intro hcycle
    obtain ⟨l, hexpand, hnodup, hreaches⟩ := hlists.expand_isSome_start hcycle hrows
    have hl := Expanding.start.expand_eq_some hexpand
    exact ⟨rows.length + 1, l, hexpand, hnodup, fun x =>
      ⟨hreaches x, hlists.mem_of_reaches hl⟩⟩

end Lists

end MeeoServer.Table
