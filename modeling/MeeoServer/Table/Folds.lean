/-
# Loops over rows

A loop over the rows of a query is a fold.  The rows that it passes over can be left out
beforehand, and a stable sort does not notice which rows were left out.  It does notice the order
of rows with equal keys, and no other.  A journal is replayed account by account, by a fold over
the entries of the account.
-/
import MeeoServer.Table.Updates
import Mathlib.Algebra.Group.Basic
import Mathlib.Data.List.Sort

namespace MeeoServer.Table

variable {α β : Type}

/-! ## Rows that are passed over -/

section PassesOver

variable (f : β → α → β) (skips : β → α → Prop) (p : α → Bool)

/-- A loop over the rows with `p` is in a state that passes over each of the other rows when
its turn comes. -/
def PassesOver : β → List α → Prop
  | _, [] => True
  | b, a :: l => if p a then PassesOver (f b a) l else skips b a ∧ PassesOver b l

variable {f skips p}

/-- The rows that are passed over can be left out. -/
lemma foldl_eq_of_passesOver (hskip : ∀ b a, skips b a → f b a = b) {b : β} {l : List α}
    (h : PassesOver f skips p b l) : l.foldl f b = (l.filter p).foldl f b := by
  induction l generalizing b with
  | nil => rfl
  | cons a l ih =>
    unfold PassesOver at h
    by_cases hp : p a
    · rw [if_pos hp] at h
      rw [List.filter_cons_of_pos hp, List.foldl_cons, List.foldl_cons, ih h]
    · rw [if_neg hp] at h
      rw [List.filter_cons_of_neg hp, List.foldl_cons, hskip b a h.1, ih h.2]

/-- Otherwise the loop over all rows reaches a row without `p` in a state that does not pass
over it. -/
lemma exists_of_not_passesOver (hskip : ∀ b a, skips b a → f b a = b) {b : β} {l : List α}
    (h : ¬PassesOver f skips p b l) :
    ∃ pre a post, l = pre ++ a :: post ∧ p a = false ∧ ¬skips (pre.foldl f b) a := by
  induction l generalizing b with
  | nil => exact absurd trivial h
  | cons a l ih =>
    unfold PassesOver at h
    by_cases hp : p a
    · rw [if_pos hp] at h
      obtain ⟨pre, x, post, rfl, hx, hs⟩ := ih h
      exact ⟨a :: pre, x, post, rfl, hx, hs⟩
    · rw [if_neg hp] at h
      by_cases hs : skips b a
      · obtain ⟨pre, x, post, rfl, hx, hs'⟩ := ih fun hl => h ⟨hs, hl⟩
        refine ⟨a :: pre, x, post, rfl, hx, ?_⟩
        rwa [List.foldl_cons, hskip b a hs]
      · exact ⟨[], a, l, rfl, by simpa using hp, hs⟩

lemma passesOver_of_forall {b : β} {l : List α} (h : ∀ a ∈ l, p a) :
    PassesOver f skips p b l := by
  induction l generalizing b with
  | nil => trivial
  | cons a l ih =>
    unfold PassesOver
    rw [if_pos (h a List.mem_cons_self)]
    exact ih fun a' ha' => h a' (List.mem_cons_of_mem a ha')

end PassesOver

/-! ## Sorting -/

section Sorting

variable (r : α → α → Prop) [DecidableRel r] (p : α → Bool)

lemma filter_orderedInsert_of_neg {a : α} (ha : ¬p a) (l : List α) :
    (l.orderedInsert r a).filter p = l.filter p := by
  rw [List.orderedInsert_eq_take_drop, List.filter_append, List.filter_cons_of_neg ha,
    ← List.filter_append, List.takeWhile_append_dropWhile]

variable [IsTrans α r]

lemma filter_orderedInsert_of_pos {a : α} (ha : p a) {l : List α} (hl : l.Pairwise r) :
    (l.orderedInsert r a).filter p = (l.filter p).orderedInsert r a := by
  induction l with
  | nil => simp [ha]
  | cons b l ih =>
    obtain ⟨hb, hl⟩ := List.pairwise_cons.mp hl
    by_cases hab : r a b
    · rw [List.orderedInsert_cons_of_le r l hab, List.filter_cons_of_pos ha]
      -- `a` goes before everything that is left
      have hle : ∀ c ∈ (b :: l).filter p, r a c := by
        intro c hc
        rcases List.mem_cons.mp (List.mem_of_mem_filter hc) with rfl | hc
        · exact hab
        · exact Trans.trans hab (hb c hc)
      cases hfilter : (b :: l).filter p with
      | nil => rfl
      | cons c l' =>
        rw [List.orderedInsert_cons_of_le r l' (hle c (hfilter ▸ List.mem_cons_self))]
    · rw [List.orderedInsert_of_not_le r l hab]
      by_cases hpb : p b
      · rw [List.filter_cons_of_pos hpb, List.filter_cons_of_pos hpb,
          List.orderedInsert_of_not_le r _ hab, ih hl]
      · rw [List.filter_cons_of_neg hpb, List.filter_cons_of_neg hpb, ih hl]

/-- A stable sort of the rows with `p` is what the sort of all rows leaves of them. -/
lemma filter_insertionSort [Std.Total r] (l : List α) :
    (l.insertionSort r).filter p = (l.filter p).insertionSort r := by
  induction l with
  | nil => rfl
  | cons a l ih =>
    rw [List.insertionSort_cons]
    by_cases ha : p a
    · rw [filter_orderedInsert_of_pos r p ha (List.pairwise_insertionSort r l),
        List.filter_cons_of_pos ha, List.insertionSort_cons, ih]
    · rw [filter_orderedInsert_of_neg r p ha, List.filter_cons_of_neg ha, ih]

end Sorting

/-! ## Sorting by a key -/

section Keys

variable {κ : Type} [LinearOrder κ] {key : α → κ} {l l' : List α}

lemma filter_key_cons_of_eq {a : α} {k : κ} (h : key a = k) :
    ((a :: l).filter fun b => key b = k) = a :: l.filter fun b => key b = k :=
  List.filter_cons_of_pos (decide_eq_true h)

lemma filter_key_cons_of_ne {a : α} {k : κ} (h : key a ≠ k) :
    ((a :: l).filter fun b => key b = k) = l.filter fun b => key b = k :=
  List.filter_cons_of_neg (by simpa using h)

/-- Two lists that are sorted by a key, the largest first, and have the same rows with each key in
the same order, are equal. -/
lemma eq_of_pairwise_of_filter_eq (h : l.Pairwise fun a b => key b ≤ key a)
    (h' : l'.Pairwise fun a b => key b ≤ key a)
    (hties : ∀ k, (l.filter fun a => key a = k) = l'.filter fun a => key a = k) : l = l' := by
  -- the first row of one list is somewhere in the other, so that its key is not the larger one
  have hle : ∀ {a b : α} {l l' : List α}, (b :: l').Pairwise (fun a b => key b ≤ key a) →
      (∀ k, ((a :: l).filter fun a => key a = k) = (b :: l').filter fun a => key a = k) →
        key a ≤ key b := by
    intro a b l l' hsorted hties
    have ha : a ∈ (a :: l).filter fun c => key c = key a :=
      List.mem_filter.mpr ⟨List.mem_cons_self, decide_eq_true rfl⟩
    rw [hties] at ha
    rcases List.mem_cons.mp (List.mem_of_mem_filter ha) with rfl | ha
    · exact le_rfl
    · exact (List.pairwise_cons.mp hsorted).1 a ha
  induction l generalizing l' with
  | nil =>
    cases l' with
    | nil => rfl
    | cons b l' =>
      have hb := hties (key b)
      rw [List.filter_nil, filter_key_cons_of_eq rfl] at hb
      cases hb
  | cons a l ih =>
    cases l' with
    | nil =>
      have ha := hties (key a)
      rw [List.filter_nil, filter_key_cons_of_eq rfl] at ha
      cases ha
    | cons b l' =>
      -- the first rows have the same key, and are the first ones with it
      have hkey : key a = key b := le_antisymm (hle h' hties) (hle h fun k => (hties k).symm)
      have hfirst := hties (key a)
      rw [filter_key_cons_of_eq rfl, filter_key_cons_of_eq hkey.symm] at hfirst
      obtain ⟨rfl, -⟩ := List.cons.inj hfirst
      rw [ih (List.pairwise_cons.mp h).2 (List.pairwise_cons.mp h').2 fun k => ?_]
      have hk := hties k
      by_cases hak : key a = k
      · rw [filter_key_cons_of_eq hak, filter_key_cons_of_eq hak] at hk
        exact (List.cons.inj hk).2
      · rw [filter_key_cons_of_ne hak, filter_key_cons_of_ne hak] at hk
        exact hk

/-- A stable sort by a key depends on the order of the rows with equal keys only. -/
lemma insertionSort_eq_of_filter_eq
    (hties : ∀ k, (l.filter fun a => key a = k) = l'.filter fun a => key a = k) :
    l.insertionSort (fun a b => key b ≤ key a) = l'.insertionSort fun a b => key b ≤ key a := by
  have htotal : Std.Total fun a b : α => key b ≤ key a := ⟨fun a b => le_total _ _⟩
  have htrans : IsTrans α fun a b => key b ≤ key a := ⟨fun a b c hab hbc => hbc.trans hab⟩
  refine eq_of_pairwise_of_filter_eq (List.pairwise_insertionSort _ l)
    (List.pairwise_insertionSort _ l') fun k => ?_
  rw [filter_insertionSort, filter_insertionSort, hties]

/-- Without equal keys there is only one order. -/
lemma filter_eq_of_perm (hperm : l.Perm l') (hnodup : (l.map key).Nodup) (k : κ) :
    (l.filter fun a => key a = k) = l'.filter fun a => key a = k := by
  have hfilter := hperm.filter fun a => decide (key a = k)
  cases hcase : l.filter fun a => key a = k with
  | nil =>
    rw [hcase] at hfilter
    exact hfilter.nil_eq
  | cons a rest =>
    obtain ⟨ha, hkey⟩ := List.mem_filter.mp (hcase ▸ List.mem_cons_self : a ∈ l.filter _)
    rw [← of_decide_eq_true hkey] at hcase hfilter ⊢
    rw [filter_key_eq_singleton hnodup ha] at hcase hfilter
    rw [← hcase]
    exact hfilter.singleton_eq

end Keys

/-! ## Journals -/

section Replay

variable {ι M : Type} [DecidableEq ι] [AddCommMonoid M] (key : α → ι) (effect : α → M)

/-- The account `i` as the entries of a journal that belong to it rebuild it. -/
def replay (start : M) (l : List α) (i : ι) : M :=
  (l.filter fun a => key a = i).foldl (fun b a => b + effect a) start

lemma replay_concat (start : M) (l : List α) (a : α) (i : ι) :
    replay key effect start (l ++ [a]) i =
      replay key effect start l i + if key a = i then effect a else 0 := by
  unfold replay
  rw [List.filter_append, List.foldl_append]
  by_cases ha : key a = i
  · simp [ha]
  · simp [ha]

end Replay

end MeeoServer.Table
