/-
# Stable sorts

A stable sort keeps the order of entries that it does not tell apart.  So it keeps a list inside a
longer one, and a list that is sorted twice is sorted by both, the later order first.
-/
import Mathlib.Data.List.Sort

namespace MeeoServer.Table

variable {α : Type} {r s : α → α → Prop} [DecidableRel r] [IsTrans α r] [Std.Total r]
  {l l' : List α}

omit [DecidableRel r] [IsTrans α r] [Std.Total r] in
lemma insertionSort_congr [DecidableRel r] [DecidableRel s] (h : ∀ a b, r a b ↔ s a b)
    (l : List α) : l.insertionSort r = l.insertionSort s := by
  have hrs : r = s := funext fun a => funext fun b => propext (h a b)
  subst hrs
  congr

/-- Entries are added anywhere, and sorted among the others. -/
theorem insertionSort_sublist (h : l.Sublist l') :
    (l.insertionSort r).Sublist (l'.insertionSort r) := by
  induction h with
  | slnil => exact List.Sublist.refl _
  | cons a _ ih => exact ih.trans (List.sublist_orderedInsert a _)
  | cons_cons a _ ih => exact ih.orderedInsert_sublist a (List.pairwise_insertionSort _ _)

omit [IsTrans α r] [Std.Total r] in
/-- An entry goes before those that it does not come after. -/
lemma pairwise_orderedInsert {a : α} (ha : ∀ b ∈ l, s a b)
    (hl : l.Pairwise fun b c => r c b → s b c) :
    (l.orderedInsert r a).Pairwise fun b c => r c b → s b c := by
  induction l with
  | nil => exact List.pairwise_singleton _ a
  | cons b l ih =>
    obtain ⟨hs, hl'⟩ := List.pairwise_cons.mp hl
    by_cases hab : r a b
    · rw [List.orderedInsert_cons_of_le r l hab]
      refine List.pairwise_cons.mpr ⟨fun c hc _ => ha c hc, hl⟩
    · rw [List.orderedInsert_of_not_le r l hab]
      refine List.pairwise_cons.mpr ⟨fun c hc => ?_,
        ih (fun c hc => ha c (List.mem_cons_of_mem b hc)) hl'⟩
      rcases (List.mem_orderedInsert r).mp hc with rfl | hc
      · exact fun h => absurd h hab
      · exact hs c hc

/-- **A list that is sorted twice** is sorted by the second order, and by the first one where the
second does not tell apart. -/
theorem pairwise_insertionSort_stable (h : l.Pairwise s) :
    (l.insertionSort r).Pairwise fun a b => r a b ∧ (r b a → s a b) := by
  refine List.Pairwise.and (List.pairwise_insertionSort r l) ?_
  induction l with
  | nil => exact List.Pairwise.nil
  | cons a l ih =>
    obtain ⟨ha, hl⟩ := List.pairwise_cons.mp h
    rw [List.insertionSort_cons]
    exact pairwise_orderedInsert (fun b hb => ha b ((List.mem_insertionSort r).mp hb)) (ih hl)

end MeeoServer.Table
