/-
# Rows that are found by name

Each of some names names at most one row, and the rows are counted that one of the names names.
There are as many of these rows as names exactly if every name names a row and no row has two of
the names.
-/
import Mathlib.Data.List.Nodup
import Mathlib.Data.List.Pairwise
import Mathlib.Data.List.Perm.Subperm

namespace MeeoServer.Table

/-- `[...new Set(l)]` has no duplicates. -/
lemma nodup_eraseDups {α : Type} [DecidableEq α] (l : List α) : l.eraseDups.Nodup := by
  induction hn : l.length using Nat.strongRecOn generalizing l with
  | ind n ih =>
    cases l with
    | nil => exact List.nodup_nil
    | cons a l =>
      have hlt : (l.filter fun b => !b == a).length < n := by
        rw [← hn, List.length_cons]
        exact Nat.lt_succ_of_le (List.length_filter_le _ l)
      rw [List.eraseDups_cons, List.nodup_cons]
      refine ⟨fun hmem => ?_, ih _ hlt _ rfl⟩
      have hne := (List.mem_filter.mp (List.mem_eraseDups.mp hmem)).2
      simp at hne

lemma eraseDups_of_nodup {α : Type} [DecidableEq α] {l : List α} (h : l.Nodup) :
    l.eraseDups = l := by
  induction l with
  | nil => rfl
  | cons a l ih =>
    obtain ⟨ha, hl⟩ := List.nodup_cons.mp h
    have hfilter : (l.filter fun b => !b == a) = l := by
      refine List.filter_eq_self.mpr fun b hb => ?_
      have hne : b ≠ a := fun heq => ha (heq ▸ hb)
      simpa using hne
    rw [List.eraseDups_cons, hfilter, ih hl]

variable {α τ : Type} {Names : τ → α → Prop} [∀ t a, Decidable (Names t a)]
  {names : List τ} {rows : List α}

/-- The row of a name. -/
def rowOf (Names : τ → α → Prop) [∀ t a, Decidable (Names t a)] (rows : List α) (t : τ) :
    Option α :=
  rows.find? fun a => Names t a

section One

variable (hone : ∀ t, ∀ a ∈ rows, ∀ b ∈ rows, Names t a → Names t b → a = b)
include hone

lemma rowOf_eq_some_iff {t : τ} {a : α} : rowOf Names rows t = some a ↔ a ∈ rows ∧ Names t a := by
  constructor
  · intro h
    exact ⟨List.mem_of_find?_eq_some h, by simpa using List.find?_some h⟩
  · rintro ⟨ha, hname⟩
    have hsome : (rowOf Names rows t).isSome := by
      rw [rowOf, List.find?_isSome]
      exact ⟨a, ha, decide_eq_true hname⟩
    obtain ⟨b, hb⟩ := Option.isSome_iff_exists.mp hsome
    have hbname : Names t b := by simpa using List.find?_some hb
    rw [hb, hone t b (List.mem_of_find?_eq_some hb) a ha hbname hname]

lemma mem_filterMap_rowOf {a : α} :
    a ∈ names.filterMap (rowOf Names rows) ↔ a ∈ rows ∧ ∃ t ∈ names, Names t a := by
  simp only [List.mem_filterMap, rowOf_eq_some_iff hone]
  constructor
  · rintro ⟨t, ht, ha, hname⟩
    exact ⟨ha, t, ht, hname⟩
  · rintro ⟨ha, t, ht, hname⟩
    exact ⟨t, ht, ha, hname⟩

lemma length_filterMap_rowOf_iff : (names.filterMap (rowOf Names rows)).length = names.length ↔
    ∀ t ∈ names, ∃ a ∈ rows, Names t a := by
  rw [List.filterMap_length_eq_length]
  refine forall₂_congr fun t _ => ?_
  rw [Option.isSome_iff_exists]
  simp only [rowOf_eq_some_iff hone]

lemma nodup_filterMap_rowOf_iff (hnames : names.Nodup) :
    (names.filterMap (rowOf Names rows)).Nodup ↔
      ∀ a ∈ rows, ∀ t ∈ names, ∀ t' ∈ names, Names t a → Names t' a → t = t' := by
  rw [List.Nodup, List.pairwise_filterMap]
  constructor
  · intro h a ha t ht t' ht' hname hname'
    by_contra hne
    have : Std.Symm fun x y => ∀ b, rowOf Names rows x = some b →
        ∀ b', rowOf Names rows y = some b' → b ≠ b' :=
      ⟨fun _ _ h b hb b' hb' => (h b' hb' b hb).symm⟩
    exact h.forall ht ht' hne a ((rowOf_eq_some_iff hone).mpr ⟨ha, hname⟩) a
      ((rowOf_eq_some_iff hone).mpr ⟨ha, hname'⟩) rfl
  · intro h
    refine hnames.imp_of_mem fun {t t'} ht ht' hne a ha b hb hab => hne ?_
    obtain ⟨hrow, hname⟩ := (rowOf_eq_some_iff hone).mp ha
    exact h a hrow t ht t' ht' hname ((rowOf_eq_some_iff hone).mp (hab ▸ hb)).2

/-- **The number of rows found** is the number of names exactly if every name names a row, and no
row is named twice. -/
theorem length_filter_names_iff (hnames : names.Nodup) (hrows : rows.Nodup) :
    (rows.filter fun a => ∃ t ∈ names, Names t a).length = names.length ↔
      (∀ t ∈ names, ∃ a ∈ rows, Names t a) ∧
        ∀ a ∈ rows, ∀ t ∈ names, ∀ t' ∈ names, Names t a → Names t' a → t = t' := by
  rw [← length_filterMap_rowOf_iff hone, ← nodup_filterMap_rowOf_iff hone hnames]
  -- the rows found, once as the table has them and once as the names come
  set byName := names.filterMap (rowOf Names rows)
  set found := rows.filter fun a => ∃ t ∈ names, Names t a
  have hmem : ∀ a, a ∈ byName ↔ a ∈ found := by
    intro a
    rw [mem_filterMap_rowOf hone, List.mem_filter, decide_eq_true_eq]
  have hnodup : found.Nodup := hrows.filter _
  have hsub : found.Subperm byName := hnodup.subperm fun a ha => (hmem a).mpr ha
  have hle : byName.length ≤ names.length := List.length_filterMap_le _ _
  constructor
  · intro hlength
    have hperm : found.Perm byName := hsub.perm_of_length_le (hlength ▸ hle)
    exact ⟨hperm.length_eq ▸ hlength, hperm.nodup_iff.mp hnodup⟩
  · rintro ⟨hlength, hbyName⟩
    have hsub' : byName.Subperm found := hbyName.subperm fun a ha => (hmem a).mp ha
    exact hlength ▸ Nat.le_antisymm hsub.length_le hsub'.length_le

end One

end MeeoServer.Table
