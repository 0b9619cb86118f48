/-
# Maps that collect rows

A loop that collects rows in a map looks a key up, works the row into what it finds, and sets the
key again.  The map keeps the order in which the keys came first.  What the entries weigh together
is what the rows weigh together, however they are grouped, and so is what the rows of one table
weigh that refer to the rows of another.
-/
import Mathlib.Algebra.BigOperators.Group.List.Basic

namespace MeeoServer.Table

variable {κ α β M : Type} [DecidableEq κ]

/-- `m.set(k, f(m.get(k)))` -/
def adjust (k : κ) (f : Option β → β) : List (κ × β) → List (κ × β)
  | [] => [(k, f none)]
  | (k', b) :: m => if k' = k then (k', f (some b)) :: m else (k', b) :: adjust k f m

section Adjust

variable {P : κ × β → Prop} {k : κ} {f : Option β → β} {m : List (κ × β)}

lemma forall_adjust (hm : ∀ x ∈ m, P x) (hf : ∀ o, (∀ b ∈ o, P (k, b)) → P (k, f o)) :
    ∀ x ∈ adjust k f m, P x := by
  induction m with
  | nil =>
    intro x hx
    rw [List.mem_singleton.mp hx]
    exact hf none fun b hb => absurd hb (by simp)
  | cons y m ih =>
    have hy := hm y List.mem_cons_self
    have hm' := fun x hx => hm x (List.mem_cons_of_mem y hx)
    intro x hx
    unfold adjust at hx
    by_cases hk : y.1 = k
    · rw [if_pos hk] at hx
      rcases List.mem_cons.mp hx with rfl | hx
      · show P (y.1, f (some y.2))
        rw [hk]
        refine hf _ fun b hb => ?_
        rw [← Option.some.inj hb, ← hk]
        exact hy
      · exact hm' x hx
    · rw [if_neg hk] at hx
      rcases List.mem_cons.mp hx with rfl | hx
      · exact hy
      · exact ih hm' x hx

variable [AddCommMonoid M] {weight : κ × β → M} {w : M}

/-- If the entry of the key becomes heavier by `w`, so does the map. -/
lemma sum_adjust (hm : ∀ x ∈ m, P x)
    (hf : ∀ o, (∀ b ∈ o, P (k, b)) → weight (k, f o) = (o.elim 0 fun b => weight (k, b)) + w) :
    ((adjust k f m).map weight).sum = (m.map weight).sum + w := by
  induction m with
  | nil =>
    have hnone := hf none fun b hb => absurd hb (by simp)
    rw [adjust, List.map_singleton, List.sum_singleton, hnone]
    rfl
  | cons y m ih =>
    unfold adjust
    by_cases hk : y.1 = k
    · have hsome := hf (some y.2) fun b hb => by
        rw [← Option.some.inj hb, ← hk]
        exact hm y List.mem_cons_self
      rw [if_pos hk, List.map_cons, List.sum_cons, List.map_cons, List.sum_cons, hk, hsome]
      show weight (k, y.2) + w + _ = weight y + _ + w
      rw [← hk, add_right_comm]
    · rw [if_neg hk, List.map_cons, List.sum_cons, List.map_cons, List.sum_cons,
        ih fun x hx => hm x (List.mem_cons_of_mem y hx), add_assoc]

end Adjust

lemma lookup_cons_ite {k k' : κ} {b : β} {m : List (κ × β)} :
    ((k, b) :: m).lookup k' = if k' = k then some b else m.lookup k' := by
  by_cases hk : k' = k
  · rw [if_pos hk, List.lookup_cons, beq_iff_eq.mpr hk]
  · rw [if_neg hk, List.lookup_cons, beq_eq_false_iff_ne.mpr hk]

lemma lookup_adjust {k k' : κ} {f : Option β → β} {m : List (κ × β)} :
    (adjust k f m).lookup k' = if k' = k then some (f (m.lookup k)) else m.lookup k' := by
  induction m with
  | nil => exact lookup_cons_ite
  | cons y m ih =>
    obtain ⟨k₀, b⟩ := y
    unfold adjust
    by_cases hk : k₀ = k
    · subst hk
      rw [if_pos rfl, lookup_cons_ite, lookup_cons_ite, lookup_cons_ite, if_pos rfl]
      split <;> rfl
    · rw [if_neg hk, lookup_cons_ite, lookup_cons_ite, lookup_cons_ite, if_neg (Ne.symm hk), ih]
      by_cases hk' : k' = k
      · rw [if_pos hk', if_pos hk', if_neg (fun h => hk (h.symm.trans hk'))]
      · rw [if_neg hk', if_neg hk']

/-- The keys, in the order in which they came first. -/
lemma map_fst_adjust {k : κ} {f : Option β → β} {m : List (κ × β)} :
    (adjust k f m).map Prod.fst =
      if k ∈ m.map Prod.fst then m.map Prod.fst else m.map Prod.fst ++ [k] := by
  induction m with
  | nil => rfl
  | cons y m ih =>
    obtain ⟨k₀, b⟩ := y
    unfold adjust
    by_cases hk : k₀ = k
    · subst hk
      rw [if_pos rfl, List.map_cons, List.map_cons, if_pos List.mem_cons_self]
    · rw [if_neg hk, List.map_cons, List.map_cons, ih]
      by_cases hmem : k ∈ m.map Prod.fst
      · rw [if_pos hmem, if_pos (List.mem_cons_of_mem _ hmem)]
      · rw [if_neg hmem, if_neg (List.not_mem_cons_of_ne_of_not_mem (Ne.symm hk) hmem),
          List.cons_append]

lemma nodup_adjust {k : κ} {f : Option β → β} {m : List (κ × β)} (h : (m.map Prod.fst).Nodup) :
    ((adjust k f m).map Prod.fst).Nodup := by
  rw [map_fst_adjust]
  split
  · exact h
  · next hmem =>
    refine List.nodup_append.mpr ⟨h, List.pairwise_singleton _ k, fun a ha b hb heq => hmem ?_⟩
    rwa [← List.mem_singleton.mp hb, ← heq]

/-- A loop that keeps `P`, and adds `w a` to its value when it passes `a`. -/
lemma foldl_accumulates {σ : Type} [AddCommMonoid M] {f : σ → α → σ} {P : σ → Prop}
    {v : σ → M} {w : α → M}
    (hstep : ∀ s a, P s → P (f s a) ∧ v (f s a) = v s + w a) {s : σ} (hs : P s)
    (l : List α) : P (l.foldl f s) ∧ v (l.foldl f s) = v s + (l.map w).sum := by
  induction l generalizing s with
  | nil => exact ⟨hs, (add_zero _).symm⟩
  | cons a l ih =>
    obtain ⟨hs', hvalue⟩ := hstep s a hs
    obtain ⟨hl, hsum⟩ := ih hs'
    refine ⟨hl, ?_⟩
    rw [List.foldl_cons, hsum, hvalue, List.map_cons, List.sum_cons, add_assoc]

/-! ## Rows that count -/

lemma sum_filterMap {α β M : Type} [AddMonoid M] (f : α → Option β) (g : β → M) (l : List α) :
    ((l.filterMap f).map g).sum = (l.map fun a => ((f a).map g).getD 0).sum := by
  induction l with
  | nil => rfl
  | cons a l ih =>
    rw [List.filterMap_cons, List.map_cons, List.sum_cons, ← ih]
    cases f a with
    | none => exact (zero_add _).symm
    | some b => rfl

lemma sum_filter_of_zero {α M : Type} [AddMonoid M] {p : α → Bool} {g : α → M} {l : List α}
    (h : ∀ a ∈ l, ¬p a → g a = 0) : ((l.filter p).map g).sum = (l.map g).sum := by
  induction l with
  | nil => rfl
  | cons a l ih =>
    have hl := ih fun a' ha' => h a' (List.mem_cons_of_mem a ha')
    by_cases ha : p a
    · rw [List.filter_cons_of_pos ha, List.map_cons, List.map_cons, List.sum_cons, List.sum_cons,
        hl]
    · rw [List.filter_cons_of_neg ha, List.map_cons, List.sum_cons, hl,
        h a List.mem_cons_self ha, zero_add]

/-! ## Rows that refer to the rows of another table -/

section References

variable {α β M : Type} [AddCommMonoid M]

lemma sum_zipIdx_single (l : List α) (start i : ℕ) (g : α → M) :
    ((l.zipIdx start).map fun x => if start + i = x.2 then g x.1 else 0).sum =
      ((l[i]?).map g).getD 0 := by
  induction l generalizing start i with
  | nil => rfl
  | cons a l ih =>
    rw [List.zipIdx_cons, List.map_cons, List.sum_cons]
    cases i with
    | zero =>
      -- no later row has the number of the first
      have hrest : ((l.zipIdx (start + 1)).map
          fun x => if start + 0 = x.2 then g x.1 else 0).sum = 0 := by
        refine List.sum_eq_zero fun y hy => ?_
        obtain ⟨x, hx, rfl⟩ := List.mem_map.mp hy
        have hle := List.le_snd_of_mem_zipIdx hx
        exact if_neg (by omega)
      rw [hrest, add_zero]
      exact if_pos rfl
    | succ i =>
      have hne : ¬start + (i + 1) = start := by omega
      have hnext := ih (start + 1) i
      rw [if_neg hne, zero_add, List.getElem?_cons_succ, ← hnext, add_right_comm, add_assoc]

/-- The rows that refer to each row of a table, one after the other, are the rows that refer to
one that exists. -/
lemma sum_references (l : List α) (refs : List β) (target : β → Option ℕ) (weight : α → β → M) :
    (l.zipIdx.map fun x =>
        ((refs.filter fun r => target r = some x.2).map (weight x.1)).sum).sum =
      (refs.map fun r => (((target r).bind (l[·]?)).map (weight · r)).getD 0).sum := by
  induction refs with
  | nil => simp
  | cons r refs ih =>
    have hsplit : ∀ x : α × ℕ,
        (((r :: refs).filter fun r => target r = some x.2).map (weight x.1)).sum =
          (if target r = some x.2 then weight x.1 r else 0) +
            ((refs.filter fun r => target r = some x.2).map (weight x.1)).sum := by
      intro x
      by_cases hx : target r = some x.2
      · simp [hx]
      · simp [hx]
    -- the row itself refers to at most one
    have hrow : (l.zipIdx.map fun x => if target r = some x.2 then weight x.1 r else 0).sum =
        (((target r).bind (l[·]?)).map (weight · r)).getD 0 := by
      cases target r with
      | none => simp
      | some i =>
        have hsingle := sum_zipIdx_single l 0 i (weight · r)
        simpa using hsingle
    rw [List.map_congr_left fun x _ => hsplit x, List.sum_map_add, ih, hrow, List.map_cons,
      List.sum_cons]

end References

end MeeoServer.Table
