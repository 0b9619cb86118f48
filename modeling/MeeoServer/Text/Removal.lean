/-
# Removing the matches of a pattern

A matcher says how long the match is that begins at the front of a list, if one does.  `removeAll`
removes the matches from left to right, each from where the one before it ended.  What it removes
is what lies in a match at all, so that a match in the result is put together from parts that were
not adjacent before.
-/
import Mathlib.Data.List.Basic
import Mathlib.Data.List.Infix
import Mathlib.Data.List.Sort
import Mathlib.Tactic.Linarith

namespace MeeoServer.Text

variable {α β : Type}

/-- A pattern.  Whether a match begins somewhere depends on no more than the match itself, and a
match that begins within another ends within it. -/
structure Matcher (α : Type) where
  length? : List α → Option ℕ
  pos : ∀ {s n}, length? s = some n → 0 < n
  le_length : ∀ {s n}, length? s = some n → n ≤ s.length
  local_take : ∀ {s s' n}, length? s = some n → s'.take n = s.take n → length? s' = some n
  nested : ∀ {s n k n'}, length? s = some n → k < n → length? (s.drop k) = some n' → k + n' ≤ n

namespace Matcher

variable (M : Matcher α)

/-- The loop of a global replacement by nothing; `inside` more elements belong to a match. -/
def removeFrom : ℕ → List α → List α
  | _, [] => []
  | inside + 1, _ :: s => removeFrom inside s
  | 0, a :: s =>
    match M.length? (a :: s) with
    | some n => removeFrom (n - 1) s
    | none => a :: removeFrom 0 s

def removeAll (s : List α) : List α := M.removeFrom 0 s

/-- The element at a position lies in a match. -/
def inMatch (s : List α) (i : ℕ) : Bool :=
  (List.range (i + 1)).any fun q => (M.length? (s.drop q)).any fun n => i < q + n

/-- A match begins somewhere. -/
def Occurs (s : List α) : Prop := ∃ q n, M.length? (s.drop q) = some n

/-- A list that is a match. -/
def Matches (s : List α) : Prop := M.length? s = some s.length

instance (s : List α) : Decidable (M.Matches s) := inferInstanceAs (Decidable (_ = _))

/-- The elements that lie in no match; a match is looked for by what the elements show. -/
def strike (shown : β → α) (l : List β) : List β :=
  (l.zipIdx.filter fun x => !M.inMatch (l.map shown) x.2).map Prod.fst

variable {M}

lemma inMatch_iff {s : List α} {i : ℕ} :
    M.inMatch s i ↔ ∃ q ≤ i, ∃ n, M.length? (s.drop q) = some n ∧ i < q + n := by
  simp only [inMatch, List.any_eq_true, List.mem_range, Nat.lt_succ_iff, Option.any_eq_true,
    decide_eq_true_eq]

lemma strike_sublist (shown : β → α) (l : List β) : (M.strike shown l).Sublist l := by
  have hsub := (List.filter_sublist (p := fun x : β × ℕ => !M.inMatch (l.map shown) x.2)
    (l := l.zipIdx)).map Prod.fst
  rwa [List.zipIdx_map_fst] at hsub

/-- The loop, within a list: no match that began before ends after the elements that are still to
be passed over. -/
lemma map_strike_from (shown : β → α) (l : List β) {i inside : ℕ} {rest : List β}
    (hrest : l.drop i = rest)
    (hinside : inside = 0 ∨ ∃ q < i, ∃ n, M.length? ((l.map shown).drop q) = some n ∧
      q + n = i + inside)
    (hbefore : ∀ q < i, ∀ n, M.length? ((l.map shown).drop q) = some n → q + n ≤ i + inside) :
    (((rest.zipIdx i).filter fun x => !M.inMatch (l.map shown) x.2).map Prod.fst).map shown =
      M.removeFrom inside (rest.map shown) := by
  induction rest generalizing i inside with
  | nil =>
    rw [List.map_nil, removeFrom]
    rfl
  | cons b rest ih =>
    have htext : (l.map shown).drop i = shown b :: rest.map shown := by
      rw [← List.map_drop, hrest, List.map_cons]
    have hnext : l.drop (i + 1) = rest := by
      rw [← List.tail_drop, hrest, List.tail_cons]
    rw [List.zipIdx_cons, List.map_cons]
    cases inside with
    | succ inside =>
      obtain ⟨q, hq, n, hmatch, hend⟩ := hinside.resolve_left (Nat.succ_ne_zero inside)
      have hin : M.inMatch (l.map shown) i = true :=
        inMatch_iff.mpr ⟨q, hq.le, n, hmatch, by omega⟩
      rw [List.filter_cons_of_neg (by simpa using hin), removeFrom]
      refine ih hnext ?_ fun q' hq' n' hmatch' => ?_
      · exact Or.inr ⟨q, hq.trans (Nat.lt_succ_self i), n, hmatch, by omega⟩
      · rcases Nat.lt_succ_iff_lt_or_eq.mp hq' with hlt | rfl
        · exact (hbefore q' hlt n' hmatch').trans (by omega)
        · -- it begins within the match that is being passed over
          have hdrop : ((l.map shown).drop q).drop (q' - q) = (l.map shown).drop q' := by
            rw [List.drop_drop, Nat.add_sub_cancel' hq.le]
          have hnested := M.nested hmatch (by omega : q' - q < n) (hdrop ▸ hmatch')
          omega
    | zero =>
      cases hmatch : M.length? (shown b :: rest.map shown) with
      | some n =>
        have hin : M.inMatch (l.map shown) i = true :=
          inMatch_iff.mpr ⟨i, le_rfl, n, by rw [htext, hmatch], by have := M.pos hmatch; omega⟩
        rw [List.filter_cons_of_neg (by simpa using hin), removeFrom, hmatch]
        have hpos := M.pos hmatch
        refine ih hnext ?_ fun q' hq' n' hmatch' => ?_
        · exact Or.inr ⟨i, Nat.lt_succ_self i, n, by rw [htext, hmatch], by omega⟩
        · rcases Nat.lt_succ_iff_lt_or_eq.mp hq' with hlt | rfl
          · exact (hbefore q' hlt n' hmatch').trans (by omega)
          · rw [htext, hmatch] at hmatch'
            obtain rfl := Option.some.inj hmatch'
            omega
      | none =>
        have hout : ¬M.inMatch (l.map shown) i = true := by
          rw [inMatch_iff]
          rintro ⟨q, hq, n, hmatch', hlt⟩
          rcases hq.lt_or_eq with hq | rfl
          · have := hbefore q hq n hmatch'
            omega
          · rw [htext, hmatch] at hmatch'
            cases hmatch'
        rw [List.filter_cons_of_pos (by simpa using hout), removeFrom, hmatch, List.map_cons,
          List.map_cons, ih hnext (Or.inl rfl) fun q' hq' n' hmatch' => ?_]
        rcases Nat.lt_succ_iff_lt_or_eq.mp hq' with hlt | rfl
        · exact (hbefore q' hlt n' hmatch').trans (by omega)
        · rw [htext, hmatch] at hmatch'
          cases hmatch'

/-- **What is removed is what lies in a match.** -/
theorem map_strike (shown : β → α) (l : List β) :
    (M.strike shown l).map shown = M.removeAll (l.map shown) :=
  map_strike_from shown l (List.drop_zero) (Or.inl rfl) fun q hq => absurd hq (Nat.not_lt_zero q)

lemma removeAll_of_not_occurs {s : List α} (h : ¬M.Occurs s) : M.removeAll s = s := by
  unfold removeAll
  induction s with
  | nil => rfl
  | cons a s ih =>
    have hnone : M.length? (a :: s) = none :=
      Option.eq_none_iff_forall_ne_some.mpr fun n hn => h ⟨0, n, hn⟩
    rw [removeFrom, hnone, ih fun ⟨q, n, hmatch⟩ => h ⟨q + 1, n, hmatch⟩]

/-- A match begins somewhere if a part of the list is one. -/
lemma occurs_iff {s : List α} : M.Occurs s ↔ ∃ w, w <:+: s ∧ M.Matches w := by
  constructor
  · rintro ⟨q, n, hmatch⟩
    refine ⟨(s.drop q).take n, (List.take_prefix n _).isInfix.trans (List.drop_suffix q s).isInfix,
      ?_⟩
    rw [Matches, List.length_take, Nat.min_eq_left (M.le_length hmatch)]
    exact M.local_take hmatch (by rw [List.take_take, Nat.min_self])
  · rintro ⟨w, ⟨a, b, rfl⟩, hmatch⟩
    refine ⟨a.length, w.length, ?_⟩
    rw [List.append_assoc, List.drop_left]
    exact M.local_take hmatch (by rw [List.take_left, List.take_length])

end Matcher

/-! ## Parts that were adjacent -/

section Adjacent

/-- Elements with their positions, each at the position after the one before. -/
def Adjacent (w : List (α × ℕ)) : Prop := w.IsChain fun x y => y.2 = x.2 + 1

instance (w : List (α × ℕ)) : Decidable (Adjacent w) :=
  inferInstanceAs (Decidable (w.IsChain _))

variable {l w : List (α × ℕ)}

lemma prefix_of_adjacent {x : α × ℕ} (hl : (x :: l).Pairwise fun x y => x.2 < y.2)
    (hsub : w.Sublist l) (hw : Adjacent (x :: w)) : w <+: l := by
  induction hsub generalizing x with
  | slnil => exact List.prefix_refl _
  | @cons w l z hsub ih =>
    cases w with
    | nil => exact List.nil_prefix
    | cons y w =>
      -- the element left out would have to lie between neighbours
      obtain ⟨hx, hl⟩ := List.pairwise_cons.mp hl
      have hz := (List.pairwise_cons.mp hl).1 y (hsub.subset List.mem_cons_self)
      have hxz := hx z List.mem_cons_self
      have hy : y.2 = x.2 + 1 := (List.isChain_cons_cons.mp hw).1
      omega
  | @cons_cons w l y hsub ih =>
    have hprefix := ih (List.pairwise_cons.mp hl).2 (List.isChain_cons_cons.mp hw).2
    exact (List.prefix_cons_inj y).mpr hprefix

/-- Adjacent elements that have all been kept lie together. -/
lemma infix_of_adjacent (hl : l.Pairwise fun x y => x.2 < y.2) (hsub : w.Sublist l)
    (hw : Adjacent w) : w <:+: l := by
  induction hsub with
  | slnil => exact List.infix_refl _
  | @cons w l z hsub ih =>
    exact (ih (List.pairwise_cons.mp hl).2 hw).trans (List.suffix_cons z l).isInfix
  | @cons_cons w l y hsub ih =>
    exact ((List.prefix_cons_inj y).mpr (prefix_of_adjacent hl hsub hw)).isInfix

/-- No match is kept. -/
theorem Matcher.not_matches_of_adjacent {M : Matcher α} (hl : l.Pairwise fun x y => x.2 < y.2)
    (hsub : w.Sublist (M.strike Prod.fst l)) (hw : Adjacent w) :
    ¬M.Matches (w.map Prod.fst) := by
  intro hmatch
  obtain ⟨a, b, hsplit⟩ := infix_of_adjacent hl (hsub.trans (strike_sublist _ _)) hw
  have hpos := M.pos hmatch
  have hhere : M.length? ((l.map Prod.fst).drop a.length) = some (w.map Prod.fst).length := by
    refine M.local_take hmatch ?_
    rw [← hsplit, List.append_assoc, List.map_append, List.drop_left' (List.length_map _),
      List.map_append, List.take_left, List.take_length]
  have hin : M.inMatch (l.map Prod.fst) a.length = true :=
    inMatch_iff.mpr ⟨a.length, le_rfl, _, hhere, by omega⟩
  -- the first element of the match has one position in the list, and was struck there
  obtain ⟨y, w, rfl⟩ := List.exists_cons_of_length_pos (by simpa using hpos : 0 < w.length)
  obtain ⟨⟨y', i⟩, hmem, rfl⟩ := List.mem_map.mp (hsub.subset List.mem_cons_self)
  obtain ⟨hmem, hout⟩ := List.mem_filter.mp hmem
  have hi : l[i]? = some y' := List.mem_zipIdx_iff_getElem?.mp hmem
  have ha : l[a.length]? = some y' := by
    rw [← hsplit, List.append_assoc, List.getElem?_append_right le_rfl, Nat.sub_self]
    rfl
  have hnodup : l.Nodup := hl.imp fun h heq => absurd (congrArg Prod.snd heq) h.ne
  obtain ⟨hlt, -⟩ := List.getElem?_eq_some_iff.mp hi
  obtain rfl := (List.getElem?_inj hlt hnodup).mp (hi.trans ha.symm)
  rw [hin] at hout
  cases hout

end Adjacent

/-! ## Several patterns, one after the other -/

section Patterns

def removeEach (Ms : List (Matcher α)) (s : List α) : List α :=
  Ms.foldl (fun s M => M.removeAll s) s

/-- What is kept of a list, with the positions where it was. -/
def strikeEach (Ms : List (Matcher α)) (l : List (α × ℕ)) : List (α × ℕ) :=
  Ms.foldl (fun l M => M.strike Prod.fst l) l

/-- A match is put together from elements that were not adjacent. -/
def Spliced (Ms : List (Matcher α)) (M : Matcher α) (s : List α) : Prop :=
  ∃ w, w <:+: strikeEach Ms s.zipIdx ∧ M.Matches (w.map Prod.fst) ∧ ¬Adjacent w

variable {Ms : List (Matcher α)} {M : Matcher α}

lemma strikeEach_sublist (l : List (α × ℕ)) : (strikeEach Ms l).Sublist l := by
  induction Ms generalizing l with
  | nil => exact .refl l
  | cons M Ms ih => exact (ih (M.strike Prod.fst l)).trans (M.strike_sublist _ l)

lemma map_strikeEach (l : List (α × ℕ)) :
    (strikeEach Ms l).map Prod.fst = removeEach Ms (l.map Prod.fst) := by
  induction Ms generalizing l with
  | nil => rfl
  | cons M Ms ih =>
    show (strikeEach Ms (M.strike Prod.fst l)).map Prod.fst = removeEach Ms (M.removeAll _)
    rw [ih, Matcher.map_strike]

lemma not_matches_of_strikeEach (hM : M ∈ Ms) {l w : List (α × ℕ)}
    (hl : l.Pairwise fun x y => x.2 < y.2) (hsub : w.Sublist (strikeEach Ms l))
    (hw : Adjacent w) : ¬M.Matches (w.map Prod.fst) := by
  induction Ms generalizing l with
  | nil => cases hM
  | cons M' Ms ih =>
    rcases List.mem_cons.mp hM with rfl | hM
    · have hkept : (strikeEach Ms (M.strike Prod.fst l)).Sublist (M.strike Prod.fst l) :=
        strikeEach_sublist _
      exact Matcher.not_matches_of_adjacent hl (hsub.trans hkept) hw
    · exact ih hM (hl.sublist (M'.strike_sublist _ l)) hsub

/-- **A match occurs in the result just if it is spliced.** -/
theorem occurs_removeEach_iff (hM : M ∈ Ms) (s : List α) :
    M.Occurs (removeEach Ms s) ↔ Spliced Ms M s := by
  have htext : removeEach Ms s = (strikeEach Ms s.zipIdx).map Prod.fst := by
    rw [map_strikeEach, List.zipIdx_map_fst]
  rw [htext, Matcher.occurs_iff]
  constructor
  · rintro ⟨_, hinfix, hmatch⟩
    obtain ⟨w, hw, rfl⟩ := List.infix_map_iff.mp hinfix
    refine ⟨w, hw, hmatch, fun hadjacent => ?_⟩
    have hsorted : s.zipIdx.Pairwise fun x y => x.2 < y.2 := by
      rw [← List.pairwise_map, List.zipIdx_map_snd]
      exact List.pairwise_lt_range'
    exact not_matches_of_strikeEach hM hsorted hw.sublist hadjacent hmatch
  · rintro ⟨w, hw, hmatch, -⟩
    exact ⟨w.map Prod.fst, hw.map Prod.fst, hmatch⟩

end Patterns

end MeeoServer.Text
