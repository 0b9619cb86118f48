/-
# Tables as lists of rows

A table that is only appended to and updated in place is a list; the identifier of a row is
its position.  This file collects what the model needs of such tables: the rows a query
returns, together with their identifiers; the effect of an update on a sum over the table;
`Keeps f`, the relation between a table and a later one in which every row is still
present with the same value of its immutable columns `f`; and `Linked`, which says that a
list of changes is a history, each starting where the one before it ended.
-/
import Mathlib.Algebra.BigOperators.Group.List.Basic
import Mathlib.Data.List.Chain
import Mathlib.Data.List.Nodup
import Mathlib.Data.List.Infix
import Mathlib.Tactic.Linarith

namespace MeeoServer

/-- A row as a query returns it: its identifier and the values it was read with. -/
structure Row (α : Type) where
  id : ℕ
  val : α
deriving DecidableEq, Repr

namespace Table

variable {α β : Type}

/-- The rows that satisfy `p`, in the order of the table. -/
def findMany (p : α → Bool) (l : List α) : List (Row α) :=
  (l.zipIdx.filter fun x => p x.1).map fun x => ⟨x.2, x.1⟩

/-- One row that satisfies `p`.  A query without an order may return any of them; `pick` says
which. -/
def findFirst (p : α → Bool) (pick : ℕ) (l : List α) : Option (Row α) :=
  (findMany p l)[pick % (findMany p l).length]?

lemma mem_findMany {p : α → Bool} {l : List α} {r : Row α} :
    r ∈ findMany p l ↔ l[r.id]? = some r.val ∧ p r.val = true := by
  obtain ⟨i, a⟩ := r
  simp only [findMany, List.mem_map, List.mem_filter, List.mem_zipIdx_iff_getElem?]
  constructor
  · rintro ⟨⟨b, j⟩, ⟨hj, hp⟩, heq⟩
    obtain ⟨rfl, rfl⟩ : j = i ∧ b = a := by simpa using heq
    exact ⟨hj, hp⟩
  · rintro ⟨hi, hp⟩
    exact ⟨(a, i), ⟨hi, hp⟩, rfl⟩

lemma nodup_findMany (p : α → Bool) (l : List α) : ((findMany p l).map Row.id).Nodup := by
  have hids : (findMany p l).map Row.id = (l.zipIdx.filter fun x => p x.1).map Prod.snd := by
    simp [findMany, Function.comp_def]
  rw [hids]
  refine List.Nodup.sublist (List.filter_sublist.map _) ?_
  rw [List.zipIdx_map_snd]
  exact List.nodup_range'

lemma findFirst_eq_some {p : α → Bool} {pick : ℕ} {l : List α} {r : Row α}
    (h : findFirst p pick l = some r) : l[r.id]? = some r.val ∧ p r.val = true :=
  mem_findMany.mp (List.mem_of_getElem? h)

/-- At most one row satisfies `p`. -/
lemma length_filter_le_one_iff {p : α → Bool} {l : List α} :
    (l.filter p).length ≤ 1 ↔
      ∀ (i j : ℕ) a b, l[i]? = some a → l[j]? = some b → p a = true → p b = true → i = j := by
  have hlength : (findMany p l).length = (l.filter p).length := by
    rw [findMany, List.length_map, ← List.countP_eq_length_filter, ← List.countP_eq_length_filter]
    conv_rhs => rw [← List.zipIdx_map_fst 0 l]
    rw [List.countP_map]
    rfl
  rw [← hlength]
  constructor
  · intro hle i j a b hi hj ha hb
    have hmem : (⟨i, a⟩ : Row α) ∈ findMany p l := mem_findMany.mpr ⟨hi, ha⟩
    have hmem' : (⟨j, b⟩ : Row α) ∈ findMany p l := mem_findMany.mpr ⟨hj, hb⟩
    match hrows : findMany p l, hle with
    | [], _ => rw [hrows] at hmem; exact nomatch hmem
    | [r], _ =>
      rw [hrows, List.mem_singleton] at hmem hmem'
      exact congrArg Row.id (hmem.trans hmem'.symm)
  · intro h
    by_contra hlt
    match hrows : findMany p l, hlt with
    | r :: r' :: rest, _ =>
      have hr : r ∈ findMany p l := by simp [hrows]
      have hr' : r' ∈ findMany p l := by simp [hrows]
      have hnodup := nodup_findMany p l
      rw [hrows] at hnodup
      obtain ⟨hi, ha⟩ := mem_findMany.mp hr
      obtain ⟨hj, hb⟩ := mem_findMany.mp hr'
      have heq : r.id = r'.id := h r.id r'.id r.val r'.val hi hj ha hb
      simp [heq] at hnodup
    | [r], hlt => exact hlt (by simp)
    | [], hlt => exact hlt (by simp)

/-- Updating one row changes a sum over the table by the change of its summand. -/
lemma sum_map_modify {l : List α} {i : ℕ} {a : α} (f : α → α) (g : α → ℤ)
    (h : l[i]? = some a) :
    ((l.modify i f).map g).sum = (l.map g).sum - g a + g (f a) := by
  induction l generalizing i with
  | nil => simp at h
  | cons b l ih =>
    cases i with
    | zero =>
      obtain rfl : b = a := by simpa using h
      simp only [List.modify_zero_cons, List.map_cons, List.sum_cons]
      omega
    | succ i =>
      have hl := ih (by simpa using h)
      simp only [List.modify_succ_cons, List.map_cons, List.sum_cons, hl]
      omega

/-- An update that leaves `g` of every row alone leaves the list of the `g`s alone. -/
lemma map_modify_of_eq {l : List α} (i : ℕ) {f : α → α} {g : α → β} (h : ∀ a, g (f a) = g a) :
    (l.modify i f).map g = l.map g := by
  induction l generalizing i with
  | nil => simp
  | cons b l ih => cases i <;> simp [h, ih]

lemma getElem?_modify_self {l : List α} {i : ℕ} {a : α} (f : α → α) (h : l[i]? = some a) :
    (l.modify i f)[i]? = some (f a) := by
  simp [h]

/-- What holds of every row, and of the updated row, holds of every row after the update. -/
lemma forall_mem_modify {l : List α} {i : ℕ} {f : α → α} {P : α → Prop} (hl : ∀ a ∈ l, P a)
    (hf : ∀ a ∈ l, P (f a)) : ∀ a ∈ l.modify i f, P a := by
  induction l generalizing i with
  | nil => simp
  | cons b l ih =>
    intro a ha
    cases i with
    | zero =>
      rcases List.mem_cons.mp ha with rfl | ha
      · exact hf b List.mem_cons_self
      · exact hl a (List.mem_cons_of_mem b ha)
    | succ i =>
      rcases List.mem_cons.mp ha with rfl | ha
      · exact hl a List.mem_cons_self
      · exact ih (fun a ha => hl a (List.mem_cons_of_mem b ha))
          (fun a ha => hf a (List.mem_cons_of_mem b ha)) a ha

/-- Replacing the rows that do not satisfy `p` does not show to a search for rows that do. -/
lemma filter_replace {l new : List α} {p q : α → Bool} (hnew : ∀ a ∈ new, q a = false)
    (hkept : ∀ a ∈ l, q a = true → p a = true) :
    (l.filter p ++ new).filter q = l.filter q := by
  have hnone : new.filter q = [] := by
    rw [List.filter_eq_nil_iff]
    intro a ha
    rw [hnew a ha]
    exact Bool.false_ne_true
  rw [List.filter_append, List.filter_filter, hnone, List.append_nil]
  refine List.filter_congr fun a ha => ?_
  cases hq : q a with
  | false => exact Bool.false_and _
  | true => rw [hkept a ha hq, Bool.and_self]

/-- A count grows if every counted row is still there and still counted. -/
lemma countP_le_of_getElem? {l l' : List α} {p q : α → Bool}
    (h : ∀ (i : ℕ) a, l[i]? = some a → p a = true → ∃ b, l'[i]? = some b ∧ q b = true) :
    l.countP p ≤ l'.countP q := by
  induction l generalizing l' with
  | nil => simp
  | cons a l ih =>
    cases l' with
    | nil =>
      have hp : ∀ b ∈ a :: l, ¬ p b = true := by
        intro b hb hpb
        obtain ⟨i, hi⟩ := List.mem_iff_getElem?.mp hb
        obtain ⟨_, hnone, -⟩ := h i b hi hpb
        simp at hnone
      rw [List.countP_eq_zero.mpr hp]
      exact Nat.zero_le _
    | cons b l' =>
      have htail : l.countP p ≤ l'.countP q :=
        ih fun i a' ha' hp => by simpa using h (i + 1) a' (by simpa using ha') hp
      have hhead : p a = true → q b = true := by
        intro hp
        obtain ⟨b', hb', hq⟩ := h 0 a rfl hp
        obtain rfl : b = b' := by simpa using hb'
        exact hq
      rw [List.countP_cons, List.countP_cons]
      by_cases hp : p a = true
      · simp only [hp, hhead hp, if_true]
        omega
      · rw [if_neg hp]
        omega

/-! ## Immutable columns -/

/-- Every row of the first table is in the second one, with the same columns `f`. -/
def Keeps (f : α → β) (l l' : List α) : Prop := l.map f <+: l'.map f

lemma Keeps.refl (f : α → β) (l : List α) : Keeps f l l := List.prefix_refl _

lemma Keeps.trans {f : α → β} {l l' l'' : List α} (h : Keeps f l l') (h' : Keeps f l' l'') :
    Keeps f l l'' :=
  List.IsPrefix.trans h h'

lemma Keeps.append (f : α → β) (l m : List α) : Keeps f l (l ++ m) := by
  simp [Keeps]

lemma Keeps.modify {f : α → β} (l : List α) (i : ℕ) {g : α → α} (h : ∀ a, f (g a) = f a) :
    Keeps f l (l.modify i g) := by
  rw [Keeps, map_modify_of_eq i h]

lemma Keeps.map {f : α → β} (l : List α) {g : α → α} (h : ∀ a, f (g a) = f a) :
    Keeps f l (l.map g) := by
  have heq : (l.map g).map f = l.map f := by simp [h]
  rw [Keeps, heq]

lemma Keeps.length_le {f : α → β} {l l' : List α} (h : Keeps f l l') :
    l.length ≤ l'.length := by
  simpa using List.IsPrefix.length_le h

lemma Keeps.getElem? {f : α → β} {l l' : List α} {i : ℕ} {a : α} (h : Keeps f l l')
    (ha : l[i]? = some a) : ∃ a', l'[i]? = some a' ∧ f a' = f a := by
  have hi : (l.map f)[i]? = some (f a) := by simp [ha]
  have hi' : (l'.map f)[i]? = some (f a) := by
    obtain ⟨t, ht⟩ := h
    have hlt : i < (l.map f).length := (List.getElem?_eq_some_iff.mp hi).1
    rw [← ht, List.getElem?_append_left hlt, hi]
  simpa using hi'

lemma Keeps.mem {f : α → β} {l l' : List α} {a : α} (h : Keeps f l l') (ha : a ∈ l) :
    ∃ a' ∈ l', f a' = f a := by
  obtain ⟨i, hi⟩ := List.mem_iff_getElem?.mp ha
  obtain ⟨a', ha', hf⟩ := h.getElem? hi
  exact ⟨a', List.mem_of_getElem? ha', hf⟩

/-! ## Histories -/

/-- The changes `l` form a history that ends in `b`: each change starts where the one before it
ended. -/
structure Linked (start : α → Option β) (stop : α → β) (l : List α) (b : β) : Prop where
  chain : l.IsChain fun x y => start y = some (stop x)
  last : l.getLast?.map stop = some b

variable {start : α → Option β} {stop : α → β}

lemma Linked.singleton (a : α) : Linked start stop [a] (stop a) :=
  ⟨List.isChain_singleton a, rfl⟩

lemma Linked.append {l : List α} {b : β} (h : Linked start stop l b) {a : α}
    (ha : start a = some b) : Linked start stop (l ++ [a]) (stop a) := by
  refine ⟨h.chain.append (List.isChain_singleton a) fun x hx y hy => ?_, by simp⟩
  obtain rfl : a = y := by simpa using hy
  have hlast := h.last
  rw [hx, Option.map_some, Option.some.injEq] at hlast
  rw [ha, hlast]

end Table

end MeeoServer
