/-
# Queries and updates by a condition

A table whose rows carry their identifiers: a query returns the rows that satisfy a condition,
an update changes them.  Here is what both have to do with a part of the table, the rows that
satisfy `q`: a query that asks for rows of the part alone finds the same in the part as in the
whole, and an update that moves no row into the part or out of it can be done in the part, or
is not noticed there.
-/
import Mathlib.Data.List.Basic
import Mathlib.Data.List.Nodup

namespace MeeoServer.Table

variable {α β : Type}

/-- `update({ where, data })` and `updateMany`. -/
def updateWhere (p : α → Bool) (f : α → α) (l : List α) : List α :=
  l.map fun a => if p a then f a else a

/-- One of the rows that satisfy `p`; `pick` says which a query without an order returns. -/
def pickFirst (p : α → Bool) (pick : ℕ) (l : List α) : Option α :=
  (l.filter p)[pick % (l.filter p).length]?

variable {p q : α → Bool} {f : α → α} {l : List α}

lemma mem_of_pickFirst {pick : ℕ} {a : α} (h : pickFirst p pick l = some a) :
    a ∈ l ∧ p a = true :=
  List.mem_filter.mp (List.mem_of_getElem? h)

/-! ## Queries -/

lemma filter_filter_of (h : ∀ a ∈ l, p a = true → q a = true) :
    (l.filter q).filter p = l.filter p := by
  rw [List.filter_filter]
  refine List.filter_congr fun a ha => ?_
  cases hp : p a with
  | true => rw [h a ha hp]; rfl
  | false => rfl

lemma find?_filter_of (h : ∀ a ∈ l, p a = true → q a = true) :
    (l.filter q).find? p = l.find? p := by
  rw [← List.head?_filter, ← List.head?_filter, filter_filter_of h]

lemma countP_filter_of (h : ∀ a ∈ l, p a = true → q a = true) :
    (l.filter q).countP p = l.countP p := by
  rw [List.countP_eq_length_filter, List.countP_eq_length_filter, filter_filter_of h]

lemma any_filter_of (h : ∀ a ∈ l, p a = true → q a = true) : (l.filter q).any p = l.any p := by
  rw [← List.isSome_find?, ← List.isSome_find?, find?_filter_of h]

lemma pickFirst_filter_of {pick : ℕ} (h : ∀ a ∈ l, p a = true → q a = true) :
    pickFirst p pick (l.filter q) = pickFirst p pick l := by
  unfold pickFirst
  rw [filter_filter_of h]

/-- A key without duplicates finds one row. -/
lemma filter_key_eq_singleton {κ : Type} [DecidableEq κ] {key : α → κ}
    (hnodup : (l.map key).Nodup) {a : α} (ha : a ∈ l) :
    (l.filter fun b => key b = key a) = [a] := by
  induction l with
  | nil => cases ha
  | cons b l ih =>
    obtain ⟨hb, hl⟩ := List.nodup_cons.mp hnodup
    rcases List.mem_cons.mp ha with rfl | ha
    · rw [List.filter_cons_of_pos (by simp), List.filter_eq_nil_iff.mpr]
      intro c hc hkey
      exact hb (of_decide_eq_true hkey ▸ List.mem_map_of_mem hc)
    · rw [List.filter_cons_of_neg, ih hl ha]
      intro hkey
      exact hb (of_decide_eq_true hkey ▸ List.mem_map_of_mem ha)

/-! ## Updates -/

/-- The update can be done in the part alone. -/
lemma filter_updateWhere (h : ∀ a ∈ l, p a = true → q (f a) = q a) :
    (updateWhere p f l).filter q = updateWhere p f (l.filter q) := by
  unfold updateWhere
  rw [List.filter_map]
  congr 1
  refine List.filter_congr fun a ha => ?_
  show q (if p a = true then f a else a) = q a
  split_ifs with hp
  · exact h a ha hp
  · rfl

/-- The update is not noticed in the part. -/
lemma filter_updateWhere_of_not
    (h : ∀ a ∈ l, p a = true → q a = false ∧ q (f a) = false) :
    (updateWhere p f l).filter q = l.filter q := by
  rw [filter_updateWhere fun a ha hp => by rw [(h a ha hp).1, (h a ha hp).2]]
  unfold updateWhere
  refine (List.map_congr_left fun a ha => ?_).trans (List.map_id _)
  obtain ⟨ha, hq⟩ := List.mem_filter.mp ha
  refine if_neg fun hp => ?_
  rw [(h a ha hp).1] at hq
  exact nomatch hq

lemma map_updateWhere {g : α → β} (h : ∀ a, g (f a) = g a) :
    (updateWhere p f l).map g = l.map g := by
  unfold updateWhere
  rw [List.map_map]
  refine List.map_congr_left fun a _ => ?_
  show g (if p a = true then f a else a) = g a
  split_ifs
  · exact h a
  · rfl

lemma mem_updateWhere {b : α} (h : b ∈ updateWhere p f l) : ∃ a ∈ l, b = a ∨ b = f a := by
  obtain ⟨a, ha, rfl⟩ := List.mem_map.mp h
  refine ⟨a, ha, ?_⟩
  split_ifs
  · exact Or.inr rfl
  · exact Or.inl rfl

/-- An update keeps a property of all rows if it gives it to the rows that it changes. -/
lemma forall_mem_updateWhere_iff {P : α → Prop} (hl : ∀ a ∈ l, P a) :
    (∀ b ∈ updateWhere p f l, P b) ↔ ∀ a ∈ l, p a = true → P (f a) := by
  unfold updateWhere
  rw [List.forall_mem_map]
  refine forall₂_congr fun a ha => ?_
  by_cases hp : p a = true
  · simp [hp]
  · simp [hp, hl a ha]

lemma countP_updateWhere :
    (updateWhere p f l).countP q = l.countP fun a => if p a then q (f a) else q a := by
  unfold updateWhere
  rw [List.countP_map]
  refine List.countP_congr fun a _ => ?_
  show q (if p a = true then f a else a) = true ↔ _
  split_ifs <;> rfl

lemma updateWhere_eq_self_iff : updateWhere p f l = l ↔ ∀ a ∈ l, p a = true → f a = a := by
  unfold updateWhere
  constructor
  · intro h a ha hp
    have heq := List.map_inj_left.mp (h.trans (List.map_id l).symm) a ha
    rw [if_pos hp] at heq
    exact heq
  · intro h
    refine (List.map_congr_left fun a ha => ?_).trans (List.map_id l)
    split_ifs with hp
    · exact h a ha hp
    · rfl

/-- Only the rows that are changed can be counted anew. -/
lemma countP_updateWhere_le (p q : α → Bool) (f : α → α) (l : List α) :
    (updateWhere p f l).countP q ≤ l.countP q + l.countP p := by
  induction l with
  | nil => exact Nat.zero_le _
  | cons a l ih =>
    unfold updateWhere at ih ⊢
    rw [List.map_cons, List.countP_cons, List.countP_cons, List.countP_cons]
    cases hp : p a with
    | false =>
      rw [if_neg Bool.false_ne_true]
      omega
    | true =>
      rw [if_pos rfl, if_pos rfl]
      split <;> omega

lemma countP_updateWhere_le_of_not (h : ∀ a, p a = true → q (f a) = false) :
    (updateWhere p f l).countP q ≤ l.countP q := by
  unfold updateWhere
  rw [List.countP_map]
  refine List.countP_mono_left fun a _ hq => ?_
  rw [Function.comp_apply] at hq
  split_ifs at hq with hp
  · rw [h a hp] at hq
    exact nomatch hq
  · exact hq

/-- A key without duplicates is counted once. -/
lemma countP_key_le_one {κ : Type} [DecidableEq κ] {key : α → κ} (hnodup : (l.map key).Nodup)
    (k : κ) : (l.countP fun a => key a = k) ≤ 1 := by
  have hcount : (l.countP fun a => key a = k) = (l.map key).count k := by
    rw [List.count, List.countP_map]
    rfl
  rw [hcount]
  exact List.nodup_iff_count_le_one.mp hnodup k

/-- An update that finds no row changes nothing. -/
lemma updateWhere_of_not (h : ∀ a ∈ l, p a = false) : updateWhere p f l = l :=
  updateWhere_eq_self_iff.mpr fun a ha hp => absurd hp (Bool.eq_false_iff.mp (h a ha))

/-- An update that moves its rows out of the part. -/
lemma filter_updateWhere_of_leave (h : ∀ a, p a = true → q (f a) = false) :
    (updateWhere p f l).filter q = (l.filter fun a => !p a).filter q := by
  unfold updateWhere
  induction l with
  | nil => rfl
  | cons a l ih =>
    rw [List.map_cons]
    cases hp : p a with
    | true =>
      rw [if_pos rfl, List.filter_cons_of_neg (by rw [h a hp]; exact Bool.false_ne_true),
        List.filter_cons_of_neg (p := fun a => !p a) (by simp [hp]), ih]
    | false =>
      rw [if_neg Bool.false_ne_true, List.filter_cons_of_pos (p := fun a => !p a) (by simp [hp])]
      cases hq : q a with
      | true => rw [List.filter_cons_of_pos hq, List.filter_cons_of_pos hq, ih]
      | false =>
        have hneg : ¬q a = true := Bool.eq_false_iff.mp hq
        rw [List.filter_cons_of_neg hneg, List.filter_cons_of_neg hneg, ih]

/-- Where no row satisfies a condition, one that is written is the first to do so. -/
lemma find?_updateWhere_const {b : α} (hfind : ∃ a ∈ l, p a = true)
    (hl : ∀ a ∈ l, q a = false) (hb : q b = true) :
    (updateWhere p (fun _ => b) l).find? q = some b := by
  obtain ⟨a, ha, hpa⟩ := hfind
  have hmem : b ∈ updateWhere p (fun _ => b) l :=
    List.mem_map.mpr ⟨a, ha, if_pos hpa⟩
  obtain ⟨c, hc⟩ := Option.isSome_iff_exists.mp (List.find?_isSome.mpr ⟨b, hmem, hb⟩)
  obtain ⟨d, hd, rfl | rfl⟩ := mem_updateWhere (List.mem_of_find?_eq_some hc)
  · have hq := List.find?_some hc
    rw [hl c hd] at hq
    cases hq
  · exact hc

/-- A new row outside the part is not noticed there. -/
lemma filter_append_of_not {a : α} (h : q a = false) : (l ++ [a]).filter q = l.filter q := by
  rw [List.filter_append, List.filter_singleton, h]
  exact List.append_nil _

lemma filter_append_of {a : α} (h : q a = true) : (l ++ [a]).filter q = l.filter q ++ [a] := by
  rw [List.filter_append, List.filter_singleton, h]
  rfl

lemma filter_comm (p q : α → Bool) (l : List α) :
    (l.filter p).filter q = (l.filter q).filter p := by
  rw [List.filter_filter, List.filter_filter]
  exact List.filter_congr fun a _ => Bool.and_comm _ _

end MeeoServer.Table
