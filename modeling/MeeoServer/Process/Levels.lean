/-
# Levels of a cache

A value is written to some level of a cache with a time to live, and may be copied from one level
to another, where it starts to live again.  `late l` says how long a value may be served by the
level `l` after its time: nothing that is written there is late, and what is copied there is as
late as it was, and as long as it lives on the level.

What a level keeps may be another representation of what was written; `Same` relates the two.
-/
import Mathlib.Data.Nat.Notation
import Mathlib.Order.Basic

namespace MeeoServer

namespace Levels

/-- A value in a cache, and when it expires. -/
structure Entry (V : Type) where
  value : V
  expiresAt : ℕ
deriving DecidableEq

/-- What was written, when, and how long it may live. -/
structure Written (K V : Type) where
  key : K
  value : V
  ttl : ℕ
  time : ℕ

end Levels

/-- The levels of a cache and the time; what was written is history. -/
structure Levels (L K V : Type) where
  clock : ℕ
  entries : L → K → Option (Levels.Entry V)
  written : List (Levels.Written K V)

namespace Levels

variable {L K V : Type} (s : Levels L K V)

/-- What the level has under the key, if it has not expired. -/
def live (l : L) (k : K) : Option V :=
  match s.entries l k with
  | some e => if s.clock < e.expiresAt then some e.value else none
  | none => none

/-- Put a value under a key of a level. -/
def put [DecidableEq L] [DecidableEq K] (l : L) (k : K) (e : Entry V) : Levels L K V :=
  { s with entries := fun l' k' => if l' = l ∧ k' = k then some e else s.entries l' k' }

/-- Write a value to a level, which keeps it as `value'`. -/
def write [DecidableEq L] [DecidableEq K] (l : L) (k : K) (value value' : V) (ttl : ℕ) :
    Levels L K V :=
  { s.put l k ⟨value', s.clock + ttl⟩ with
    written := s.written ++ [⟨k, value, ttl, s.clock⟩] }

/-- Clear a level of the keys in `P`. -/
def clear [DecidableEq L] (l : L) (P : K → Bool) : Levels L K V :=
  { s with entries := fun l' k' => if l' = l ∧ P k' = true then none else s.entries l' k' }

def tick (d : ℕ) : Levels L K V := { s with clock := s.clock + d }

/-- The value was written under the key; at the time `t` it is not later than `d`. -/
def Timely (Same : V → V → Prop) (written : List (Written K V)) (d : ℕ) (k : K) (value : V)
    (t : ℕ) : Prop :=
  ∃ w ∈ written, w.key = k ∧ Same w.value value ∧ t < w.time + w.ttl + d

/-- No level serves anything later than it may. -/
def Bounded (Same : V → V → Prop) (late : L → ℕ) : Prop :=
  ∀ l k e t, s.entries l k = some e → t < e.expiresAt →
    Timely Same s.written (late l) k e.value t

variable {s} {Same : V → V → Prop} {late : L → ℕ} {l l' : L} {k k' : K} {value value' : V}

lemma Timely.mono {written written' : List (Written K V)} {d t : ℕ}
    (h : Timely Same written d k value t) (hsub : written ⊆ written') :
    Timely Same written' d k value t := by
  obtain ⟨w, hw, hrest⟩ := h
  exact ⟨w, hsub hw, hrest⟩

/-- A value is not late before it is late. -/
lemma Timely.earlier {written : List (Written K V)} {d t t' : ℕ}
    (h : Timely Same written d k value t) (ht : t' ≤ t) : Timely Same written d k value t' := by
  obtain ⟨w, hw, hk, hsame, hlt⟩ := h
  exact ⟨w, hw, hk, hsame, Nat.lt_of_le_of_lt ht hlt⟩

/-- While it lives on for `n`, a value gets later by `n`. -/
lemma Timely.later {written : List (Written K V)} {d n t t' : ℕ}
    (h : Timely Same written d k value t) (ht : t' < t + n) :
    Timely Same written (d + n) k value t' := by
  obtain ⟨w, hw, hk, hsame, hlt⟩ := h
  exact ⟨w, hw, hk, hsame, by omega⟩

lemma live_eq_some_iff : s.live l k = some value ↔
    ∃ e, s.entries l k = some e ∧ s.clock < e.expiresAt ∧ e.value = value := by
  unfold live
  cases s.entries l k with
  | none => simp
  | some e => simp [and_comm]

/-- What a level answers is not late. -/
lemma Bounded.live (h : s.Bounded Same late) (hlive : s.live l k = some value) :
    Timely Same s.written (late l) k value s.clock := by
  obtain ⟨e, he, hlt, rfl⟩ := live_eq_some_iff.mp hlive
  exact h l k e s.clock he hlt

lemma Bounded.put [DecidableEq L] [DecidableEq K] (h : s.Bounded Same late)
    {e : Entry V} (he : ∀ t, t < e.expiresAt → Timely Same s.written (late l) k e.value t) :
    (s.put l k e).Bounded Same late := by
  intro l' k' e' t hentry ht
  simp only [Levels.put] at hentry
  split at hentry
  · rename_i hat
    obtain ⟨rfl, rfl⟩ := hat
    obtain rfl := Option.some.inj hentry
    exact he t ht
  · exact h l' k' e' t hentry ht

lemma Bounded.write [DecidableEq L] [DecidableEq K] (h : s.Bounded Same late)
    (hsame : Same value value') (ttl : ℕ) :
    (s.write l k value value' ttl).Bounded Same late := by
  intro l' k' e' t hentry ht
  simp only [Levels.write, Levels.put] at hentry ⊢
  split at hentry
  · rename_i hat
    obtain ⟨rfl, rfl⟩ := hat
    obtain rfl := Option.some.inj hentry
    exact ⟨_, List.mem_append_right _ (List.mem_singleton.mpr rfl), rfl, hsame,
      Nat.lt_of_lt_of_le ht (Nat.le_add_right _ _)⟩
  · exact (h l' k' e' t hentry ht).mono (List.subset_append_left _ _)

/-- **A copy.**  What was not late on the level `l` when it was copied, at some time from `t` on,
is not late on the level `l'` if it lives there for as long as this one may be later. -/
lemma Bounded.copy [DecidableEq L] [DecidableEq K] (h : s.Bounded Same late) {t n : ℕ}
    (hvalue : Timely Same s.written (late l) k value t) (hn : late l + n ≤ late l') :
    (s.put l' k ⟨value, t + n⟩).Bounded Same late := by
  refine h.put fun t' ht' => ?_
  obtain ⟨w, hw, hk, hsame, hlt⟩ := hvalue.later ht'
  exact ⟨w, hw, hk, hsame, by omega⟩

lemma Bounded.clear [DecidableEq L] (h : s.Bounded Same late) (l : L) (P : K → Bool) :
    (s.clear l P).Bounded Same late := by
  intro l' k' e' t hentry ht
  simp only [Levels.clear] at hentry
  split at hentry
  · cases hentry
  · exact h l' k' e' t hentry ht

end Levels

end MeeoServer
