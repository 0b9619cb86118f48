/-
# Circular buffers

A buffer that keeps what was recorded last.  Until it is full the elements are put at the end; from
then on each takes the place of the oldest one, and an index goes round with them.  Read from the
index on, the buffer is the end of the list of everything that was recorded.
-/
import Mathlib.Data.List.DropRight
import Mathlib.Data.List.Rotate

namespace MeeoServer.Table

variable {α : Type}

structure Circular (α : Type) where
  items : List α
  index : ℕ
deriving DecidableEq

namespace Circular

def empty : Circular α := ⟨[], 0⟩

def record (capacity : ℕ) (c : Circular α) (a : α) : Circular α :=
  if c.items.length < capacity then { c with items := c.items ++ [a] }
  else { items := c.items.set c.index a, index := (c.index + 1) % capacity }

/-- The elements, from the oldest. -/
def inOrder (c : Circular α) : List α := c.items.rotate c.index

lemma perm_inOrder (c : Circular α) : c.items.Perm c.inOrder := (List.rotate_perm ..).symm

/-- What the buffer looks like when the elements of `l` have been recorded. -/
structure Holds (capacity : ℕ) (l : List α) (c : Circular α) : Prop where
  inOrder : c.inOrder = l.rtake capacity
  index_lt : c.index < capacity
  filling : c.items.length < capacity → c.index = 0

variable {capacity : ℕ} {l : List α} {c : Circular α} {a : α}

lemma holds_empty (h : 0 < capacity) : Holds capacity ([] : List α) empty where
  inOrder := by simp [inOrder, empty]
  index_lt := h
  filling _ := rfl

lemma Holds.length_items (h : Holds capacity l c) : c.items.length = min capacity l.length := by
  rw [c.perm_inOrder.length_eq, h.inOrder, List.rtake, List.length_drop]
  omega

lemma Holds.perm_items (h : Holds capacity l c) :
    c.items.Perm (l.rtake (min l.length capacity)) := by
  have hlast : l.rtake (min l.length capacity) = l.rtake capacity :=
    congrArg (fun n => l.drop n) (by omega)
  rw [hlast, ← h.inOrder]
  exact c.perm_inOrder

/-- The element at the index is the oldest one. -/
lemma rotate_set {l : List α} {i : ℕ} (hi : i < l.length) :
    (l.set i a).rotate ((i + 1) % l.length) = (l.rotate i).tail ++ [a] := by
  have hlength : (l.set i a).length = l.length := List.length_set ..
  have htake : (l.set i a).take (i + 1) = l.take i ++ [a] := by
    have hle : (l.take i).length ≤ i + 1 := (List.length_take_le i l).trans (Nat.le_succ i)
    rw [List.set_eq_take_append_cons_drop, if_pos hi, List.take_append, List.length_take,
      Nat.min_eq_left hi.le, List.take_of_length_le hle, Nat.add_sub_cancel_left]
    rfl
  have hdrop : (l.set i a).drop (i + 1) = l.drop (i + 1) :=
    List.drop_set_of_lt (Nat.lt_succ_self i)
  have htail : (l.rotate i).tail = l.drop (i + 1) ++ l.take i := by
    rw [List.rotate_eq_drop_append_take hi.le, List.drop_eq_getElem_cons hi]
    rfl
  rw [← hlength, List.rotate_mod, List.rotate_eq_drop_append_take (hlength ▸ hi), htake, hdrop,
    htail, List.append_assoc]

/-- **A circular buffer** holds the last elements that were recorded, as many as it has room for,
when one more is recorded. -/
lemma Holds.record (h : Holds capacity l c) : Holds capacity (l ++ [a]) (c.record capacity a) := by
  have hlength := h.length_items
  unfold Circular.record
  split
  · next hfree =>
    have hindex := h.filling hfree
    constructor
    · have hall : c.items = l := by
        have hinOrder := h.inOrder
        rw [Circular.inOrder, hindex, List.rotate_zero, List.rtake,
          Nat.sub_eq_zero_of_le (by omega), List.drop_zero] at hinOrder
        exact hinOrder
      show (c.items ++ [a]).rotate c.index = _
      rw [hindex, List.rotate_zero, hall, List.rtake, List.length_append, List.length_singleton,
        Nat.sub_eq_zero_of_le (by omega), List.drop_zero]
    · exact h.index_lt
    · exact fun _ => hindex
  · next hfull =>
    have hcapacity : c.items.length = capacity := by omega
    constructor
    · show (c.items.set c.index a).rotate ((c.index + 1) % capacity) = _
      have hrotate := rotate_set (a := a) (hcapacity.symm ▸ h.index_lt : c.index < c.items.length)
      rw [hcapacity] at hrotate
      have hinOrder : c.items.rotate c.index = l.rtake capacity := h.inOrder
      have hdropped : (l ++ [a]).length - capacity = l.length - capacity + 1 := by
        rw [List.length_append, List.length_singleton]
        omega
      have hle : l.length - capacity + 1 ≤ l.length := by
        have hindex := h.index_lt
        omega
      rw [hrotate, hinOrder, List.rtake, List.rtake, List.tail_drop, hdropped,
        List.drop_append_of_le_length hle]
    · exact Nat.mod_lt _ (Nat.zero_lt_of_lt h.index_lt)
    · intro hfree
      rw [List.length_set, hcapacity] at hfree
      exact absurd hfree (lt_irrefl capacity)

end Circular

end MeeoServer.Table
