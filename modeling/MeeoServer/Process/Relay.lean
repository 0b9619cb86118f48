/-
# Publication through a relay

Nodes publish messages.  A message is emitted at once at the node that publishes it; a relay
carries it to the inboxes of the nodes that have subscribed, and a node that takes it from its
inbox emits it, unless it is its own.

A message can be lost on the way: the relay may not be there when it is published, it may forget
it, and a node that has not subscribed does not get it.  `Relay.lost` is history, which no node
looks at: what will not reach a node any more.  The invariant `Accounted` says that at every node
each message is in one place: it was emitted, or it is on its way, or it is lost.
-/
import Mathlib.Algebra.Order.Group.Multiset
import Mathlib.Data.List.Nodup
import Mathlib.Tactic.Abel

namespace MeeoServer

/-- A message, its number in the order of publication, and the node that has published it. -/
structure Entry (N M : Type) where
  number : ℕ
  origin : N
  body : M
deriving DecidableEq

namespace Entry

variable {N M : Type} [DecidableEq N]

/-- What a node has yet to do with a message: nothing, if it is its own. -/
def due (e : Entry N M) (n : N) : List (Entry N M) := if e.origin = n then [] else [e]

lemma due_self {e : Entry N M} : e.due e.origin = [] := if_pos rfl

lemma due_of_ne {e : Entry N M} {n : N} (h : e.origin ≠ n) : e.due n = [e] := if_neg h

lemma filter_singleton {e : Entry N M} {n : N} :
    [e].filter (fun e => e.origin ≠ n) = e.due n := by
  by_cases he : e.origin = n <;> simp [he, due]

end Entry

structure Relay (N M : Type) where
  published : List (Entry N M)
  /-- What the relay has not yet forwarded. -/
  inFlight : List (Entry N M)
  inbox : N → List (Entry N M)
  emitted : N → List (Entry N M)
  lost : N → List (Entry N M)

namespace Relay

variable {N M : Type}

def empty : Relay N M := ⟨[], [], fun _ => [], fun _ => [], fun _ => []⟩

/-- The entry of the next message. -/
def next (r : Relay N M) (n : N) (body : M) : Entry N M := ⟨r.published.length, n, body⟩

variable [DecidableEq N]

/-- The node `n` publishes a message; `relayed` says whether the relay has it. -/
def publish (n : N) (body : M) (relayed : Bool) (r : Relay N M) : Relay N M :=
  let e := r.next n body
  { r with
    published := r.published ++ [e]
    inFlight := if relayed then r.inFlight ++ [e] else r.inFlight
    emitted := Function.update r.emitted n (r.emitted n ++ [e])
    lost := fun m => r.lost m ++ if relayed then [] else e.due m }

/-- The relay forwards one of its messages to those that have subscribed. -/
def forward (i : ℕ) (subscribed : N → Bool) (r : Relay N M) : Relay N M :=
  match r.inFlight[i]? with
  | none => r
  | some e =>
    { r with
      inFlight := r.inFlight.eraseIdx i
      inbox := fun m => if subscribed m then r.inbox m ++ [e] else r.inbox m
      lost := fun m => r.lost m ++ if subscribed m then [] else e.due m }

/-- A node looks at the first message in its inbox, and emits it unless it is its own. -/
def take (n : N) (r : Relay N M) : Relay N M :=
  match r.inbox n with
  | [] => r
  | e :: rest =>
    { r with
      inbox := Function.update r.inbox n rest
      emitted := Function.update r.emitted n (r.emitted n ++ e.due n) }

/-- A node that closes does not look into its inbox any more. -/
def drop (n : N) (r : Relay N M) : Relay N M :=
  { r with
    inbox := Function.update r.inbox n []
    lost := Function.update r.lost n (r.lost n ++ (r.inbox n).filter fun e => e.origin ≠ n) }

/-- What a node would emit if it took all that is on its way to it. -/
def pending (r : Relay N M) (n : N) : List (Entry N M) :=
  (r.inbox n ++ r.inFlight).filter fun e => e.origin ≠ n

/-- Each message is in one place, as seen from each node. -/
structure Accounted (r : Relay N M) : Prop where
  numbered : r.published.map Entry.number = List.range r.published.length
  perm : ∀ n, (r.emitted n ++ r.pending n ++ r.lost n).Perm r.published

variable {r : Relay N M} {n m : N}

lemma Accounted.nodup (h : r.Accounted) : r.published.Nodup :=
  have hnumbers : (r.published.map Entry.number).Nodup := h.numbered ▸ List.nodup_range
  hnumbers.of_map

/-- Each message, emitted or on its way or lost, is one that was published, and only once. -/
lemma Accounted.places_nodup (h : r.Accounted) :
    (r.emitted n ++ r.pending n ++ r.lost n).Nodup :=
  (h.perm n).nodup_iff.mpr h.nodup

lemma Accounted.emitted_nodup (h : r.Accounted) : (r.emitted n).Nodup :=
  (List.nodup_append.mp (List.nodup_append.mp h.places_nodup).1).1

lemma accounted_empty : (empty : Relay N M).Accounted where
  numbered := rfl
  perm _ := .rfl

/-! ## What is emitted -/

lemma publish_emitted (body : M) (relayed : Bool) :
    (r.publish n body relayed).emitted m = r.emitted m ++ if m = n then [r.next n body] else [] := by
  show Function.update r.emitted n _ m = _
  by_cases hmn : m = n
  · subst hmn
    rw [Function.update_self, if_pos rfl]
  · rw [Function.update_of_ne hmn, if_neg hmn, List.append_nil]

lemma take_emitted {e : Entry N M} {rest : List (Entry N M)} (h : r.inbox n = e :: rest) :
    (r.take n).emitted m = r.emitted m ++ if m = n then e.due n else [] := by
  unfold Relay.take
  rw [h]
  show Function.update r.emitted n _ m = _
  by_cases hmn : m = n
  · subst hmn
    rw [Function.update_self, if_pos rfl]
  · rw [Function.update_of_ne hmn, if_neg hmn, List.append_nil]

lemma take_nil (h : r.inbox n = []) : r.take n = r := by
  unfold Relay.take
  rw [h]

lemma forward_emitted (i : ℕ) (subscribed : N → Bool) :
    (r.forward i subscribed).emitted = r.emitted := by
  unfold Relay.forward
  cases r.inFlight[i]? <;> rfl

/-! ## The steps -/

/-- The same, for multisets, which can be added. -/
lemma accounted_iff : r.Accounted ↔
    r.published.map Entry.number = List.range r.published.length ∧
      ∀ n, (r.emitted n : Multiset (Entry N M)) + r.pending n + r.lost n = r.published := by
  refine ⟨fun h => ⟨h.numbered, fun n => ?_⟩, fun h => ⟨h.1, fun n => ?_⟩⟩
  · simpa only [Multiset.coe_add] using Multiset.coe_eq_coe.mpr (h.perm n)
  · simpa only [Multiset.coe_add, Multiset.coe_eq_coe] using h.2 n

lemma pending_coe : (r.pending n : Multiset (Entry N M)) =
    ((r.inbox n).filter fun e => e.origin ≠ n : List (Entry N M)) +
      ((r.inFlight.filter fun e => e.origin ≠ n : List (Entry N M)) : Multiset (Entry N M)) := by
  rw [pending, List.filter_append, Multiset.coe_add]

/-- What is in flight is yet to be done by the others. -/
lemma filter_append_due {l : List (Entry N M)} {e : Entry N M} :
    ((l ++ [e]).filter (fun e => e.origin ≠ n) : Multiset (Entry N M)) =
      (l.filter fun e => e.origin ≠ n : List (Entry N M)) + (e.due n : Multiset (Entry N M)) := by
  rw [List.filter_append, Entry.filter_singleton, Multiset.coe_add]

lemma Accounted.publish (h : r.Accounted) (n : N) (body : M) (relayed : Bool) :
    (r.publish n body relayed).Accounted := by
  refine accounted_iff.mpr ⟨?_, fun m => ?_⟩
  · show (r.published ++ [r.next n body]).map Entry.number =
      List.range (r.published ++ [r.next n body]).length
    rw [List.map_append, h.numbered, List.length_append, List.length_singleton, List.range_succ]
    rfl
  · have hm := (accounted_iff.mp h).2 m
    -- wherever the message is, it is not emitted a second time at its origin
    have hemitted : ((r.publish n body relayed).emitted m : Multiset (Entry N M)) +
        (r.next n body).due m = r.emitted m + {r.next n body} := by
      by_cases hmn : m = n
      · subst hmn
        have hown : (r.next m body).due m = [] := Entry.due_self
        rw [hown, show (r.publish m body relayed).emitted m = r.emitted m ++ [r.next m body] from
          Function.update_self .., ← Multiset.coe_add, Multiset.coe_nil, add_zero]
        rfl
      · have hother : (r.next n body).due m = [r.next n body] := Entry.due_of_ne (Ne.symm hmn)
        rw [hother, show (r.publish n body relayed).emitted m = r.emitted m from
          Function.update_of_ne hmn ..]
        rfl
    have hrest : ((r.publish n body relayed).pending m : Multiset (Entry N M)) +
        (r.publish n body relayed).lost m =
          r.pending m + r.lost m + (r.next n body).due m := by
      rw [pending_coe, pending_coe]
      cases relayed with
      | true =>
        show ((r.inbox m).filter _ : Multiset (Entry N M)) +
          ((r.inFlight ++ [r.next n body]).filter _ : List (Entry N M)) +
          (r.lost m ++ [] : List (Entry N M)) = _
        rw [filter_append_due, List.append_nil]
        abel
      | false =>
        show _ + _ + ((r.lost m ++ (r.next n body).due m : List (Entry N M)) :
          Multiset (Entry N M)) = _
        rw [← Multiset.coe_add, ← add_assoc]
        rfl
    calc _ = ((r.publish n body relayed).emitted m : Multiset (Entry N M)) +
          (r.next n body).due m + r.pending m + r.lost m := by
            rw [add_assoc, hrest]; abel
      _ = r.emitted m + r.pending m + r.lost m + {r.next n body} := by rw [hemitted]; abel
      _ = (r.published ++ [r.next n body] : List (Entry N M)) := by
            rw [hm, ← Multiset.coe_add]; rfl

lemma Accounted.forward (h : r.Accounted) (i : ℕ) (subscribed : N → Bool) :
    (r.forward i subscribed).Accounted := by
  unfold Relay.forward
  cases hi : r.inFlight[i]? with
  | none => exact h
  | some e =>
    refine accounted_iff.mpr ⟨h.numbered, fun m => ?_⟩
    obtain ⟨hlt, hget⟩ := List.getElem?_eq_some_iff.mp hi
    have hm := (accounted_iff.mp h).2 m
    rw [pending_coe] at hm
    -- in flight is the message, and the others
    have hflight : ((r.inFlight.filter fun e => e.origin ≠ m : List (Entry N M)) :
        Multiset (Entry N M)) = (r.inFlight.eraseIdx i).filter (fun e => e.origin ≠ m) +
          (e.due m : Multiset (Entry N M)) := by
      rw [← filter_append_due]
      refine Multiset.coe_eq_coe.mpr (List.Perm.filter _ ?_)
      exact (hget ▸ (List.getElem_cons_eraseIdx_perm hlt).symm).trans
        (List.perm_append_singleton e _).symm
    rw [hflight] at hm
    rw [pending_coe]
    show (r.emitted m : Multiset (Entry N M)) +
      (((if subscribed m then r.inbox m ++ [e] else r.inbox m).filter _ : List (Entry N M)) +
        ((r.inFlight.eraseIdx i).filter _ : List (Entry N M))) +
      (r.lost m ++ if subscribed m then [] else e.due m : List (Entry N M)) = r.published
    rw [← hm]
    cases subscribed m with
    | true =>
      rw [if_pos rfl, if_pos rfl, filter_append_due, List.append_nil]
      abel
    | false =>
      rw [if_neg Bool.false_ne_true, if_neg Bool.false_ne_true, ← Multiset.coe_add]
      abel

lemma Accounted.take (h : r.Accounted) (n : N) : (r.take n).Accounted := by
  unfold Relay.take
  cases hinbox : r.inbox n with
  | nil => exact h
  | cons e rest =>
    refine accounted_iff.mpr ⟨h.numbered, fun m => ?_⟩
    have hm := (accounted_iff.mp h).2 m
    rw [pending_coe] at hm ⊢
    rw [← hm]
    by_cases hmn : m = n
    · subst hmn
      show ((Function.update r.emitted m _ m : List (Entry N M)) : Multiset (Entry N M)) +
        (((Function.update r.inbox m rest m).filter _ : List (Entry N M)) + _) + _ = _
      rw [Function.update_self, Function.update_self, hinbox, ← Multiset.coe_add,
        ← List.singleton_append, List.filter_append, Entry.filter_singleton, ← Multiset.coe_add]
      abel
    · show ((Function.update r.emitted n _ m : List (Entry N M)) : Multiset (Entry N M)) +
        (((Function.update r.inbox n rest m).filter _ : List (Entry N M)) + _) + _ = _
      rw [Function.update_of_ne hmn, Function.update_of_ne hmn]

lemma Accounted.drop (h : r.Accounted) (n : N) : (r.drop n).Accounted := by
  refine accounted_iff.mpr ⟨h.numbered, fun m => ?_⟩
  have hm := (accounted_iff.mp h).2 m
  rw [pending_coe] at hm ⊢
  by_cases hmn : m = n
  · subst hmn
    show _ + (((Function.update r.inbox m [] m).filter _ : List (Entry N M)) +
      ((r.inFlight.filter fun e => e.origin ≠ m : List (Entry N M)) : Multiset (Entry N M))) +
        ((Function.update r.lost m _ m : List (Entry N M)) : Multiset (Entry N M)) = r.published
    rw [← hm, Function.update_self, Function.update_self, ← Multiset.coe_add, List.filter_nil,
      Multiset.coe_nil]
    show (r.emitted m : Multiset (Entry N M)) + _ + _ = _
    abel
  · show _ + (((Function.update r.inbox n [] m).filter _ : List (Entry N M)) +
      ((r.inFlight.filter fun e => e.origin ≠ m : List (Entry N M)) : Multiset (Entry N M))) +
        ((Function.update r.lost n _ m : List (Entry N M)) : Multiset (Entry N M)) = r.published
    rw [← hm, Function.update_of_ne hmn, Function.update_of_ne hmn]
    rfl

end Relay

end MeeoServer
