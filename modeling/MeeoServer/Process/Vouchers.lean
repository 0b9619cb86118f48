/-
# Vouchers

Some batches issue vouchers, and some spend them.  Two vouchers may look alike, so what counts is
how many there are of each kind.  A program that spends only what it was given itself, and forgets
it then, keeps the balance: never has more been spent than was issued, whatever the programs do at
the same time and wherever their answers are lost.
-/
import MeeoServer.Process.Protocol
import Mathlib.Algebra.BigOperators.Group.Finset.Piecewise
import Mathlib.Algebra.Order.BigOperators.Group.Finset
import Mathlib.Algebra.Order.Group.Multiset
import Mathlib.Data.Multiset.AddSub

namespace MeeoServer

/-- What a store says of the vouchers of type `τ`, and what the batches do with them. -/
structure Vouchers (σ κ τ : Type) where
  issued : σ → Multiset τ
  spent : σ → Multiset τ
  issues : κ → Multiset τ
  spends : κ → Multiset τ

namespace Vouchers

variable {σ κ ε χ η τ : Type} {held : ℕ → Multiset τ} {i : ℕ}

/-- The others hold what they held. -/
lemma sum_update_of_notMem {J : Finset ℕ} (hi : i ∉ J) (kept : Multiset τ) :
    ∑ j ∈ J, Function.update held i kept j = ∑ j ∈ J, held j := by
  refine Finset.sum_congr rfl fun j hj => ?_
  rw [Function.update_of_ne]
  rintro rfl
  exact hi hj

variable (V : Vouchers σ κ τ)

/-- What the commands do with the vouchers. -/
structure Lawful (apply : κ → σ → Option σ) : Prop where
  issued : ∀ {c s s'}, apply c s = some s' → V.issued s' = V.issued s + V.issues c
  spent : ∀ {c s s'}, apply c s = some s' → V.spent s' = V.spent s + V.spends c

/-- What is spent, and what any of the programs hold, is issued. -/
def Backed (s : σ) (held : ℕ → Multiset τ) : Prop :=
  ∀ J : Finset ℕ, V.spent s + ∑ j ∈ J, held j ≤ V.issued s

variable {V} {s : σ}

/-- It is enough to look at the programs `i` and any others. -/
lemma backed_of_insert
    (h : ∀ J : Finset ℕ, i ∉ J → V.spent s + (held i + ∑ j ∈ J, held j) ≤ V.issued s) :
    V.Backed s held := by
  intro J
  have hi := h (J.erase i) (Finset.notMem_erase i J)
  rw [← Finset.sum_insert (Finset.notMem_erase i J)] at hi
  refine le_trans (add_le_add_right (Finset.sum_le_sum_of_subset ?_) _) hi
  exact Finset.subset_insert_iff.mpr (Finset.Subset.refl _)

lemma Backed.split (h : V.Backed s held) {J : Finset ℕ} (hi : i ∉ J) :
    V.spent s + (held i + ∑ j ∈ J, held j) ≤ V.issued s := by
  rw [← Finset.sum_insert hi]
  exact h (insert i J)

variable [DecidableEq τ]

variable (V) in
/-- A program holds the vouchers that it was given and has not spent. -/
def protocol : Protocol σ κ (Multiset τ) where
  start := 0
  allow held c := V.spends c ≤ held
  after held c o := held - V.spends c + if o.isSome then V.issues c else 0

variable {s' : σ} {c : κ} {o : Option σ}

/-- A batch that fails spends nothing, but the program may have forgotten its vouchers. -/
lemma Backed.failed (h : V.Backed s held) :
    V.Backed s (Function.update held i (V.protocol.after (held i) c none)) := by
  refine backed_of_insert (i := i) fun J hi => ?_
  rw [Function.update_self, sum_update_of_notMem hi]
  have hkept : V.protocol.after (held i) c none ≤ held i := by
    show held i - V.spends c + 0 ≤ held i
    rw [add_zero]
    exact Multiset.sub_le_self (held i) (V.spends c)
  exact le_trans (add_le_add_right (add_le_add_left hkept _) _) (h.split hi)

/-- A batch that is applied, whether its answer arrives or not. -/
lemma Backed.commit {apply : κ → σ → Option σ} (hV : V.Lawful apply) (h : V.Backed s held)
    (hallow : V.protocol.allow (held i) c) (happ : apply c s = some s') :
    V.Backed s' (Function.update held i (V.protocol.after (held i) c o)) := by
  refine backed_of_insert (i := i) fun J hi => ?_
  rw [Function.update_self, sum_update_of_notMem hi, hV.spent happ, hV.issued happ]
  have hgiven : (if o.isSome then V.issues c else 0) ≤ V.issues c := by
    split
    · exact le_refl _
    · exact Multiset.zero_le _
  have hheld : V.spends c + (held i - V.spends c) = held i := add_tsub_cancel_of_le hallow
  calc V.spent s + V.spends c + (held i - V.spends c + (if o.isSome then V.issues c else 0) +
        ∑ j ∈ J, held j)
      = V.spent s + (V.spends c + (held i - V.spends c) + ∑ j ∈ J, held j) +
        (if o.isSome then V.issues c else 0) := by ac_rfl
    _ = V.spent s + (held i + ∑ j ∈ J, held j) + (if o.isSome then V.issues c else 0) := by
      rw [hheld]
    _ ≤ V.issued s + V.issues c := add_le_add (h.split hi) hgiven

/-- **What is spent was issued**, if every program keeps to the protocol. -/
theorem Lawful.spent_le {M : Machine σ κ ε χ η} {Allowed : χ → Prop} {Cond : σ → κ → Prop}
    (hV : V.Lawful M.apply)
    (hfollows : ∀ x, Allowed x → V.protocol.Follows M.apply (M.proc x) Protocol.Ends 0)
    (henv : ∀ e s, V.issued (M.environ e s) = V.issued s ∧ V.spent (M.environ e s) = V.spent s)
    {s₀ : σ} {cfg : Config σ κ ε} (h₀ : V.spent s₀ ≤ V.issued s₀)
    (hr : M.Reachable Allowed Cond s₀ cfg) : V.spent cfg.store ≤ V.issued cfg.store := by
  suffices h : ∃ held, V.Backed cfg.store held ∧ V.protocol.Obeyed M cfg.procs held by
    obtain ⟨held, hbacked, -⟩ := h
    simpa using hbacked ∅
  refine Protocol.invariant hfollows hr ?_ ?_ ?_ ?_
  · intro J
    show V.spent s₀ + ∑ _ ∈ J, (0 : Multiset τ) ≤ V.issued s₀
    rwa [Finset.sum_const_zero, add_zero]
  · intro e s held h J
    obtain ⟨hissued, hspent⟩ := henv e s
    rw [hissued, hspent]
    exact h J
  · exact fun s held i c _ h => h.failed
  · exact fun s s' held i c o hallow _ happ _ h => h.commit hV hallow happ

end Vouchers

end MeeoServer
