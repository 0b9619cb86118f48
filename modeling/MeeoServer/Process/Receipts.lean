/-
# Receipts

Some batches leave an entry in a log that is never cleared, and some may be committed only by a
program that has made such entries itself, and has been told so.  The entries it knows of are its
receipts.  They are not used up, and nobody can take them away; so whatever a batch needs is in the
log when it is committed, and an invariant that relies on this holds in every run.
-/
import MeeoServer.Process.Protocol

namespace MeeoServer

/-- The log of a store, with entries of type `τ`: those that a batch makes, and those that it
needs. -/
structure Receipts (σ κ τ : Type) where
  log : σ → List τ
  makes : κ → List τ
  needs : κ → List τ

namespace Receipts

variable {σ κ ε χ η τ : Type} (R : Receipts σ κ τ)

/-- A program keeps its receipts; a batch that fails, or whose answer is lost, yields none. -/
def protocol : Protocol σ κ (List τ) where
  start := []
  allow held c := R.needs c ⊆ held
  after held c o := if o.isSome then held ++ R.makes c else held

/-- The log only grows. -/
structure Lawful (apply : κ → σ → Option σ) : Prop where
  grows : ∀ {c s s'}, apply c s = some s' → R.log s ⊆ R.log s'
  made : ∀ {c s s'}, apply c s = some s' → R.makes c ⊆ R.log s'

/-- The store, and the receipts of all programs, which are in the log. -/
structure Known (P : σ → Prop) (s : σ) (held : ℕ → List τ) : Prop where
  store : P s
  logged : ∀ i, held i ⊆ R.log s

variable {R}

/-- **The rule for receipts.** -/
theorem Lawful.invariant {M : Machine σ κ ε χ η} {Allowed : χ → Prop} {Cond : σ → κ → Prop}
    (hR : R.Lawful M.apply) {P : σ → Prop}
    (hfollows : ∀ x, Allowed x → R.protocol.Follows M.apply (M.proc x) Protocol.Ends [])
    {s₀ : σ} {cfg : Config σ κ ε} (hr : M.Reachable Allowed Cond s₀ cfg) (h₀ : P s₀)
    (henv : ∀ e s, P s → P (M.environ e s) ∧ R.log s ⊆ R.log (M.environ e s))
    (hcommit : ∀ {s c s'}, R.needs c ⊆ R.log s → Cond s c → M.apply c s = some s' → P s → P s') :
    P cfg.store := by
  suffices h : ∃ held, R.Known P cfg.store held ∧ R.protocol.Obeyed M cfg.procs held by
    obtain ⟨held, hknown, -⟩ := h
    exact hknown.store
  refine Protocol.invariant hfollows hr ⟨h₀, fun _ => List.nil_subset _⟩ ?_ ?_ ?_
  · intro e s held h
    obtain ⟨hP', hgrows⟩ := henv e s h.store
    exact ⟨hP', fun i => List.Subset.trans (h.logged i) hgrows⟩
  · intro s held i c _ h
    refine ⟨h.store, fun j => ?_⟩
    show Function.update held i (held i) j ⊆ R.log s
    rw [Function.update_eq_self]
    exact h.logged j
  · intro s s' held i c o hallow hcond happ _ h
    have hgrows := hR.grows happ
    refine ⟨hcommit (List.Subset.trans hallow (h.logged i)) hcond happ h.store, fun j => ?_⟩
    show Function.update held i (if o.isSome then held i ++ R.makes c else held i) j ⊆ R.log s'
    by_cases hij : j = i
    · subst hij
      rw [Function.update_self]
      split
      · exact List.append_subset.mpr
          ⟨List.Subset.trans (h.logged j) hgrows, hR.made happ⟩
      · exact List.Subset.trans (h.logged j) hgrows
    · rw [Function.update_of_ne hij]
      exact List.Subset.trans (h.logged j) hgrows

end Receipts

end MeeoServer
