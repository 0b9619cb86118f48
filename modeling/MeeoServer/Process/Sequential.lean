/-
# Sequential runs

The runs in which the calls are served one after another: each program runs to its end before
the next call is accepted.  Statements may still fail, so a call can stop at every one of its
crash points.  Nothing changes the store between two statements of a program, so what a call
has read is still true when it commits; `Solo` is the form `Rely` takes for such runs.
-/
import MeeoServer.Process.Interleaving

namespace MeeoServer

open Relation

namespace Proc

variable {σ κ ε α : Type} (apply : κ → σ → Option σ) (Cond : σ → κ → Prop)

/-- `p.Runs s t`: run alone on the store `s`, with some pattern of failing statements, `p`
ends and leaves the store `t`. -/
inductive Runs : Proc σ κ ε α → σ → σ → Prop
  | done {r s} : Runs (.done r) s s
  | ok {c k s s' t} : effect apply c s = some s' → (∀ b, c = some b → Cond s b) →
      Runs (k (some s')) s' t → Runs (.stmt c k) s t
  | failed {c k s t} : Runs (k none) s t → Runs (.stmt c k) s t
  | unacked {c k s s' t} : effect apply c s = some s' → (∀ b, c = some b → Cond s b) →
      Runs (k none) s' t → Runs (.stmt c k) s t

/-- Run a program alone, failing only where the store rejects a batch. -/
def runAlone [∀ s c, Decidable (Cond s c)] : Proc σ κ ε α → σ → Option σ
  | .done _, s => some s
  | .stmt c k, s =>
    match effect apply c s with
    | some s' => if ∀ b ∈ c, Cond s b then (k (some s')).runAlone s' else none
    | none => (k none).runAlone s

variable {apply Cond}

lemma runs_of_runAlone [∀ s c, Decidable (Cond s c)] {p : Proc σ κ ε α} {s t : σ}
    (h : p.runAlone apply Cond s = some t) : p.Runs apply Cond s t := by
  induction p generalizing s with
  | done r =>
    obtain rfl : s = t := by simpa [runAlone] using h
    exact .done
  | stmt c k ih =>
    simp only [runAlone] at h
    split at h
    · rename_i s' hs'
      simp only [Option.ite_none_right_eq_some] at h
      exact .ok hs' h.1 (ih _ h.2)
    · exact .failed (ih _ h)

section RunAlone

variable [Inhabited ε] [∀ s c, Decidable (Cond s c)] {f : σ → Proc σ κ ε α} {c : κ} {s : σ}

lemma runAlone_read : (read >>= f).runAlone apply Cond s = (f s).runAlone apply Cond s := by
  show (if ∀ b ∈ (none : Option κ), Cond s b then (f s).runAlone apply Cond s else none) = _
  rw [if_pos (by simp)]

/-- A batch that the store accepts, and that meets the condition. -/
lemma runAlone_commit {s' : σ} (h : apply c s = some s') (hc : Cond s c) :
    (commit c >>= f).runAlone apply Cond s = (f s').runAlone apply Cond s' := by
  show Proc.runAlone apply Cond (.stmt (some c) _) s = _
  simp only [runAlone, effect_some, h]
  rw [if_pos (by simpa using hc)]
  rfl

end RunAlone

end Proc

namespace Machine

variable {σ κ ε χ η : Type} (M : Machine σ κ ε χ η) (Allowed : χ → Prop) (Cond : σ → κ → Prop)

/-- A whole call, or one action of the environment. -/
inductive SeqStep : σ → σ → Prop
  | call {s t} (x : χ) : Allowed x → (M.proc x).Runs M.apply Cond s t → SeqStep s t
  | env {s} (e : η) : SeqStep s (M.environ e s)

/-- The stores of the sequential runs from `s₀`. -/
def SeqReachable (s₀ : σ) : σ → Prop := ReflTransGen (M.SeqStep Allowed Cond) s₀

/-- Execute a sequence of calls (`Sum.inl`) and environment actions (`Sum.inr`). -/
def execSeq [DecidablePred Allowed] [∀ s c, Decidable (Cond s c)] :
    List (χ ⊕ η) → σ → Option σ
  | [], s => some s
  | .inl x :: es, s =>
    if Allowed x then ((M.proc x).runAlone M.apply Cond s).bind (execSeq es) else none
  | .inr e :: es, s => execSeq es (M.environ e s)

variable {M Allowed Cond}

lemma seqReachable_of_execSeq [DecidablePred Allowed] [∀ s c, Decidable (Cond s c)]
    {es : List (χ ⊕ η)} {s t : σ} (h : M.execSeq Allowed Cond es s = some t) :
    M.SeqReachable Allowed Cond s t := by
  induction es generalizing s with
  | nil =>
    obtain rfl : s = t := by simpa [execSeq] using h
    exact ReflTransGen.refl
  | cons e es ih =>
    cases e with
    | inl x =>
      simp only [execSeq, Option.ite_none_right_eq_some, Option.bind_eq_some_iff] at h
      obtain ⟨hx, u, hu, hes⟩ := h
      exact ReflTransGen.head (.call x hx (Proc.runs_of_runAlone hu)) (ih hes)
    | inr e => exact ReflTransGen.head (.env e) (ih h)

variable (M Allowed Cond) in
lemma exists_seqReachable_of_execSeq [DecidablePred Allowed] [∀ s c, Decidable (Cond s c)]
    {α : Type} (es : List (χ ⊕ η)) (s₀ : σ) (f : σ → α) (a : α)
    (h : (M.execSeq Allowed Cond es s₀).map f = some a) :
    ∃ s, M.SeqReachable Allowed Cond s₀ s ∧ f s = a := by
  obtain ⟨s, hs, hf⟩ := Option.map_eq_some_iff.mp h
  exact ⟨s, seqReachable_of_execSeq hs, hf⟩

end Machine

/-- The calls in `Allowed`, each run alone: the call `x` commits only batches in `Spec x`.
Nobody else runs, but what a call has read may be told to the commit only up to `I`, so that a
call may write between a read and the commit that uses it. -/
structure Solo {σ κ ε χ η : Type} (M : Machine σ κ ε χ η) (Allowed : χ → Prop)
    (I : σ → σ → Prop) (Spec : χ → σ → κ → Prop) : Prop where
  refl : ∀ s, I s s
  emits : ∀ x s, Allowed x →
    (M.proc x).Emits M.apply I (fun _ _ => True) (Spec x) Proc.Any s

namespace Solo

open Machine

variable {σ κ ε χ η : Type} {M : Machine σ κ ε χ η} {Allowed : χ → Prop} {Cond : σ → κ → Prop}
  {I : σ → σ → Prop} {Spec : χ → σ → κ → Prop}

/-- What every commit of a program preserves is preserved by the whole program. -/
lemma runs_preserves (h : Solo M Allowed I Spec) {x : χ} {P : σ → Prop}
    {p : Proc σ κ ε Unit} {s t : σ} (hr : p.Runs M.apply Cond s t)
    (he : p.Emits M.apply I (fun _ _ => True) (Spec x) Proc.Any s)
    (hcommit : ∀ {s c s'}, Spec x s c → Cond s c → M.apply c s = some s' → P s → P s')
    (h₀ : P s) : P t := by
  have step : ∀ {c : Option κ} {s s' : σ}, Proc.effect M.apply c s = some s' →
      (∀ b, c = some b → Cond s b) → (∀ b, c = some b → Spec x s b) → P s → P s' := by
    intro c s s' hs' hc hspec hs
    cases c with
    | none =>
      obtain rfl : s = s' := by simpa using hs'
      exact hs
    | some b => exact hcommit (hspec b rfl) (hc b rfl) hs' hs
  induction hr with
  | done => exact h₀
  | ok hs' hc _ ih =>
    obtain ⟨hspec, -, hsome⟩ := he _ (h.refl _)
    exact ih (hsome _ hs' (Or.inr trivial)).1 (step hs' hc hspec h₀)
  | failed _ ih => exact ih (he _ (h.refl _)).2.1 h₀
  | unacked hs' hc _ ih =>
    obtain ⟨hspec, -, hsome⟩ := he _ (h.refl _)
    exact ih (hsome _ hs' (Or.inr trivial)).2 (step hs' hc hspec h₀)

/-- **The invariant rule for sequential runs.** -/
theorem invariant (h : Solo M Allowed I Spec) {P : σ → Prop} {s₀ s : σ}
    (hr : M.SeqReachable Allowed Cond s₀ s) (h₀ : P s₀)
    (henv : ∀ e s, P s → P (M.environ e s))
    (hcommit : ∀ {x s c s'}, Allowed x → Spec x s c → Cond s c → M.apply c s = some s' →
      P s → P s') :
    P s := by
  induction hr with
  | refl => exact h₀
  | tail _ hstep ih =>
    cases hstep with
    | call x hx hruns => exact h.runs_preserves hruns (h.emits x _ hx) (hcommit hx) ih
    | env e => exact henv e _ ih

end Solo

end MeeoServer
