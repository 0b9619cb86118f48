/-
# Programs in lockstep

A program is executed twice, and at each of its statements the two stores are ones that somebody
cannot tell apart.  If the program commits the same batches and ends in the same way both times,
then nobody learns from it which stores they were.

Nothing is assumed of how a store comes about: between two statements the rest of the world may do
anything, in both executions, as long as the stores stay related.  `session_lockstep` is about a
client that makes one request after the other, each by what it has seen so far.
-/
import MeeoServer.Process.Proc
import Mathlib.Data.List.Forall2

namespace MeeoServer.Proc

variable {σ κ ε α β ρ : Type}

/-- Execute a program while its statements are answered in turn: what it commits, and its result if
there are answers enough. -/
def feed : Proc σ κ ε α → List (Option σ) → List κ × Option (Except ε α)
  | done r, _ => ([], some r)
  | stmt _ _, [] => ([], none)
  | stmt c k, o :: answers =>
    let rest := (k o).feed answers
    (c.toList ++ rest.1, rest.2)

/-- Two programs make the same statements and end in the same way, on related stores. -/
def Lockstep (E : σ → σ → Prop) : Proc σ κ ε α → Proc σ κ ε α → Prop
  | done r, done r' => r = r'
  | stmt c k, stmt c' k' => c = c' ∧ Lockstep E (k none) (k' none) ∧
      ∀ s s', E s s' → Lockstep E (k (some s)) (k' (some s'))
  | _, _ => False

variable {E : σ → σ → Prop} {p p' : Proc σ κ ε α}

/-- **Programs in lockstep** commit the same and have the same result. -/
theorem Lockstep.feed_eq (h : Lockstep E p p') {answers answers' : List (Option σ)}
    (hanswers : List.Forall₂ (Option.Rel E) answers answers') :
    p.feed answers = p'.feed answers' := by
  induction p generalizing p' answers answers' with
  | done r =>
    cases p' with
    | done r' =>
      obtain rfl : r = r' := h
      rfl
    | stmt c' k' => exact h.elim
  | stmt c k ih =>
    cases p' with
    | done r' => exact h.elim
    | stmt c' k' =>
      obtain ⟨rfl, hnone, hsome⟩ := h
      cases hanswers with
      | nil => rfl
      | cons ho hrest =>
        cases ho with
        | none => simp only [feed, ih none hnone hrest]
        | some hs => simp only [feed, ih _ (hsome _ _ hs) hrest]

lemma lockstep_pure (a : α) : Lockstep E (pure a : Proc σ κ ε α) (pure a) := rfl

lemma lockstep_throw (e : ε) : Lockstep E (throw e : Proc σ κ ε α) (throw e) := rfl

lemma Lockstep.bind {f f' : α → Proc σ κ ε β} (h : Lockstep E p p')
    (hf : ∀ a, Lockstep E (f a) (f' a)) : Lockstep E (p >>= f) (p' >>= f') := by
  show Lockstep E (p.bind f) (p'.bind f')
  induction p generalizing p' with
  | done r =>
    cases p' with
    | done r' =>
      obtain rfl : r = r' := h
      cases r with
      | ok a => exact hf a
      | error e => rfl
    | stmt c' k' => exact h.elim
  | stmt c k ih =>
    cases p' with
    | done r' => exact h.elim
    | stmt c' k' =>
      obtain ⟨rfl, hnone, hsome⟩ := h
      exact ⟨rfl, ih none hnone, fun s s' hs => ih _ (hsome s s' hs)⟩

lemma Lockstep.tryCatch {f f' : ε → Proc σ κ ε α} (h : Lockstep E p p')
    (hf : ∀ e, Lockstep E (f e) (f' e)) : Lockstep E (p.tryCatch f) (p'.tryCatch f') := by
  induction p generalizing p' with
  | done r =>
    cases p' with
    | done r' =>
      obtain rfl : r = r' := h
      cases r with
      | ok a => rfl
      | error e => exact hf e
    | stmt c' k' => exact h.elim
  | stmt c k ih =>
    cases p' with
    | done r' => exact h.elim
    | stmt c' k' =>
      obtain ⟨rfl, hnone, hsome⟩ := h
      exact ⟨rfl, ih none hnone, fun s s' hs => ih _ (hsome s s' hs)⟩

lemma lockstep_attempt (c : κ) :
    Lockstep E (attempt c : Proc σ κ ε Unit) (attempt c) :=
  ⟨rfl, rfl, fun _ _ _ => rfl⟩

/-- A look at related stores. -/
lemma lockstep_read [Inhabited ε] {f f' : σ → Proc σ κ ε β}
    (hf : ∀ s s', E s s' → Lockstep E (f s) (f' s')) :
    Lockstep E (read >>= f) (read >>= f') :=
  ⟨rfl, rfl, fun s s' hs => hf s s' hs⟩

/-! ## Clients -/

/-- `n` requests, one after the other; the client asks by what it has seen. -/
def session (serve : ρ → Proc σ κ ε α) (ask : List (ρ × Except ε α) → ρ) :
    ℕ → List (ρ × Except ε α) → Proc σ κ ε (List (ρ × Except ε α))
  | 0, view => pure view
  | n + 1, view => do
    let answer ← Proc.tryCatch (Except.ok <$> serve (ask view)) fun e => pure (.error e)
    session serve ask n (view ++ [(ask view, answer)])

/-- If no request tells related stores apart, no client does. -/
theorem session_lockstep {serve : ρ → Proc σ κ ε α} (h : ∀ r, Lockstep E (serve r) (serve r))
    (ask : List (ρ × Except ε α) → ρ) (n : ℕ) (view : List (ρ × Except ε α)) :
    Lockstep E (session serve ask n view) (session serve ask n view) := by
  induction n generalizing view with
  | zero => exact lockstep_pure view
  | succ n ih =>
    refine Lockstep.bind (Lockstep.tryCatch ?_ fun e => lockstep_pure _) fun answer => ih _
    exact (h (ask view)).bind fun a => lockstep_pure _

end MeeoServer.Proc
