/-
# Sequences of calls

Calls that are served one after another, each of which has an effect on a state.  `Along` says
of every call of a sequence something that may depend on the state that it finds; `Along.after`
and `along_congr` are the rules for an invariant of that state.
-/
import Mathlib.Data.List.Basic

namespace MeeoServer.Sequences

variable {χ σ : Type} (step : χ → σ → σ)

/-- The state after a sequence of calls. -/
def after (calls : List χ) (s : σ) : σ := calls.foldl (fun s call => step call s) s

/-- Every call of the sequence satisfies `P`, in the state that the calls before it have left. -/
def Along (P : χ → σ → Prop) : List χ → σ → Prop
  | [], _ => True
  | call :: calls, s => P call s ∧ Along P calls (step call s)

instance decidableAlong {P : χ → σ → Prop} [∀ call s, Decidable (P call s)] :
    (calls : List χ) → (s : σ) → Decidable (Along step P calls s)
  | [], _ => inferInstanceAs (Decidable True)
  | call :: calls, s =>
    have : Decidable (Along step P calls (step call s)) := decidableAlong calls (step call s)
    inferInstanceAs (Decidable (_ ∧ _))

variable {step} {I : σ → Prop} {P Q : χ → σ → Prop} {calls : List χ} {s : σ}

/-- What calls of this kind preserve, holds after all of them. -/
lemma Along.after (h : Along step P calls s) (hs : I s)
    (hstep : ∀ call s, I s → P call s → I (step call s)) : I (Sequences.after step calls s) := by
  induction calls generalizing s with
  | nil => exact hs
  | cons call calls ih => exact ih h.2 (hstep call s hs h.1)

/-- What holds of every call, if the calls of this kind preserve the invariant. -/
lemma Along.imp (h : Along step P calls s) (hs : I s)
    (hstep : ∀ call s, I s → P call s → I (step call s) ∧ Q call s) : Along step Q calls s := by
  induction calls generalizing s with
  | nil => trivial
  | cons call calls ih =>
    obtain ⟨hnext, hcall⟩ := hstep call s hs h.1
    exact ⟨hcall, ih h.2 hnext⟩

/-- Two descriptions of a call, which agree wherever calls of this kind lead. -/
lemma along_congr (hs : I s) (hiff : ∀ call s, I s → (P call s ↔ Q call s))
    (hstep : ∀ call s, I s → P call s → I (step call s)) :
    Along step P calls s ↔ Along step Q calls s := by
  induction calls generalizing s with
  | nil => exact Iff.rfl
  | cons call calls ih =>
    show P call s ∧ Along step P calls _ ↔ Q call s ∧ Along step Q calls _
    rw [← hiff call s hs]
    exact and_congr_right fun hcall => ih (hstep call s hs hcall)

end MeeoServer.Sequences
