/-
# A program beside the others

What a program does cannot be told from the last store of a run alone: the others have acted in
between.  `Beside` follows one program through a run of a machine, together with a second
configuration, `absent`, which takes the same steps of the others and none of the program: it is
what the run had come to if the program had not run.

Runs may be restricted by `Terms`.  `Ends` is the weakest precondition for what holds when the
program has returned.
-/
import MeeoServer.Process.Interleaving

namespace MeeoServer

open Relation

/-- A program in the middle of a run, how many statements it has executed, the configuration of
the others, and the one they had come to without it. -/
structure Beside (σ κ ε α : Type) where
  program : Proc σ κ ε α
  executed : ℕ
  present : Config σ κ ε
  absent : Config σ κ ε

/-- A restriction on runs: how a statement of the program may end, by its number and the two
stores, and what a step of the others may do before it. -/
structure Terms (σ : Type) where
  own : ℕ → Outcome → σ → σ → Prop
  other : ℕ → σ → σ → Prop

/-- No restriction. -/
def Terms.free {σ : Type} : Terms σ := ⟨fun _ _ _ _ => True, fun _ _ _ => True⟩

namespace Beside

variable {σ κ ε χ η α β : Type} (M : Machine σ κ ε χ η) (Allowed : χ → Prop)
  [DecidablePred Allowed] (T : Terms σ)

/-- One step, until the program has returned.  An event that is not possible without the program
is left out there. -/
inductive Step : Beside σ κ ε α → Beside σ κ ε α → Prop
  | ok {c k n s s' ps w} : Proc.effect M.apply c s = some s' → T.own n .ok s w.store →
      Step ⟨.stmt c k, n, ⟨s, ps⟩, w⟩ ⟨k (some s'), n + 1, ⟨s', ps⟩, w⟩
  | failed {c k n s ps w} : T.own n .failed s w.store →
      Step ⟨.stmt c k, n, ⟨s, ps⟩, w⟩ ⟨k none, n + 1, ⟨s, ps⟩, w⟩
  | unacked {c k n s s' ps w} : Proc.effect M.apply c s = some s' → T.own n .unacked s w.store →
      Step ⟨.stmt c k, n, ⟨s, ps⟩, w⟩ ⟨k none, n + 1, ⟨s', ps⟩, w⟩
  | other {c k n cfg cfg' w} (e : Event χ η) : M.fire Allowed Free e cfg = some cfg' →
      T.other n cfg.store cfg'.store →
      Step ⟨.stmt c k, n, cfg, w⟩ ⟨.stmt c k, n, cfg', (M.fire Allowed Free e w).getD w⟩

/-- What the others do between two statements, with the program and without it. -/
inductive Others (n : ℕ) : Config σ κ ε → Config σ κ ε → Config σ κ ε → Config σ κ ε → Prop
  | refl {cfg w} : Others n cfg w cfg w
  | head {cfg w cfg₁ cfg' w'} (e : Event χ η) : M.fire Allowed Free e cfg = some cfg₁ →
      T.other n cfg.store cfg₁.store →
      Others n cfg₁ ((M.fire Allowed Free e w).getD w) cfg' w' → Others n cfg w cfg' w'

/-- `Ends M Allowed T Q p n cfg w`: from here on, whatever happens under the terms, `p` returns
with a result and configurations that satisfy `Q`. -/
def Ends (Q : Except ε α → Config σ κ ε → Config σ κ ε → Prop) :
    Proc σ κ ε α → ℕ → Config σ κ ε → Config σ κ ε → Prop
  | .done r, _, cfg, w => Q r cfg w
  | .stmt c k, n, cfg, w => ∀ cfg' w', Others M Allowed T n cfg w cfg' w' →
      (T.own n .failed cfg'.store w'.store → Ends Q (k none) (n + 1) cfg' w') ∧
        ∀ s', Proc.effect M.apply c cfg'.store = some s' →
          (T.own n .ok cfg'.store w'.store →
            Ends Q (k (some s')) (n + 1) ⟨s', cfg'.procs⟩ w') ∧
          (T.own n .unacked cfg'.store w'.store → Ends Q (k none) (n + 1) ⟨s', cfg'.procs⟩ w')

variable {M Allowed T} {n : ℕ} {cfg w cfg' w' : Config σ κ ε}

/-- The others do the same with the program and without it while it has written nothing. -/
lemma Others.agrees (h : Others M Allowed T n cfg w cfg' w') (heq : cfg = w) : cfg' = w' := by
  induction h with
  | refl => exact heq
  | head e hfire _ _ ih =>
    subst heq
    refine ih ?_
    rw [hfire]
    rfl

/-- What each step of the others leaves true is true after all of them. -/
lemma Others.keeps (h : Others M Allowed T n cfg w cfg' w') {P : σ → Prop}
    (hP : ∀ s s', T.other n s s' → P s → P s') (hs : P cfg.store) : P cfg'.store := by
  induction h with
  | refl => exact hs
  | head _ _ hother _ ih => exact ih (hP _ _ hother hs)

variable {Q : Except ε α → Config σ κ ε → Config σ κ ε → Prop} {p : Proc σ κ ε α}

lemma Ends.step {x y : Beside σ κ ε α}
    (h : Ends M Allowed T Q x.program x.executed x.present x.absent)
    (hstep : Step M Allowed T x y) :
    Ends M Allowed T Q y.program y.executed y.present y.absent := by
  cases hstep with
  | ok heffect hown => exact ((h _ _ .refl).2 _ heffect).1 hown
  | failed hown => exact (h _ _ .refl).1 hown
  | unacked heffect hown => exact ((h _ _ .refl).2 _ heffect).2 hown
  | other e hfire hother => exact fun cfg' w' hrest => h cfg' w' (.head e hfire hother hrest)

/-- **What holds when the program returns.** -/
theorem Ends.sound {x : Beside σ κ ε α} {r : Except ε α} (h : Ends M Allowed T Q p n cfg w)
    (hr : ReflTransGen (Step M Allowed T) ⟨p, n, cfg, w⟩ x) (hdone : x.program = .done r) :
    Q r x.present x.absent := by
  have hends : Ends M Allowed T Q x.program x.executed x.present x.absent := by
    clear hdone
    induction hr with
    | refl => exact h
    | tail _ hstep ih => exact ih.step hstep
  rw [hdone] at hends
  exact hends

lemma ends_throw {e : ε} (h : Q (.error e) cfg w) :
    Ends M Allowed T Q (throw e : Proc σ κ ε α) n cfg w := h

lemma ends_pure {a : α} (h : Q (.ok a) cfg w) :
    Ends M Allowed T Q (pure a : Proc σ κ ε α) n cfg w := h

section Statements

variable [Inhabited ε]

/-- A look: if it fails, the program ends with the store as it is. -/
lemma ends_read {f : σ → Proc σ κ ε α}
    (hfailed : ∀ cfg' w' o, Others M Allowed T n cfg w cfg' w' → o ≠ .ok →
      T.own n o cfg'.store w'.store → Q (.error default) cfg' w')
    (h : ∀ cfg' w', Others M Allowed T n cfg w cfg' w' → T.own n .ok cfg'.store w'.store →
      Ends M Allowed T Q (f cfg'.store) (n + 1) cfg' w') :
    Ends M Allowed T Q (Proc.read >>= f) n cfg w := by
  intro cfg' w' hothers
  refine ⟨hfailed cfg' w' .failed hothers nofun, fun s' hs' => ?_⟩
  obtain rfl : cfg'.store = s' := by simpa using hs'
  exact ⟨h cfg' w' hothers, hfailed cfg' w' .unacked hothers nofun⟩

lemma ends_commit {c : κ} {f : σ → Proc σ κ ε α}
    (hfailed : ∀ cfg' w', Others M Allowed T n cfg w cfg' w' →
      T.own n .failed cfg'.store w'.store → Q (.error default) cfg' w')
    (hunacked : ∀ cfg' w' s', Others M Allowed T n cfg w cfg' w' →
      M.apply c cfg'.store = some s' → T.own n .unacked cfg'.store w'.store →
      Q (.error default) ⟨s', cfg'.procs⟩ w')
    (h : ∀ cfg' w' s', Others M Allowed T n cfg w cfg' w' → M.apply c cfg'.store = some s' →
      T.own n .ok cfg'.store w'.store →
      Ends M Allowed T Q (f s') (n + 1) ⟨s', cfg'.procs⟩ w') :
    Ends M Allowed T Q (Proc.commit c >>= f) n cfg w := by
  intro cfg' w' hothers
  exact ⟨hfailed cfg' w' hothers, fun s' hs' =>
    ⟨h cfg' w' s' hothers hs', hunacked cfg' w' s' hothers hs'⟩⟩

end Statements

/-! ## Executing a schedule -/

/-- One step, as a scheduler would name it. -/
inductive Move (χ η : Type) where
  | own (o : Outcome)
  | other (e : Event χ η)

variable (M Allowed)

/-- Execute one move, if it is possible. -/
def fire : Move χ η → Beside σ κ ε α → Option (Beside σ κ ε α)
  | .own o, ⟨.stmt c k, n, ⟨s, ps⟩, w⟩ =>
    match o, Proc.effect M.apply c s with
    | .failed, _ => some ⟨k none, n + 1, ⟨s, ps⟩, w⟩
    | .ok, some s' => some ⟨k (some s'), n + 1, ⟨s', ps⟩, w⟩
    | .unacked, some s' => some ⟨k none, n + 1, ⟨s', ps⟩, w⟩
    | _, none => none
  | .other e, ⟨.stmt c k, n, cfg, w⟩ =>
    (M.fire Allowed Free e cfg).map fun cfg' =>
      ⟨.stmt c k, n, cfg', (M.fire Allowed Free e w).getD w⟩
  | _, _ => none

/-- Execute a schedule. -/
def exec : List (Move χ η) → Beside σ κ ε α → Option (Beside σ κ ε α)
  | [], x => some x
  | move :: moves, x => (fire M Allowed move x).bind (exec moves)

variable (T)

/-- The terms admit a move. -/
def Admits : Move χ η → Beside σ κ ε α → Prop
  | .own o, x => T.own x.executed o x.present.store x.absent.store
  | .other e, x => ∀ cfg' ∈ M.fire Allowed Free e x.present,
      T.other x.executed x.present.store cfg'.store

/-- They admit every move of a schedule. -/
def AdmitsAll : List (Move χ η) → Beside σ κ ε α → Prop
  | [], _ => True
  | move :: moves, x => Admits M Allowed T move x ∧
    match fire M Allowed move x with
    | some y => AdmitsAll moves y
    | none => True

variable {M Allowed T}

lemma step_of_fire {move : Move χ η} {x y : Beside σ κ ε α} (hadmits : Admits M Allowed T move x)
    (h : fire M Allowed move x = some y) : Step M Allowed T x y := by
  obtain ⟨p, n, ⟨s, ps⟩, w⟩ := x
  cases p with
  | done r => cases move <;> cases h
  | stmt c k =>
    cases move with
    | own o =>
      simp only [fire] at h
      split at h
      · obtain rfl := Option.some.inj h
        exact .failed hadmits
      · rename_i heffect
        obtain rfl := Option.some.inj h
        exact .ok heffect hadmits
      · rename_i heffect
        obtain rfl := Option.some.inj h
        exact .unacked heffect hadmits
      · cases h
    | other e =>
      obtain ⟨cfg', hfire, rfl⟩ := Option.map_eq_some_iff.mp h
      exact .other e hfire (hadmits cfg' hfire)

/-- What a schedule leads to is reachable. -/
lemma steps_of_exec (moves : List (Move χ η)) {x y : Beside σ κ ε α}
    (hadmits : AdmitsAll M Allowed T moves x) (h : exec M Allowed moves x = some y) :
    ReflTransGen (Step M Allowed T) x y := by
  induction moves generalizing x with
  | nil =>
    obtain rfl : x = y := Option.some.inj h
    exact .refl
  | cons move moves ih =>
    obtain ⟨mid, hmid, hrest⟩ := Option.bind_eq_some_iff.mp h
    obtain ⟨hmove, hmoves⟩ := hadmits
    rw [hmid] at hmoves
    exact .head (step_of_fire hmove hmid) (ih hmoves hrest)

/-- Without terms every schedule is admitted. -/
lemma admitsAll_free (moves : List (Move χ η)) (x : Beside σ κ ε α) :
    AdmitsAll M Allowed .free moves x := by
  induction moves generalizing x with
  | nil => trivial
  | cons move moves ih =>
    refine ⟨?_, ?_⟩
    · cases move with
      | own o => trivial
      | other e => exact fun _ _ => trivial
    · split
      · exact ih _
      · trivial

end Beside

end MeeoServer
