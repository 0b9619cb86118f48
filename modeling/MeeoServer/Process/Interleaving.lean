/-
# Interleaved runs

A server runs any number of calls at once.  A configuration is the store together with the
programs of the calls that have been accepted so far; a step accepts a call, lets the
environment act, or executes the next statement of one program.  `Reachable` collects the
configurations of all runs, in every order of the steps and with every pattern of failing
statements.

A run may be *conditional*: `Cond s c` is demanded of every batch `c` that is committed on a
store `s`.  `Rely.step_cases` is the rule the invariants of this development are derived
from: it turns a step of a reachable configuration into one commit of one call, with all that
the call still knows about the store.
-/
import MeeoServer.Process.Proc
import Mathlib.Logic.Relation

namespace MeeoServer

open Relation

/-- A server: the effect of a batch on the store, the program of each call, and what the
environment does by itself. -/
structure Machine (σ κ ε χ η : Type) where
  /-- Apply a batch; `none` if a constraint of the store rejects it. -/
  apply : κ → σ → Option σ
  /-- The program that serves a call. -/
  proc : χ → Proc σ κ ε Unit
  /-- An action of the environment. -/
  environ : η → σ → σ

/-- The store and the programs of all calls accepted so far. -/
structure Config (σ κ ε : Type) where
  store : σ
  procs : List (Proc σ κ ε Unit)

/-- How a statement ends: it succeeds, it fails without effect, or it takes effect but its
answer is lost. -/
inductive Outcome where
  | ok
  | failed
  | unacked

/-- One step of a server, as a scheduler would name it. -/
inductive Event (χ η : Type) where
  | call (x : χ)
  | env (e : η)
  | step (i : ℕ) (o : Outcome)

/-- The condition that every batch satisfies. -/
def Free {σ κ : Type} : σ → κ → Prop := fun _ _ => True

instance {σ κ : Type} (s : σ) (c : κ) : Decidable (Free s c) := .isTrue trivial

namespace Machine

variable {σ κ ε χ η : Type} (M : Machine σ κ ε χ η) (Allowed : χ → Prop) (Cond : σ → κ → Prop)

/-- The steps of the server that accepts the calls in `Allowed`, restricted to commits that
meet `Cond`. -/
inductive Step : Config σ κ ε → Config σ κ ε → Prop
  | call {s ps} (x : χ) : Allowed x → Step ⟨s, ps⟩ ⟨s, ps ++ [M.proc x]⟩
  | env {s ps} (e : η) : Step ⟨s, ps⟩ ⟨M.environ e s, ps⟩
  | ok {s s' ps i c k} : ps[i]? = some (.stmt c k) → Proc.effect M.apply c s = some s' →
      (∀ b, c = some b → Cond s b) → Step ⟨s, ps⟩ ⟨s', ps.set i (k (some s'))⟩
  | failed {s ps i c k} : ps[i]? = some (.stmt c k) → Step ⟨s, ps⟩ ⟨s, ps.set i (k none)⟩
  | unacked {s s' ps i c k} : ps[i]? = some (.stmt c k) → Proc.effect M.apply c s = some s' →
      (∀ b, c = some b → Cond s b) → Step ⟨s, ps⟩ ⟨s', ps.set i (k none)⟩

/-- The configurations of the runs that start on the store `s₀` with no call in progress. -/
def Reachable (s₀ : σ) : Config σ κ ε → Prop :=
  ReflTransGen (M.Step Allowed Cond) ⟨s₀, []⟩

variable {M Allowed Cond}

lemma Reachable.refl (s₀ : σ) : M.Reachable Allowed Cond s₀ ⟨s₀, []⟩ := ReflTransGen.refl

/-! ## Executing a schedule -/

variable (M Allowed Cond) [DecidablePred Allowed] [∀ s c, Decidable (Cond s c)]

/-- Execute one event, if the configuration permits it. -/
def fire : Event χ η → Config σ κ ε → Option (Config σ κ ε)
  | .call x, ⟨s, ps⟩ => if Allowed x then some ⟨s, ps ++ [M.proc x]⟩ else none
  | .env e, ⟨s, ps⟩ => some ⟨M.environ e s, ps⟩
  | .step i o, ⟨s, ps⟩ =>
    match ps[i]? with
    | some (.stmt c k) =>
      match o with
      | .failed => some ⟨s, ps.set i (k none)⟩
      | .ok =>
        match Proc.effect M.apply c s with
        | some s' => if ∀ b ∈ c, Cond s b then some ⟨s', ps.set i (k (some s'))⟩ else none
        | none => none
      | .unacked =>
        match Proc.effect M.apply c s with
        | some s' => if ∀ b ∈ c, Cond s b then some ⟨s', ps.set i (k none)⟩ else none
        | none => none
    | _ => none

/-- Execute a schedule. -/
def exec : List (Event χ η) → Config σ κ ε → Option (Config σ κ ε)
  | [], cfg => some cfg
  | e :: es, cfg => (M.fire Allowed Cond e cfg).bind (exec es)

variable {M Allowed Cond}

lemma step_of_fire {e : Event χ η} {cfg cfg' : Config σ κ ε}
    (h : M.fire Allowed Cond e cfg = some cfg') : M.Step Allowed Cond cfg cfg' := by
  obtain ⟨s, ps⟩ := cfg
  cases e with
  | call x =>
    simp only [fire, Option.ite_none_right_eq_some, Option.some.injEq] at h
    obtain ⟨hx, rfl⟩ := h
    exact .call x hx
  | env e =>
    obtain rfl : _ = cfg' := by simpa [fire] using h
    exact .env e
  | step i o =>
    simp only [fire] at h
    split at h
    · rename_i c k hi
      -- the three ways in which a statement ends
      cases o with
      | failed =>
        obtain rfl : _ = cfg' := by simpa using h
        exact .failed hi
      | ok =>
        simp only at h
        split at h
        · rename_i s' hs'
          simp only [Option.ite_none_right_eq_some, Option.some.injEq] at h
          obtain ⟨hc, rfl⟩ := h
          exact .ok hi hs' hc
        · simp at h
      | unacked =>
        simp only at h
        split at h
        · rename_i s' hs'
          simp only [Option.ite_none_right_eq_some, Option.some.injEq] at h
          obtain ⟨hc, rfl⟩ := h
          exact .unacked hi hs' hc
        · simp at h
    · simp at h

lemma steps_of_exec {es : List (Event χ η)} {cfg cfg' : Config σ κ ε}
    (h : M.exec Allowed Cond es cfg = some cfg') :
    ReflTransGen (M.Step Allowed Cond) cfg cfg' := by
  induction es generalizing cfg with
  | nil =>
    obtain rfl : cfg = cfg' := by simpa [exec] using h
    exact ReflTransGen.refl
  | cons e es ih =>
    simp only [exec, Option.bind_eq_some_iff] at h
    obtain ⟨mid, he, hes⟩ := h
    exact ReflTransGen.head (step_of_fire he) (ih hes)

variable (M Allowed Cond)

/-- What a schedule leads to is reachable: a value of its final store, found by evaluation, is
a value of a reachable store. -/
lemma exists_reachable_of_exec {α : Type} (es : List (Event χ η)) (s₀ : σ) (f : σ → α) (a : α)
    (h : (M.exec Allowed Cond es ⟨s₀, []⟩).map (fun cfg => f cfg.store) = some a) :
    ∃ cfg, M.Reachable Allowed Cond s₀ cfg ∧ f cfg.store = a := by
  obtain ⟨cfg, hcfg, hf⟩ := Option.map_eq_some_iff.mp h
  exact ⟨cfg, steps_of_exec hcfg, hf⟩

/-- The same for a schedule and a later one. -/
lemma exists_later_of_exec {α : Type} (es es' : List (Event χ η)) (s₀ : σ) (f : σ → α) (a a' : α)
    (h : (M.exec Allowed Cond es ⟨s₀, []⟩).bind (fun cfg =>
      (M.exec Allowed Cond es' cfg).map fun cfg' => (f cfg.store, f cfg'.store)) =
        some (a, a')) :
    ∃ cfg cfg', M.Reachable Allowed Cond s₀ cfg ∧
      ReflTransGen (M.Step Allowed Cond) cfg cfg' ∧ f cfg.store = a ∧ f cfg'.store = a' := by
  obtain ⟨cfg, hcfg, hlater⟩ := Option.bind_eq_some_iff.mp h
  obtain ⟨cfg', hcfg', hf⟩ := Option.map_eq_some_iff.mp hlater
  obtain ⟨hf, hf'⟩ := Prod.ext_iff.mp hf
  exact ⟨cfg, cfg', steps_of_exec hcfg, steps_of_exec hcfg', hf, hf'⟩

end Machine

/-! ## Invariants of interleaved runs -/

/-- What makes the calls in `Allowed` composable: every commit of every call, and every action
of the environment, changes the store within `R`; and while the others do so, the call `x`
commits only batches in `Spec x`. -/
structure Rely {σ κ ε χ η : Type} (M : Machine σ κ ε χ η) (Allowed : χ → Prop)
    (Cond : σ → κ → Prop) (R : σ → σ → Prop) (Spec : χ → σ → κ → Prop) : Prop where
  refl : ∀ s, R s s
  trans : ∀ {s t u}, R s t → R t u → R s u
  env : ∀ e s, R s (M.environ e s)
  commit : ∀ {x s c s'}, Allowed x → Spec x s c → Cond s c → M.apply c s = some s' → R s s'
  emits : ∀ x s, Allowed x → (M.proc x).Emits M.apply R R (Spec x) Proc.Any s

namespace Rely

open Machine

variable {σ κ ε χ η : Type} {M : Machine σ κ ε χ η} {Allowed : χ → Prop} {Cond : σ → κ → Prop}
  {R : σ → σ → Prop} {Spec : χ → σ → κ → Prop} {s₀ : σ} {cfg cfg' : Config σ κ ε}

/-- Whatever the calls commit: an invariant that every batch preserves needs no more. -/
lemma of_any (M : Machine σ κ ε χ η) (Allowed : χ → Prop) (Cond : σ → κ → Prop) :
    Rely M Allowed Cond (fun _ _ => True) fun _ _ _ => True where
  refl _ := trivial
  trans _ _ := trivial
  env _ _ := trivial
  commit _ _ _ _ := trivial
  emits x s _ := Proc.emits_any (M.proc x) s

/-- The rest of the program of an allowed call, started at some store from which the present
one has developed within `R`. -/
def Pending (M : Machine σ κ ε χ η) (Allowed : χ → Prop) (R : σ → σ → Prop)
    (Spec : χ → σ → κ → Prop) (s : σ) (p : Proc σ κ ε Unit) : Prop :=
  ∃ x s₁, Allowed x ∧ R s₁ s ∧ p.Emits M.apply R R (Spec x) Proc.Any s₁

lemma Pending.rely (h : Rely M Allowed Cond R Spec) {s s' : σ} {p : Proc σ κ ε Unit}
    (hp : Pending M Allowed R Spec s p) (hs : R s s') : Pending M Allowed R Spec s' p := by
  obtain ⟨x, s₁, hx, h₁, hemits⟩ := hp
  exact ⟨x, s₁, hx, h.trans h₁ hs, hemits⟩

/-- The next statement of a pending program: what it commits is in `Spec`, and the rest of
the program is pending again. -/
lemma Pending.next (h : Rely M Allowed Cond R Spec) {s : σ} {c : Option κ}
    {k : Option σ → Proc σ κ ε Unit} (hp : Pending M Allowed R Spec s (.stmt c k)) :
    Pending M Allowed R Spec s (k none) ∧
      ∀ s', Proc.effect M.apply c s = some s' → (∀ b, c = some b → Cond s b) →
        (c = none ∧ s' = s ∨ ∃ x b, Allowed x ∧ Spec x s b ∧ Cond s b ∧ M.apply b s = some s') ∧
        R s s' ∧ Pending M Allowed R Spec s' (k (some s')) ∧
        Pending M Allowed R Spec s' (k none) := by
  obtain ⟨x, s₁, hx, h₁, hemits⟩ := hp
  obtain ⟨hspec, hnone, hsome⟩ := hemits s h₁
  refine ⟨⟨x, s, hx, h.refl s, hnone⟩, fun s' hs' hc => ?_⟩
  cases c with
  | none =>
    obtain rfl : s = s' := by simpa using hs'
    have hk := hsome s hs' (Or.inl rfl)
    exact ⟨Or.inl ⟨rfl, rfl⟩, h.refl s, ⟨x, s, hx, h.refl s, hk.1⟩, ⟨x, s, hx, h.refl s, hk.2⟩⟩
  | some b =>
    have hR : R s s' := h.commit hx (hspec b rfl) (hc b rfl) hs'
    have hk := hsome s' hs' (Or.inr hR)
    exact ⟨Or.inr ⟨x, b, hx, hspec b rfl, hc b rfl, hs'⟩, hR,
      ⟨x, s', hx, h.refl s', hk.1⟩, ⟨x, s', hx, h.refl s', hk.2⟩⟩

/-- One step, seen from the store, and the programs it leaves. -/
lemma step_pending (h : Rely M Allowed Cond R Spec)
    (hp : ∀ p ∈ cfg.procs, Pending M Allowed R Spec cfg.store p)
    (hs : M.Step Allowed Cond cfg cfg') :
    (cfg'.store = cfg.store ∨ (∃ e, cfg'.store = M.environ e cfg.store) ∨
      ∃ x b, Allowed x ∧ Spec x cfg.store b ∧ Cond cfg.store b ∧
        M.apply b cfg.store = some cfg'.store) ∧
      ∀ p ∈ cfg'.procs, Pending M Allowed R Spec cfg'.store p := by
  cases hs with
  | @call s ps x hx =>
    refine ⟨Or.inl rfl, fun p hmem => ?_⟩
    rcases List.mem_append.mp hmem with hmem | hmem
    · exact hp p hmem
    · obtain rfl := List.mem_singleton.mp hmem
      exact ⟨x, s, hx, h.refl s, h.emits x s hx⟩
  | @env s ps e =>
    exact ⟨Or.inr (Or.inl ⟨e, rfl⟩), fun p hmem => (hp p hmem).rely h (h.env e s)⟩
  | @ok s s' ps i c k hi hs' hc =>
    -- the step was emitted from the state it was read in, and this is a later one
    have hnext := (hp _ (List.mem_of_getElem? hi)).next h
    obtain ⟨hcase, hR, hk, -⟩ := hnext.2 s' hs' hc
    refine ⟨?_, fun p hmem => ?_⟩
    · rcases hcase with ⟨-, rfl⟩ | hcommit
      · exact Or.inl rfl
      · exact Or.inr (Or.inr hcommit)
    · rcases List.mem_or_eq_of_mem_set hmem with hmem | rfl
      · exact (hp p hmem).rely h hR
      · exact hk
  | @failed s ps i c k hi =>
    refine ⟨Or.inl rfl, fun p hmem => ?_⟩
    rcases List.mem_or_eq_of_mem_set hmem with hmem | rfl
    · exact hp p hmem
    · exact ((hp _ (List.mem_of_getElem? hi)).next h).1
  | @unacked s s' ps i c k hi hs' hc =>
    have hnext := (hp _ (List.mem_of_getElem? hi)).next h
    obtain ⟨hcase, hR, -, hk⟩ := hnext.2 s' hs' hc
    refine ⟨?_, fun p hmem => ?_⟩
    · rcases hcase with ⟨-, rfl⟩ | hcommit
      · exact Or.inl rfl
      · exact Or.inr (Or.inr hcommit)
    · rcases List.mem_or_eq_of_mem_set hmem with hmem | rfl
      · exact (hp p hmem).rely h hR
      · exact hk

lemma pending (h : Rely M Allowed Cond R Spec) (hr : M.Reachable Allowed Cond s₀ cfg) :
    ∀ p ∈ cfg.procs, Pending M Allowed R Spec cfg.store p := by
  induction hr with
  | refl => simp
  | tail _ hstep ih => exact (h.step_pending ih hstep).2

/-- **A step of a reachable configuration.**  It leaves the store alone, or it is an action of
the environment, or it commits one batch that an allowed call emits. -/
theorem step_cases (h : Rely M Allowed Cond R Spec) (hr : M.Reachable Allowed Cond s₀ cfg)
    (hs : M.Step Allowed Cond cfg cfg') :
    cfg'.store = cfg.store ∨ (∃ e, cfg'.store = M.environ e cfg.store) ∨
      ∃ x c, Allowed x ∧ Spec x cfg.store c ∧ Cond cfg.store c ∧
        M.apply c cfg.store = some cfg'.store :=
  (h.step_pending (h.pending hr) hs).1

/-- What the environment and every commit preserve is preserved from any reachable
configuration on. -/
theorem preserved (h : Rely M Allowed Cond R Spec) {P : σ → Prop}
    (hr : M.Reachable Allowed Cond s₀ cfg) (hs : ReflTransGen (M.Step Allowed Cond) cfg cfg')
    (h₀ : P cfg.store) (henv : ∀ e s, P s → P (M.environ e s))
    (hcommit : ∀ {x s c s'}, Allowed x → Spec x s c → Cond s c → M.apply c s = some s' →
      P s → P s') :
    P cfg'.store := by
  induction hs with
  | refl => exact h₀
  | @tail cfg₁ cfg₂ hsteps hstep ih =>
    rcases h.step_cases (ReflTransGen.trans hr hsteps) hstep with
      heq | ⟨e, heq⟩ | ⟨x, c, hx, hspec, hc, happ⟩
    · rw [heq]; exact ih
    · rw [heq]; exact henv e _ ih
    · exact hcommit hx hspec hc happ ih

/-- **The invariant rule.**  What the environment and every commit preserve holds of the store
of every reachable configuration. -/
theorem invariant (h : Rely M Allowed Cond R Spec) {P : σ → Prop}
    (hr : M.Reachable Allowed Cond s₀ cfg) (h₀ : P s₀)
    (henv : ∀ e s, P s → P (M.environ e s))
    (hcommit : ∀ {x s c s'}, Allowed x → Spec x s c → Cond s c → M.apply c s = some s' →
      P s → P s') :
    P cfg.store :=
  h.preserved (Reachable.refl s₀) hr h₀ henv hcommit

end Rely

end MeeoServer
