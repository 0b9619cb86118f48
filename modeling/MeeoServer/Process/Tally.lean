/-
# Tallies

Some calls are accepted, their programs are interleaved, and all of them return.  If every commit
adds to a total, and a program that returns has added the same whichever way it went, then the
total has grown by what the calls add, in every order of their statements.
-/
import MeeoServer.Process.Interleaving
import Mathlib.Algebra.BigOperators.Group.List.Basic

namespace MeeoServer

open Relation

namespace Proc

variable {σ κ ε α β A : Type} [AddCommMonoid A] (w : κ → A)

/-- If `p` returns, its commits have added `a`.  A statement that fails ends `p`. -/
def Adds : Proc σ κ ε α → A → Prop
  | done (.ok _), a => a = 0
  | done (.error _), _ => True
  | stmt c k, a => (∃ e, k none = done (.error e)) ∧
      ∃ b, c.elim 0 w + b = a ∧ ∀ s, (k (some s)).Adds b

/-- `p` has returned. -/
def returned : Proc σ κ ε α → Bool
  | done (.ok _) => true
  | _ => false

lemma eq_of_returned {p : Proc σ κ ε Unit} (h : p.returned = true) : p = done (.ok ()) := by
  rcases p with ⟨_ | _⟩ | _
  · exact nomatch h
  · rfl
  · exact nomatch h

variable {w} {a b : A}

lemma adds_pure (x : α) : (pure x : Proc σ κ ε α).Adds w 0 := rfl

lemma adds_throw (e : ε) : (throw e : Proc σ κ ε α).Adds w a := trivial

lemma Adds.bind {p : Proc σ κ ε α} {f : α → Proc σ κ ε β} (hp : p.Adds w a)
    (hf : ∀ x, (f x).Adds w b) : (p >>= f).Adds w (a + b) := by
  show (p.bind f).Adds w (a + b)
  induction p generalizing a with
  | done r =>
    cases r with
    | ok x =>
      obtain rfl : a = 0 := hp
      rw [zero_add]
      exact hf x
    | error e => trivial
  | stmt c k ih =>
    obtain ⟨⟨e, he⟩, d, rfl, hk⟩ := hp
    have hnone : (k none).bind f = done (.error e) := by
      rw [he]
      rfl
    refine ⟨⟨e, hnone⟩, d + b, (add_assoc _ _ _).symm, fun s => ?_⟩
    exact ih (some s) (hk s)

lemma adds_read [Inhabited ε] {f : σ → Proc σ κ ε β} (hf : ∀ s, (f s).Adds w a) :
    (read >>= f).Adds w a :=
  ⟨⟨default, rfl⟩, a, zero_add a, hf⟩

lemma adds_commit [Inhabited ε] {c : κ} {f : σ → Proc σ κ ε β} (hf : ∀ s, (f s).Adds w b) :
    (commit c >>= f).Adds w (w c + b) :=
  ⟨⟨default, rfl⟩, b, rfl, hf⟩

/-- The programs of a configuration still add `a`, if all of them return. -/
def Owe (w : κ → A) : List (Proc σ κ ε α) → A → Prop
  | [], a => a = 0
  | p :: ps, a => ∃ b r, b + r = a ∧ p.Adds w b ∧ Owe w ps r

lemma owe_map {χ : Type} {proc : χ → Proc σ κ ε α} {adds : χ → A} {calls : List χ}
    (h : ∀ x ∈ calls, (proc x).Adds w (adds x)) :
    Owe w (calls.map proc) (calls.map adds).sum := by
  induction calls with
  | nil => rfl
  | cons x calls ih =>
    refine ⟨adds x, (calls.map adds).sum, (List.sum_cons).symm, h x List.mem_cons_self, ?_⟩
    exact ih fun y hy => h y (List.mem_cons_of_mem x hy)

/-- One of the programs, and what the others add. -/
lemma Owe.set {ps : List (Proc σ κ ε α)} {i : ℕ} {p : Proc σ κ ε α} (h : Owe w ps a)
    (hi : ps[i]? = some p) :
    ∃ b r, b + r = a ∧ p.Adds w b ∧ ∀ p' b', p'.Adds w b' → Owe w (ps.set i p') (b' + r) := by
  induction ps generalizing i a with
  | nil => exact absurd hi (by simp)
  | cons q ps ih =>
    obtain ⟨b, r, rfl, hq, hps⟩ := h
    cases i with
    | zero =>
      obtain rfl : q = p := by simpa using hi
      exact ⟨b, r, rfl, hq, fun p' b' hp' => ⟨b', r, rfl, hp', hps⟩⟩
    | succ i =>
      obtain ⟨b₁, r₁, rfl, hp, hset⟩ := ih hps (by simpa using hi)
      refine ⟨b₁, b + r₁, add_left_comm _ _ _, hp, fun p' b' hp' => ?_⟩
      exact ⟨b, b' + r₁, add_left_comm _ _ _, hq, hset p' b' hp'⟩

lemma Owe.eq_zero {ps : List (Proc σ κ ε Unit)} (h : Owe w ps a)
    (hdone : ∀ p ∈ ps, p = done (.ok ())) : a = 0 := by
  induction ps generalizing a with
  | nil => exact h
  | cons p ps ih =>
    obtain ⟨b, r, rfl, hp, hps⟩ := h
    obtain rfl := hdone p List.mem_cons_self
    obtain rfl : b = 0 := hp
    rw [zero_add]
    exact ih hps fun q hq => hdone q (List.mem_cons_of_mem _ hq)

end Proc

namespace Machine

variable {σ κ ε χ η : Type} (M : Machine σ κ ε χ η) (Cond : σ → κ → Prop)

/-- `calls` are served, interleaved in some way, and all of them return. -/
def Completes (calls : List χ) (s₀ s : σ) : Prop :=
  ∃ ps, ReflTransGen (M.Step (fun _ => False) Cond) ⟨s₀, calls.map M.proc⟩ ⟨s, ps⟩ ∧
    ∀ p ∈ ps, p = .done (.ok ())

/-- What a schedule leads to, if all calls have returned. -/
lemma exists_completes_of_exec [∀ s c, Decidable (Cond s c)] {α : Type} (calls : List χ)
    (es : List (Event χ η)) (s₀ : σ) (f : σ → α) (a : α)
    (h : (M.exec (fun _ => False) Cond es ⟨s₀, calls.map M.proc⟩).map
      (fun cfg => (cfg.procs.all Proc.returned, f cfg.store)) = some (true, a)) :
    ∃ s, M.Completes Cond calls s₀ s ∧ f s = a := by
  obtain ⟨cfg, hcfg, hf⟩ := Option.map_eq_some_iff.mp h
  obtain ⟨hall, hf⟩ := Prod.ext_iff.mp hf
  refine ⟨cfg.store, ⟨cfg.procs, steps_of_exec hcfg, fun p hp => ?_⟩, hf⟩
  exact Proc.eq_of_returned (List.all_eq_true.mp hall p hp)

variable {M Cond} {Allowed : χ → Prop} {calls : List χ} {s₀ s : σ} {cfg cfg' : Config σ κ ε}

/-- The configurations on the way are reachable. -/
lemma reachable_of_calls (hcalls : ∀ x ∈ calls, Allowed x)
    (h : ReflTransGen (M.Step (fun _ => False) Cond) ⟨s₀, calls.map M.proc⟩ cfg) :
    M.Reachable Allowed Cond s₀ cfg := by
  have haccept : ∀ ps, ReflTransGen (M.Step Allowed Cond) ⟨s₀, ps⟩
      ⟨s₀, ps ++ calls.map M.proc⟩ := by
    clear h
    induction calls with
    | nil =>
      intro ps
      rw [List.map_nil, List.append_nil]
    | cons x calls ih =>
      intro ps
      have hrest := ih (fun y hy => hcalls y (List.mem_cons_of_mem x hy)) (ps ++ [M.proc x])
      rw [List.append_assoc] at hrest
      exact ReflTransGen.head (.call x (hcalls x List.mem_cons_self)) hrest
  refine ReflTransGen.trans (haccept []) (ReflTransGen.mono ?_ _ _ h)
  intro c c' hstep
  cases hstep with
  | call x hx => exact hx.elim
  | env e => exact .env e
  | ok hi hs' hc => exact .ok hi hs' hc
  | failed hi => exact .failed hi
  | unacked hi hs' hc => exact .unacked hi hs' hc

lemma Completes.reachable (Allowed : χ → Prop) (h : M.Completes Cond calls s₀ s)
    (hcalls : ∀ x ∈ calls, Allowed x) :
    ∃ ps, M.Reachable Allowed Cond s₀ ⟨s, ps⟩ := by
  obtain ⟨ps, hsteps, -⟩ := h
  exact ⟨ps, reachable_of_calls hcalls hsteps⟩

/-- A program that has ended stays as it is. -/
lemma done_of_step {i : ℕ} {r : Except ε Unit} (hstep : M.Step (fun _ => False) Cond cfg cfg')
    (hi : cfg.procs[i]? = some (.done r)) : cfg'.procs[i]? = some (.done r) := by
  have hset : ∀ {ps : List (Proc σ κ ε Unit)} {j : ℕ} {c k} (p : Proc σ κ ε Unit),
      ps[j]? = some (.stmt c k) → ps[i]? = some (.done r) →
      (ps.set j p)[i]? = some (.done r) := by
    intro ps j c k p hj hi
    have hne : j ≠ i := by
      rintro rfl
      rw [hj] at hi
      exact nomatch hi
    rw [List.getElem?_set_ne hne, hi]
  cases hstep with
  | call x hx => exact hx.elim
  | env e => exact hi
  | ok hj _ _ => exact hset _ hj hi
  | failed hj => exact hset _ hj hi
  | unacked hj _ _ => exact hset _ hj hi

variable {A : Type} [AddCommMonoid A] {w : κ → A} {total : σ → A}

/-- **One step**: the total and what the programs still add stay the same together, unless some
program has thrown. -/
lemma owe_of_step {a : A} (hcommit : ∀ {c s s'}, M.apply c s = some s' → total s' = total s + w c)
    (henv : ∀ e s, total (M.environ e s) = total s)
    (hstep : M.Step (fun _ => False) Cond cfg cfg')
    (h : ∃ r, total cfg.store + r = a ∧ Proc.Owe w cfg.procs r) :
    (∃ (i : ℕ) (e : ε), cfg'.procs[i]? = some (.done (.error e))) ∨
      ∃ r, total cfg'.store + r = a ∧ Proc.Owe w cfg'.procs r := by
  obtain ⟨r, hr, howe⟩ := h
  have hthrown : ∀ {ps : List (Proc σ κ ε Unit)} {i : ℕ} {c k r}, Proc.Owe w ps r →
      ps[i]? = some (.stmt c k) →
      ∃ (j : ℕ) (e : ε), (ps.set i (k none))[j]? = some (.done (.error e)) := by
    intro ps i c k r howe hi
    obtain ⟨_, _, -, ⟨⟨e, he⟩, -⟩, -⟩ := howe.set hi
    have hlt : i < ps.length := (List.getElem?_eq_some_iff.mp hi).1
    exact ⟨i, e, by rw [he, List.getElem?_set_self hlt]⟩
  cases hstep with
  | call x hx => exact hx.elim
  | env e => exact .inr ⟨r, by rw [← hr, henv], howe⟩
  | failed hi => exact .inl (hthrown howe hi)
  | unacked hi _ _ => exact .inl (hthrown howe hi)
  | @ok s s' ps i c k hi hs' _ =>
    obtain ⟨b, rest, rfl, ⟨-, d, rfl, hk⟩, hset⟩ := howe.set hi
    refine .inr ⟨d + rest, ?_, hset _ _ (hk s')⟩
    have htotal : total s' = total s + c.elim 0 w := by
      cases c with
      | none =>
        obtain rfl : s = s' := by simpa using hs'
        exact (add_zero _).symm
      | some c => exact hcommit hs'
    rw [← hr, htotal, add_assoc, add_assoc]

/-- **The tally**: when all calls have returned, the total has grown by what they add. -/
theorem Completes.tally (w : κ → A) (total : σ → A) (adds : χ → A)
    (h : M.Completes Cond calls s₀ s)
    (hcommit : ∀ {c s s'}, M.apply c s = some s' → total s' = total s + w c)
    (henv : ∀ e s, total (M.environ e s) = total s)
    (hadds : ∀ x ∈ calls, (M.proc x).Adds w (adds x)) :
    total s = total s₀ + (calls.map adds).sum := by
  obtain ⟨ps, hsteps, hdone⟩ := h
  have hrun : ∀ {cfg : Config σ κ ε},
      ReflTransGen (M.Step (fun _ => False) Cond) ⟨s₀, calls.map M.proc⟩ cfg →
      (∃ (i : ℕ) (e : ε), cfg.procs[i]? = some (.done (.error e))) ∨
        ∃ r, total cfg.store + r = total s₀ + (calls.map adds).sum ∧
          Proc.Owe w cfg.procs r := by
    intro cfg hsteps
    induction hsteps with
    | refl => exact .inr ⟨_, rfl, Proc.owe_map hadds⟩
    | tail _ hstep ih =>
      rcases ih with ⟨i, e, hi⟩ | howe
      · exact .inl ⟨i, e, done_of_step hstep hi⟩
      · exact owe_of_step hcommit henv hstep howe
  rcases hrun hsteps with ⟨i, e, hi⟩ | ⟨r, hr, howe⟩
  · exact nomatch hdone _ (List.mem_of_getElem? hi)
  · rw [← hr, howe.eq_zero hdone, add_zero]

end Machine

end MeeoServer
