/-
# Protocols of programs

Some invariants of interleaved runs are not about the store alone: which program holds which
lock is recorded nowhere but in the programs.  A `Protocol` makes it explicit.  Every program
is in a *phase*, which is not part of the machine; the protocol says which batches a program
may commit in a phase, and into which phase the answer to the commit brings it.

`Protocol.Follows` says that a program keeps to the protocol by itself, whatever the others do,
and `Protocol.invariant` is the rule for an invariant of the store and of the phases of all
programs.
-/
import MeeoServer.Process.Interleaving
import Mathlib.Logic.Function.Basic

namespace MeeoServer

open Relation

/-- The phases of a program: the first one, the batches that may be committed in a phase, and
the phase after the answer to a commit. -/
structure Protocol (σ κ τ : Type) where
  start : τ
  allow : τ → κ → Prop
  after : τ → κ → Option σ → τ

namespace Protocol

variable {σ κ ε τ α β : Type} (P : Protocol σ κ τ) (apply : κ → σ → Option σ)

/-- The phase after a statement; a look does not change it. -/
def next (t : τ) : Option κ → Option σ → τ
  | none, _ => t
  | some c, o => P.after t c o

@[simp] lemma next_none (t : τ) (o : Option σ) : P.next t none o = t := rfl

@[simp] lemma next_some (t : τ) (c : κ) (o : Option σ) : P.next t (some c) o = P.after t c o := rfl

/-- `P.Follows apply p Q t`: started in the phase `t`, the program `p` commits only what its
phase allows, and it ends in a result and a phase that satisfy `Q`. -/
def Follows : Proc σ κ ε α → (Except ε α → τ → Prop) → τ → Prop
  | .done r, Q, t => Q r t
  | .stmt c k, Q, t => (∀ b, c = some b → P.allow t b) ∧
      Follows (k none) Q (P.next t c none) ∧
        ∀ s s', Proc.effect apply c s = some s' → Follows (k (some s')) Q (P.next t c (some s'))

/-- The condition that says nothing about the result and the phase. -/
def Ends : Except ε α → τ → Prop := fun _ _ => True

variable {P apply}

lemma Follows.mono {p : Proc σ κ ε α} {Q Q' : Except ε α → τ → Prop} {t : τ}
    (h : P.Follows apply p Q t) (hQ : ∀ r t, Q r t → Q' r t) : P.Follows apply p Q' t := by
  induction p generalizing t with
  | done r => exact hQ r t h
  | stmt c k ih =>
    obtain ⟨hallow, hnone, hsome⟩ := h
    exact ⟨hallow, ih none hnone, fun s s' hs' => ih _ (hsome s s' hs')⟩

lemma Follows.bind {p : Proc σ κ ε α} {f : α → Proc σ κ ε β} {Q : Except ε β → τ → Prop} {t : τ}
    (h : P.Follows apply p
      (fun r t => match r with
        | .ok a => P.Follows apply (f a) Q t
        | .error e => Q (.error e) t) t) :
    P.Follows apply (p >>= f) Q t := by
  show P.Follows apply (p.bind f) Q t
  induction p generalizing t with
  | done r => cases r <;> exact h
  | stmt c k ih =>
    obtain ⟨hallow, hnone, hsome⟩ := h
    exact ⟨hallow, ih none hnone, fun s s' hs' => ih _ (hsome s s' hs')⟩

lemma Follows.tryCatch {p : Proc σ κ ε α} {h : ε → Proc σ κ ε α} {Q : Except ε α → τ → Prop}
    {t : τ}
    (hp : P.Follows apply p
      (fun r t => match r with
        | .ok a => Q (.ok a) t
        | .error e => P.Follows apply (h e) Q t) t) :
    P.Follows apply (p.tryCatch h) Q t := by
  induction p generalizing t with
  | done r => cases r <;> exact hp
  | stmt c k ih =>
    obtain ⟨hallow, hnone, hsome⟩ := hp
    exact ⟨hallow, ih none hnone, fun s s' hs' => ih _ (hsome s s' hs')⟩

/-- A program whose batches are allowed in the phase `t`, and do not end it, stays in it. -/
lemma follows_of_emits {Spec : σ → κ → Prop} {p : Proc σ κ ε α} {t : τ} {s₀ : σ}
    (h : p.Emits apply (fun _ _ => True) (fun _ _ => True) Spec Proc.Any s₀)
    (hSpec : ∀ s c, Spec s c → P.allow t c ∧ ∀ o, P.after t c o = t) :
    P.Follows apply p (fun _ t' => t' = t) t := by
  induction p generalizing s₀ with
  | done r => rfl
  | stmt c k ih =>
    have hspec := fun s => (h s trivial).1
    have hnext : ∀ o, P.next t c o = t := by
      intro o
      cases c with
      | none => rfl
      | some b => exact (hSpec s₀ b (hspec s₀ b rfl)).2 o
    refine ⟨fun b hb => (hSpec s₀ b (hspec s₀ b hb)).1, ?_, fun s s' hs' => ?_⟩
    · rw [hnext]
      exact ih none (h s₀ trivial).2.1
    · rw [hnext]
      exact ih (some s') ((h s trivial).2.2 s' hs' (Or.inr trivial)).1

/-- A program over a part of the store keeps to the protocol if it does so on its part. -/
lemma Follows.zoom {σ' κ' : Type} {get : σ → σ'} {put : κ' → κ} {apply' : κ' → σ' → Option σ'}
    {P' : Protocol σ' κ' τ} {p : Proc σ' κ' ε α} {Q : Except ε α → τ → Prop} {t : τ}
    (happly : ∀ {b s s'}, apply (put b) s = some s' → apply' b (get s) = some (get s'))
    (hallow : ∀ {t b}, P'.allow t b → P.allow t (put b))
    (hafter : ∀ t b o, P.after t (put b) o = P'.after t b (o.map get))
    (h : P'.Follows apply' p Q t) : P.Follows apply (p.zoom get put) Q t := by
  induction p generalizing t with
  | done r => exact h
  | stmt c k ih =>
    obtain ⟨hc, hnone, hsome⟩ := h
    have hnext : ∀ o, P.next t (c.map put) o = P'.next t c (o.map get) := by
      intro o
      cases c with
      | none => rfl
      | some b => exact hafter t b o
    refine ⟨fun b hb => ?_, ?_, fun s s' hs' => ?_⟩
    · obtain ⟨b', rfl, rfl⟩ := Option.map_eq_some_iff.mp hb
      exact hallow (hc b' rfl)
    · rw [hnext]
      exact ih none hnone
    · rw [hnext]
      refine ih _ (hsome (get s) (get s') ?_)
      cases c with
      | none =>
        obtain rfl : s = s' := by simpa using hs'
        rfl
      | some b => exact happly hs'

/-- A program after another one that ends in any phase. -/
lemma Follows.andThen {p : Proc σ κ ε α} {f : α → Proc σ κ ε β} {t : τ}
    (hp : P.Follows apply p Ends t) (hf : ∀ a t, P.Follows apply (f a) Ends t) :
    P.Follows apply (p >>= f) Ends t := by
  refine Follows.bind (hp.mono fun r t _ => ?_)
  cases r with
  | ok a => exact hf a t
  | error e => trivial

/-- A handler after a program that ends in any phase. -/
lemma Follows.orElse {p : Proc σ κ ε α} {h : ε → Proc σ κ ε α} {t : τ}
    (hp : P.Follows apply p Ends t) (hh : ∀ e t, P.Follows apply (h e) Ends t) :
    P.Follows apply (p.tryCatch h) Ends t := by
  refine Follows.tryCatch (hp.mono fun r t _ => ?_)
  cases r with
  | ok a => trivial
  | error e => exact hh e t

/-- Programs that are run one after the other, whatever becomes of them. -/
lemma tryAll_follows {ι : Type} {f : ι → Proc σ κ ε Unit}
    (hf : ∀ i t, P.Follows apply (f i) Ends t) (l : List ι) (t : τ) :
    P.Follows apply (Proc.tryAll f l) Ends t := by
  induction l generalizing t with
  | nil => trivial
  | cons i l ih =>
    refine Follows.andThen (Follows.orElse ?_ fun _ _ => trivial) fun reached t => ?_
    · exact (hf i t).andThen fun _ _ => trivial
    · exact (ih t).andThen fun _ _ => trivial

lemma follows_attempt {c : κ} {t : τ} (hallow : P.allow t c) :
    P.Follows apply (Proc.attempt c : Proc σ κ ε Unit) Ends t := by
  refine ⟨?_, trivial, fun _ _ _ => trivial⟩
  rintro b ⟨⟩
  exact hallow

variable [Inhabited ε]

/-- A look keeps the phase. -/
lemma follows_read {f : σ → Proc σ κ ε β} {Q : Except ε β → τ → Prop} {t : τ}
    (herr : Q (.error default) t) (h : ∀ s, P.Follows apply (f s) Q t) :
    P.Follows apply (Proc.read >>= f) Q t := by
  refine Follows.bind ⟨by simp, herr, fun s s' _ => h s'⟩

/-- The program after a commit is in the phase that the answer brings it to. -/
lemma follows_commit {c : κ} {f : σ → Proc σ κ ε β} {Q : Except ε β → τ → Prop} {t : τ}
    (hallow : P.allow t c) (herr : Q (.error default) (P.after t c none))
    (h : ∀ s s', apply c s = some s' → P.Follows apply (f s') Q (P.after t c (some s'))) :
    P.Follows apply (Proc.commit c >>= f) Q t := by
  refine Follows.bind ⟨?_, herr, fun s s' hs' => h s s' hs'⟩
  rintro b ⟨⟩
  exact hallow

end Protocol

/-! ## Invariants of the store and the phases -/

namespace Protocol

open Machine

variable {σ κ ε τ χ η : Type} {M : Machine σ κ ε χ η} {Allowed : χ → Prop} {Cond : σ → κ → Prop}
  {P : Protocol σ κ τ} {s₀ : σ} {cfg : Config σ κ ε}

/-- After a statement of the program `i`, the phase of `j` is the new one or, for another
program, the old one. -/
lemma eq_of_update {phase : ℕ → τ} {i j : ℕ} {t l : τ} (h : Function.update phase i t j = l) :
    j = i ∧ t = l ∨ j ≠ i ∧ phase j = l := by
  by_cases hij : j = i
  · subst hij
    rw [Function.update_self] at h
    exact Or.inl ⟨rfl, h⟩
  · rw [Function.update_of_ne hij] at h
    exact Or.inr ⟨hij, h⟩

/-- The programs keep to the protocol, each from its own phase; a program that has not been
started yet is in the first phase. -/
structure Obeyed (P : Protocol σ κ τ) (M : Machine σ κ ε χ η) (ps : List (Proc σ κ ε Unit))
    (phase : ℕ → τ) : Prop where
  follows : ∀ i p, ps[i]? = some p → P.Follows M.apply p Ends (phase i)
  start : ∀ i, ps.length ≤ i → phase i = P.start

lemma Obeyed.set {ps : List (Proc σ κ ε Unit)} {phase : ℕ → τ} (h : P.Obeyed M ps phase)
    {i : ℕ} {p p' : Proc σ κ ε Unit} (hi : ps[i]? = some p) {t : τ}
    (hp' : P.Follows M.apply p' Ends t) :
    P.Obeyed M (ps.set i p') (Function.update phase i t) := by
  have hlt : i < ps.length := (List.getElem?_eq_some_iff.mp hi).1
  constructor
  · intro j q hq
    by_cases hij : i = j
    · subst hij
      obtain rfl : p' = q := by simpa [hlt] using hq
      rwa [Function.update_self]
    · rw [Function.update_of_ne (Ne.symm hij)]
      exact h.follows j q (by simpa [List.getElem?_set_ne hij] using hq)
  · intro j hj
    rw [List.length_set] at hj
    have hij : j ≠ i := by omega
    rw [Function.update_of_ne hij]
    exact h.start j hj

/-- **The rule for protocols.**  An invariant of the store and the phases holds in every
reachable configuration if it holds at the start, the environment preserves it, and every
allowed commit preserves it: whether its answer arrives, or is lost, or it fails. -/
theorem invariant {Inv : σ → (ℕ → τ) → Prop}
    (hfollows : ∀ x, Allowed x → P.Follows M.apply (M.proc x) Ends P.start)
    (hr : M.Reachable Allowed Cond s₀ cfg) (h₀ : Inv s₀ fun _ => P.start)
    (henv : ∀ e s phase, Inv s phase → Inv (M.environ e s) phase)
    (hfailed : ∀ s phase i c, P.allow (phase i) c → Inv s phase →
      Inv s (Function.update phase i (P.after (phase i) c none)))
    (hcommit : ∀ s s' phase i c o, P.allow (phase i) c → Cond s c → M.apply c s = some s' →
      o = none ∨ o = some s' → Inv s phase →
      Inv s' (Function.update phase i (P.after (phase i) c o))) :
    ∃ phase, Inv cfg.store phase ∧ P.Obeyed M cfg.procs phase := by
  induction hr with
  | refl => exact ⟨fun _ => P.start, h₀, by simp, fun _ _ => rfl⟩
  | tail _ hstep ih =>
    obtain ⟨phase, hinv, hobeyed⟩ := ih
    have hstmt : ∀ {s s' : σ} {ps : List (Proc σ κ ε Unit)} {i : ℕ} {c : Option κ}
        {k : Option σ → Proc σ κ ε Unit} {o : Option σ}, ps[i]? = some (.stmt c k) →
        P.Obeyed M ps phase → Inv s phase → Proc.effect M.apply c s = some s' →
        (∀ b, c = some b → Cond s b) → o = none ∨ o = some s' →
        ∃ phase, Inv s' phase ∧ P.Obeyed M (ps.set i (k o)) phase := by
      intro s s' ps i c k o hi hobeyed hinv hs' hcond ho
      obtain ⟨hallow, hnone, hsome⟩ := hobeyed.follows i _ hi
      have hk : P.Follows M.apply (k o) Ends (P.next (phase i) c o) := by
        rcases ho with rfl | rfl
        · exact hnone
        · exact hsome s s' hs'
      refine ⟨_, ?_, hobeyed.set hi hk⟩
      cases c with
      | none =>
        obtain rfl : s = s' := by simpa using hs'
        rwa [next_none, Function.update_eq_self]
      | some b => exact hcommit s s' phase i b o (hallow b rfl) (hcond b rfl) hs' ho hinv
    cases hstep with
    | @call s ps x hx =>
      refine ⟨phase, hinv, ?_, fun i hi => hobeyed.start i ?_⟩
      · intro i p hi
        by_cases hlt : i < ps.length
        · rw [List.getElem?_append_left hlt] at hi
          exact hobeyed.follows i p hi
        · have hle : ps.length ≤ i := Nat.le_of_not_lt hlt
          rw [List.getElem?_append_right hle, List.getElem?_singleton] at hi
          obtain ⟨-, hp⟩ := Option.ite_none_right_eq_some.mp hi
          obtain rfl := Option.some.inj hp
          rw [hobeyed.start i hle]
          exact hfollows x hx
      · show ps.length ≤ i
        rw [List.length_append] at hi
        omega
    | env e => exact ⟨phase, henv e _ phase hinv, hobeyed⟩
    -- the answer of a statement arrives, or it is lost although the batch was applied
    | ok hi hs' hcond => exact hstmt hi hobeyed hinv hs' hcond (Or.inr rfl)
    | unacked hi hs' hcond => exact hstmt hi hobeyed hinv hs' hcond (Or.inl rfl)
    | @failed s ps i c k hi =>
      obtain ⟨hallow, hnone, -⟩ := hobeyed.follows i _ hi
      refine ⟨_, ?_, hobeyed.set hi hnone⟩
      cases c with
      | none => rwa [next_none, Function.update_eq_self]
      | some b => exact hfailed s phase i b (hallow b rfl) hinv

end Protocol

end MeeoServer
