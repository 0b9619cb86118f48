/-
# Programs over a shared store

A request handler of a server is a sequential program that talks to a store which other
programs change at the same time.  It alternates between *looking* at the store and
*committing* a batch of writes, and between two of its statements anything may happen.

`Proc σ κ ε α` is the type of such programs: `σ` is the type of stores, `κ` the type of the
batches that are committed atomically, `ε` the type of exceptions and `α` the type of the
result.  A statement may fail (a lost connection, a violated constraint): the program then
receives `none`, so every crash point of the program is one of its branches.

`Proc.Emits` is the weakest precondition used throughout.  It says which batches a program
can commit, and what is known about the store at that moment, when the rest of the world
may change the store between two statements within a relation `I`.
-/
import Mathlib.Order.Basic

namespace MeeoServer

/-- A program over a store `σ`: it has finished, or it executes a statement and continues
with the store as the statement left it, or with `none` if the statement failed.  The
statement `none` only looks at the store, the statement `some c` commits the batch `c`. -/
inductive Proc (σ κ ε α : Type) where
  /-- The program has returned a value or has thrown. -/
  | done (r : Except ε α)
  /-- A statement, and the program after it. -/
  | stmt (c : Option κ) (k : Option σ → Proc σ κ ε α)

namespace Proc

variable {σ κ ε α β : Type}

/-- Sequencing: an exception of the first program ends the whole program. -/
def bind : Proc σ κ ε α → (α → Proc σ κ ε β) → Proc σ κ ε β
  | done (.ok a), f => f a
  | done (.error e), _ => done (.error e)
  | stmt c k, f => stmt c fun o => (k o).bind f

/-- Run `h` if the program throws. -/
def tryCatch : Proc σ κ ε α → (ε → Proc σ κ ε α) → Proc σ κ ε α
  | done (.ok a), _ => done (.ok a)
  | done (.error e), h => h e
  | stmt c k, h => stmt c fun o => (k o).tryCatch h

instance : Monad (Proc σ κ ε) where
  pure a := done (.ok a)
  bind := bind

instance : MonadExceptOf ε (Proc σ κ ε) where
  throw e := done (.error e)
  tryCatch := tryCatch

/-- Look at the store.  A failing statement throws `default`. -/
def read [Inhabited ε] : Proc σ κ ε σ :=
  stmt none fun
    | some s => done (.ok s)
    | none => done (.error default)

/-- Commit a batch of writes; the result is the store right after the commit. -/
def commit [Inhabited ε] (c : κ) : Proc σ κ ε σ :=
  stmt (some c) fun
    | some s => done (.ok s)
    | none => done (.error default)

/-- Commit a batch and go on, whether the commit succeeded or not. -/
def attempt (c : κ) : Proc σ κ ε Unit :=
  stmt (some c) fun _ => done (.ok ())

/-- Execute one statement on a store: a look changes nothing, a batch is applied. -/
def effect (apply : κ → σ → Option σ) : Option κ → σ → Option σ
  | none, s => some s
  | some c, s => apply c s

/-- Run a program for each entry of a list and swallow the exceptions; the result tells whether
there was none. -/
def tryAll {ι : Type} (f : ι → Proc σ κ ε Unit) : List ι → Proc σ κ ε Bool
  | [] => pure true
  | i :: l => do
    let reached ← Proc.tryCatch (do f i; pure true) fun _ => pure false
    let rest ← tryAll f l
    pure (reached && rest)

@[simp] lemma effect_none (apply : κ → σ → Option σ) (s : σ) : effect apply none s = some s :=
  rfl

@[simp] lemma effect_some (apply : κ → σ → Option σ) (c : κ) (s : σ) :
    effect apply (some c) s = apply c s := rfl

/-- A program over a part of the store, with batches for that part, as a program over the whole
store. -/
def zoom {σ' κ' : Type} (get : σ → σ') (put : κ' → κ) : Proc σ' κ' ε α → Proc σ κ ε α
  | done r => done r
  | stmt c k => stmt (c.map put) fun o => (k (o.map get)).zoom get put

/-! ## The batches a program commits -/

section Emits

variable (apply : κ → σ → Option σ) (I G : σ → σ → Prop) (Spec : σ → κ → Prop)

/-- `p.Emits apply I G Spec Q s₀`: started on the store `s₀`, while the rest of the world
changes the store within `I` between two statements, every batch `c` that `p` commits on a
store `s` satisfies `Spec s c`, and `p` ends in a result that satisfies `Q`.  The commits of
`p` itself may be assumed to stay within `G`. -/
def Emits : Proc σ κ ε α → (Except ε α → σ → Prop) → σ → Prop
  | done r, Q, s₀ => Q r s₀
  | stmt c k, Q, s₀ => ∀ s, I s₀ s →
      (∀ b, c = some b → Spec s b) ∧ (k none).Emits Q s ∧
        ∀ s', effect apply c s = some s' → (c = none ∨ G s s') →
          (k (some s')).Emits Q s' ∧ (k none).Emits Q s'

/-- `P` was true when the program looked: it held of a store from which the present one, `s`,
has developed within `I`. -/
def Seen (I : σ → σ → Prop) (s : σ) (P : σ → Prop) : Prop := ∃ s₀, I s₀ s ∧ P s₀

/-- The condition that says nothing about the result of a program. -/
def Any : Except ε α → σ → Prop := fun _ _ => True

variable {apply I G Spec}

lemma Emits.mono {p : Proc σ κ ε α} {Q Q' : Except ε α → σ → Prop} {s₀ : σ}
    (h : p.Emits apply I G Spec Q s₀) (hQ : ∀ r s, Q r s → Q' r s) :
    p.Emits apply I G Spec Q' s₀ := by
  induction p generalizing s₀ with
  | done r => exact hQ r s₀ h
  | stmt c k ih =>
    intro s hs
    obtain ⟨hspec, hnone, hsome⟩ := h s hs
    exact ⟨hspec, ih none hnone, fun s' hs' hg =>
      ⟨ih _ (hsome s' hs' hg).1, ih none (hsome s' hs' hg).2⟩⟩

lemma Emits.bind {p : Proc σ κ ε α} {f : α → Proc σ κ ε β} {Q : Except ε β → σ → Prop}
    {s₀ : σ}
    (h : p.Emits apply I G Spec
      (fun r s => match r with
        | .ok a => (f a).Emits apply I G Spec Q s
        | .error e => Q (.error e) s) s₀) :
    (p >>= f).Emits apply I G Spec Q s₀ := by
  show (p.bind f).Emits apply I G Spec Q s₀
  induction p generalizing s₀ with
  | done r => cases r <;> exact h
  | stmt c k ih =>
    intro s hs
    obtain ⟨hspec, hnone, hsome⟩ := h s hs
    exact ⟨hspec, ih none hnone, fun s' hs' hg =>
      ⟨ih _ (hsome s' hs' hg).1, ih none (hsome s' hs' hg).2⟩⟩

/-- What a program commits before a handler runs, and what the handler commits. -/
lemma Emits.tryCatch {p : Proc σ κ ε α} {h : ε → Proc σ κ ε α} {Q : Except ε α → σ → Prop}
    {s₀ : σ}
    (hp : p.Emits apply I G Spec
      (fun r s => match r with
        | .ok a => Q (.ok a) s
        | .error e => (h e).Emits apply I G Spec Q s) s₀) :
    (p.tryCatch h).Emits apply I G Spec Q s₀ := by
  induction p generalizing s₀ with
  | done r => cases r <;> exact hp
  | stmt c k ih =>
    intro s hs
    obtain ⟨hspec, hnone, hsome⟩ := hp s hs
    exact ⟨hspec, ih none hnone, fun s' hs' hg =>
      ⟨ih _ (hsome s' hs' hg).1, ih none (hsome s' hs' hg).2⟩⟩

/-- What neither the program nor the others can make false is still true at the end. -/
lemma Emits.frame {p : Proc σ κ ε α} {Q : Except ε α → σ → Prop} {F : σ → Prop} {s₀ : σ}
    (hI : ∀ s s', I s s' → F s → F s') (hG : ∀ s s', G s s' → F s → F s')
    (h : p.Emits apply I G Spec Q s₀) (hF : F s₀) :
    p.Emits apply I G Spec (fun r s => Q r s ∧ F s) s₀ := by
  induction p generalizing s₀ with
  | done r => exact ⟨h, hF⟩
  | stmt c k ih =>
    intro s hs
    have hFs : F s := hI s₀ s hs hF
    obtain ⟨hspec, hnone, hsome⟩ := h s hs
    refine ⟨hspec, ih none hnone hFs, fun s' hs' hg => ?_⟩
    have hFs' : F s' := by
      rcases hg with rfl | hg
      · obtain rfl : s = s' := by simpa using hs'
        exact hFs
      · exact hG s s' hg hFs
    exact ⟨ih _ (hsome s' hs' hg).1 hFs', ih none (hsome s' hs' hg).2 hFs'⟩

/-- Where the program and the others alike take every state further along `W`, the last state is
along `W` from the first. -/
lemma Emits.along {p : Proc σ κ ε α} {Q : Except ε α → σ → Prop} {W : σ → σ → Prop} {s₀ : σ}
    (h : p.Emits apply W W Spec Q s₀) (htrans : ∀ {s s' s''}, W s s' → W s' s'' → W s s'')
    (hrefl : W s₀ s₀) :
    p.Emits apply W W Spec (fun r s => Q r s ∧ W s₀ s) s₀ :=
  h.frame (fun _ _ hW hF => htrans hF hW) (fun _ _ hW hF => htrans hF hW) hrefl

lemma emits_any (p : Proc σ κ ε α) (s₀ : σ) :
    p.Emits apply I G (fun _ _ => True) Any s₀ := by
  induction p generalizing s₀ with
  | done r => trivial
  | stmt c k ih => exact fun s _ => ⟨fun _ _ => trivial, ih _ _, fun s' _ _ => ⟨ih _ _, ih _ _⟩⟩

/-- A program over a part of the store commits batches for that part. -/
lemma emits_zoom {σ' κ' : Type} {get : σ → σ'} {put : κ' → κ} (p : Proc σ' κ' ε α) (s₀ : σ) :
    (p.zoom get put).Emits apply I G (fun _ c => ∃ b, c = put b) Any s₀ := by
  induction p generalizing s₀ with
  | done r => trivial
  | stmt c k ih =>
    intro s _
    refine ⟨fun b hb => ?_, ih _ _, fun s' _ _ => ⟨ih _ _, ih _ _⟩⟩
    obtain ⟨b', -, rfl⟩ := Option.map_eq_some_iff.mp hb
    exact ⟨b', rfl⟩

/-- Each of them is one that the program commits on its part of the store, and what holds of this
part at the end holds then. -/
lemma Emits.zoom_post {σ' κ' : Type} {get : σ → σ'} {put : κ' → κ} {apply' : κ' → σ' → Option σ'}
    {I' G' : σ' → σ' → Prop} {Spec' : σ' → κ' → Prop} {Q' : Except ε α → σ' → Prop}
    {p : Proc σ' κ' ε α} {s₀ : σ}
    (happly : ∀ {b s s'}, apply (put b) s = some s' → apply' b (get s) = some (get s'))
    (hI : ∀ {s t}, I s t → I' (get s) (get t)) (hG : ∀ {s t}, G s t → G' (get s) (get t))
    (h : p.Emits apply' I' G' Spec' Q' (get s₀)) :
    (p.zoom get put).Emits apply I G (fun s c => ∃ b, c = put b ∧ Spec' (get s) b)
      (fun r s => Q' r (get s)) s₀ := by
  induction p generalizing s₀ with
  | done r => exact h
  | stmt c k ih =>
    intro s hs
    obtain ⟨hspec, hnone, hsome⟩ := h (get s) (hI hs)
    refine ⟨fun b hb => ?_, ih none hnone, fun s' hs' hg => ?_⟩
    · obtain ⟨b', hb', rfl⟩ := Option.map_eq_some_iff.mp hb
      exact ⟨b', rfl, hspec b' hb'⟩
    · have heffect : effect apply' c (get s) = some (get s') := by
        cases c with
        | none =>
          obtain rfl : s = s' := by simpa using hs'
          rfl
        | some b => exact happly hs'
      have hwithin : c = none ∨ G' (get s) (get s') := by
        rcases hg with hg | hg
        · exact Or.inl (Option.map_eq_none_iff.mp hg)
        · exact Or.inr (hG hg)
      obtain ⟨hok, hunacked⟩ := hsome (get s') heffect hwithin
      exact ⟨ih _ hok, ih none hunacked⟩

lemma Emits.zoom {σ' κ' : Type} {get : σ → σ'} {put : κ' → κ} {apply' : κ' → σ' → Option σ'}
    {I' G' : σ' → σ' → Prop} {Spec' : σ' → κ' → Prop} {p : Proc σ' κ' ε α} {s₀ : σ}
    (happly : ∀ {b s s'}, apply (put b) s = some s' → apply' b (get s) = some (get s'))
    (hI : ∀ {s t}, I s t → I' (get s) (get t)) (hG : ∀ {s t}, G s t → G' (get s) (get t))
    (h : p.Emits apply' I' G' Spec' Any (get s₀)) :
    (p.zoom get put).Emits apply I G (fun s c => ∃ b, c = put b ∧ Spec' (get s) b) Any s₀ :=
  h.zoom_post happly hI hG

/-- The first statement of a program over a part of the store. -/
lemma emits_zoom_stmt {σ' κ' : Type} {get : σ → σ'} {put : κ' → κ} {c : Option κ'}
    {k : Option σ' → Proc σ' κ' ε α} {Q : Except ε α → σ → Prop} {s₀ : σ}
    (hc : ∀ s, I s₀ s → ∀ b, c = some b → Spec s (put b))
    (hnone : ∀ s, ((k none).zoom get put).Emits apply I G Spec Q s)
    (h : ∀ s s', I s₀ s → effect apply (c.map put) s = some s' → (c = none ∨ G s s') →
      ((k (some (get s'))).zoom get put).Emits apply I G Spec Q s') :
    ((stmt c k).zoom get put).Emits apply I G Spec Q s₀ := by
  refine fun s hs => ⟨fun b hb => ?_, hnone s, fun s' hs' hg => ⟨?_, hnone s'⟩⟩
  · obtain ⟨b', hb', rfl⟩ := Option.map_eq_some_iff.mp hb
    exact hc s hs b' hb'
  · exact h s s' hs hs' (hg.imp_left Option.map_eq_none_iff.mp)

lemma Emits.imp {p : Proc σ κ ε α} {Spec' : σ → κ → Prop} {Q : Except ε α → σ → Prop} {s₀ : σ}
    (h : p.Emits apply I G Spec Q s₀) (hspec : ∀ s c, Spec s c → Spec' s c) :
    p.Emits apply I G Spec' Q s₀ := by
  induction p generalizing s₀ with
  | done r => exact h
  | stmt c k ih =>
    intro s hs
    obtain ⟨hc, hnone, hsome⟩ := h s hs
    exact ⟨fun b hb => hspec s b (hc b hb), ih none hnone, fun s' hs' hg =>
      ⟨ih _ (hsome s' hs' hg).1, ih none (hsome s' hs' hg).2⟩⟩

lemma emits_pure {a : α} {s₀ : σ} :
    (pure a : Proc σ κ ε α).Emits apply I G Spec Any s₀ := trivial

lemma emits_throw {e : ε} {s₀ : σ} :
    (throw e : Proc σ κ ε α).Emits apply I G Spec Any s₀ := trivial

/-- Sequencing when nothing is carried over from the first program to the second. -/
lemma Emits.andThen {p : Proc σ κ ε α} {f : α → Proc σ κ ε β} {s₀ : σ}
    (hp : p.Emits apply I G Spec Any s₀) (hf : ∀ a s, (f a).Emits apply I G Spec Any s) :
    (p >>= f).Emits apply I G Spec Any s₀ := by
  refine Emits.bind (hp.mono fun r s _ => ?_)
  cases r with
  | ok a => exact hf a s
  | error e => trivial

/-- Catching when nothing is carried over from the program to its handler. -/
lemma Emits.orElse {p : Proc σ κ ε α} {h : ε → Proc σ κ ε α} {s₀ : σ}
    (hp : p.Emits apply I G Spec Any s₀) (hh : ∀ e s, (h e).Emits apply I G Spec Any s) :
    (p.tryCatch h).Emits apply I G Spec Any s₀ := by
  refine Emits.tryCatch (hp.mono fun r s _ => ?_)
  cases r with
  | ok a => trivial
  | error e => exact hh e s

/-- After an attempt the program goes on in the same way in every case. -/
lemma emits_attempt {c : κ} {s₀ : σ} (hc : ∀ s, I s₀ s → Spec s c) :
    (attempt c : Proc σ κ ε Unit).Emits apply I G Spec Any s₀ := by
  refine fun s hs => ⟨?_, trivial, fun _ _ _ => ⟨trivial, trivial⟩⟩
  rintro b ⟨⟩
  exact hc s hs

lemma emits_attempt_bind {c : κ} {f : Unit → Proc σ κ ε β} {Q : Except ε β → σ → Prop}
    {s₀ : σ} (hc : ∀ s, I s₀ s → Spec s c)
    (hfailed : ∀ s, I s₀ s → (f ()).Emits apply I G Spec Q s)
    (hok : ∀ s s', I s₀ s → apply c s = some s' → G s s' →
      (f ()).Emits apply I G Spec Q s') :
    (attempt c >>= f).Emits apply I G Spec Q s₀ := by
  refine Emits.bind fun s hs => ⟨?_, hfailed s hs, fun s' hs' hg => ?_⟩
  · rintro b ⟨⟩
    exact hc s hs
  · have hok' := hok s s' hs hs' (by simpa using hg)
    exact ⟨hok', hok'⟩

/-- If no program of the list has failed, each of them has done its part. -/
lemma tryAll_emits {ι : Type} {f : ι → Proc σ κ ε Unit} {F : σ → Prop} {D : ι → σ → Prop}
    {s₀ : σ} (hI : ∀ s s', I s s' → F s → F s') (hG : ∀ s s', G s s' → F s → F s')
    (hD : ∀ i s s', I s s' → D i s → D i s') (hD' : ∀ i s s', G s s' → D i s → D i s')
    (hf : ∀ i s, F s → (f i).Emits apply I G Spec (fun r s => r = .ok () → D i s) s)
    (l : List ι) (hF : F s₀) :
    (tryAll f l).Emits apply I G Spec (fun r s => r = .ok true → ∀ i ∈ l, D i s) s₀ := by
  induction l generalizing s₀ with
  | nil =>
    intro _ i hi
    cases hi
  | cons i l ih =>
    -- the first program reports whether it has failed, whatever it throws
    have hone : (Proc.tryCatch (do f i; pure true) fun _ => pure false :
        Proc σ κ ε Bool).Emits apply I G Spec (fun r s => r = .ok true → D i s) s₀ := by
      refine Emits.tryCatch (Emits.bind ((hf i s₀ hF).mono ?_))
      intro r s hr
      cases r with
      | ok _ => exact fun _ => hr rfl
      | error e => rintro ⟨⟩
    refine Emits.bind ((hone.frame hI hG hF).mono ?_)
    rintro r s₁ ⟨hreached, hF₁⟩
    cases r with
    | error e => rintro ⟨⟩
    | ok reached =>
      -- what the first one has done stays done while the others run
      have hrest := (ih hF₁).frame (F := fun s => reached = true → D i s)
        (fun s s' h h' hr => hD i s s' h (h' hr)) (fun s s' h h' hr => hD' i s s' h (h' hr))
        (fun hr => hreached (by rw [hr]))
      refine Emits.bind (hrest.mono ?_)
      rintro r s₂ ⟨hall, hfirst⟩
      cases r with
      | error e => rintro ⟨⟩
      | ok rest =>
        intro hr j hj
        have hboth : (reached && rest) = true := Except.ok.inj hr
        obtain ⟨hfirstReached, hrestReached⟩ := Bool.and_eq_true_iff.mp hboth
        rcases List.mem_cons.mp hj with rfl | hj
        · exact hfirst hfirstReached
        · exact hall (by rw [hrestReached]) j hj

/-- Programs of a list, of which nothing is to be known afterwards. -/
lemma tryAll_emits_any {ι : Type} {f : ι → Proc σ κ ε Unit} {l : List ι} {s₀ : σ}
    (hf : ∀ i ∈ l, ∀ s, (f i).Emits apply I G Spec Any s) :
    (tryAll f l).Emits apply I G Spec Any s₀ := by
  induction l generalizing s₀ with
  | nil => exact emits_pure
  | cons i l ih =>
    refine Emits.andThen (Emits.orElse ?_ fun _ _ => emits_pure) fun _ _ => ?_
    · exact (hf i List.mem_cons_self s₀).andThen fun _ _ => emits_pure
    · exact (ih fun j hj => hf j (List.mem_cons_of_mem i hj)).andThen fun _ _ => emits_pure

variable [Inhabited ε]

/-- The program after a look knows the store it saw. -/
lemma emits_read_post {f : σ → Proc σ κ ε β} {Q : Except ε β → σ → Prop} {s₀ : σ}
    (herr : ∀ s, Q (.error default) s)
    (h : ∀ s, I s₀ s → (f s).Emits apply I G Spec Q s) :
    (read >>= f).Emits apply I G Spec Q s₀ := by
  refine Emits.bind fun s hs => ⟨by simp, herr s, fun s' hs' _ => ⟨?_, herr s'⟩⟩
  obtain rfl : s = s' := by simpa using hs'
  exact h s hs

lemma emits_read {f : σ → Proc σ κ ε β} {s₀ : σ}
    (h : ∀ s, I s₀ s → (f s).Emits apply I G Spec Any s) :
    (read >>= f).Emits apply I G Spec Any s₀ :=
  emits_read_post (fun _ => trivial) h

/-- The program after a commit knows the store the commit left. -/
lemma emits_commit_post {c : κ} {f : σ → Proc σ κ ε β} {Q : Except ε β → σ → Prop} {s₀ : σ}
    (herr : ∀ s, Q (.error default) s) (hc : ∀ s, I s₀ s → Spec s c)
    (h : ∀ s s', I s₀ s → apply c s = some s' → G s s' → (f s').Emits apply I G Spec Q s') :
    (commit c >>= f).Emits apply I G Spec Q s₀ := by
  refine Emits.bind fun s hs => ⟨?_, herr s, fun s' hs' hg => ⟨?_, herr s'⟩⟩
  · rintro b ⟨⟩
    exact hc s hs
  · exact h s s' hs hs' (by simpa using hg)

lemma emits_commit {c : κ} {f : σ → Proc σ κ ε β} {s₀ : σ} (hc : ∀ s, I s₀ s → Spec s c)
    (h : ∀ s s', I s₀ s → apply c s = some s' → G s s' →
      (f s').Emits apply I G Spec Any s') :
    (commit c >>= f).Emits apply I G Spec Any s₀ :=
  emits_commit_post (fun _ => trivial) hc h

lemma emits_zoom_read {σ' κ' : Type} {get : σ → σ'} {put : κ' → κ} {f : σ' → Proc σ' κ' ε β}
    {s₀ : σ} (h : ∀ s, I s₀ s → ((f (get s)).zoom get put).Emits apply I G Spec Any s) :
    ((read >>= f).zoom get put).Emits apply I G Spec Any s₀ := by
  refine emits_zoom_stmt (fun _ _ _ hb => nomatch hb) (fun _ => trivial) fun s s' hs hs' _ => ?_
  obtain rfl : s = s' := by simpa using hs'
  exact h s hs

lemma emits_zoom_commit {σ' κ' : Type} {get : σ → σ'} {put : κ' → κ} {c : κ'}
    {f : σ' → Proc σ' κ' ε β} {s₀ : σ} (hc : ∀ s, I s₀ s → Spec s (put c))
    (h : ∀ s s', I s₀ s → apply (put c) s = some s' → G s s' →
      ((f (get s')).zoom get put).Emits apply I G Spec Any s') :
    ((commit c >>= f).zoom get put).Emits apply I G Spec Any s₀ := by
  refine emits_zoom_stmt (fun s hs b hb => ?_) (fun _ => trivial) fun s s' hs hs' hg => ?_
  · obtain rfl := Option.some.inj hb
    exact hc s hs
  · exact h s s' hs hs' (by simpa using hg)

end Emits

end Proc

end MeeoServer
