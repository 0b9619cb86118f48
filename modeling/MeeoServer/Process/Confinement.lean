/-
# Programs that are confined to their part of a store

A request of one client is a program with a store and exceptions, in which the rows of another
client are to be left alone.  Three things are said of such a program at once: it keeps an
invariant of the store; it leaves a view of the store, the rows of the other client, as it was;
and it is not aware of a projection of the store, the one that takes these rows away: it returns
the same and ends in the projection of the store in which it would have ended.

The last two may depend on conditions, since a program may well leave rows alone that it knows
of.
-/
import Mathlib.Logic.Basic

namespace MeeoServer

section Programs

variable {ε σ α β : Type}

/-- The store in which a program ends, whether it returns or throws. -/
def endStore : EStateM.Result ε σ α → σ
  | .ok _ t => t
  | .error _ t => t

/-- What a program returns or throws. -/
def answerOf : EStateM.Result ε σ α → Except ε α
  | .ok a _ => .ok a
  | .error e _ => .error e

/-- The same result in a changed store. -/
def mapStore (π : σ → σ) : EStateM.Result ε σ α → EStateM.Result ε σ α
  | .ok a t => .ok a (π t)
  | .error e t => .error e (π t)

/-- `p`, started in `s`, keeps `I`; it leaves `view` as it was if `A`, and it is not aware of `π`
if `B`. -/
structure Confined {ν : Type} (I : σ → Prop) (view : σ → ν) (π : σ → σ) (A B : Prop)
    (p : EStateM ε σ α) (s : σ) : Prop where
  keeps : I (endStore (p s))
  leaves : A → view (endStore (p s)) = view s
  unaware : B → p (π s) = mapStore π (p s)

lemma get_bind_apply (f : σ → EStateM ε σ α) (s : σ) : (get >>= f : EStateM ε σ α) s = f s s := rfl

lemma map_eq_error {f : α → β} {p : EStateM ε σ α} {e : ε} {s t : σ} (h : p s = .error e t) :
    (f <$> p) s = .error e t := by
  show EStateM.map f p s = _
  unfold EStateM.map
  rw [h]

/-- A program that answers in the end with something else ends where it ended. -/
lemma endStore_bind_pure (p : EStateM ε σ α) (b : β) (s : σ) :
    endStore ((p >>= fun _ => (pure b : EStateM ε σ β)) s) = endStore (p s) := by
  show endStore (EStateM.bind p _ s) = _
  unfold EStateM.bind
  cases p s <;> rfl

variable {ν : Type} {I : σ → Prop} {view : σ → ν} {π : σ → σ} {A B : Prop} {s : σ}

lemma confined_pure (hs : I s) (a : α) :
    Confined I view π A B (pure a : EStateM ε σ α) s :=
  ⟨hs, fun _ => rfl, fun _ => rfl⟩

lemma confined_throw (hs : I s) (e : ε) :
    Confined I view π A B (throw e : EStateM ε σ α) s :=
  ⟨hs, fun _ => rfl, fun _ => rfl⟩

/-- The second program starts where the first one has ended. -/
lemma Confined.bind {p : EStateM ε σ α} {f : α → EStateM ε σ β} (hp : Confined I view π A B p s)
    (hf : ∀ a t, p s = .ok a t → I t → Confined I view π A B (f a) t) :
    Confined I view π A B (p >>= f) s := by
  have hrun : ∀ s, (p >>= f) s = match p s with
      | .ok a t => f a t
      | .error e t => .error e t := fun _ => rfl
  obtain ⟨hkeeps, hleaves, hunaware⟩ := hp
  cases hps : p s with
  | ok a t =>
    rw [hps] at hkeeps hleaves hunaware
    obtain ⟨hkeeps', hleaves', hunaware'⟩ := hf a t hps hkeeps
    refine ⟨?_, fun hA => ?_, fun hB => ?_⟩
    · rw [hrun, hps]
      exact hkeeps'
    · rw [hrun, hps]
      exact (hleaves' hA).trans (hleaves hA)
    · rw [hrun, hrun, hps, hunaware hB]
      exact hunaware' hB
  | error e t =>
    rw [hps] at hkeeps hleaves hunaware
    refine ⟨?_, fun hA => ?_, fun hB => ?_⟩
    · rw [hrun, hps]
      exact hkeeps
    · rw [hrun, hps]
      exact hleaves hA
    · rw [hrun, hrun, hps, hunaware hB]
      rfl

lemma Confined.map {p : EStateM ε σ α} (f : α → β) (hp : Confined I view π A B p s) :
    Confined I view π A B (f <$> p) s :=
  hp.bind fun a _ _ ht => confined_pure ht (f a)

lemma Confined.imp {p : EStateM ε σ α} {A' B' : Prop} (hp : Confined I view π A B p s)
    (hA : A' → A) (hB : B' → B) : Confined I view π A' B' p s :=
  ⟨hp.keeps, fun h => hp.leaves (hA h), fun h => hp.unaware (hB h)⟩

/-- In two stores with the same projection a program that is not aware of the rest answers the
same, and it ends in stores with the same projection. -/
lemma Confined.agree {A' B' : Prop} {p : EStateM ε σ α} {s' : σ}
    (hp : Confined I view π A B p s) (hp' : Confined I view π A' B' p s') (hB : B) (hB' : B')
    (hsame : π s = π s') :
    answerOf (p s) = answerOf (p s') ∧ π (endStore (p s)) = π (endStore (p s')) := by
  have hmap : mapStore π (p s) = mapStore π (p s') := by
    rw [← hp.unaware hB, ← hp'.unaware hB', hsame]
  revert hmap
  cases p s with
  | ok a t =>
    cases p s' with
    | ok a' t' =>
      intro hmap
      obtain ⟨rfl, hstore⟩ := EStateM.Result.ok.inj hmap
      exact ⟨rfl, hstore⟩
    | error e' t' => exact fun hmap => nomatch hmap
  | error e t =>
    cases p s' with
    | ok a' t' => exact fun hmap => nomatch hmap
    | error e' t' =>
      intro hmap
      obtain ⟨rfl, hstore⟩ := EStateM.Result.error.inj hmap
      exact ⟨rfl, hstore⟩

/-- The handler starts where the program has thrown. -/
lemma Confined.recover {p : EStateM ε σ α} {h : ε → EStateM ε σ α} (hp : Confined I view π A B p s)
    (hh : ∀ e t, p s = .error e t → I t → Confined I view π A B (h e) t) :
    Confined I view π A B (tryCatch p h) s := by
  have hrun : ∀ s, (tryCatch p h : EStateM ε σ α) s = match p s with
      | .ok a t => .ok a t
      | .error e t => h e t := by
    intro s
    show EStateM.tryCatch p h s = _
    unfold EStateM.tryCatch
    cases p s <;> rfl
  obtain ⟨hkeeps, hleaves, hunaware⟩ := hp
  cases hps : p s with
  | ok a t =>
    rw [hps] at hkeeps hleaves hunaware
    refine ⟨?_, fun hA => ?_, fun hB => ?_⟩
    · rw [hrun, hps]
      exact hkeeps
    · rw [hrun, hps]
      exact hleaves hA
    · rw [hrun, hrun, hps, hunaware hB]
      rfl
  | error e t =>
    rw [hps] at hkeeps hleaves hunaware
    obtain ⟨hkeeps', hleaves', hunaware'⟩ := hh e t hps hkeeps
    refine ⟨?_, fun hA => ?_, fun hB => ?_⟩
    · rw [hrun, hps]
      exact hkeeps'
    · rw [hrun, hps]
      exact (hleaves' hA).trans (hleaves hA)
    · rw [hrun, hrun, hps, hunaware hB]
      exact hunaware' hB

/-- A program that looks at the store goes on in the same way without the hidden part. -/
lemma confined_get {f : σ → EStateM ε σ α} (hsame : B → f (π s) = f s)
    (hf : Confined I view π A B (f s) s) :
    Confined I view π A B (get >>= f) s := by
  refine ⟨hf.keeps, hf.leaves, fun hB => ?_⟩
  show f (π s) (π s) = mapStore π (f s s)
  rw [hsame hB]
  exact hf.unaware hB

lemma confined_modify {g : σ → σ} (hkeeps : I (g s)) (hleaves : A → view (g s) = view s)
    (hcomm : B → g (π s) = π (g s)) :
    Confined I view π A B (modify g : EStateM ε σ PUnit) s :=
  ⟨hkeeps, hleaves, fun hB => congrArg (EStateM.Result.ok PUnit.unit) (hcomm hB)⟩

/-- What was computed before goes on, or throws. -/
lemma confined_ofExcept_bind {r : Except ε α} {f : α → EStateM ε σ β} (hs : I s)
    (hf : ∀ a, r = .ok a → Confined I view π A B (f a) s) :
    Confined I view π A B (ofExcept r >>= f) s := by
  cases r with
  | ok a =>
    refine (confined_pure hs a).bind fun _ _ hrun _ => ?_
    obtain ⟨rfl, rfl⟩ := EStateM.Result.ok.inj hrun
    exact hf a rfl
  | error e => exact (confined_throw hs e).bind fun _ _ hrun _ => nomatch hrun

end Programs

end MeeoServer
