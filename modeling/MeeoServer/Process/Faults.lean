/-
# Statements that fail

A program that runs alone, where the database may fail at any of its statements: `faults` says at
which.  A statement that fails changes nothing, and the program receives `none`, as it does for a
batch that the store rejects.  What was written before it stays written, unless the program is
the callback of a transaction.
-/
import MeeoServer.Process.Transaction

namespace MeeoServer

/-- Which statements fail, counted from the present one. -/
abbrev Faults := ℕ → Bool

namespace Faults

def none : Faults := fun _ => false

/-- The same, counted from the next statement. -/
def next (faults : Faults) : Faults := fun n => faults (n + 1)

lemma next_none : none.next = none := rfl

end Faults

namespace Proc

variable {σ κ ε α β : Type} (apply : κ → σ → Option σ)

/-- What a statement leaves, if it does not fail. -/
def faultyEffect (faults : Faults) (c : Option κ) (s : σ) : Option σ :=
  if faults 0 then none else effect apply c s

/-- What a program ends with, what may still fail after it, and the store. -/
def faulty : Proc σ κ ε α → Faults → σ → Except ε α × Faults × σ
  | .done r, faults, s => (r, faults, s)
  | .stmt c k, faults, s =>
    match faultyEffect apply faults c s with
    | some s' => (k (some s')).faulty faults.next s'
    | none => (k none).faulty faults.next s

/-- What a program ends with, and the store. -/
def runFaulty (p : Proc σ κ ε α) (faults : Faults) (s : σ) : Except ε α × σ :=
  ((p.faulty apply faults s).1, (p.faulty apply faults s).2.2)

/-- A program as the callback of a transaction. -/
def callback (p : Proc σ κ ε α) (faults : Faults) : Callback σ ε α :=
  ExceptT.mk fun s => p.runFaulty apply faults s

variable {apply} {faults : Faults} {s : σ}

lemma outcome_callback (p : Proc σ κ ε α) :
    (p.callback apply faults).outcome s = p.runFaulty apply faults s := rfl

/-- The transaction keeps what the program leaves if it returns, and nothing else. -/
lemma transaction_callback (p : Proc σ κ ε α) :
    transaction (p.callback apply faults) s =
      match p.faulty apply faults s with
      | (.ok a, _, s') => (.ok a, s')
      | (.error e, _, _) => (.error e, s) := by
  unfold transaction
  rw [outcome_callback, runFaulty]
  rcases p.faulty apply faults s with ⟨e | a, _, s'⟩
  · rfl
  · rfl

lemma faulty_bind (p : Proc σ κ ε α) (f : α → Proc σ κ ε β) :
    (p >>= f).faulty apply faults s =
      match p.faulty apply faults s with
      | (.ok a, faults', s') => (f a).faulty apply faults' s'
      | (.error e, faults', s') => (.error e, faults', s') := by
  show (p.bind f).faulty apply faults s = _
  induction p generalizing faults s with
  | done r => cases r <;> rfl
  | stmt c k ih =>
    simp only [bind, faulty]
    cases faultyEffect apply faults c s with
    | none => exact ih none
    | some s' => exact ih (some s')

@[simp] lemma faulty_pure (a : α) :
    (pure a : Proc σ κ ε α).faulty apply faults s = (.ok a, faults, s) := rfl

@[simp] lemma faulty_throw (e : ε) :
    (throw e : Proc σ κ ε α).faulty apply faults s = (.error e, faults, s) := rfl

section Statements

variable [Inhabited ε] {f : σ → Proc σ κ ε α}

@[simp] lemma faulty_read : (read >>= f).faulty apply faults s =
    if faults 0 then (.error default, faults.next, s)
    else (f s).faulty apply faults.next s := by
  rw [faulty_bind, read, faulty, faultyEffect]
  cases faults 0 <;> rfl

@[simp] lemma faulty_commit {c : κ} : (commit c >>= f).faulty apply faults s =
    match faultyEffect apply faults (some c) s with
    | some s' => (f s').faulty apply faults.next s'
    | none => (.error default, faults.next, s) := by
  rw [faulty_bind, commit, faulty]
  cases faultyEffect apply faults (some c) s <;> rfl

/-- A program of one statement. -/
lemma runFaulty_commit_pure {c : κ} {g : σ → α} :
    (commit c >>= fun s => pure (g s) : Proc σ κ ε α).runFaulty apply faults s =
      match if faults 0 then none else apply c s with
      | some s' => (.ok (g s'), s')
      | none => (.error default, s) := by
  rw [runFaulty, faulty_commit, faultyEffect, effect_some]
  cases (if faults 0 = true then none else apply c s) <;> rfl

/-- A program that goes on after a statement. -/
lemma runFaulty_commit {c : κ} : (commit c >>= f).runFaulty apply faults s =
    match if faults 0 then none else apply c s with
    | some s' => (f s').runFaulty apply faults.next s'
    | none => (.error default, s) := by
  rw [runFaulty, faulty_commit, faultyEffect, effect_some]
  cases (if faults 0 = true then none else apply c s) <;> rfl

lemma runFaulty_read : (read >>= f).runFaulty apply faults s =
    if faults 0 then (.error default, s) else (f s).runFaulty apply faults.next s := by
  rw [runFaulty, faulty_read]
  cases faults 0 <;> rfl

end Statements

/-! ## Programs that return -/

section Returns

variable {faults' : Faults} {t : σ}

lemma faulty_bind_eq_ok {p : Proc σ κ ε α} {f : α → Proc σ κ ε β} {b : β}
    (h : (p >>= f).faulty apply faults s = (.ok b, faults', t)) :
    ∃ a φ u, p.faulty apply faults s = (.ok a, φ, u) ∧
      (f a).faulty apply φ u = (.ok b, faults', t) := by
  rw [faulty_bind] at h
  split at h
  · rename_i a φ u hp
    exact ⟨a, φ, u, hp, h⟩
  · cases h

variable [Inhabited ε] {f : σ → Proc σ κ ε α} {a : α}

lemma faulty_read_eq_ok_iff : (read >>= f).faulty apply faults s = (.ok a, faults', t) ↔
    faults 0 = false ∧ (f s).faulty apply faults.next s = (.ok a, faults', t) := by
  rw [faulty_read]
  cases faults 0 with
  | false => exact ⟨fun h => ⟨rfl, h⟩, And.right⟩
  | true => exact ⟨fun h => (nomatch h), fun h => (nomatch h.1)⟩

lemma faulty_commit_eq_ok_iff {c : κ} :
    (commit c >>= f).faulty apply faults s = (.ok a, faults', t) ↔
      faults 0 = false ∧ ∃ s', apply c s = some s' ∧
        (f s').faulty apply faults.next s' = (.ok a, faults', t) := by
  rw [faulty_commit, faultyEffect]
  cases faults 0 with
  | false =>
    rw [if_neg (by decide), effect_some]
    cases apply c s with
    | none => exact ⟨fun h => (nomatch h), fun ⟨_, _, h, _⟩ => (nomatch h)⟩
    | some s' => exact ⟨fun h => ⟨rfl, s', rfl, h⟩, fun ⟨_, _, h, hf⟩ => Option.some.inj h ▸ hf⟩
  | true => exact ⟨fun h => (nomatch h), fun h => (nomatch h.1)⟩

end Returns

/-! ## Runs in which nothing fails -/

section NoFaults

variable [Inhabited ε] {f : σ → Proc σ κ ε α}

lemma faulty_read_none :
    (read >>= f).faulty apply Faults.none s = (f s).faulty apply Faults.none s := faulty_read

lemma faulty_commit_none {c : κ} {s' : σ} (h : apply c s = some s') :
    (commit c >>= f).faulty apply Faults.none s = (f s').faulty apply Faults.none s' := by
  rw [faulty_commit, faultyEffect, if_neg (by decide), effect_some, h]
  rfl

end NoFaults

lemma faultyEffect_none (c : Option κ) :
    faultyEffect apply Faults.none c s = effect apply c s := if_neg (by decide)

/-- Where nothing fails, only the store rejects a batch. -/
lemma perform_eq_runFaulty (p : Proc σ κ ε α) :
    p.perform apply s = p.runFaulty apply Faults.none s := by
  induction p generalizing s with
  | done r => rfl
  | stmt c k ih =>
    unfold perform runFaulty
    simp only [faulty, faultyEffect_none]
    cases effect apply c s with
    | none => exact ih none
    | some s' => exact ih (some s')

end Proc

end MeeoServer
