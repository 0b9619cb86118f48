/-
# Transactions that are rolled back

A transaction runs a callback on the tables.  What the callback has written before it throws is
in its working copy, and is lost with it: the tables are then as they were when the transaction
began.
-/
import MeeoServer.Process.Proc

namespace MeeoServer

/-- The callback of a transaction.  Its working copy survives a throw. -/
abbrev Callback (σ ε : Type) := ExceptT ε (StateM σ)

namespace Callback

variable {σ ε α β : Type}

/-- What the callback ends with, and its working copy. -/
def outcome (callback : Callback σ ε α) (s : σ) : Except ε α × σ := callback.run.run s

/-- A statement that may fail; it throws `default` then. -/
def execute [Inhabited ε] (statement : σ → Option σ) : Callback σ ε Unit :=
  ExceptT.mk fun s =>
    match statement s with
    | some s' => (.ok (), s')
    | none => (.error default, s)

lemma outcome_get {f : σ → Callback σ ε α} {s : σ} : outcome (get >>= f) s = (f s).outcome s := rfl

lemma outcome_bind {callback : Callback σ ε α} {f : α → Callback σ ε β} {s : σ} :
    outcome (callback >>= f) s =
      match callback.outcome s with
      | (.ok a, s') => (f a).outcome s'
      | (.error e, s') => (.error e, s') := by
  show StateT.run (callback.run >>= ExceptT.bindCont f) s = _
  rw [StateT.run_bind]
  show StateT.run (ExceptT.bindCont f (callback.outcome s).1) (callback.outcome s).2 = _
  rcases callback.outcome s with ⟨e | a, s'⟩
  · rfl
  · rfl

section Execute

variable [Inhabited ε] {statement : σ → Option σ} {s s' : σ}

lemma outcome_execute (h : statement s = some s') :
    (execute statement : Callback σ ε Unit).outcome s = (.ok (), s') := by
  show (match statement s with
    | some s' => ((.ok (), s') : Except ε Unit × σ)
    | none => (.error default, s)) = _
  rw [h]

lemma outcome_execute_failed (h : statement s = none) :
    (execute statement : Callback σ ε Unit).outcome s = (.error default, s) := by
  show (match statement s with
    | some s' => ((.ok (), s') : Except ε Unit × σ)
    | none => (.error default, s)) = _
  rw [h]

end Execute

end Callback

section Transaction

variable {σ κ ε α : Type}

/-- `$transaction`: commit what the callback has written, or roll it back if it throws. -/
def transaction (callback : Callback σ ε α) (s : σ) : Except ε α × σ :=
  match callback.outcome s with
  | (.ok a, s') => (.ok a, s')
  | (.error e, _) => (.error e, s)

lemma transaction_fst (callback : Callback σ ε α) (s : σ) :
    (transaction callback s).1 = (callback.outcome s).1 := by
  unfold transaction
  split <;> rename_i h <;> rw [h]

/-- **A transaction that throws changes nothing**, whatever its callback has written. -/
lemma transaction_of_error {callback : Callback σ ε α} {s : σ} {e : ε}
    (h : (transaction callback s).1 = .error e) : (transaction callback s).2 = s := by
  unfold transaction at h ⊢
  split at h
  · cases h
  · rfl

/-- Run a program alone, failing only where the store rejects a batch. -/
def Proc.perform (apply : κ → σ → Option σ) : Proc σ κ ε α → σ → Except ε α × σ
  | .done r, s => (r, s)
  | .stmt c k, s =>
    match effect apply c s with
    | some s' => (k (some s')).perform apply s'
    | none => (k none).perform apply s

variable {apply : κ → σ → Option σ} {β : Type}

lemma perform_bind (p : Proc σ κ ε α) (f : α → Proc σ κ ε β) {s : σ} :
    (p >>= f).perform apply s =
      match p.perform apply s with
      | (.ok a, s') => (f a).perform apply s'
      | (.error e, s') => (.error e, s') := by
  show (p.bind f).perform apply s = _
  induction p generalizing s with
  | done r => cases r <;> rfl
  | stmt c k ih =>
    simp only [Proc.bind, Proc.perform]
    cases Proc.effect apply c s with
    | none => exact ih none
    | some s' => exact ih (some s')

/-- A handler goes on with the store that the program has left. -/
lemma perform_tryCatch (p : Proc σ κ ε α) (h : ε → Proc σ κ ε α) {s : σ} :
    (p.tryCatch h).perform apply s =
      match p.perform apply s with
      | (.ok a, s') => (.ok a, s')
      | (.error e, s') => (h e).perform apply s' := by
  induction p generalizing s with
  | done r => cases r <;> rfl
  | stmt c k ih =>
    simp only [Proc.tryCatch, Proc.perform]
    cases Proc.effect apply c s with
    | none => exact ih none
    | some s' => exact ih (some s')

/-- A program whose exceptions are swallowed returns, and leaves what it has left. -/
lemma perform_swallow (p : Proc σ κ ε Unit) {s : σ} :
    (p.tryCatch fun _ => pure ()).perform apply s = (.ok (), (p.perform apply s).2) := by
  rw [perform_tryCatch]
  rcases p.perform apply s with ⟨_ | _, _⟩ <;> rfl

variable [Inhabited ε]

lemma perform_read {f : σ → Proc σ κ ε α} {s : σ} :
    (Proc.read >>= f).perform apply s = (f s).perform apply s := rfl

lemma perform_commit_bind {c : κ} {f : σ → Proc σ κ ε α} {s : σ} :
    (Proc.commit c >>= f).perform apply s =
      match apply c s with
      | some s' => (f s').perform apply s'
      | none => (.error default, s) := by
  show Proc.perform apply (.stmt (some c) _) s = _
  simp only [Proc.perform, Proc.effect_some]
  cases apply c s <;> rfl

lemma perform_commit {c : κ} {s : σ} :
    (do let _ ← Proc.commit c; pure () : Proc σ κ ε Unit).perform apply s =
      transaction (Callback.execute (apply c)) s := by
  rw [perform_commit_bind]
  cases h : apply c s with
  | some s' =>
    rw [transaction, Callback.outcome_execute h]
    rfl
  | none =>
    rw [transaction, Callback.outcome_execute_failed h]

/-- A transaction of one statement leaves what the statement leaves, if it does not fail. -/
lemma transaction_execute_snd {statement : σ → Option σ} {s : σ} :
    (transaction (Callback.execute statement : Callback σ ε Unit) s).2 =
      (statement s).getD s := by
  cases h : statement s with
  | some s' => rw [transaction, Callback.outcome_execute h]; rfl
  | none => rw [transaction, Callback.outcome_execute_failed h]; rfl

end Transaction

end MeeoServer
