/-
# Noninterference

A server draws values that an observer is not supposed to learn, and holds data that does not
concern it.  The observer chooses each of its requests by what it has seen so far; between its
requests the rest of the world acts.  Two runs of the server, side by side, differ in the hidden
values.  If a relation between the stores is kept by every step, and related stores give the
observer the same answers, then the observer sees the same in both runs, and in particular asks
for the same.

`Responder.Along` says that a condition holds of every step of two such runs; `Unwinding` is what
has to be proved of one step, and `Unwinding.run` is the conclusion about whole runs.
-/
import Mathlib.Data.List.Basic

namespace MeeoServer

/-- A server: what it answers to a request, with the value it draws for it, and what the rest of
the world does to its store. -/
structure Responder (σ ρ δ ω ε : Type) where
  serve : σ → ρ → δ → ω × σ
  environ : σ → ε → σ

/-- What an observer has seen: its requests and the answers, in order. -/
abbrev View (ρ ω : Type) := List (ρ × ω)

/-- One step of a run: the observer makes a request, or the rest of the world acts. -/
inductive Turn (δ ε : Type) where
  | observer (draw : δ)
  | environ (e : ε)

/-- One step of two runs side by side. -/
inductive Twin (δ ε : Type) where
  | observer (draw draw' : δ)
  | environ (e e' : ε)

namespace Twin

variable {δ ε : Type}

def left : Twin δ ε → Turn δ ε
  | observer draw _ => .observer draw
  | environ e _ => .environ e

def right : Twin δ ε → Turn δ ε
  | observer _ draw' => .observer draw'
  | environ _ e' => .environ e'

end Twin

namespace Responder

variable {σ ρ δ ω ε : Type} (M : Responder σ ρ δ ω ε) (ask : View ρ ω → ρ)

/-- A run against an observer that asks by what it has seen: what it sees in the end, and the
last store. -/
def run : List (Turn δ ε) → σ → View ρ ω → View ρ ω × σ
  | [], s, view => (view, s)
  | .observer draw :: turns, s, view =>
    let answer := M.serve s (ask view) draw
    run turns answer.2 (view ++ [(ask view, answer.1)])
  | .environ e :: turns, s, view => run turns (M.environ s e) view

/-- Along two runs side by side every request of the observer meets `O`, and every step of the
rest of the world meets `N`. -/
def Along (O : σ → σ → ρ → δ → δ → Prop) (N : σ → σ → ε → ε → Prop) :
    List (Twin δ ε) → σ → σ → View ρ ω → Prop
  | [], _, _, _ => True
  | .observer draw draw' :: twins, s, s', view =>
    O s s' (ask view) draw draw' ∧
      Along O N twins (M.serve s (ask view) draw).2 (M.serve s' (ask view) draw').2
        (view ++ [(ask view, (M.serve s (ask view) draw).1)])
  | .environ e e' :: twins, s, s', view =>
    N s s' e e' ∧ Along O N twins (M.environ s e) (M.environ s' e') view

variable {M ask} {O : σ → σ → ρ → δ → δ → Prop} {N : σ → σ → ε → ε → Prop}

/-- What the condition says of every answer holds of everything the observer sees. -/
lemma Along.view {Q : ρ × ω → Prop}
    (hQ : ∀ s s' r draw draw', O s s' r draw draw' → Q (r, (M.serve s r draw).1))
    {twins : List (Twin δ ε)} {s s' : σ} {view : View ρ ω}
    (h : M.Along ask O N twins s s' view) (hview : ∀ x ∈ view, Q x) :
    ∀ x ∈ (M.run ask (twins.map Twin.left) s view).1, Q x := by
  induction twins generalizing s s' view with
  | nil => exact hview
  | cons twin twins ih =>
    cases twin with
    | observer draw draw' =>
      obtain ⟨hstep, hrest⟩ := h
      refine ih hrest fun x hx => ?_
      rcases List.mem_append.mp hx with hx | hx
      · exact hview x hx
      · obtain rfl := List.mem_singleton.mp hx
        exact hQ s s' _ draw draw' hstep
    | environ e e' => exact ih h.2 hview

/-- What one step has to satisfy: `E` is kept, and the observer cannot tell related stores
apart. -/
structure Unwinding (M : Responder σ ρ δ ω ε) (E : σ → σ → Prop)
    (O : σ → σ → ρ → δ → δ → Prop) (N : σ → σ → ε → ε → Prop) : Prop where
  observer : ∀ {s s' r draw draw'}, E s s' → O s s' r draw draw' →
    (M.serve s r draw).1 = (M.serve s' r draw').1 ∧
      E (M.serve s r draw).2 (M.serve s' r draw').2
  environ : ∀ {s s' e e'}, E s s' → N s s' e e' → E (M.environ s e) (M.environ s' e')

/-- **Noninterference.**  Two runs from related stores look the same to the observer, and end
in related stores. -/
theorem Unwinding.run {E : σ → σ → Prop} (h : Unwinding M E O N) {twins : List (Twin δ ε)}
    {s s' : σ} {view : View ρ ω} (hs : E s s') (halong : M.Along ask O N twins s s' view) :
    (M.run ask (twins.map Twin.left) s view).1 = (M.run ask (twins.map Twin.right) s' view).1 ∧
      E (M.run ask (twins.map Twin.left) s view).2
        (M.run ask (twins.map Twin.right) s' view).2 := by
  induction twins generalizing s s' view with
  | nil => exact ⟨rfl, hs⟩
  | cons twin twins ih =>
    cases twin with
    | observer draw draw' =>
      obtain ⟨hstep, hrest⟩ := halong
      obtain ⟨hanswer, hnext⟩ := h.observer hs hstep
      have hruns := ih hnext hrest
      -- both runs go on from the same view
      have hright : M.run ask ((Twin.observer draw draw' :: twins).map Twin.right) s' view =
          M.run ask (twins.map Twin.right) (M.serve s' (ask view) draw').2
            (view ++ [(ask view, (M.serve s (ask view) draw).1)]) := by
        rw [hanswer]
        rfl
      rw [hright]
      exact hruns
    | environ e e' => exact ih (h.environ hs halong.1) halong.2

end Responder

end MeeoServer
