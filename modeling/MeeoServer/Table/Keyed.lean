/-
# Tables with a key

An element is put in the place of the one with the same key, or at the end.
-/
import Mathlib.Data.List.Basic

namespace MeeoServer.Table

variable {α κ : Type} [DecidableEq κ] (key : α → κ)

/-- `map.set` and `upsert`. -/
def put (a : α) (l : List α) : List α :=
  if key a ∈ l.map key then l.map fun b => if key b = key a then a else b else l ++ [a]

variable {key} {a : α} {l : List α} {k : κ}

/-- No key is lost. -/
lemma mem_map_put : k ∈ (put key a l).map key ↔ k = key a ∨ k ∈ l.map key := by
  unfold put
  split
  · next ha =>
    have hkeys : (l.map fun b => if key b = key a then a else b).map key = l.map key := by
      rw [List.map_map]
      refine List.map_congr_left fun b _ => ?_
      show key (if key b = key a then a else b) = key b
      split
      · next hsame => exact hsame.symm
      · rfl
    rw [hkeys]
    exact ⟨.inr, fun h => h.elim (fun h => h ▸ ha) id⟩
  · rw [List.map_append, List.mem_append, List.map_singleton, List.mem_singleton, or_comm]

/-- A table that is filled element by element. -/
lemma mem_map_foldl_put {start : List α} :
    k ∈ (l.foldl (fun table a => put key a table) start).map key ↔
      k ∈ l.map key ∨ k ∈ start.map key := by
  induction l generalizing start with
  | nil => simp
  | cons a l ih =>
    rw [List.foldl_cons, ih, mem_map_put, List.map_cons, List.mem_cons]
    tauto

end MeeoServer.Table
