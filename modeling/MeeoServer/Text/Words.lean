/-
# The words of a text

Words are separated by blanks; blanks that follow each other separate no more than one does.
-/
import Mathlib.Data.List.Basic
import Mathlib.Data.String.Basic

namespace MeeoServer.Text

def words (s : String) : List String := ((s.toList.splitOn ' ').filter (· ≠ [])).map String.ofList

@[simp] lemma words_empty : words "" = [] := rfl

/-- A text without blanks is one word. -/
lemma words_eq_singleton {s : String} (hblank : ' ' ∉ s.toList) (hne : s.toList ≠ []) :
    words s = [s] := by
  rw [words, List.splitOn_eq_singleton hblank, List.filter_cons_of_pos (by simpa using hne),
    List.filter_nil, List.map_singleton, String.ofList_toList]

lemma words_append_blank (s t : String) : words (s ++ " " ++ t) = words s ++ words t := by
  have hlist : (s ++ " " ++ t).toList = s.toList ++ ' ' :: t.toList := by
    rw [String.toList_append, String.toList_append, List.append_assoc]
    rfl
  rw [words, hlist, List.splitOn_append_cons_self, List.filter_append, List.map_append]
  rfl

lemma words_intercalate (parts : List String) :
    words (" ".intercalate parts) = parts.flatMap words := by
  induction parts with
  | nil => rfl
  | cons s parts ih =>
    by_cases hnil : parts = []
    · rw [hnil, String.intercalate_singleton, List.flatMap_singleton]
    · rw [String.intercalate_cons_of_ne_nil hnil, words_append_blank, ih, List.flatMap_cons]

end MeeoServer.Text
