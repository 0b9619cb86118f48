/-
# The pieces of a text between separators

Texts are often tidied by regular expressions: runs of some characters are replaced by a separator,
and the separators at the ends are removed.  None of these steps changes the pieces between the
separators; and a text without separators at its ends and without two separators in a row is these
pieces, joined (`intercalate_pieces`).
-/
import Mathlib.Data.List.Chain
import Mathlib.Data.List.Induction

namespace MeeoServer.Text

variable {α : Type} {P Q : α → Bool} {c d : α} {l l' : List α}

/-- What is between the separators, as far as there is something. -/
def pieces (Q : α → Bool) (l : List α) : List (List α) := (l.splitOnP Q).filter fun w => !w.isEmpty

/-- Every run of characters in `P` is replaced by `d`; `inRun` tells whether one has begun. -/
def replaceRuns (P : α → Bool) (d : α) (inRun : Bool) : List α → List α
  | [] => []
  | c :: l =>
    if P c then
      if inRun then replaceRuns P d true l else d :: replaceRuns P d true l
    else c :: replaceRuns P d false l

/-- Remove what is in `P` at both ends. -/
def trimEnds (P : α → Bool) (l : List α) : List α :=
  ((l.dropWhile P).reverse.dropWhile P).reverse

/-- The text begins with a piece. -/
def leads (Q : α → Bool) (l : List α) : Bool := l.head?.any fun c => !Q c

/-! ## Pieces -/

@[simp] lemma pieces_nil : pieces Q [] = [] := rfl

/-- A separator separates. -/
lemma pieces_append_cons (hc : Q c = true) :
    pieces Q (l ++ c :: l') = pieces Q l ++ pieces Q l' := by
  rw [pieces, List.splitOnP_append_cons l l' hc, List.filter_append]
  rfl

lemma pieces_cons_of_pos (hc : Q c = true) : pieces Q (c :: l) = pieces Q l :=
  pieces_append_cons (l := []) hc

lemma pieces_concat_of_pos (hc : Q c = true) : pieces Q (l ++ [c]) = pieces Q l := by
  rw [pieces_append_cons hc, pieces_nil, List.append_nil]

/-- What is no separator begins a piece, or belongs to the one that follows. -/
lemma pieces_cons_of_neg (hc : Q c = false) :
    pieces Q (c :: l) =
      if leads Q l then (pieces Q l).modifyHead (List.cons c) else [c] :: pieces Q l := by
  unfold pieces
  rw [List.splitOnP_cons_eq_if_modifyHead, if_neg (by simp [hc])]
  cases l with
  | nil => rfl
  | cons e l =>
    cases he : Q e with
    | true => simp [leads, he, List.splitOnP_cons_eq_if_modifyHead]
    | false =>
      obtain ⟨w, ws, hw⟩ := List.exists_cons_of_ne_nil (List.splitOnP_ne_nil Q l)
      simp [leads, he, hw, List.splitOnP_cons_eq_if_modifyHead]

/-- What begins with a piece has one. -/
lemma pieces_of_leads (h : leads Q l = true) : ∃ w ws, pieces Q l = w :: ws := by
  induction l with
  | nil => cases h
  | cons c l ih =>
    have hc : Q c = false := by simpa [leads] using h
    rw [pieces_cons_of_neg hc]
    split
    · rename_i hl
      obtain ⟨w, ws, hw⟩ := ih hl
      exact ⟨c :: w, ws, by rw [hw, List.modifyHead_cons]⟩
    · exact ⟨_, _, rfl⟩

/-- The pieces consist of what is no separator. -/
lemma mem_pieces (hw : l' ∈ pieces Q l) : l' ≠ [] ∧ ∀ c ∈ l', c ∈ l ∧ Q c = false := by
  induction l generalizing l' with
  | nil => cases hw
  | cons c l ih =>
    have hlater {w : List α} (hw : w ∈ pieces Q l) :
        w ≠ [] ∧ ∀ e ∈ w, e ∈ c :: l ∧ Q e = false :=
      ⟨(ih hw).1, fun e he => ⟨List.mem_cons_of_mem c ((ih hw).2 e he).1, ((ih hw).2 e he).2⟩⟩
    cases hc : Q c with
    | true => exact hlater (pieces_cons_of_pos hc ▸ hw)
    | false =>
      rw [pieces_cons_of_neg hc] at hw
      split at hw
      · rename_i hl
        obtain ⟨w, ws, hpieces⟩ := pieces_of_leads hl
        rw [hpieces, List.modifyHead_cons] at hw
        rcases List.mem_cons.mp hw with rfl | hw
        · refine ⟨List.cons_ne_nil c w, fun e he => ?_⟩
          rcases List.mem_cons.mp he with rfl | he
          · exact ⟨List.mem_cons_self, hc⟩
          · exact (hlater (hpieces ▸ List.mem_cons_self)).2 e he
        · exact hlater (hpieces ▸ List.mem_cons_of_mem w hw)
      · rcases List.mem_cons.mp hw with rfl | hw
        · refine ⟨List.cons_ne_nil c [], fun e he => ?_⟩
          rw [List.mem_singleton.mp he]
          exact ⟨List.mem_cons_self, hc⟩
        · exact hlater hw

lemma pieces_congr (h : ∀ c ∈ l, P c = Q c) : pieces P l = pieces Q l := by
  have hsplit : l.splitOnP P = l.splitOnP Q := by
    induction l with
    | nil => rfl
    | cons c l ih =>
      rw [List.splitOnP_cons_eq_if_modifyHead, List.splitOnP_cons_eq_if_modifyHead,
        h c List.mem_cons_self, ih fun e he => h e (List.mem_cons_of_mem c he)]
  rw [pieces, pieces, hsplit]

/-- A text without separators is one piece. -/
lemma pieces_of_word (hne : l ≠ []) (hl : ∀ c ∈ l, Q c = false) : pieces Q l = [l] := by
  rw [pieces, List.splitOnP_eq_singleton hl, List.filter_cons_of_pos (by simpa using hne),
    List.filter_nil]

/-- What was joined comes apart again. -/
lemma pieces_intercalate {ws : List (List α)} (hd : Q d = true)
    (hws : ∀ w ∈ ws, w ≠ [] ∧ ∀ c ∈ w, Q c = false) : pieces Q ([d].intercalate ws) = ws := by
  induction ws with
  | nil => rfl
  | cons w ws ih =>
    obtain ⟨hne, hw⟩ := hws w List.mem_cons_self
    by_cases hnil : ws = []
    · rw [hnil, List.intercalate_singleton, pieces_of_word hne hw]
    · rw [List.intercalate_cons_of_ne_nil hnil, List.append_assoc, List.singleton_append,
        pieces_append_cons hd, pieces_of_word hne hw,
        ih fun w' hw' => hws w' (List.mem_cons_of_mem w hw'), List.singleton_append]

/-! ## Tidying keeps the pieces -/

lemma leads_replaceRuns (hP : ∀ c, P c = true → Q c = true) (hd : Q d = true) :
    leads Q (replaceRuns P d false l) = leads Q l := by
  cases l with
  | nil => rfl
  | cons c l =>
    unfold replaceRuns
    split
    · rename_i hc
      simp [leads, hd, hP c hc]
    · rfl

/-- Separators may be replaced by separators, and runs of them by one. -/
lemma pieces_replaceRuns (hP : ∀ c, P c = true → Q c = true) (hd : Q d = true) (inRun : Bool) :
    pieces Q (replaceRuns P d inRun l) = pieces Q l := by
  induction l generalizing inRun with
  | nil => rfl
  | cons c l ih =>
    unfold replaceRuns
    split
    · rename_i hc
      rw [pieces_cons_of_pos (hP c hc)]
      split
      · exact ih true
      · rw [pieces_cons_of_pos hd]
        exact ih true
    · cases hc : Q c with
      | true => rw [pieces_cons_of_pos hc, pieces_cons_of_pos hc, ih false]
      | false =>
        rw [pieces_cons_of_neg hc, pieces_cons_of_neg hc, ih false, leads_replaceRuns hP hd]

lemma pieces_dropWhile (hP : ∀ c, P c = true → Q c = true) :
    pieces Q (l.dropWhile P) = pieces Q l := by
  induction l with
  | nil => rfl
  | cons c l ih =>
    rw [List.dropWhile_cons]
    split
    · rename_i hc
      rw [ih, pieces_cons_of_pos (hP c hc)]
    · rfl

lemma pieces_trimEnds (hP : ∀ c, P c = true → Q c = true) :
    pieces Q (trimEnds P l) = pieces Q l := by
  have htrail (m : List α) : pieces Q (m.reverse.dropWhile P).reverse = pieces Q m := by
    induction m using List.reverseRecOn with
    | nil => rfl
    | append_singleton m c ih =>
      rw [List.reverse_append, List.reverse_singleton, List.singleton_append, List.dropWhile_cons]
      split
      · rename_i hc
        rw [ih, pieces_concat_of_pos (hP c hc)]
      · rw [List.reverse_cons, List.reverse_reverse]
  rw [trimEnds, htrail, pieces_dropWhile hP]

/-! ## Tidy texts -/

/-- No separator at the ends, and no two in a row. -/
structure Tidy (Q : α → Bool) (l : List α) : Prop where
  head : ∀ c ∈ l.head?, Q c = false
  last : ∀ c ∈ l.getLast?, Q c = false
  chain : l.IsChain fun c e => Q c = false ∨ Q e = false

lemma Tidy.tail (h : Tidy Q (c :: l)) (hl : ∀ e ∈ l.head?, Q e = false) : Tidy Q l where
  head := hl
  last e he := h.last e (List.mem_getLast?_cons he)
  chain := h.chain.tail

/-- **A tidy text is made of its pieces**, if there is one separator. -/
theorem intercalate_pieces (hQ : ∀ c, Q c = true → c = d) (h : Tidy Q l) :
    [d].intercalate (pieces Q l) = l := by
  induction l using List.twoStepInduction with
  | nil => rfl
  | singleton c =>
    rw [pieces_cons_of_neg (h.head c rfl)]
    rfl
  | cons_cons c e l ih ih' =>
    have hc : Q c = false := h.head c rfl
    cases he : Q e with
    | false =>
      -- the piece of `c` goes on
      have hleads : leads Q (e :: l) = true := by simp [leads, he]
      have htail := ih' e (h.tail fun e' he' => by simpa [← Option.some.inj he'] using he)
      obtain ⟨w, ws, hw⟩ := pieces_of_leads hleads
      rw [hw] at htail
      rw [pieces_cons_of_neg hc, if_pos hleads, hw, List.modifyHead_cons,
        List.intercalate_cons_cons_left, htail]
    | true =>
      -- the piece of `c` ends, and another one begins
      obtain rfl := hQ e he
      have hleads : leads Q (e :: l) = false := by simp [leads, he]
      cases l with
      | nil => exact nomatch he.symm.trans (h.last e rfl)
      | cons e' l =>
        have hchain := (List.isChain_cons_cons.mp h.chain.tail).1
        have he' : Q e' = false := hchain.resolve_left (by simp [he])
        have htail : Tidy Q (e' :: l) :=
          { head := fun x hx => by simpa [← Option.some.inj hx] using he'
            last := fun x hx => h.last x
              (List.mem_getLast?_cons (List.mem_getLast?_cons hx))
            chain := h.chain.tail.tail }
        obtain ⟨w, ws, hw⟩ := pieces_of_leads (Q := Q) (l := e' :: l) (by simp [leads, he'])
        rw [pieces_cons_of_neg hc, hleads, if_neg Bool.false_ne_true, pieces_cons_of_pos he]
        rw [List.intercalate_cons_of_ne_nil (by simp [hw]), ih htail]
        rfl

/-! ### What tidying does -/

lemma mem_replaceRuns {inRun : Bool} (hc : c ∈ replaceRuns P d inRun l) :
    c = d ∨ c ∈ l ∧ P c = false := by
  induction l generalizing inRun with
  | nil => cases hc
  | cons e l ih =>
    have hlater {b : Bool} (hc : c ∈ replaceRuns P d b l) : c = d ∨ c ∈ e :: l ∧ P c = false :=
      (ih hc).imp_right fun h => ⟨List.mem_cons_of_mem e h.1, h.2⟩
    unfold replaceRuns at hc
    split at hc
    · split at hc
      · exact hlater hc
      · rcases List.mem_cons.mp hc with rfl | hc
        · exact .inl rfl
        · exact hlater hc
    · rename_i he
      rcases List.mem_cons.mp hc with rfl | hc
      · exact .inr ⟨List.mem_cons_self, by simpa using he⟩
      · exact hlater hc

/-- What is in `P` does not come in runs any more. -/
lemma isChain_replaceRuns (inRun : Bool) :
    ((replaceRuns P d inRun l).IsChain fun c e => P c = false ∨ P e = false) ∧
      (inRun = true → ∀ c ∈ (replaceRuns P d inRun l).head?, P c = false) := by
  induction l generalizing inRun with
  | nil => exact ⟨List.isChain_nil, fun _ _ h => nomatch h⟩
  | cons c l ih =>
    unfold replaceRuns
    split
    · split
      · exact ⟨(ih true).1, fun _ => (ih true).2 rfl⟩
      · rename_i hnot
        refine ⟨List.isChain_cons.mpr ⟨fun e he => .inr ((ih true).2 rfl e he), (ih true).1⟩,
          fun hrun => absurd hrun hnot⟩
    · rename_i hc
      have hc : P c = false := by simpa using hc
      refine ⟨List.isChain_cons.mpr ⟨fun e _ => .inl hc, (ih false).1⟩, fun _ e he => ?_⟩
      rwa [← Option.some.inj he]

/-- What is left is the beginning of what is left when the front has been trimmed. -/
lemma trimEnds_isPrefix : trimEnds P l <+: l.dropWhile P := by
  have hback := List.dropWhile_suffix P (l := (l.dropWhile P).reverse)
  rwa [← List.reverse_prefix, List.reverse_reverse] at hback

lemma head_dropWhile : ∀ c ∈ (l.dropWhile P).head?, P c = false := by
  intro c hc
  have hnot := List.head?_dropWhile_not P l
  rwa [hc] at hnot

lemma head_trimEnds : ∀ c ∈ (trimEnds P l).head?, P c = false := by
  intro c hc
  obtain ⟨rest, hrest⟩ := trimEnds_isPrefix (P := P) (l := l)
  refine head_dropWhile (l := l) c ?_
  rw [← hrest, List.head?_append, hc]
  rfl

lemma last_trimEnds : ∀ c ∈ (trimEnds P l).getLast?, P c = false := by
  intro c hc
  rw [trimEnds, List.getLast?_reverse] at hc
  exact head_dropWhile c hc

lemma trimEnds_eq_self (hhead : ∀ c ∈ l.head?, P c = false)
    (hlast : ∀ c ∈ l.getLast?, P c = false) : trimEnds P l = l := by
  have hdrop {m : List α} (hm : ∀ c ∈ m.head?, P c = false) : m.dropWhile P = m := by
    cases m with
    | nil => rfl
    | cons c m => rw [List.dropWhile_cons_of_neg (by simp [hm c rfl])]
  rw [trimEnds, hdrop hhead, hdrop fun c hc => hlast c (List.head?_reverse ▸ hc),
    List.reverse_reverse]

lemma trimEnds_trimEnds : trimEnds P (trimEnds P l) = trimEnds P l :=
  trimEnds_eq_self head_trimEnds last_trimEnds

/-- Texts without two separators in a row are tidy when their ends have been trimmed. -/
lemma tidy_trimEnds (h : l.IsChain fun c e => P c = false ∨ P e = false) :
    Tidy P (trimEnds P l) where
  head := head_trimEnds
  last := last_trimEnds
  chain := h.infix (trimEnds_isPrefix.isInfix.trans (List.dropWhile_suffix P).isInfix)

end MeeoServer.Text
