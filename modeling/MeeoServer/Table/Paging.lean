/-
# Paging through a list that grows

A list is read in pages.  A page begins after a cursor, the key of the last entry of the page
before; it ends the walk if nothing is left behind it.  Between two pages entries may be added
anywhere, so each page is taken from a list of which the one before is a sublist.

What the walk shows lies between the first list and the last one: nothing that was there from the
beginning is left out, nothing is shown twice, and the order is that of the list.
-/
import Mathlib.Data.List.Chain
import MeeoServer.Table.Sorting

namespace MeeoServer.Table

variable {α κ : Type} (key : α → κ)

section Keys

variable {key} {l : List α} {a : α}

/-- No entry before `a` has its key. -/
lemma before_ne (hl : (l.map key).Nodup) {before rest : List α} (h : l = before ++ a :: rest) :
    ∀ b ∈ before, key b ≠ key a := by
  intro b hb heq
  subst h
  rw [List.map_append, List.map_cons] at hl
  refine List.disjoint_of_nodup_append hl (List.mem_map_of_mem hb) ?_
  rw [heq]
  exact List.mem_cons_self

/-- The last entry of a page is an entry of the list. -/
lemma cursor_mem {page : List α} (hpage : page.Sublist l) :
    ∀ c ∈ page.getLast?.map key, c ∈ l.map key := by
  intro c hc
  obtain ⟨a, ha, rfl⟩ := Option.map_eq_some_iff.mp hc
  exact List.mem_map_of_mem (hpage.subset (List.mem_of_getLast? ha))

end Keys

variable [DecidableEq κ]

/-- The entries after a cursor. -/
def after (cursor : Option κ) (l : List α) : List α :=
  match cursor with
  | none => l
  | some c => (l.dropWhile fun a => key a ≠ c).tail

/-- The pages of a walk that begins after the cursor, one list for each page, if it ends. -/
def walk (limit : ℕ) : Option κ → List (List α) → Option (List α)
  | _, [] => none
  | cursor, l :: later =>
    let rest := after key cursor l
    if limit < rest.length then
      (walk limit ((rest.take limit).getLast?.map key) later).map (rest.take limit ++ ·)
    else some rest

variable {key} {l l' : List α} {a : α} {c : κ}

@[simp] lemma after_none : after key none l = l := rfl

lemma after_suffix (cursor : Option κ) (l : List α) : after key cursor l <:+ l := by
  cases cursor with
  | none => exact List.suffix_refl l
  | some c => exact (List.tail_suffix _).trans (List.dropWhile_suffix _)

/-- A list is what comes before an entry, the entry, and what comes after it. -/
lemma after_append_cons {before rest : List α} (h : ∀ b ∈ before, key b ≠ key a) :
    after key (some (key a)) (before ++ a :: rest) = rest := by
  have hdrop : (before ++ a :: rest).dropWhile (fun b => key b ≠ key a) = a :: rest := by
    rw [List.dropWhile_append_of_pos fun b hb => decide_eq_true (h b hb)]
    simp
  show List.tail _ = rest
  rw [hdrop, List.tail_cons]

section Distinct

variable (hl' : (l'.map key).Nodup)

include hl'

lemma exists_split (hc : c ∈ l'.map key) :
    ∃ before a rest, l' = before ++ a :: rest ∧ key a = c ∧ after key (some c) l' = rest := by
  obtain ⟨a, ha, rfl⟩ := List.mem_map.mp hc
  obtain ⟨before, rest, rfl⟩ := List.append_of_mem ha
  exact ⟨before, a, rest, rfl, rfl, after_append_cons (before_ne hl' rfl)⟩

/-- What comes after an entry of a sublist. -/
lemma cons_sublist_iff : (a :: l).Sublist l' ↔
    a ∈ l' ∧ l.Sublist (after key (some (key a)) l') := by
  constructor
  · intro h
    obtain ⟨before, rest, rfl, hmem, hrest⟩ := List.cons_sublist_iff.mp h
    obtain ⟨before', rest', rfl⟩ := List.append_of_mem hmem
    refine ⟨by simp, ?_⟩
    have hsplit : before' ++ a :: rest' ++ rest = before' ++ a :: (rest' ++ rest) := by simp
    rw [hsplit, after_append_cons (before_ne hl' hsplit)]
    exact hrest.trans (List.sublist_append_right rest' rest)
  · rintro ⟨hmem, hrest⟩
    obtain ⟨before, rest, rfl⟩ := List.append_of_mem hmem
    rw [after_append_cons (before_ne hl' rfl)] at hrest
    exact (List.Sublist.cons_cons a hrest).trans (List.sublist_append_right before _)

/-- Entries are added, and what comes after a cursor is still there. -/
lemma after_sublist (hsub : l.Sublist l') {cursor : Option κ}
    (hcursor : ∀ c ∈ cursor, c ∈ l.map key) :
    (after key cursor l).Sublist (after key cursor l') := by
  cases cursor with
  | none => exact hsub
  | some c =>
    have hl : (l.map key).Nodup := hl'.sublist (hsub.map key)
    obtain ⟨before, a, rest, rfl, rfl, hrest⟩ := exists_split hl (hcursor c rfl)
    rw [hrest]
    have htail : (a :: rest).Sublist l' := (List.sublist_append_right before _).trans hsub
    exact ((cons_sublist_iff hl').mp htail).2

/-- The cursors of two entries, one after the other. -/
lemma after_after {cursor : Option κ} (hmem : a ∈ after key cursor l') :
    after key (some (key a)) (after key cursor l') = after key (some (key a)) l' := by
  obtain ⟨front, hfront⟩ : after key cursor l' <:+ l' := after_suffix cursor l'
  obtain ⟨before, rest, hsplit⟩ := List.append_of_mem hmem
  have hall : l' = (front ++ before) ++ a :: rest := by
    rw [← hfront, hsplit, List.append_assoc]
  have hbefore : ∀ b ∈ before, key b ≠ key a := fun b hb =>
    before_ne hl' hall b (List.mem_append_right front hb)
  rw [hsplit, after_append_cons hbefore, hall, after_append_cons (before_ne hl' hall)]

/-- A page, and what comes after its last entry. -/
lemma page_sublist {cursor : Option κ} {page rest : List α} (hpage : page ≠ [])
    (h : (page ++ rest).Sublist (after key cursor l')) :
    rest.Sublist (after key (page.getLast?.map key) l') ∧
      (page ++ after key (page.getLast?.map key) l').Sublist (after key cursor l') := by
  have hnodup : ((after key cursor l').map key).Nodup :=
    hl'.sublist ((after_suffix cursor l').sublist.map key)
  induction page generalizing cursor with
  | nil => exact absurd rfl hpage
  | cons a page ih =>
    obtain ⟨hmem, hrest⟩ := (cons_sublist_iff hnodup).mp h
    rw [after_after hl' hmem] at hrest
    have hcons : ∀ {l : List α}, (page ++ l).Sublist (after key (some (key a)) l') →
        (a :: page ++ l).Sublist (after key cursor l') := by
      intro l hl
      refine (cons_sublist_iff hnodup).mpr ⟨hmem, ?_⟩
      rwa [after_after hl' hmem]
    cases page with
    | nil => exact ⟨hrest, hcons (List.Sublist.refl _)⟩
    | cons b page =>
      have hlast : (a :: b :: page).getLast? = (b :: page).getLast? := List.getLast?_cons_cons
      rw [hlast]
      obtain ⟨hafter, hshown⟩ := ih (List.cons_ne_nil b page) hrest
        (hl'.sublist ((after_suffix _ l').sublist.map key))
      exact ⟨hafter, hcons hshown⟩

end Distinct

/-! ## Sorted lists -/

/-- Sorted by a key, the largest first; entries with the same key stay in their order. -/
def descending {β : Type} [LinearOrder β] (key : α → β) (l : List α) : List α :=
  l.insertionSort fun a b => key b ≤ key a

section Descending

variable {β : Type} [LinearOrder β] (key : α → β)

instance descending_isTrans : IsTrans α fun a b => key b ≤ key a :=
  ⟨fun _ _ _ h h' => le_trans h' h⟩

instance descending_total : Std.Total fun a b : α => key b ≤ key a :=
  ⟨fun a b => le_total (key b) (key a)⟩

lemma descending_perm (l : List α) : (descending key l).Perm l := List.perm_insertionSort _ l

/-- Entries are added anywhere, and sorted among the others. -/
lemma descending_sublist {l l' : List α} (h : l.Sublist l') :
    (descending key l).Sublist (descending key l') :=
  insertionSort_sublist h

end Descending

/-! ## The walk -/

section Walk

variable {limit : ℕ} {cursor : Option κ} {later : List (List α)} {last shown : List α}

lemma walk_cons : walk key limit cursor (l :: later) =
    if limit < (after key cursor l).length then
      (walk key limit (((after key cursor l).take limit).getLast?.map key) later).map
        ((after key cursor l).take limit ++ ·)
    else some (after key cursor l) := rfl

/-- The first page of a list that has more than one. -/
lemma take_ne_nil (hlimit : 0 < limit) (hlong : limit < l.length) : l.take limit ≠ [] := by
  intro hnil
  have hlength := congrArg List.length hnil
  rw [List.length_take, List.length_nil] at hlength
  omega

variable (hlast : (last.map key).Nodup) (hlimit : 0 < limit)

include hlast hlimit

/-- **The walk lies between the lists.** -/
theorem walk_between {lists : List (List α)} (hgrow : (l :: lists).IsChain List.Sublist)
    (hsub : ∀ l' ∈ l :: lists, l'.Sublist last) (hcursor : ∀ c ∈ cursor, c ∈ l.map key)
    (hwalk : walk key limit cursor (l :: lists) = some shown) :
    (after key cursor l).Sublist shown ∧ shown.Sublist (after key cursor last) := by
  induction lists generalizing l cursor shown with
  | nil =>
    rw [walk_cons] at hwalk
    split at hwalk
    · exact nomatch hwalk
    · obtain rfl := Option.some.inj hwalk
      exact ⟨List.Sublist.refl _, after_sublist hlast (hsub l List.mem_cons_self) hcursor⟩
  | cons next lists ih =>
    have hl : l.Sublist last := hsub l List.mem_cons_self
    have hafter : (after key cursor l).Sublist (after key cursor last) :=
      after_sublist hlast hl hcursor
    rw [walk_cons] at hwalk
    split at hwalk
    · rename_i hlong
      obtain ⟨shown', hwalk', rfl⟩ := Option.map_eq_some_iff.mp hwalk
      obtain ⟨hnext, hgrow'⟩ := List.isChain_cons_cons.mp hgrow
      have hpage := take_ne_nil hlimit hlong
      have hpageSub : ((after key cursor l).take limit).Sublist l :=
        (List.take_sublist _ _).trans (after_suffix cursor l).sublist
      have hsplit := List.take_append_drop limit (after key cursor l)
      have hpageRest : ((after key cursor l).take limit ++ (after key cursor l).drop limit).Sublist
          (after key cursor l) := by rw [hsplit]
      -- what is left behind the page is still there when the next page is read
      have hnextNodup : (next.map key).Nodup :=
        hlast.sublist ((hsub next (by simp)).map key)
      obtain ⟨hfirst, hlater⟩ := ih hgrow' (fun l' hl' => hsub l' (List.mem_cons_of_mem l hl'))
        (cursor_mem (hpageSub.trans hnext)) hwalk'
      have hrest := (page_sublist (hnextNodup.sublist (hnext.map key)) hpage hpageRest).1
      have hrest' := hrest.trans
        ((after_sublist hnextNodup hnext (cursor_mem hpageSub)).trans hfirst)
      refine ⟨?_, ?_⟩
      · nth_rewrite 1 [← hsplit]
        exact List.Sublist.append_left hrest' _
      · have hshown := (page_sublist hlast hpage (hsplit ▸ hafter)).2
        exact (List.Sublist.append_left hlater _).trans hshown
    · obtain rfl := Option.some.inj hwalk
      exact ⟨List.Sublist.refl _, hafter⟩

/-- The walk ends if there are pages enough for all entries. -/
theorem exists_walk {lists : List (List α)} (hgrow : lists.IsChain List.Sublist)
    (hsub : ∀ l ∈ lists, l.Sublist last) (hcursor : ∀ l ∈ lists.head?, ∀ c ∈ cursor, c ∈ l.map key)
    (henough : (after key cursor last).length < limit * lists.length) :
    ∃ shown, walk key limit cursor lists = some shown := by
  induction lists generalizing cursor with
  | nil => exact absurd henough (by simp)
  | cons l lists ih =>
    rw [walk_cons]
    split
    · rename_i hlong
      have hcursor' : ∀ c ∈ cursor, c ∈ l.map key := hcursor l rfl
      have hafter : (after key cursor l).Sublist (after key cursor last) :=
        after_sublist hlast (hsub l List.mem_cons_self) hcursor'
      have hlength : ((after key cursor l).take limit).length = limit := by
        rw [List.length_take]
        omega
      have hpage := take_ne_nil hlimit hlong
      have hshown := (page_sublist hlast hpage
        (List.take_append_drop limit (after key cursor l) ▸ hafter)).2.length_le
      rw [List.length_append, hlength] at hshown
      have hpageSub : ((after key cursor l).take limit).Sublist l :=
        (List.take_sublist _ _).trans (after_suffix cursor l).sublist
      obtain ⟨shown, hshown'⟩ : ∃ shown, walk key limit
          (((after key cursor l).take limit).getLast?.map key) lists = some shown := by
        refine ih ?_ (fun l' hl' => hsub l' (List.mem_cons_of_mem l hl')) ?_ ?_
        · cases lists with
          | nil => exact List.IsChain.nil
          | cons next lists => exact (List.isChain_cons_cons.mp hgrow).2
        · intro next hnext
          cases lists with
          | nil => cases hnext
          | cons next' lists =>
            obtain rfl := Option.some.inj hnext
            exact cursor_mem (hpageSub.trans (List.isChain_cons_cons.mp hgrow).1)
        · rw [List.length_cons, Nat.mul_succ] at henough
          omega
      exact ⟨_, congrArg _ hshown'⟩
    · exact ⟨_, rfl⟩

end Walk

end MeeoServer.Table
