/-
# Slugs

`catalog/utils/slug.util.ts`.  The slug of a name consists of its words, joined by hyphens.  A word
is what is between blanks and hyphens when everything else that is neither a letter from a to z nor
a digit has been taken away; so an underscore joins what is around it, although the source says
that it separates.

`toLowerCase` and `normalize("NFD")` are parameters.
-/
import MeeoServer.Text.JsString
import MeeoServer.Text.Pieces

namespace MeeoServer.Catalog.Slugs

open JsString Text

/-- `[\u0300-\u036f]`, the diacritics. -/
def isDiacritic (c : Char) : Bool := 0x300 ≤ c.toNat && c.toNat ≤ 0x36F

/-- `[a-z0-9]`. -/
def isPlain (c : Char) : Bool := 'a' ≤ c && c ≤ 'z' || '0' ≤ c && c ≤ '9'

/-- `[a-z0-9\s-]`. -/
def isKept (c : Char) : Bool := isPlain c || isSpace c || c == '-'

/-- `[\s_]`. -/
def isBlank (c : Char) : Bool := isSpace c || c == '_'

def isHyphen (c : Char) : Bool := c == '-'

/-- What is left of a name when it has been put into lower case and cleaned. -/
def clean (toLowerCase normalize : List Char → List Char) (text : List Char) : List Char :=
  ((normalize (trim (toLowerCase text))).filter fun c => !isDiacritic c).filter isKept

/-- Converts a string into a clean, URL-friendly kebab-case slug. -/
def slugify (toLowerCase normalize : List Char → List Char) (text : List Char) : List Char :=
  trimEnds isHyphen
    (replaceRuns isHyphen '-' false
      (replaceRuns isBlank '-' false (clean toLowerCase normalize text)))

/-- What separates the words of a slug. -/
def isSeparator (c : Char) : Bool := isSpace c || isHyphen c

/-- Words of letters and digits, joined by hyphens. -/
def IsSlug (slug : List Char) : Prop :=
  ∃ words : List (List Char), slug = ['-'].intercalate words ∧
    ∀ w ∈ words, w ≠ [] ∧ ∀ c ∈ w, isPlain c = true

/-! ## The characters -/

lemma eq_hyphen_of_isHyphen {c : Char} (h : isHyphen c = true) : c = '-' := by
  simpa [isHyphen] using h

lemma isHyphen_hyphen : isHyphen '-' = true := rfl

lemma isPlain_iff {c : Char} : isPlain c = true ↔
    97 ≤ c.toNat ∧ c.toNat ≤ 122 ∨ 48 ≤ c.toNat ∧ c.toNat ≤ 57 := by
  have hle (a b : Char) : a ≤ b ↔ a.toNat ≤ b.toNat := Iff.rfl
  simp only [isPlain, Bool.or_eq_true, Bool.and_eq_true, decide_eq_true_eq, hle]
  rfl

/-- Letters and digits are no blanks. -/
lemma isBlank_of_isPlain {c : Char} (h : isPlain c = true) : isBlank c = false := by
  have hn := isPlain_iff.mp h
  have hunderscore : c ≠ '_' := by
    rintro rfl
    revert h
    decide
  simp only [isBlank, isSpace, List.mem_cons, List.not_mem_nil, or_false, Bool.or_eq_false_iff,
    decide_eq_false_iff_not, Bool.and_eq_false_iff, beq_eq_false_iff_ne]
  refine ⟨⟨by omega, by omega⟩, hunderscore⟩

lemma isHyphen_of_isPlain {c : Char} (h : isPlain c = true) : isHyphen c = false := by
  have hne : c ≠ '-' := by
    rintro rfl
    revert h
    decide
  simpa [isHyphen] using hne

lemma isDiacritic_of_isPlain {c : Char} (h : isPlain c = true) : isDiacritic c = false := by
  have hn := isPlain_iff.mp h
  simp only [isDiacritic, Bool.and_eq_false_iff, decide_eq_false_iff_not]
  omega

lemma isSpace_of_isBlank {c : Char} (h : isBlank c = false) : isSpace c = false :=
  (Bool.or_eq_false_iff.mp h).1

/-! ## What the steps leave -/

section Steps

variable {toLowerCase normalize : List Char → List Char} {text : List Char}

/-- What has been cleaned consists of words and what separates them. -/
lemma mem_clean {c : Char} (hc : c ∈ clean toLowerCase normalize text) :
    isPlain c = true ∨ isSeparator c = true := by
  have hkept : isKept c = true := (List.mem_filter.mp hc).2
  simp only [isKept, Bool.or_eq_true] at hkept
  simpa only [isSeparator, isHyphen, Bool.or_eq_true, or_assoc] using hkept

/-- In what has been cleaned, the underscores are gone. -/
lemma isSeparator_eq {c : Char} (hc : c ∈ clean toLowerCase normalize text) :
    (isBlank c || isHyphen c) = isSeparator c := by
  rcases mem_clean hc with hplain | hsep
  · rw [isBlank_of_isPlain hplain, isSeparator, isSpace_of_isBlank (isBlank_of_isPlain hplain)]
  · rw [hsep]
    rcases Bool.or_eq_true_iff.mp hsep with hspace | hhyphen
    · rw [isBlank, hspace, Bool.true_or, Bool.true_or]
    · rw [hhyphen, Bool.or_true]

/-- The blanks and the runs of hyphens are replaced. -/
lemma mem_slugify {c : Char} (hc : c ∈ slugify toLowerCase normalize text) :
    isPlain c = true ∨ c = '-' := by
  have hmem := (trimEnds_isPrefix.isInfix.trans (List.dropWhile_suffix isHyphen).isInfix).subset hc
  rcases mem_replaceRuns hmem with rfl | ⟨hmem, -⟩
  · exact .inr rfl
  · rcases mem_replaceRuns hmem with rfl | ⟨hmem, hblank⟩
    · exact .inr rfl
    · rcases mem_clean hmem with hplain | hsep
      · exact .inl hplain
      · rw [isSeparator, isSpace_of_isBlank hblank, Bool.false_or] at hsep
        exact .inr (eq_hyphen_of_isHyphen hsep)

/-- Tidying does not change the words. -/
lemma pieces_slugify : pieces isHyphen (slugify toLowerCase normalize text) =
    pieces isSeparator (clean toLowerCase normalize text) := by
  have hsame : pieces isHyphen (slugify toLowerCase normalize text) =
      pieces (fun c => isBlank c || isHyphen c) (slugify toLowerCase normalize text) := by
    refine pieces_congr fun c hc => ?_
    rcases mem_slugify hc with hplain | rfl
    · rw [isBlank_of_isPlain hplain, Bool.false_or]
    · rfl
  have hhyphen : ∀ c, isHyphen c = true → (isBlank c || isHyphen c) = true := by
    intro c hc
    rw [hc, Bool.or_true]
  have hblank : ∀ c, isBlank c = true → (isBlank c || isHyphen c) = true := by
    intro c hc
    rw [hc, Bool.true_or]
  rw [hsame, slugify, pieces_trimEnds hhyphen, pieces_replaceRuns hhyphen rfl,
    pieces_replaceRuns hblank rfl]
  exact pieces_congr fun c hc => isSeparator_eq hc

/-- **What a slug is.**  The slug of a name is the words of the cleaned name, none of them empty and
all of them of small letters and digits, joined by hyphens. -/
theorem slugify_words (toLowerCase normalize : List Char → List Char) (text : List Char) :
    slugify toLowerCase normalize text =
        ['-'].intercalate (pieces isSeparator (clean toLowerCase normalize text)) ∧
      IsSlug (slugify toLowerCase normalize text) := by
  have hwords : slugify toLowerCase normalize text =
      ['-'].intercalate (pieces isSeparator (clean toLowerCase normalize text)) := by
    rw [← pieces_slugify]
    exact (intercalate_pieces (fun _ => eq_hyphen_of_isHyphen)
      (tidy_trimEnds (isChain_replaceRuns false).1)).symm
  refine ⟨hwords, _, hwords, fun w hw => ⟨(mem_pieces hw).1, fun c hc => ?_⟩⟩
  obtain ⟨hmem, hnot⟩ := (mem_pieces hw).2 c hc
  exact (mem_clean hmem).resolve_right (by simp [hnot])

/-! ## Slugs are left alone -/

lemma IsSlug.mem {slug : List Char} (h : IsSlug slug) {c : Char} (hc : c ∈ slug) :
    isPlain c = true ∨ c = '-' := by
  obtain ⟨words, rfl, hwords⟩ := h
  induction words with
  | nil => cases hc
  | cons w words ih =>
    have hrest := ih fun w' hw' => hwords w' (List.mem_cons_of_mem w hw')
    by_cases hnil : words = []
    · rw [hnil, List.intercalate_singleton] at hc
      exact .inl ((hwords w List.mem_cons_self).2 c hc)
    · rw [List.intercalate_cons_of_ne_nil hnil, List.append_assoc, List.mem_append,
        List.singleton_append, List.mem_cons] at hc
      rcases hc with hc | rfl | hc
      · exact .inl ((hwords w List.mem_cons_self).2 c hc)
      · exact .inr rfl
      · exact hrest hc

lemma trim_of_forall {l : List Char} (h : ∀ c ∈ l, isSpace c = false) : trim l = l :=
  trimEnds_eq_self (fun c hc => h c (List.mem_of_mem_head? hc))
    fun c hc => h c (List.mem_of_mem_getLast? hc)

/-- A slug is clean. -/
lemma IsSlug.clean_eq {slug : List Char} (h : IsSlug slug)
    (hlower : toLowerCase slug = slug) (hnormalize : normalize slug = slug) :
    clean toLowerCase normalize slug = slug := by
  have hspace : ∀ c ∈ slug, isSpace c = false := by
    intro c hc
    rcases h.mem hc with hplain | rfl
    · exact isSpace_of_isBlank (isBlank_of_isPlain hplain)
    · rfl
  rw [clean, hlower, trim_of_forall hspace, hnormalize, List.filter_eq_self.mpr,
    List.filter_eq_self.mpr]
  · intro c hc
    rcases h.mem hc with hplain | rfl
    · rw [isDiacritic_of_isPlain hplain, Bool.not_false]
    · rfl
  · intro c hc
    rcases h.mem (List.mem_filter.mp hc).1 with hplain | rfl
    · rw [isKept, hplain, Bool.true_or, Bool.true_or]
    · rfl

/-- **Slugs are what `slugify` leaves alone**, and so to make a slug of a slug changes nothing, if
text of small letters, digits and hyphens is in lower case and normalized. -/
theorem slugify_eq_self_iff
    (hlower : ∀ l, (∀ c ∈ l, isPlain c = true ∨ c = '-') → toLowerCase l = l)
    (hnormalize : ∀ l, (∀ c ∈ l, isPlain c = true ∨ c = '-') → normalize l = l) :
    (∀ slug, slugify toLowerCase normalize slug = slug ↔ IsSlug slug) ∧
      ∀ text, slugify toLowerCase normalize (slugify toLowerCase normalize text) =
        slugify toLowerCase normalize text := by
  have hfixed {slug : List Char} (h : IsSlug slug) : slugify toLowerCase normalize slug = slug := by
    rw [(slugify_words toLowerCase normalize slug).1,
      h.clean_eq (hlower slug fun _ => h.mem) (hnormalize slug fun _ => h.mem)]
    obtain ⟨words, rfl, hwords⟩ := h
    rw [pieces_intercalate rfl]
    intro w hw
    refine ⟨(hwords w hw).1, fun c hc => ?_⟩
    have hplain := (hwords w hw).2 c hc
    rw [isSeparator, isSpace_of_isBlank (isBlank_of_isPlain hplain), isHyphen_of_isPlain hplain]
    rfl
  refine ⟨fun slug => ⟨fun h => ?_, hfixed⟩, fun text => hfixed (slugify_words _ _ text).2⟩
  rw [← h]
  exact (slugify_words _ _ slug).2

end Steps

/-- Small letters, digits and hyphens are their own lower case. -/
lemma toLowerCase_of_plain {l : List Char} (h : ∀ c ∈ l, isPlain c = true ∨ c = '-') :
    JsString.toLowerCase l = l := by
  induction l with
  | nil => rfl
  | cons c l ih =>
    have hc : c.toNat ≠ 0x212A ∧ c.toNat ≠ 0x130 ∧ c.toLower = c := by
      rcases h c List.mem_cons_self with hplain | rfl
      · have hn := isPlain_iff.mp hplain
        have hnot : ¬(c.val ≥ 'A'.val ∧ c.val ≤ 'Z'.val) := by
          rintro ⟨hge, hle⟩
          have hge : 65 ≤ c.toNat := hge
          have hle : c.toNat ≤ 90 := hle
          omega
        exact ⟨by omega, by omega, dif_neg hnot⟩
      · exact ⟨by decide, by decide, by decide⟩
    rw [JsString.toLowerCase, List.flatMap_cons, if_neg hc.1, if_neg hc.2.1, hc.2.2,
      List.singleton_append]
    exact congrArg (c :: ·) (ih fun e he => h e (List.mem_cons_of_mem c he))

/-- A name with blanks, hyphens and an underscore, when accents are not there to be split. -/
theorem slugify_eq_self_iff_jeans :
    slugify JsString.toLowerCase id " Blue  Jeans - No_2 ".toList = "blue-jeans-no2".toList ∧
      slugify JsString.toLowerCase id "blue-jeans-no2".toList = "blue-jeans-no2".toList := by
  have hslug : slugify JsString.toLowerCase id " Blue  Jeans - No_2 ".toList =
      "blue-jeans-no2".toList := by
    decide +kernel
  refine ⟨hslug, ?_⟩
  rw [← hslug]
  exact (slugify_eq_self_iff (fun _ => toLowerCase_of_plain) fun _ _ => rfl).2 _

end MeeoServer.Catalog.Slugs
