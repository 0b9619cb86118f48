/-
# Amounts in words

The total of an invoice is written out in the Indian numbering: crore, lakh, thousand, hundred,
and the paise.  Read back, the words are the amount as long as there are fewer than a hundred
crore; from there on the tens of the crores are not written.
-/
import Mathlib.Data.Rat.Floor
import Mathlib.Algebra.Order.Floor.Div
import MeeoServer.Text.Decimal
import MeeoServer.Text.Words

namespace MeeoServer.Tax

open Text

/-! ## Reading -/

def numberWords : List (String × ℕ) :=
  [("One", 1), ("Two", 2), ("Three", 3), ("Four", 4), ("Five", 5), ("Six", 6), ("Seven", 7),
    ("Eight", 8), ("Nine", 9), ("Ten", 10), ("Eleven", 11), ("Twelve", 12), ("Thirteen", 13),
    ("Fourteen", 14), ("Fifteen", 15), ("Sixteen", 16), ("Seventeen", 17), ("Eighteen", 18),
    ("Nineteen", 19), ("Twenty", 20), ("Thirty", 30), ("Forty", 40), ("Fifty", 50), ("Sixty", 60),
    ("Seventy", 70), ("Eighty", 80), ("Ninety", 90)]

def placeWords : List (String × ℕ) :=
  [("Thousand", 1000), ("Lakh", 100000), ("Crore", 10000000)]

/-- What has been read of a number: the places that are complete, and the one being read. -/
structure Reading where
  total : ℕ
  place : ℕ
deriving DecidableEq

def readWord (r : Reading) (w : String) : Option Reading :=
  match numberWords.lookup w with
  | some n => some { r with place := r.place + n }
  | none =>
    if w = "Hundred" then some { r with place := r.place * 100 }
    else if w = "and" then some r
    else (placeWords.lookup w).map fun value => { total := r.total + r.place * value, place := 0 }

def readNumber (ws : List String) : Option ℕ :=
  (ws.foldlM readWord ⟨0, 0⟩).map fun r => r.total + r.place

/-- `50/100` -/
def readFraction (w : String) : Option ℕ :=
  match w.toList.splitOn '/' with
  | [digits, ['1', '0', '0']] =>
    if digits.all Char.isDigit then some (Nat.ofDigitChars 10 digits 0) else none
  | _ => none

/-- The amount in paise that words denote.  If they end in paise, the number of these is what
follows the last `and`. -/
def readAmount (text : String) : Option ℕ :=
  match words text with
  | "Rupees" :: ws =>
    match ws.reverse with
    | "Only" :: "Paise" :: rest => do
      let paise ← readNumber (rest.takeWhile (· ≠ "and")).reverse
      let rupees ← readNumber ((rest.dropWhile (· ≠ "and")).drop 1).reverse
      some (rupees * 100 + paise)
    | "Only" :: rest => (readNumber rest.reverse).map (· * 100)
    | _ => none
  | ["Zero", "Rupees", "Only"] => some 0
  | [w, "Only"] => readFraction w
  | _ => none

/-! ## Writing -/

namespace AmountInWords

def units : List String :=
  ["", "One", "Two", "Three", "Four", "Five", "Six", "Seven", "Eight", "Nine"]

def teens : List String :=
  ["Ten", "Eleven", "Twelve", "Thirteen", "Fourteen", "Fifteen", "Sixteen", "Seventeen",
    "Eighteen", "Nineteen"]

def tens : List String :=
  ["", "", "Twenty", "Thirty", "Forty", "Fifty", "Sixty", "Seventy", "Eighty", "Ninety"]

def convertTwoDigits (n : ℕ) : String :=
  if n < 10 then units[n]?.getD ""
  else if n < 20 then teens[n - 10]?.getD ""
  else
    let t := n / 10
    let rem := n % 10
    tens[t]?.getD "" ++ (if 0 < rem then " " ++ units[rem]?.getD "" else "")

def convertThreeDigits (n : ℕ) : String :=
  let hundred := n / 100
  let rest := n % 100
  let str := if 0 < hundred then units[hundred]?.getD "" ++ " Hundred" else ""
  if 0 < rest then str ++ (if str ≠ "" then " and " else "") ++ convertTwoDigits rest else str

/-- The places of a number of rupees, from the highest. -/
def parts (whole : ℕ) : List String :=
  let crore := whole / 10000000
  let remaining := whole % 10000000
  let lakh := remaining / 100000
  let remaining := remaining % 100000
  let thousand := remaining / 1000
  let remaining := remaining % 1000
  (if 0 < crore then [convertTwoDigits crore ++ " Crore"] else []) ++
    (if 0 < lakh then [convertTwoDigits lakh ++ " Lakh"] else []) ++
    (if 0 < thousand then [convertTwoDigits thousand ++ " Thousand"] else []) ++
    (if 0 < remaining then [convertThreeDigits remaining] else [])

def numberToIndianWords (amount : ℚ) : String :=
  let whole := ⌊amount⌋.toNat
  let paise := ⌊(amount - whole) * 100 + 1 / 2⌋.toNat
  if whole = 0 then if 0 < paise then paise.repr ++ "/100 Only" else "Zero Rupees Only"
  else
    let result := "Rupees " ++ " ".intercalate (parts whole)
    let result :=
      if 0 < paise then result ++ " and " ++ convertTwoDigits paise ++ " Paise" else result
    result ++ " Only"

/-! ## The words of each part -/

lemma foldlM_readWord_numbers {ws : List String}
    (h : ∀ w ∈ ws, (numberWords.lookup w).isSome = true) (r : Reading) :
    ws.foldlM readWord r =
      some { r with place := r.place + (ws.filterMap fun w => numberWords.lookup w).sum } := by
  induction ws generalizing r with
  | nil => rfl
  | cons w ws ih =>
    obtain ⟨n, hn⟩ := Option.isSome_iff_exists.mp (h w List.mem_cons_self)
    have hw : readWord r w = some { r with place := r.place + n } := by simp only [readWord, hn]
    have hcons : ((w :: ws).filterMap fun w => numberWords.lookup w) =
        n :: ws.filterMap fun w => numberWords.lookup w := List.filterMap_cons_some hn
    rw [List.foldlM_cons, hw, hcons, List.sum_cons, ← Nat.add_assoc]
    exact ih (fun w hw => h w (List.mem_cons_of_mem _ hw)) _

/-- The words name numbers, which add up to `n`. -/
def AddUp (s : String) (n : ℕ) : Prop :=
  (∀ w ∈ words s, (numberWords.lookup w).isSome = true) ∧
    ((words s).filterMap fun w => numberWords.lookup w).sum = n

instance (s : String) (n : ℕ) : Decidable (AddUp s n) := inferInstanceAs (Decidable (_ ∧ _))

lemma AddUp.append {s t : String} {n m : ℕ} (hs : AddUp s n) (ht : AddUp t m) :
    AddUp (s ++ " " ++ t) (n + m) := by
  rw [AddUp, words_append_blank, List.filterMap_append, List.sum_append, hs.2, ht.2]
  exact ⟨fun w hw => (List.mem_append.mp hw).elim (hs.1 w) (ht.1 w), rfl⟩

lemma addUp_units : ∀ n < 10, AddUp (units[n]?.getD "") n := by decide

lemma addUp_teens : ∀ n < 10, AddUp (teens[n]?.getD "") (10 + n) := by decide

lemma addUp_tens : ∀ t < 10, 2 ≤ t → AddUp (tens[t]?.getD "") (t * 10) := by decide

lemma addUp_convertTwoDigits {n : ℕ} (hn : n < 100) : AddUp (convertTwoDigits n) n := by
  unfold convertTwoDigits
  split_ifs with hunits hteens
  · exact addUp_units n hunits
  · have hteen := addUp_teens (n - 10) (by omega)
    rwa [show 10 + (n - 10) = n by omega] at hteen
  · have htens := addUp_tens (n / 10) (by omega) (by omega)
    by_cases hrem : 0 < n % 10
    · have hboth := htens.append (addUp_units (n % 10) (by omega))
      rw [show n / 10 * 10 + n % 10 = n by omega, String.append_assoc] at hboth
      simpa only [if_pos hrem] using hboth
    · rw [show n / 10 * 10 = n by omega] at htens
      simpa only [if_neg hrem, String.append_empty] using htens

/-- What is written of a number that should have two digits. -/
def shown (n : ℕ) : ℕ := if n < 100 then n else n % 10

lemma units_eq {n : ℕ} (hn : n < 10) : units[n]?.getD "" = convertTwoDigits n := (if_pos hn).symm

/-- The table ends with the nineties. -/
lemma tens_of_le {n : ℕ} (hn : 100 ≤ n) : tens[n / 10]?.getD "" = "" := by
  have hlength : tens.length ≤ n / 10 := by
    simp only [tens, List.length_cons, List.length_nil]
    omega
  rw [List.getElem?_eq_none hlength]
  rfl

/-- A number with more digits has no word for its tens. -/
lemma words_convertTwoDigits_of_le {n : ℕ} (h : 100 ≤ n) :
    words (convertTwoDigits n) = words (convertTwoDigits (n % 10)) := by
  have hunits : units[n % 10]?.getD "" = convertTwoDigits (n % 10) := units_eq (by omega)
  rw [convertTwoDigits, if_neg (by omega), if_neg (by omega)]
  simp only [tens_of_le h, hunits]
  by_cases hrem : 0 < n % 10
  · rw [if_pos hrem, String.empty_append, ← String.empty_append (s := " "), words_append_blank]
    rfl
  · rw [if_neg hrem, show n % 10 = 0 by omega]
    rfl

lemma foldlM_convertTwoDigits (n : ℕ) (r : Reading) :
    (words (convertTwoDigits n)).foldlM readWord r =
      some { r with place := r.place + shown n } := by
  have hlow : ∀ n < 100, (words (convertTwoDigits n)).foldlM readWord r =
      some { r with place := r.place + n } := by
    intro n hn
    obtain ⟨hwords, hsum⟩ := addUp_convertTwoDigits hn
    rw [foldlM_readWord_numbers hwords, hsum]
  unfold shown
  split
  · next hn => exact hlow n hn
  · next hn =>
    rw [words_convertTwoDigits_of_le (not_lt.mp hn)]
    exact hlow _ (by omega)

/-- A place that is not zero, with its name. -/
lemma foldlM_place {name : String} {value : ℕ} (hname : words name = [name])
    (hread : ∀ r, readWord r name = some ⟨r.total + r.place * value, 0⟩) (n total : ℕ) :
    ((if 0 < n then [convertTwoDigits n ++ " " ++ name] else []).flatMap words).foldlM readWord
      ⟨total, 0⟩ = some ⟨total + shown n * value, 0⟩ := by
  by_cases hn : 0 < n
  · rw [if_pos hn, List.flatMap_singleton, words_append_blank, List.foldlM_append,
      foldlM_convertTwoDigits, hname]
    simp only [Option.bind_eq_bind, Option.bind_some, List.foldlM_cons, List.foldlM_nil, hread,
      Nat.zero_add]
    rfl
  · rw [if_neg hn, show n = 0 by omega, shown, if_pos (by decide), Nat.zero_mul]
    rfl

lemma words_and (s t : String) : words (s ++ " and " ++ t) = words s ++ "and" :: words t := by
  have hblanks : s ++ " and " ++ t = s ++ " " ++ "and" ++ " " ++ t := by
    rw [show " and " = " " ++ "and" ++ " " by decide, ← String.append_assoc, ← String.append_assoc]
  rw [hblanks, words_append_blank, words_append_blank, List.append_assoc]
  rfl

lemma foldlM_convertThreeDigits {n : ℕ} (hn : n < 1000) (total : ℕ) :
    (words (convertThreeDigits n)).foldlM readWord ⟨total, 0⟩ = some ⟨total, n⟩ := by
  have hunits : units[n / 100]?.getD "" = convertTwoDigits (n / 100) := units_eq (by omega)
  have hhundred : shown (n / 100) = n / 100 := if_pos (by omega)
  have hrest : shown (n % 100) = n % 100 := if_pos (by omega)
  -- the hundreds, and then the rest
  have hstr : (words (convertTwoDigits (n / 100) ++ " Hundred")).foldlM readWord ⟨total, 0⟩ =
      some ⟨total, n / 100 * 100⟩ := by
    rw [show " Hundred" = " " ++ "Hundred" by decide, ← String.append_assoc, words_append_blank,
      List.foldlM_append, foldlM_convertTwoDigits, hhundred, Nat.zero_add]
    rfl
  unfold convertThreeDigits
  simp only [hunits]
  by_cases hzero : 0 < n / 100
  · rw [if_pos hzero]
    by_cases hmore : 0 < n % 100
    · have hne : convertTwoDigits (n / 100) ++ " Hundred" ≠ "" := by
        intro hempty
        rw [hempty] at hstr
        have hplace : (0 : ℕ) = n / 100 * 100 := congrArg Reading.place (Option.some.inj hstr)
        omega
      rw [if_pos hmore, if_pos hne, words_and, List.foldlM_append, hstr]
      have hand : ("and" :: words (convertTwoDigits (n % 100))).foldlM readWord
          ⟨total, n / 100 * 100⟩ = some ⟨total, n / 100 * 100 + n % 100⟩ := by
        rw [List.foldlM_cons, show readWord ⟨total, n / 100 * 100⟩ "and" =
          some ⟨total, n / 100 * 100⟩ from rfl]
        exact (foldlM_convertTwoDigits _ _).trans (by rw [hrest])
      exact hand.trans (by rw [Nat.div_add_mod' n 100])
    · rw [if_neg hmore, hstr, show n / 100 * 100 = n by omega]
  · rw [if_neg hzero]
    by_cases hmore : 0 < n % 100
    · rw [if_pos hmore, if_neg (not_not.mpr rfl), String.empty_append, String.empty_append,
        foldlM_convertTwoDigits, hrest, show 0 + n % 100 = n by omega]
    · rw [if_neg hmore, show n = 0 by omega]
      rfl

lemma foldlM_rest {n : ℕ} (hn : n < 1000) (total : ℕ) :
    ((if 0 < n then [convertThreeDigits n] else []).flatMap words).foldlM readWord ⟨total, 0⟩ =
      some ⟨total, n⟩ := by
  by_cases hpos : 0 < n
  · rw [if_pos hpos, List.flatMap_singleton, foldlM_convertThreeDigits hn]
  · rw [if_neg hpos, show n = 0 by omega]
    rfl

/-- What the words for a number of rupees are read as. -/
def readBack (whole : ℕ) : ℕ := shown (whole / 10000000) * 10000000 + whole % 10000000

lemma readBack_eq_iff (whole : ℕ) : readBack whole = whole ↔ whole < 1000000000 := by
  unfold readBack shown
  split <;> omega

lemma readNumber_parts (whole : ℕ) :
    readNumber ((parts whole).flatMap words) = some (readBack whole) := by
  have hblank : ∀ n name, convertTwoDigits n ++ (" " ++ name) = convertTwoDigits n ++ " " ++ name :=
    fun n name => (String.append_assoc ..).symm
  have hcrore := @foldlM_place "Crore" 10000000 (by decide) fun _ => rfl
  have hlakh := @foldlM_place "Lakh" 100000 (by decide) fun _ => rfl
  have hthousand := @foldlM_place "Thousand" 1000 (by decide) fun _ => rfl
  have hshown : ∀ n, n < 100 → shown n = n := fun n hn => if_pos hn
  rw [readNumber, parts, show " Crore" = " " ++ "Crore" by decide,
    show " Lakh" = " " ++ "Lakh" by decide, show " Thousand" = " " ++ "Thousand" by decide]
  simp only [hblank, List.flatMap_append, List.foldlM_append, Option.bind_eq_bind]
  rw [hcrore, Option.bind_some, hlakh, Option.bind_some, hthousand, Option.bind_some,
    foldlM_rest (by omega), Option.map_some, readBack,
    hshown (whole % 10000000 / 100000) (by omega),
    hshown (whole % 10000000 % 100000 / 1000) (by omega)]
  refine congrArg some ?_
  dsimp only
  omega

/-! ## Reading the whole text -/

/-- In a number there is no word for paise. -/
lemma notMem_of_foldlM_readWord {ws : List String} {r r' : Reading}
    (h : ws.foldlM readWord r = some r') : "Paise" ∉ ws := by
  induction ws generalizing r with
  | nil => exact List.not_mem_nil
  | cons w ws ih =>
    rw [List.foldlM_cons] at h
    obtain ⟨next, hw, hws⟩ := Option.bind_eq_some_iff.mp h
    refine List.not_mem_cons_of_ne_of_not_mem ?_ (ih hws)
    rintro rfl
    exact nomatch hw.symm.trans (show readWord r "Paise" = none from rfl)

lemma notMem_of_readNumber {ws : List String} {n : ℕ} (h : readNumber ws = some n) :
    "Paise" ∉ ws := by
  obtain ⟨r, hr, -⟩ := Option.map_eq_some_iff.mp h
  exact notMem_of_foldlM_readWord hr

lemma readAmount_rupees {text : String} {ws : List String} {n : ℕ}
    (hwords : words text = "Rupees" :: (ws ++ ["Only"])) (hread : readNumber ws = some n) :
    readAmount text = some (n * 100) := by
  have hpaise : ∀ rest, ws.reverse ≠ "Paise" :: rest := by
    intro rest hrev
    refine notMem_of_readNumber hread (List.mem_reverse.mp ?_)
    rw [hrev]
    exact List.mem_cons_self
  have hrev : (ws ++ ["Only"]).reverse = "Only" :: ws.reverse := List.reverse_concat
  rw [readAmount, hwords]
  simp only [hrev]
  rw [List.reverse_reverse, hread, Option.map_some]

lemma readAmount_paise {text : String} {ws ps : List String} {n m : ℕ}
    (hwords : words text = "Rupees" :: (ws ++ "and" :: (ps ++ ["Paise", "Only"])))
    (hread : readNumber ws = some n) (hpaise : readNumber ps = some m) (hand : "and" ∉ ps) :
    readAmount text = some (n * 100 + m) := by
  have hrev : (ws ++ "and" :: (ps ++ ["Paise", "Only"])).reverse =
      "Only" :: "Paise" :: (ps.reverse ++ "and" :: ws.reverse) := by
    simp only [List.reverse_append, List.reverse_cons, List.reverse_nil, List.append_assoc,
      List.nil_append, List.cons_append]
  have hbefore : ∀ w ∈ ps.reverse, decide (w ≠ "and") = true := by
    intro w hw
    exact decide_eq_true fun h => hand (h ▸ List.mem_reverse.mp hw)
  have htake : (ps.reverse ++ "and" :: ws.reverse).takeWhile (· ≠ "and") = ps.reverse := by
    rw [List.takeWhile_append_of_pos hbefore, List.takeWhile_cons_of_neg (by decide),
      List.append_nil]
  have hdrop : ((ps.reverse ++ "and" :: ws.reverse).dropWhile (· ≠ "and")).drop 1 =
      ws.reverse := by
    rw [List.dropWhile_append_of_pos hbefore, List.dropWhile_cons_of_neg (by decide)]
    rfl
  rw [readAmount, hwords]
  simp only [hrev, htake, hdrop, List.reverse_reverse, hread, hpaise, Option.bind_eq_bind,
    Option.bind_some]

/-! ## The amounts -/

/-- The amount in whole paise. -/
lemma numberToIndianWords_paise (p : ℕ) :
    numberToIndianWords (p / 100) =
      if p / 100 = 0 then
        if 0 < p % 100 then (p % 100).repr ++ "/100 Only" else "Zero Rupees Only"
      else
        (if 0 < p % 100 then "Rupees " ++ " ".intercalate (parts (p / 100)) ++ " and " ++
            convertTwoDigits (p % 100) ++ " Paise"
          else "Rupees " ++ " ".intercalate (parts (p / 100))) ++ " Only" := by
  have hwhole : ⌊(p / 100 : ℚ)⌋.toNat = p / 100 := by
    rw [show (100 : ℚ) = (100 : ℕ) by norm_num, Rat.floor_natCast_div_natCast]
    rfl
  have hpaise : ⌊((p : ℚ) / 100 - (p / 100 : ℕ)) * 100 + 1 / 2⌋.toNat = p % 100 := by
    have hmod : ((p : ℚ) / 100 - (p / 100 : ℕ)) * 100 + 1 / 2 = (p % 100 : ℕ) + 1 / 2 := by
      have hsplit : (p : ℚ) = (p % 100 : ℕ) + 100 * (p / 100 : ℕ) := by
        exact_mod_cast (Nat.mod_add_div p 100).symm
      linarith
    have hhalf : ⌊(1 / 2 : ℚ)⌋ = 0 := by norm_num
    rw [hmod, Int.floor_natCast_add, hhalf, add_zero, Int.toNat_natCast]
  simp only [numberToIndianWords, hwhole, hpaise]

lemma notMem_repr {n : ℕ} {c : Char} (hc : c.isDigit = false) : c ∉ n.repr.toList :=
  fun hmem => Bool.false_ne_true (hc.symm.trans (isDigit_of_mem_repr hmem))

lemma readFraction_repr (n : ℕ) : readFraction (n.repr ++ "/100") = some n := by
  have hslash : '/' ∉ n.repr.toList := notMem_repr (by decide)
  have hparts : (n.repr ++ "/100").toList.splitOn '/' = [n.repr.toList, ['1', '0', '0']] := by
    rw [String.toList_append]
    exact (List.splitOn_append_cons_self_of_not_mem hslash ['1', '0', '0']).trans rfl
  have hdigits : n.repr.toList.all Char.isDigit = true :=
    List.all_eq_true.mpr fun _ hc => isDigit_of_mem_repr hc
  rw [readFraction, hparts]
  show (if n.repr.toList.all Char.isDigit then some (Nat.ofDigitChars 10 n.repr.toList 0)
    else none) = some n
  rw [if_pos hdigits, Nat.toList_repr, Nat.ofDigitChars_ten_toDigits]

lemma readAmount_fraction (n : ℕ) : readAmount (n.repr ++ "/100 Only") = some n := by
  have hlist : (n.repr ++ "/100").toList = n.repr.toList ++ ['/', '1', '0', '0'] :=
    String.toList_append
  have hword : words (n.repr ++ "/100") = [n.repr ++ "/100"] := by
    refine words_eq_singleton ?_ ?_
    · rw [hlist]
      exact List.not_mem_append (notMem_repr (by decide)) (by decide)
    · rw [hlist]
      exact List.append_ne_nil_of_right_ne_nil _ (List.cons_ne_nil _ _)
  have hwords : words (n.repr ++ "/100 Only") = [n.repr ++ "/100", "Only"] := by
    rw [show "/100 Only" = "/100" ++ " " ++ "Only" by decide, ← String.append_assoc,
      ← String.append_assoc, words_append_blank, hword]
    rfl
  have hne : n.repr ++ "/100" ≠ "Rupees" := by
    intro heq
    have hmem : '/' ∈ "Rupees".toList := by
      rw [← heq, hlist]
      exact List.mem_append_right _ List.mem_cons_self
    exact absurd hmem (by decide)
  rw [readAmount, hwords]
  split
  · next heq => exact absurd (List.cons.inj heq).1 hne
  · next heq => exact absurd (congrArg List.length heq) (by simp)
  · next heq =>
    obtain rfl := (List.cons.inj heq).1
    exact readFraction_repr n
  · next hother => exact absurd rfl (hother _)

lemma words_rupees (whole : ℕ) :
    words ("Rupees " ++ " ".intercalate (parts whole)) =
      "Rupees" :: (parts whole).flatMap words := by
  rw [show "Rupees " = "Rupees" ++ " " by decide, words_append_blank, words_intercalate]
  rfl

lemma words_only (s : String) : words (s ++ " Only") = words s ++ ["Only"] := by
  rw [show " Only" = " " ++ "Only" by decide, ← String.append_assoc, words_append_blank]
  rfl

lemma words_paise (s : String) : words (s ++ " Paise") = words s ++ ["Paise"] := by
  rw [show " Paise" = " " ++ "Paise" by decide, ← String.append_assoc, words_append_blank]
  rfl

/-- What the words for an amount are read as. -/
lemma readAmount_numberToIndianWords (p : ℕ) :
    readAmount (numberToIndianWords (p / 100)) = some (readBack (p / 100) * 100 + p % 100) := by
  have hnumber := readNumber_parts (p / 100)
  rw [numberToIndianWords_paise]
  by_cases hwhole : p / 100 = 0
  · rw [if_pos hwhole, hwhole, show readBack 0 * 100 + p % 100 = p % 100 from Nat.zero_add _]
    by_cases hpaise : 0 < p % 100
    · rw [if_pos hpaise, readAmount_fraction]
    · rw [if_neg hpaise, show p % 100 = 0 by omega]
      rfl
  rw [if_neg hwhole]
  by_cases hpaise : 0 < p % 100
  · obtain ⟨hnumbers, hsum⟩ := addUp_convertTwoDigits (Nat.mod_lt p (by decide : 0 < 100))
    have hpart : readNumber (words (convertTwoDigits (p % 100))) = some (p % 100) := by
      rw [readNumber, foldlM_readWord_numbers hnumbers, hsum, Option.map_some, Nat.zero_add,
        Nat.zero_add]
    have hand : "and" ∉ words (convertTwoDigits (p % 100)) := by
      intro hmem
      exact absurd (hnumbers _ hmem) (by decide)
    rw [if_pos hpaise]
    refine readAmount_paise ?_ hnumber hpart hand
    rw [words_only, words_paise, words_and, words_rupees]
    simp only [List.cons_append, List.append_assoc, List.nil_append]
  · rw [if_neg hpaise, show p % 100 = 0 by omega, Nat.add_zero]
    refine readAmount_rupees ?_ hnumber
    rw [words_only, words_rupees]
    rfl

/-! ## The blanks -/

lemma head?_append {s t : String} {c : Char} (h : s.toList.head? = some c) :
    (s ++ t).toList.head? = some c := by
  rw [String.toList_append, List.head?_append, h]
  rfl

lemma head?_intercalate {s : String} {l : List String} {c : Char} (h : s.toList.head? = some c) :
    (" ".intercalate (s :: l)).toList.head? = some c := by
  by_cases hnil : l = []
  · rw [hnil, String.intercalate_singleton, h]
  · rw [String.intercalate_cons_of_ne_nil hnil, String.append_assoc]
    exact head?_append h

lemma exists_head? {s : String} (h : (s.toList.head?.any fun c => c ≠ ' ') = true) :
    ∃ c, s.toList.head? = some c ∧ c ≠ ' ' := by
  obtain ⟨c, hc, hblank⟩ := (Option.any_eq_true ..).mp h
  exact ⟨c, hc, of_decide_eq_true hblank⟩

lemma head?_convertTwoDigits {n : ℕ} (hn : n < 100) (hpos : 0 < n) :
    ∃ c, (convertTwoDigits n).toList.head? = some c ∧ c ≠ ' ' := by
  have hunits : ∀ n < 10, 0 < n →
      ((units[n]?.getD "").toList.head?.any fun c => c ≠ ' ') = true := by decide
  have hteens : ∀ n < 10, ((teens[n]?.getD "").toList.head?.any fun c => c ≠ ' ') = true := by
    decide
  have htens : ∀ t < 10, 2 ≤ t →
      ((tens[t]?.getD "").toList.head?.any fun c => c ≠ ' ') = true := by decide
  unfold convertTwoDigits
  split_ifs with hten htwenty
  · exact exists_head? (hunits n hten hpos)
  · exact exists_head? (hteens (n - 10) (by omega))
  · obtain ⟨c, hc, hblank⟩ := exists_head? (htens (n / 10) (by omega) (by omega))
    exact ⟨c, head?_append hc, hblank⟩

lemma head?_convertThreeDigits {n : ℕ} (hpos : 0 < n) (hn : n < 1000) :
    ∃ c, (convertThreeDigits n).toList.head? = some c ∧ c ≠ ' ' := by
  have hunits : units[n / 100]?.getD "" = convertTwoDigits (n / 100) := units_eq (by omega)
  unfold convertThreeDigits
  simp only [hunits]
  by_cases hzero : 0 < n / 100
  · obtain ⟨c, hc, hblank⟩ := @head?_convertTwoDigits (n / 100) (by omega) hzero
    refine ⟨c, ?_, hblank⟩
    rw [if_pos hzero]
    split
    · rw [String.append_assoc]
      exact head?_append (head?_append hc)
    · exact head?_append hc
  · obtain ⟨c, hc, hblank⟩ := @head?_convertTwoDigits (n % 100) (by omega) (by omega)
    refine ⟨c, ?_, hblank⟩
    rw [if_neg hzero, if_pos (by omega), if_neg (not_not.mpr rfl), String.empty_append,
      String.empty_append]
    exact hc

/-- A number too large begins with the blank before the units, or with that before the place. -/
lemma head?_crore {n : ℕ} (hn : 100 ≤ n) :
    (convertTwoDigits n ++ " Crore").toList.head? = some ' ' := by
  rw [convertTwoDigits, if_neg (by omega), if_neg (by omega)]
  simp only [tens_of_le hn, String.empty_append]
  split
  · exact head?_append (head?_append rfl)
  · rfl

/-- The first place begins with a letter, unless there are too many crore. -/
lemma head?_parts {whole : ℕ} (hpos : whole ≠ 0) :
    ∃ c, (" ".intercalate (parts whole)).toList.head? = some c ∧
      (c = ' ' ↔ 1000000000 ≤ whole) := by
  have hplace : ∀ n name, 0 < n → n < 100 →
      ∃ c, (convertTwoDigits n ++ name).toList.head? = some c ∧ c ≠ ' ' := by
    intro n name hn hlt
    obtain ⟨c, hc, hblank⟩ := head?_convertTwoDigits hlt hn
    exact ⟨c, head?_append hc, hblank⟩
  have hletter : ∀ c : Char, whole < 1000000000 → c ≠ ' ' → (c = ' ' ↔ 1000000000 ≤ whole) :=
    fun c hlt hc => iff_of_false hc (by omega)
  rw [parts]
  by_cases hcrore : 0 < whole / 10000000
  · rw [if_pos hcrore]
    by_cases hlt : whole / 10000000 < 100
    · obtain ⟨c, hc, hblank⟩ := hplace _ " Crore" hcrore hlt
      exact ⟨c, head?_intercalate hc, hletter c (by omega) hblank⟩
    · exact ⟨' ', head?_intercalate (head?_crore (not_lt.mp hlt)), by simp; omega⟩
  rw [if_neg hcrore]
  by_cases hlakh : 0 < whole % 10000000 / 100000
  · obtain ⟨c, hc, hblank⟩ := hplace _ " Lakh" hlakh (by omega)
    rw [if_pos hlakh]
    exact ⟨c, head?_intercalate hc, hletter c (by omega) hblank⟩
  rw [if_neg hlakh]
  by_cases hthousand : 0 < whole % 10000000 % 100000 / 1000
  · obtain ⟨c, hc, hblank⟩ := hplace _ " Thousand" hthousand (by omega)
    rw [if_pos hthousand]
    exact ⟨c, head?_intercalate hc, hletter c (by omega) hblank⟩
  · obtain ⟨c, hc, hblank⟩ := @head?_convertThreeDigits (whole % 10000000 % 100000 % 1000)
      (by omega) (by omega)
    rw [if_neg hthousand, if_pos (by omega)]
    exact ⟨c, head?_intercalate hc, hletter c (by omega) hblank⟩

lemma getElem?_fraction {n : ℕ} (hn : n < 100) :
    (n.repr ++ "/100 Only").toList[7]? ≠ some ' ' := by
  have hpos : 0 < n.repr.toList.length := by
    rw [Nat.toList_repr]
    exact Nat.length_toDigits_pos
  have hle : n.repr.toList.length ≤ 2 := by
    rw [Nat.toList_repr]
    exact (Nat.length_toDigits_le_iff (by decide) (by decide)).mpr hn
  have hseven : (n.repr ++ "/100 Only").toList[7]? =
      "/100 Only".toList[7 - n.repr.toList.length]? := by
    rw [String.toList_append]
    exact List.getElem?_append_right (by omega)
  rw [hseven]
  obtain hone | htwo : n.repr.toList.length = 1 ∨ n.repr.toList.length = 2 := by omega
  · rw [hone]
    decide
  · rw [htwo]
    decide

/-- The letter behind `Rupees` and one blank. -/
lemma getElem?_seven (p : ℕ) :
    (numberToIndianWords (p / 100)).toList[7]? = some ' ' ↔ 100000000000 ≤ p := by
  rw [numberToIndianWords_paise]
  by_cases hwhole : p / 100 = 0
  · rw [if_pos hwhole]
    refine iff_of_false ?_ (by omega)
    split
    · exact getElem?_fraction (Nat.mod_lt p (by decide))
    · decide
  rw [if_neg hwhole]
  obtain ⟨c, hc, hblank⟩ := head?_parts hwhole
  have hseven : ∀ s : String, s.toList.head? = some c →
      ("Rupees " ++ s).toList[7]? = some c := by
    intro s hs
    rw [String.toList_append]
    exact (List.getElem?_append_right (by decide)).trans (List.head?_eq_getElem?.symm.trans hs)
  have hrupees : ((if 0 < p % 100 then "Rupees " ++ " ".intercalate (parts (p / 100)) ++ " and " ++
      convertTwoDigits (p % 100) ++ " Paise"
    else "Rupees " ++ " ".intercalate (parts (p / 100))) ++ " Only").toList[7]? = some c := by
    split
    · simp only [String.append_assoc]
      exact hseven _ (head?_append hc)
    · rw [String.append_assoc]
      exact hseven _ (head?_append hc)
  rw [hrupees, Option.some_inj, hblank]
  omega

end AmountInWords

open AmountInWords

/-- The words for an amount denote it, and no other amount has the same words, just if it is less
than a hundred crore rupees. -/
theorem amount_in_words_faithful_iff (p : ℕ) :
    (readAmount (numberToIndianWords (p / 100)) = some p ∧
      ∀ q : ℕ, numberToIndianWords (q / 100) = numberToIndianWords (p / 100) → q = p) ↔
      p < 100000000000 := by
  have hread : ∀ p : ℕ, readAmount (numberToIndianWords (p / 100)) = some p ↔
      p < 100000000000 := by
    intro p
    rw [readAmount_numberToIndianWords, Option.some_inj]
    have hback := readBack_eq_iff (p / 100)
    omega
  refine ⟨fun h => (hread p).mp h.1, fun hp => ⟨(hread p).mpr hp, fun q hq => ?_⟩⟩
  -- the same text has the same letter behind the first word
  have hlt : q < 100000000000 := by
    rw [← not_le, ← getElem?_seven, hq, getElem?_seven, not_le]
    exact hp
  have hsame := (hread q).mpr hlt
  rw [hq, (hread p).mpr hp] at hsame
  exact (Option.some.inj hsame).symm

/-- A hundred crore and a hundred and ten crore are both written without a number. -/
theorem hundred_crore_without_number :
    numberToIndianWords 1000000000 = "Rupees  Crore Only" ∧
      numberToIndianWords 1100000000 = "Rupees  Crore Only" ∧
      ¬ ∀ p ≤ 999999999999, readAmount (numberToIndianWords ((p : ℕ) / 100)) = some p := by
  have hfirst : numberToIndianWords ((100000000000 : ℕ) / 100) = "Rupees  Crore Only" := by
    rw [numberToIndianWords_paise]
    decide
  have hsecond : numberToIndianWords ((110000000000 : ℕ) / 100) = "Rupees  Crore Only" := by
    rw [numberToIndianWords_paise]
    decide
  refine ⟨?_, ?_, fun h => ?_⟩
  · rw [← hfirst]
    norm_num
  · rw [← hsecond]
    norm_num
  · have hzero := h 100000000000 (by decide)
    rw [hfirst] at hzero
    exact absurd hzero (by decide)

end MeeoServer.Tax
