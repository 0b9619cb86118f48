/-
# Texts as bytes

UTF-8, read with U+FFFD for what is not well formed, and base64url without padding.  What was
written is read back.
-/
import Mathlib.Data.List.TakeWhile
import MeeoServer.Text.Units

namespace MeeoServer.Text

abbrev Bytes := List UInt8

/-! ## UTF-8 -/

namespace Utf8

def encode (text : List Char) : Bytes := text.flatMap String.utf8EncodeChar

/-- A character of which some bytes have been read: its leading bits, the number of bytes still to
come, and the bounds of the next one. -/
structure Pending where
  code : ℕ
  needed : ℕ
  lower : ℕ
  upper : ℕ

def replacement : Char := '\uFFFD'

/-- A byte where a character begins. -/
def start (b : ℕ) : List Char × Option Pending :=
  if b ≤ 0x7F then ([.ofNat b], none)
  else if 0xC2 ≤ b ∧ b ≤ 0xDF then ([], some ⟨b % 0x20, 1, 0x80, 0xBF⟩)
  else if 0xE0 ≤ b ∧ b ≤ 0xEF then
    -- neither overlong forms nor surrogates
    ([], some ⟨b % 0x10, 2, if b = 0xE0 then 0xA0 else 0x80, if b = 0xED then 0x9F else 0xBF⟩)
  else if 0xF0 ≤ b ∧ b ≤ 0xF4 then
    ([], some ⟨b % 8, 3, if b = 0xF0 then 0x90 else 0x80, if b = 0xF4 then 0x8F else 0xBF⟩)
  else ([replacement], none)

def step (pending : Option Pending) (b : ℕ) : List Char × Option Pending :=
  match pending with
  | none => start b
  | some p =>
    if p.lower ≤ b ∧ b ≤ p.upper then
      let code := p.code * 0x40 + b % 0x40
      if p.needed = 1 then ([.ofNat code], none) else ([], some ⟨code, p.needed - 1, 0x80, 0xBF⟩)
    else (replacement :: (start b).1, (start b).2)

def decodeFrom : Option Pending → Bytes → List Char
  | none, [] => []
  | some _, [] => [replacement]
  | pending, b :: rest =>
    (step pending b.toNat).1 ++ decodeFrom (step pending b.toNat).2 rest

def decode (bytes : Bytes) : List Char := decodeFrom none bytes

lemma decodeFrom_cons (pending : Option Pending) (b : UInt8) (rest : Bytes) :
    decodeFrom pending (b :: rest) =
      (step pending b.toNat).1 ++ decodeFrom (step pending b.toNat).2 rest := by
  cases pending <;> rfl

section Sequence

variable {p : Pending} {b : ℕ}

/-- A byte within the bounds, not the last. -/
lemma step_more (hb : p.lower ≤ b ∧ b ≤ p.upper) (hneeded : p.needed ≠ 1) :
    step (some p) b = ([], some ⟨p.code * 0x40 + b % 0x40, p.needed - 1, 0x80, 0xBF⟩) := by
  simp only [step, if_pos hb, if_neg hneeded]

lemma step_last (hb : p.lower ≤ b ∧ b ≤ p.upper) (hneeded : p.needed = 1) :
    step (some p) b = ([.ofNat (p.code * 0x40 + b % 0x40)], none) := by
  simp only [step, if_pos hb, if_pos hneeded]

lemma start_one (hb : b ≤ 0x7F) : start b = ([.ofNat b], none) := by
  rw [start, if_pos hb]

lemma start_two (hlow : 0xC2 ≤ b) (hhigh : b ≤ 0xDF) :
    start b = ([], some ⟨b % 0x20, 1, 0x80, 0xBF⟩) := by
  rw [start, if_neg (by omega), if_pos ⟨hlow, hhigh⟩]

lemma start_three (hlow : 0xE0 ≤ b) (hhigh : b ≤ 0xEF) :
    start b = ([], some ⟨b % 0x10, 2, if b = 0xE0 then 0xA0 else 0x80,
      if b = 0xED then 0x9F else 0xBF⟩) := by
  rw [start, if_neg (by omega), if_neg (by omega), if_pos ⟨hlow, hhigh⟩]

lemma start_four (hlow : 0xF0 ≤ b) (hhigh : b ≤ 0xF4) :
    start b = ([], some ⟨b % 8, 3, if b = 0xF0 then 0x90 else 0x80,
      if b = 0xF4 then 0x8F else 0xBF⟩) := by
  rw [start, if_neg (by omega), if_neg (by omega), if_neg (by omega), if_pos ⟨hlow, hhigh⟩]

end Sequence

private lemma toNat_ofNat_of_lt {n : ℕ} (h : n < 0x100) : (UInt8.ofNat n).toNat = n :=
  UInt8.toNat_ofNat_of_lt' h

/-- The bytes of one character are read as that character. -/
theorem decodeFrom_utf8EncodeChar (c : Char) (rest : Bytes) :
    decodeFrom none (String.utf8EncodeChar c ++ rest) = c :: decodeFrom none rest := by
  have hvalid : c.toNat < 0xD800 ∨ 0xDFFF < c.toNat ∧ c.toNat < 0x110000 := c.valid
  have hchar : ∀ n, n = c.toNat → Char.ofNat n = c := fun n hn => hn ▸ Char.ofNat_toNat c
  rw [String.utf8EncodeChar, show c.val.toNat = c.toNat from rfl]
  by_cases hone : c.toNat ≤ 0x7F
  · simp only [if_pos hone, List.cons_append, List.nil_append]
    rw [decodeFrom_cons, toNat_ofNat_of_lt (by omega), step, start_one hone]
    simp only [hchar _ rfl, List.cons_append, List.nil_append]
  by_cases htwo : c.toNat ≤ 0x7FF
  · simp only [if_neg hone, if_pos htwo, List.cons_append, List.nil_append]
    rw [decodeFrom_cons, toNat_ofNat_of_lt (by omega), step,
      start_two (by omega) (by omega), decodeFrom_cons, toNat_ofNat_of_lt (by omega),
      step_last (by constructor <;> dsimp only <;> omega) rfl]
    simp only [List.cons_append, List.nil_append]
    rw [hchar _ (by omega)]
  by_cases hthree : c.toNat ≤ 0xFFFF
  · simp only [if_neg hone, if_neg htwo, if_pos hthree, List.cons_append, List.nil_append]
    rw [decodeFrom_cons, toNat_ofNat_of_lt (by omega), step,
      start_three (by omega) (by omega), decodeFrom_cons, toNat_ofNat_of_lt (by omega),
      step_more (by constructor <;> dsimp only <;> split <;> omega) (by simp), decodeFrom_cons,
      toNat_ofNat_of_lt (by omega), step_last (by constructor <;> dsimp only <;> omega) rfl]
    simp only [List.cons_append, List.nil_append]
    rw [hchar _ (by omega)]
  · simp only [if_neg hone, if_neg htwo, if_neg hthree, List.cons_append, List.nil_append]
    rw [decodeFrom_cons, toNat_ofNat_of_lt (by omega), step,
      start_four (by omega) (by omega), decodeFrom_cons, toNat_ofNat_of_lt (by omega),
      step_more (by constructor <;> dsimp only <;> split <;> omega) (by simp), decodeFrom_cons,
      toNat_ofNat_of_lt (by omega),
      step_more (by constructor <;> dsimp only <;> omega) (by simp), decodeFrom_cons,
      toNat_ofNat_of_lt (by omega), step_last (by constructor <;> dsimp only <;> omega) rfl]
    simp only [List.cons_append, List.nil_append]
    rw [hchar _ (by omega)]

theorem decode_encode (text : List Char) : decode (encode text) = text := by
  unfold decode encode
  induction text with
  | nil => rfl
  | cons c text ih => rw [List.flatMap_cons, decodeFrom_utf8EncodeChar, ih]

end Utf8

/-! ## base64url -/

namespace Base64Url

/-- The digit of the value `n`. -/
def digit (n : ℕ) : UInt16 :=
  if n < 26 then .ofNat (0x41 + n)
  else if n < 52 then .ofNat (0x61 + (n - 26))
  else if n < 62 then .ofNat (0x30 + (n - 52))
  else if n = 62 then 0x2D else 0x5F

/-- The value of a digit, in this alphabet or in that of base64. -/
def value? (u : UInt16) : Option ℕ :=
  if 0x41 ≤ u ∧ u ≤ 0x5A then some (u.toNat - 0x41)
  else if 0x61 ≤ u ∧ u ≤ 0x7A then some (u.toNat - 0x61 + 26)
  else if 0x30 ≤ u ∧ u ≤ 0x39 then some (u.toNat - 0x30 + 52)
  else if u = 0x2D ∨ u = 0x2B then some 62
  else if u = 0x5F ∨ u = 0x2F then some 63
  else none

/-- Three bytes in four values. -/
def sextets : Bytes → List ℕ
  | a :: b :: c :: rest =>
    a.toNat / 4 :: (a.toNat % 4 * 16 + b.toNat / 16) :: (b.toNat % 16 * 4 + c.toNat / 64) ::
      c.toNat % 64 :: sextets rest
  | [a, b] => [a.toNat / 4, a.toNat % 4 * 16 + b.toNat / 16, b.toNat % 16 * 4]
  | [a] => [a.toNat / 4, a.toNat % 4 * 16]
  | [] => []

/-- Four values in three bytes; of an unfinished group only the full bytes count. -/
def octets : List ℕ → Bytes
  | a :: b :: c :: d :: rest =>
    .ofNat (a * 4 + b / 16) :: .ofNat (b % 16 * 16 + c / 4) :: .ofNat (c % 4 * 64 + d) ::
      octets rest
  | [a, b, c] => [.ofNat (a * 4 + b / 16), .ofNat (b % 16 * 16 + c / 4)]
  | [a, b] => [.ofNat (a * 4 + b / 16)]
  | _ => []

def encode (bytes : Bytes) : Units := (sextets bytes).map digit

/-- `=` ends the text; what is no digit, such as white space, is passed over. -/
def decode (text : Units) : Bytes := octets ((text.takeWhile (· ≠ 0x3D)).filterMap value?)

lemma value?_digit {n : ℕ} (h : n < 64) : value? (digit n) = some n := by
  revert n
  decide

lemma digit_ne_padding {n : ℕ} (h : n < 64) : digit n ≠ 0x3D := by
  revert n
  decide

lemma lt_of_mem_sextets {bytes : Bytes} {n : ℕ} (h : n ∈ sextets bytes) : n < 64 := by
  fun_induction sextets bytes with
  | case1 a b c rest ih =>
    have ha := a.toNat_lt
    have hb := b.toNat_lt
    have hc := c.toNat_lt
    simp only [List.mem_cons] at h
    rcases h with rfl | rfl | rfl | rfl | hrest
    · omega
    · omega
    · omega
    · omega
    · exact ih hrest
  | case2 a b =>
    have ha := a.toNat_lt
    have hb := b.toNat_lt
    simp only [List.mem_cons, List.not_mem_nil, or_false] at h
    omega
  | case3 a =>
    have ha := a.toNat_lt
    simp only [List.mem_cons, List.not_mem_nil, or_false] at h
    omega
  | case4 => exact absurd h List.not_mem_nil

private lemma ofNat_eq {b : UInt8} {n : ℕ} (h : n = b.toNat) : UInt8.ofNat n = b := by
  rw [h, UInt8.ofNat_toNat]

lemma octets_sextets (bytes : Bytes) : octets (sextets bytes) = bytes := by
  fun_induction sextets bytes with
  | case1 a b c rest ih =>
    have ha := a.toNat_lt
    have hb := b.toNat_lt
    have hc := c.toNat_lt
    rw [octets, ih, ofNat_eq (b := a) (by omega), ofNat_eq (b := b) (by omega),
      ofNat_eq (b := c) (by omega)]
  | case2 a b =>
    have ha := a.toNat_lt
    have hb := b.toNat_lt
    rw [octets, ofNat_eq (b := a) (by omega), ofNat_eq (b := b) (by omega)]
  | case3 a =>
    have ha := a.toNat_lt
    rw [octets, ofNat_eq (b := a) (by omega)]
  | case4 => rfl

/-- Digits are all read. -/
lemma values_map_digit {values : List ℕ} (h : ∀ n ∈ values, n < 64) :
    ((values.map digit).takeWhile (· ≠ 0x3D)).filterMap value? = values := by
  have hdigits : (values.map digit).takeWhile (· ≠ 0x3D) = values.map digit := by
    refine List.takeWhile_eq_self_iff.mpr fun u hu => ?_
    obtain ⟨n, hn, rfl⟩ := List.mem_map.mp hu
    exact decide_eq_true (digit_ne_padding (h n hn))
  calc ((values.map digit).takeWhile (· ≠ 0x3D)).filterMap value?
      = values.filterMap (value? ∘ digit) := by rw [hdigits, List.filterMap_map]
    _ = values.filterMap some := List.filterMap_congr fun n hn => value?_digit (h n hn)
    _ = values := List.filterMap_some

theorem decode_encode (bytes : Bytes) : decode (encode bytes) = bytes := by
  rw [decode, encode, values_map_digit fun _ => lt_of_mem_sextets, octets_sextets]

lemma encode_ne_nil {bytes : Bytes} (h : bytes ≠ []) : encode bytes ≠ [] := by
  intro hnil
  have hback := decode_encode bytes
  rw [hnil] at hback
  exact h hback.symm

end Base64Url

end MeeoServer.Text
