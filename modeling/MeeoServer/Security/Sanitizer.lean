/-
# Sanitization

`common/security/sanitizer.ts`: keys that could reach a prototype are dropped from a request, and
null characters, script elements and `javascript:` are removed from its strings, one after the
other.  What is removed may have held two parts of such a text apart.  Below the fifteenth level
nothing is removed.
-/
import MeeoServer.Text.Json
import MeeoServer.Text.Removal
import MeeoServer.Text.Units

namespace MeeoServer.Security

open MeeoServer.Text

/-! ## The patterns -/

/-- The length of a text, if it is there in any letter case. -/
def literalLength (p s : Units) : Option ℕ := if startsWith p s then some p.length else none

lemma literalLength_eq_some {p s : Units} {n : ℕ} :
    literalLength p s = some n ↔ startsWith p (s.drop 0) ∧ p.length = n := by
  rw [literalLength, Option.ite_none_right_eq_some, Option.some.injEq, List.drop_zero]

/-- A text in any letter case, which begins with a unit that it does not contain again. -/
def literal (a : UInt16) (p : Units) (h : a ∉ p) : Matcher UInt16 where
  length? := literalLength (a :: p)
  pos := by
    intro s n hn
    obtain ⟨-, rfl⟩ := literalLength_eq_some.mp hn
    exact Nat.succ_pos _
  le_length := by
    intro s n hn
    obtain ⟨hstart, rfl⟩ := literalLength_eq_some.mp hn
    simpa using le_length_of_startsWith hstart (List.cons_ne_nil a p)
  local_take := by
    intro s s' n hn htake
    obtain ⟨hstart, rfl⟩ := literalLength_eq_some.mp hn
    exact literalLength_eq_some.mpr
      ⟨(startsWith_congr htake (Nat.zero_add _).le).mpr hstart, rfl⟩
  nested := by
    intro s n k n' hn hk hn'
    obtain ⟨hstart, rfl⟩ := literalLength_eq_some.mp hn
    obtain ⟨hstart', rfl⟩ := literalLength_eq_some.mp hn'
    cases k with
    | zero => exact (Nat.zero_add _).le
    | succ k =>
      -- the first unit would be there again
      rw [List.drop_drop, Nat.add_zero] at hstart'
      have hunit := getElem?_of_startsWith hstart hk
      have hunit' := getElem?_of_startsWith hstart' (Nat.succ_pos p.length)
      rw [Nat.zero_add, List.getElem?_cons_succ] at hunit
      rw [Nat.add_zero, hunit, List.getElem?_cons_zero] at hunit'
      exact absurd (List.mem_of_getElem? hunit') h

/-- `\0` -/
def nullPattern : Matcher UInt16 := literal 0 [] (by decide)

/-- `javascript:` -/
def javascriptPattern : Matcher UInt16 := literal 106 (units "avascript:") (by decide)

/-- `[A-Za-z0-9_]` -/
def isWord (u : UInt16) : Bool :=
  (48 ≤ u && u ≤ 57) || (65 ≤ u && u ≤ 90) || (97 ≤ u && u ≤ 122) || u == 95

/-- `<script\b` -/
def opens (s : Units) : Bool := startsWith (units "<script") s && !(s[7]?).any isWord

/-- `<\/script>` -/
def closes (s : Units) : Bool := startsWith (units "</script>") s

/-- `<script\b[^<]*(?:(?!<\/script>)<[^<]*)*<\/script>`: an opening tag, and everything up to the
first closing tag after it. -/
def scriptLength (s : Units) : Option ℕ :=
  if opens s then
    ((List.range s.length).find? fun c => closes (s.drop (7 + c))).map (7 + · + 9)
  else none

lemma scriptLength_eq_some {s : Units} {n : ℕ} : scriptLength s = some n ↔
    ∃ c, n = c + 16 ∧ startsWith (units "<script") (s.drop 0) ∧ (s[7]?).any isWord = false ∧
      closes (s.drop (7 + c)) ∧ ∀ i < c, ¬closes (s.drop (7 + i)) := by
  unfold scriptLength opens
  rw [Option.ite_none_right_eq_some, Bool.and_eq_true, Bool.not_eq_true', List.drop_zero]
  constructor
  · rintro ⟨⟨hopen, hword⟩, hfind⟩
    obtain ⟨c, hc, rfl⟩ := Option.map_eq_some_iff.mp hfind
    obtain ⟨hclose, -, hfirst⟩ := List.find?_range_eq_some.mp hc
    exact ⟨c, by omega, hopen, hword, hclose, fun i hi => by simpa using hfirst i hi⟩
  · rintro ⟨c, rfl, hopen, hword, hclose, hfirst⟩
    refine ⟨⟨hopen, hword⟩, Option.map_eq_some_iff.mpr ⟨c, ?_, by omega⟩⟩
    have hlength : 7 + c + (units "</script>").length ≤ s.length :=
      le_length_of_startsWith hclose (by decide)
    exact List.find?_range_eq_some.mpr
      ⟨hclose, List.mem_range.mpr (by omega), fun i hi => by simpa using hfirst i hi⟩

/-- The units of the two tags that are `<`, and the one that tells them apart. -/
lemma opening_unit {i : ℕ} (hi : i < 7) (h : (units "<script")[i]? = some 60) : i = 0 := by
  revert i
  decide

lemma closing_unit {i : ℕ} (hi : i < 9) (h : (units "</script>")[i]? = some 60) : i = 0 := by
  revert i
  decide

/-- A script element that begins within another ends with it. -/
lemma scriptLength_nested {s : Units} {n k n' : ℕ} (hn : scriptLength s = some n) (hk : k < n)
    (hn' : scriptLength (s.drop k) = some n') : k + n' ≤ n := by
  obtain ⟨c, rfl, hopen, -, hclose, -⟩ := scriptLength_eq_some.mp hn
  obtain ⟨c', rfl, hopen', -, -, hfirst⟩ := scriptLength_eq_some.mp hn'
  rw [List.drop_drop, Nat.add_zero] at hopen'
  have hat : ∀ i < 7, (asciiLower s)[k + i]? = (units "<script")[i]? :=
    fun i hi => getElem?_of_startsWith hopen' hi
  have hopenAt : ∀ i < 7, (asciiLower s)[0 + i]? = (units "<script")[i]? :=
    fun i hi => getElem?_of_startsWith hopen hi
  have hcloseAt : ∀ i < 9, (asciiLower s)[7 + c + i]? = (units "</script>")[i]? :=
    fun i hi => getElem?_of_startsWith hclose hi
  have hlt : (asciiLower s)[k]? = some 60 := hat 0 (by decide)
  rcases Nat.eq_zero_or_pos k with rfl | hpos
  · -- the two are the same
    have heq : c' + 16 = c + 16 := by
      rw [List.drop_zero, hn] at hn'
      exact (Option.some.inj hn').symm
    omega
  -- it does not begin in the opening tag
  have hk7 : 7 ≤ k := by
    by_contra hlt7
    have hunit := hopenAt k (by omega)
    rw [Nat.zero_add, hlt] at hunit
    have := opening_unit (by omega) hunit.symm
    omega
  -- nor in the closing tag
  have hkc : k < 7 + c := by
    by_contra hge
    obtain ⟨i, rfl⟩ := Nat.exists_eq_add_of_le (not_lt.mp hge)
    have hunit := hcloseAt i (by omega)
    rw [hlt] at hunit
    obtain rfl := closing_unit (by omega) hunit.symm
    have hnext := hat 1 (by decide)
    rw [Nat.add_zero, hcloseAt 1 (by decide)] at hnext
    exact absurd hnext (by decide)
  -- and the closing tag does not begin in its opening tag
  have hkc7 : k + 7 ≤ 7 + c := by
    by_contra hlt7
    obtain ⟨i, hi⟩ := Nat.exists_eq_add_of_lt hkc
    have hunit := hat (i + 1) (by omega)
    rw [← add_assoc, ← hi, ← Nat.add_zero (7 + c), hcloseAt 0 (by decide)] at hunit
    have := opening_unit (by omega) (hunit.symm.trans rfl)
    omega
  by_contra hgt
  refine hfirst (c - k) (by omega) ?_
  rwa [List.drop_drop, show k + (7 + (c - k)) = 7 + c by omega]

def scriptPattern : Matcher UInt16 where
  length? := scriptLength
  pos := by
    intro s n hn
    obtain ⟨c, rfl, -⟩ := scriptLength_eq_some.mp hn
    omega
  le_length := by
    intro s n hn
    obtain ⟨c, rfl, -, -, hclose, -⟩ := scriptLength_eq_some.mp hn
    have hlength : 7 + c + (units "</script>").length ≤ s.length :=
      le_length_of_startsWith hclose (by decide)
    have hnine : (units "</script>").length = 9 := rfl
    omega
  local_take := by
    intro s s' n hn htake
    obtain ⟨c, rfl, hopen, hword, hclose, hfirst⟩ := scriptLength_eq_some.mp hn
    have hseven : (units "<script").length = 7 := rfl
    have hnine : (units "</script>").length = 9 := rfl
    have hunit : s'[7]? = s[7]? := by
      rw [← List.getElem?_take_of_lt (by omega : 7 < c + 16), htake,
        List.getElem?_take_of_lt (by omega)]
    refine scriptLength_eq_some.mpr ⟨c, rfl, ?_, by rw [hunit, hword], ?_, fun i hi => ?_⟩
    · exact (startsWith_congr htake (by omega)).mpr hopen
    · exact (startsWith_congr htake (by omega)).mpr hclose
    · exact fun h => hfirst i hi ((startsWith_congr htake (by omega)).mp h)
  nested := fun hn hk hn' => scriptLength_nested hn hk hn'

/-! ## The sanitizer -/

def DANGEROUS_KEYS : List Units := ["__proto__", "constructor", "prototype"].map units

/-- Strips null bytes, script tags, and `javascript:` pseudo-protocols, in this order. -/
def sanitizeString (val : Units) : Units :=
  javascriptPattern.removeAll (scriptPattern.removeAll (nullPattern.removeAll val))

/-- The value of a field: a string is sanitized whatever its depth. -/
def fieldValue (value sanitized : Json Units) : Json Units :=
  match value with
  | .str s => .str (sanitizeString s)
  | _ => sanitized

mutual

def sanitizeInput (depth : ℕ) : Json Units → Json Units
  | .arr items => if 15 < depth then .arr items else .arr (sanitizeItems (depth + 1) items)
  | .obj fields => if 15 < depth then .obj fields else .obj (sanitizeFields depth fields)
  | .str s => if 15 < depth then .str s else .str (sanitizeString s)
  | input => input

def sanitizeItems (depth : ℕ) : List (Json Units) → List (Json Units)
  | [] => []
  | item :: items => sanitizeInput depth item :: sanitizeItems depth items

/-- The loop over the entries of an object. -/
def sanitizeFields (depth : ℕ) : List (Units × Json Units) → List (Units × Json Units)
  | [] => []
  | (key, value) :: fields =>
    if key ∈ DANGEROUS_KEYS then sanitizeFields depth fields
    else (key, fieldValue value (sanitizeInput (depth + 1) value)) :: sanitizeFields depth fields

end

/-! ## Strings -/

/-- The three removals. -/
def patterns : List (Matcher UInt16) := [nullPattern, scriptPattern, javascriptPattern]

lemma sanitizeString_eq (val : Units) : sanitizeString val = removeEach patterns val := rfl

/-- A string with a script element or with `javascript:` in it. -/
def Dirty (s : Units) : Prop := scriptPattern.Occurs s ∨ javascriptPattern.Occurs s

/-- In what is left of the string after the removals, a script element or `javascript:` is put
together from units that were not adjacent. -/
def PutTogether (s : Units) : Prop :=
  Spliced patterns scriptPattern s ∨ Spliced patterns javascriptPattern s

lemma dirty_sanitizeString_iff {s : Units} : Dirty (sanitizeString s) ↔ PutTogether s :=
  or_congr (occurs_removeEach_iff (show scriptPattern ∈ patterns by simp [patterns]) s)
    (occurs_removeEach_iff (show javascriptPattern ∈ patterns by simp [patterns]) s)

/-- One unit is always adjacent. -/
lemma not_null_sanitizeString (s : Units) : ¬nullPattern.Occurs (sanitizeString s) := by
  rw [sanitizeString_eq, occurs_removeEach_iff (show nullPattern ∈ patterns by simp [patterns])]
  rintro ⟨w, -, hmatch, hadjacent⟩
  obtain ⟨-, hlength⟩ := literalLength_eq_some.mp hmatch
  obtain ⟨x, rfl⟩ := List.length_eq_one_iff.mp ((List.length_map _).symm.trans hlength.symm)
  exact hadjacent (.singleton x)

/-- A string that is clean after the removals is left alone by them. -/
lemma sanitizeString_idempotent {s : Units} (h : ¬Dirty (sanitizeString s)) :
    sanitizeString (sanitizeString s) = sanitizeString s := by
  obtain ⟨hscript, hjavascript⟩ := not_or.mp h
  rw [sanitizeString, Matcher.removeAll_of_not_occurs (not_null_sanitizeString s),
    Matcher.removeAll_of_not_occurs hscript, Matcher.removeAll_of_not_occurs hjavascript]

/-! ## The loops, entry by entry -/

lemma sanitizeItems_eq (depth : ℕ) (items : List (Json Units)) :
    sanitizeItems depth items = items.map (sanitizeInput depth) := by
  induction items with
  | nil => rfl
  | cons item items ih => rw [sanitizeItems, ih, List.map_cons]

/-- What an entry becomes. -/
def sanitizeField (depth : ℕ) (field : Units × Json Units) : Units × Json Units :=
  (field.1, fieldValue field.2 (sanitizeInput (depth + 1) field.2))

lemma sanitizeFields_eq (depth : ℕ) (fields : List (Units × Json Units)) :
    sanitizeFields depth fields =
      (fields.filter fun field => field.1 ∉ DANGEROUS_KEYS).map (sanitizeField depth) := by
  induction fields with
  | nil => rfl
  | cons field fields ih =>
    rw [sanitizeFields, ih]
    by_cases hkey : field.1 ∈ DANGEROUS_KEYS
    · rw [if_pos hkey, List.filter_cons_of_neg (by simpa using hkey)]
    · rw [if_neg hkey, List.filter_cons_of_pos (by simpa using hkey), List.map_cons, sanitizeField]

section Depth

variable {depth : ℕ}

lemma sanitizeInput_of_deep (h : 15 < depth) (input : Json Units) :
    sanitizeInput depth input = input := by
  cases input <;> simp [sanitizeInput, h]

lemma sanitizeInput_str (h : depth ≤ 15) (s : Units) :
    sanitizeInput depth (.str s) = .str (sanitizeString s) := by
  rw [sanitizeInput, if_neg (not_lt.mpr h)]

lemma sanitizeInput_arr (h : depth ≤ 15) (items : List (Json Units)) :
    sanitizeInput depth (.arr items) = .arr (items.map (sanitizeInput (depth + 1))) := by
  rw [sanitizeInput, if_neg (not_lt.mpr h), sanitizeItems_eq]

lemma sanitizeInput_obj (h : depth ≤ 15) (fields : List (Units × Json Units)) :
    sanitizeInput depth (.obj fields) =
      .obj ((fields.filter fun field => field.1 ∉ DANGEROUS_KEYS).map (sanitizeField depth)) := by
  rw [sanitizeInput, if_neg (not_lt.mpr h), sanitizeFields_eq]

end Depth

/-! ## What is let through -/

/-- No dangerous key and no dirty string, at any depth. -/
structure Clean (input : Json Units) : Prop where
  keys : ¬input.HasKey (· ∈ DANGEROUS_KEYS)
  strings : ¬input.HasString Dirty

/-- Something is let through: below the fifteenth level a dangerous key or a dirty string, above it
a string in which such a text is put together. -/
inductive LetsThrough : ℕ → Json Units → Prop where
  | deepKey {depth input} (hdepth : 15 < depth) (h : input.HasKey (· ∈ DANGEROUS_KEYS)) :
      LetsThrough depth input
  | deepString {depth input} (hdepth : 15 < depth) (h : input.HasString Dirty) :
      LetsThrough depth input
  | str {depth s} (hdepth : depth ≤ 15) (h : PutTogether s) : LetsThrough depth (.str s)
  | item {depth item items} (hdepth : depth ≤ 15) (hitem : item ∈ items)
      (h : LetsThrough (depth + 1) item) : LetsThrough depth (.arr items)
  | fieldString {depth key s fields} (hdepth : depth ≤ 15) (hfield : (key, .str s) ∈ fields)
      (hkey : key ∉ DANGEROUS_KEYS) (h : PutTogether s) : LetsThrough depth (.obj fields)
  | field {depth key value fields} (hdepth : depth ≤ 15) (hfield : (key, value) ∈ fields)
      (hkey : key ∉ DANGEROUS_KEYS) (hvalue : ∀ s, value ≠ .str s)
      (h : LetsThrough (depth + 1) value) : LetsThrough depth (.obj fields)

/-! ## The sanitized value -/

section Sanitized

variable {depth : ℕ} {input : Json Units}

lemma clean_str_iff {s : Units} : Clean (.str s) ↔ ¬Dirty s := by
  constructor
  · exact fun h hdirty => h.strings (.here hdirty)
  · intro h
    refine ⟨fun hkey => ?_, fun hstring => ?_⟩
    · cases hkey
    · cases hstring with
      | here hdirty => exact h hdirty

lemma clean_arr_iff {items : List (Json Units)} :
    Clean (.arr items) ↔ ∀ item ∈ items, Clean item := by
  constructor
  · exact fun h item hitem => ⟨fun hkey => h.keys (.item hitem hkey),
      fun hstring => h.strings (.item hitem hstring)⟩
  · intro h
    refine ⟨fun hkey => ?_, fun hstring => ?_⟩
    · cases hkey with
      | item hitem hkey => exact (h _ hitem).keys hkey
    · cases hstring with
      | item hitem hstring => exact (h _ hitem).strings hstring

lemma clean_obj_iff {fields : List (Units × Json Units)} :
    Clean (.obj fields) ↔ ∀ field ∈ fields, field.1 ∉ DANGEROUS_KEYS ∧ Clean field.2 := by
  constructor
  · exact fun h field hfield => ⟨fun hkey => h.keys (.here hfield hkey),
      fun hkey => h.keys (.field hfield hkey), fun hstring => h.strings (.field hfield hstring)⟩
  · intro h
    refine ⟨fun hkey => ?_, fun hstring => ?_⟩
    · cases hkey with
      | here hfield hkey => exact (h _ hfield).1 hkey
      | field hfield hkey => exact (h _ hfield).2.keys hkey
    · cases hstring with
      | field hfield hstring => exact (h _ hfield).2.strings hstring

lemma clean_sanitized_obj_iff (h : depth ≤ 15) {fields : List (Units × Json Units)} :
    Clean (sanitizeInput depth (.obj fields)) ↔
      ∀ field ∈ fields, field.1 ∉ DANGEROUS_KEYS → Clean (sanitizeField depth field).2 := by
  rw [sanitizeInput_obj h, clean_obj_iff, List.forall_mem_map]
  constructor
  · intro hall field hfield hkey
    exact (hall field (List.mem_filter.mpr ⟨hfield, by simpa using hkey⟩)).2
  · intro hall field hfield
    obtain ⟨hfield, hkey⟩ := List.mem_filter.mp hfield
    have hkey : field.1 ∉ DANGEROUS_KEYS := by simpa using hkey
    exact ⟨hkey, hall field hfield hkey⟩

/-- The output is clean just if nothing is let through. -/
lemma clean_sanitized_iff : Clean (sanitizeInput depth input) ↔ ¬LetsThrough depth input := by
  constructor
  · intro hclean hthrough
    induction hthrough with
    | deepKey hdepth h => exact hclean.keys (by rwa [sanitizeInput_of_deep hdepth])
    | deepString hdepth h => exact hclean.strings (by rwa [sanitizeInput_of_deep hdepth])
    | str hdepth h =>
      rw [sanitizeInput_str hdepth, clean_str_iff, dirty_sanitizeString_iff] at hclean
      exact hclean h
    | item hdepth hitem _ ih =>
      rw [sanitizeInput_arr hdepth, clean_arr_iff, List.forall_mem_map] at hclean
      exact ih (hclean _ hitem)
    | fieldString hdepth hfield hkey h =>
      have hvalue := (clean_sanitized_obj_iff hdepth).mp hclean _ hfield hkey
      rw [sanitizeField, fieldValue, clean_str_iff, dirty_sanitizeString_iff] at hvalue
      exact hvalue h
    | @field depth key value fields hdepth hfield hkey hvalue _ ih =>
      have hclean := (clean_sanitized_obj_iff hdepth).mp hclean _ hfield hkey
      rw [sanitizeField, fieldValue] at hclean
      · exact ih hclean
      · exact hvalue
  · intro h
    induction input using Json.induction generalizing depth with
    | str s =>
      rcases lt_or_ge 15 depth with hdeep | hdepth
      · rw [sanitizeInput_of_deep hdeep]
        exact ⟨fun hkey => h (.deepKey hdeep hkey), fun hs => h (.deepString hdeep hs)⟩
      · rw [sanitizeInput_str hdepth, clean_str_iff, dirty_sanitizeString_iff]
        exact fun hput => h (.str hdepth hput)
    | arr items ih =>
      rcases lt_or_ge 15 depth with hdeep | hdepth
      · rw [sanitizeInput_of_deep hdeep]
        exact ⟨fun hkey => h (.deepKey hdeep hkey), fun hs => h (.deepString hdeep hs)⟩
      · rw [sanitizeInput_arr hdepth, clean_arr_iff, List.forall_mem_map]
        exact fun item hitem => ih item hitem fun ht => h (.item hdepth hitem ht)
    | obj fields ih =>
      rcases lt_or_ge 15 depth with hdeep | hdepth
      · rw [sanitizeInput_of_deep hdeep]
        exact ⟨fun hkey => h (.deepKey hdeep hkey), fun hs => h (.deepString hdeep hs)⟩
      · refine (clean_sanitized_obj_iff hdepth).mpr fun field hfield hkey => ?_
        obtain ⟨key, value⟩ := field
        by_cases hvalue : ∀ s, value ≠ .str s
        · rw [sanitizeField, fieldValue]
          · exact ih _ hfield fun ht => h (.field hdepth hfield hkey hvalue ht)
          · exact hvalue
        · obtain ⟨s, rfl⟩ := not_forall_not.mp hvalue
          rw [sanitizeField, fieldValue, clean_str_iff, dirty_sanitizeString_iff]
          exact fun hput => h (.fieldString hdepth hfield hkey hput)
    | _ =>
      refine ⟨fun hkey => ?_, fun hstring => ?_⟩
      · cases hkey
      · cases hstring

/-- A value that is no string stays one. -/
lemma fieldValue_sanitizeInput {value : Json Units} (hvalue : ∀ s, value ≠ .str s)
    (sanitized : Json Units) : fieldValue (sanitizeInput depth value) sanitized = sanitized := by
  cases value with
  | str s => exact absurd rfl (hvalue s)
  | arr items =>
    rw [sanitizeInput]
    split <;> rfl
  | obj fields =>
    rw [sanitizeInput]
    split <;> rfl
  | _ => rfl

/-- Once the output is clean, there is nothing left to remove from it. -/
lemma sanitizeInput_idempotent (h : Clean (sanitizeInput depth input)) :
    sanitizeInput depth (sanitizeInput depth input) = sanitizeInput depth input := by
  rcases lt_or_ge 15 depth with hdeep | hdepth
  · rw [sanitizeInput_of_deep hdeep]
  induction input using Json.induction generalizing depth with
  | str s =>
    rw [sanitizeInput_str hdepth, clean_str_iff] at h
    rw [sanitizeInput_str hdepth, sanitizeInput_str hdepth, sanitizeString_idempotent h]
  | arr items ih =>
    rw [sanitizeInput_arr hdepth, clean_arr_iff, List.forall_mem_map] at h
    rw [sanitizeInput_arr hdepth, sanitizeInput_arr hdepth, List.map_map, Json.arr.injEq]
    refine List.map_congr_left fun item hitem => ?_
    rcases lt_or_ge 15 (depth + 1) with hdeep | hnext
    · exact sanitizeInput_of_deep hdeep _
    · exact ih item hitem (h item hitem) hnext
  | obj fields ih =>
    have hfields := (clean_sanitized_obj_iff hdepth).mp h
    rw [sanitizeInput_obj hdepth, sanitizeInput_obj hdepth, Json.obj.injEq]
    -- the dangerous keys are gone
    rw [List.filter_eq_self.mpr fun field hfield => ?_, List.map_map]
    · refine List.map_congr_left fun field hmem => ?_
      obtain ⟨hfield, hkey⟩ := List.mem_filter.mp hmem
      have hkey : field.1 ∉ DANGEROUS_KEYS := by simpa using hkey
      have hclean := hfields field hfield hkey
      obtain ⟨key, value⟩ := field
      refine Prod.ext rfl ?_
      by_cases hvalue : ∀ s, value ≠ .str s
      · have hstays : fieldValue value (sanitizeInput (depth + 1) value) =
            sanitizeInput (depth + 1) value := by
          rw [fieldValue]
          exact hvalue
        rw [sanitizeField, hstays] at hclean
        show fieldValue (fieldValue value _) (sanitizeInput (depth + 1) (fieldValue value _)) =
          fieldValue value _
        rw [hstays, fieldValue_sanitizeInput hvalue]
        rcases lt_or_ge 15 (depth + 1) with hdeep | hnext
        · exact sanitizeInput_of_deep hdeep _
        · exact ih _ hfield hclean hnext
      · obtain ⟨s, rfl⟩ := not_forall_not.mp hvalue
        rw [sanitizeField, fieldValue, clean_str_iff] at hclean
        exact congrArg Json.str (sanitizeString_idempotent hclean)
    · obtain ⟨field', hmem, rfl⟩ := List.mem_map.mp hfield
      exact (List.mem_filter.mp hmem).2
  | _ => rfl

end Sanitized

/-- **The output is clean, and sanitizing it again changes nothing**, just if nothing is let
through. -/
theorem sanitizeInput_sound_iff (input : Json Units) :
    (Clean (sanitizeInput 0 input) ∧
      sanitizeInput 0 (sanitizeInput 0 input) = sanitizeInput 0 input) ↔ ¬LetsThrough 0 input := by
  rw [← clean_sanitized_iff]
  exact and_iff_left_of_imp sanitizeInput_idempotent

example : sanitizeString (units "<script>alert()</script>Hello <script src=e></SCRIPT>World") =
    units "Hello World" := by decide +kernel

/-- A body with one field, whose value `javascript:` is left of when `javascript:` is removed. -/
def craftedBody : Json Units := .obj [(units "url", .str (units "javajavascript:script:"))]

/-- Removing `javascript:` from the middle leaves `javascript:`. -/
theorem javascript_put_together :
    ¬∀ input, Clean (sanitizeInput 0 input) ∧
      sanitizeInput 0 (sanitizeInput 0 input) = sanitizeInput 0 input := by
  intro h
  have hclean := (clean_sanitized_obj_iff (Nat.zero_le 15)).mp (h craftedBody).1 _
    List.mem_cons_self (by decide)
  have hstring : sanitizeString (units "javajavascript:script:") = units "javascript:" := by
    decide +kernel
  rw [sanitizeField, fieldValue, clean_str_iff, hstring] at hclean
  exact hclean (Or.inr ⟨0, 11, by decide⟩)

end MeeoServer.Security
