/-
# Masking

`common/security/masking.ts`: the values under sensitive keys are replaced before something is
logged.  A key is looked up in the list after it was written in lower case, without hyphens and
underscores; the names of the list that have some are never found.  Below the tenth level nothing
is replaced.
-/
import MeeoServer.Text.Json
import MeeoServer.Text.Units

namespace MeeoServer.Security

open MeeoServer.Text

def SENSITIVE_KEYS : List Units :=
  ["password", "passwordhash", "confirmpassword", "currentpassword", "newpassword", "token",
    "accesstoken", "refreshtoken", "authorization", "cookie", "set-cookie", "secret",
    "jwt_access_secret", "jwt_refresh_secret", "otp", "cvv", "cvc", "cardnumber", "card_number",
    "creditcard", "apikey", "api_key", "stripesecret", "stripe_secret_key", "razorpaykeysecret",
    "razorpay_key_secret", "signature", "razorpay_signature", "stripe-signature"].map units

section Masking

variable (toLowerCase : Units → Units)

/-- `key.toLowerCase().replace(/[-_]/g, "")` -/
def lowerKey (key : Units) : Units :=
  (toLowerCase key).filter fun u => u ∉ units "-_"

/-- The keys whose values are replaced. -/
def isMasked (key : Units) : Bool := lowerKey toLowerCase key ∈ SENSITIVE_KEYS

/-- `maskedObj[key] = value`: what is assigned to `__proto__` becomes no field of the object. -/
def assign (key : Units) (value : Json Units) (fields : List (Units × Json Units)) :
    List (Units × Json Units) :=
  if key = units "__proto__" then fields else (key, value) :: fields

mutual

/-- A value that is no object is returned as it is. -/
def maskSensitiveData (depth : ℕ) : Json Units → Json Units
  | .arr items => if 10 < depth then .arr items else .arr (maskItems (depth + 1) items)
  | .obj fields => if 10 < depth then .obj fields else .obj (maskFields depth fields)
  | data => data

def maskItems (depth : ℕ) : List (Json Units) → List (Json Units)
  | [] => []
  | item :: items => maskSensitiveData depth item :: maskItems depth items

/-- The loop over the entries of an object. -/
def maskFields (depth : ℕ) : List (Units × Json Units) → List (Units × Json Units)
  | [] => []
  | (key, value) :: fields =>
    assign key
      (if isMasked toLowerCase key then .str (units "[REDACTED]")
        else maskSensitiveData (depth + 1) value)
      (maskFields depth fields)

end

/-! ## Secrets -/

/-- A key that equals one of the list up to letter case, hyphens and underscores. -/
def isSensitive (key : Units) : Bool :=
  SENSITIVE_KEYS.any fun name => lowerKey toLowerCase name = lowerKey toLowerCase key

mutual

/-- A value without its secrets. -/
def withoutSecrets : Json Units → Json Units
  | .arr items => .arr (itemsWithoutSecrets items)
  | .obj fields => .obj (fieldsWithoutSecrets fields)
  | data => data

def itemsWithoutSecrets : List (Json Units) → List (Json Units)
  | [] => []
  | item :: items => withoutSecrets item :: itemsWithoutSecrets items

def fieldsWithoutSecrets : List (Units × Json Units) → List (Units × Json Units)
  | [] => []
  | (key, value) :: fields =>
    (key, if isSensitive toLowerCase key then .null else withoutSecrets value) ::
      fieldsWithoutSecrets fields

end

/-- Two values that are equal except in the values stored under sensitive keys. -/
def EqualButSecrets (data data' : Json Units) : Prop :=
  withoutSecrets toLowerCase data = withoutSecrets toLowerCase data'

/-- Some secret in a value at this depth is left as it is: below the tenth level all of them are,
above it those whose key is not found in the list. -/
inductive Exposed : ℕ → Json Units → Prop where
  | deep {depth data} (hdepth : 10 < depth) (h : data.HasKey (isSensitive toLowerCase ·)) :
      Exposed depth data
  | item {depth item items} (hdepth : depth ≤ 10) (hitem : item ∈ items)
      (h : Exposed (depth + 1) item) : Exposed depth (.arr items)
  | unmasked {depth key value fields} (hdepth : depth ≤ 10) (hfield : (key, value) ∈ fields)
      (hproto : key ≠ units "__proto__") (hsensitive : isSensitive toLowerCase key)
      (hmasked : ¬isMasked toLowerCase key) : Exposed depth (.obj fields)
  | field {depth key value fields} (hdepth : depth ≤ 10) (hfield : (key, value) ∈ fields)
      (hproto : key ≠ units "__proto__") (hmasked : ¬isMasked toLowerCase key)
      (h : Exposed (depth + 1) value) : Exposed depth (.obj fields)

variable {toLowerCase}

/-! ## The loops, entry by entry -/

lemma maskItems_eq (depth : ℕ) (items : List (Json Units)) :
    maskItems toLowerCase depth items = items.map (maskSensitiveData toLowerCase depth) := by
  induction items with
  | nil => rfl
  | cons item items ih => rw [maskItems, ih, List.map_cons]

/-- The field that an entry becomes. -/
def maskField (toLowerCase : Units → Units) (depth : ℕ) (field : Units × Json Units) :
    Option (Units × Json Units) :=
  if field.1 = units "__proto__" then none
  else some (field.1, if isMasked toLowerCase field.1 then .str (units "[REDACTED]")
    else maskSensitiveData toLowerCase (depth + 1) field.2)

lemma maskFields_eq (depth : ℕ) (fields : List (Units × Json Units)) :
    maskFields toLowerCase depth fields = fields.filterMap (maskField toLowerCase depth) := by
  induction fields with
  | nil => rfl
  | cons field fields ih =>
    rw [maskFields, ih, List.filterMap_cons, assign, maskField]
    by_cases hproto : field.1 = units "__proto__"
    · rw [if_pos hproto, if_pos hproto]
    · rw [if_neg hproto, if_neg hproto]

lemma itemsWithoutSecrets_eq (items : List (Json Units)) :
    itemsWithoutSecrets toLowerCase items = items.map (withoutSecrets toLowerCase) := by
  induction items with
  | nil => rfl
  | cons item items ih => rw [itemsWithoutSecrets, ih, List.map_cons]

def fieldWithoutSecrets (toLowerCase : Units → Units) (field : Units × Json Units) :
    Units × Json Units :=
  (field.1, if isSensitive toLowerCase field.1 then .null else withoutSecrets toLowerCase field.2)

lemma fieldsWithoutSecrets_eq (fields : List (Units × Json Units)) :
    fieldsWithoutSecrets toLowerCase fields = fields.map (fieldWithoutSecrets toLowerCase) := by
  induction fields with
  | nil => rfl
  | cons field fields ih => rw [fieldsWithoutSecrets, ih, List.map_cons, fieldWithoutSecrets]

/-! ## The two values -/

lemma maskSensitiveData_of_deep {depth : ℕ} (h : 10 < depth) (data : Json Units) :
    maskSensitiveData toLowerCase depth data = data := by
  cases data with
  | arr items => rw [maskSensitiveData, if_pos h]
  | obj fields => rw [maskSensitiveData, if_pos h]
  | _ => rfl

lemma maskSensitiveData_arr {depth : ℕ} (h : depth ≤ 10) (items : List (Json Units)) :
    maskSensitiveData toLowerCase depth (.arr items) =
      .arr (items.map (maskSensitiveData toLowerCase (depth + 1))) := by
  rw [maskSensitiveData, if_neg (not_lt.mpr h), maskItems_eq]

lemma maskSensitiveData_obj {depth : ℕ} (h : depth ≤ 10) (fields : List (Units × Json Units)) :
    maskSensitiveData toLowerCase depth (.obj fields) =
      .obj (fields.filterMap (maskField toLowerCase depth)) := by
  rw [maskSensitiveData, if_neg (not_lt.mpr h), maskFields_eq]

/-- What the value has to be if the other one is an array, or an object. -/
lemma EqualButSecrets.arr {data : Json Units} {items : List (Json Units)}
    (h : EqualButSecrets toLowerCase data (.arr items)) :
    ∃ items', data = .arr items' ∧
      items'.map (withoutSecrets toLowerCase) = items.map (withoutSecrets toLowerCase) := by
  unfold EqualButSecrets at h
  cases data with
  | arr items' =>
    rw [withoutSecrets, withoutSecrets, Json.arr.injEq, itemsWithoutSecrets_eq,
      itemsWithoutSecrets_eq] at h
    exact ⟨items', rfl, h⟩
  | _ => simp [withoutSecrets] at h

lemma EqualButSecrets.obj {data : Json Units} {fields : List (Units × Json Units)}
    (h : EqualButSecrets toLowerCase data (.obj fields)) :
    ∃ fields', data = .obj fields' ∧
      fields'.map (fieldWithoutSecrets toLowerCase) =
        fields.map (fieldWithoutSecrets toLowerCase) := by
  unfold EqualButSecrets at h
  cases data with
  | obj fields' =>
    rw [withoutSecrets, withoutSecrets, Json.obj.injEq, fieldsWithoutSecrets_eq,
      fieldsWithoutSecrets_eq] at h
    exact ⟨fields', rfl, h⟩
  | _ => simp [withoutSecrets] at h

/-- A value without sensitive keys is equal to no other one. -/
lemma EqualButSecrets.eq {data data' : Json Units}
    (hkeys : ¬data.HasKey (isSensitive toLowerCase ·))
    (h : EqualButSecrets toLowerCase data' data) : data' = data := by
  induction data using Json.induction generalizing data' with
  | arr items ih =>
    obtain ⟨items', rfl, hitems⟩ := h.arr
    have hid := map_eq_map_of (f := id) hitems fun item hitem item' hitem' =>
      ih item hitem (fun hkey => hkeys (.item hitem hkey)) hitem'
    rw [List.map_id, List.map_id] at hid
    rw [hid]
  | obj fields ih =>
    obtain ⟨fields', rfl, hfields⟩ := h.obj
    have hid := map_eq_map_of (f := id) hfields fun field hfield field' hfield' => by
      obtain ⟨hkey, hvalue⟩ := Prod.ext_iff.mp hfield'
      have hkey : field'.1 = field.1 := hkey
      have hsensitive : ¬isSensitive toLowerCase field.1 := fun hs => hkeys (.here hfield hs)
      simp only [fieldWithoutSecrets, hkey, if_neg hsensitive] at hvalue
      exact Prod.ext hkey (ih field hfield (fun hkey => hkeys (.field hfield hkey)) hvalue)
    rw [List.map_id, List.map_id] at hid
    rw [hid]
  | _ => cases data' <;> simp_all [EqualButSecrets, withoutSecrets]

/-- **Masking does not depend on the secrets** of a value none of which is exposed. -/
lemma maskSensitiveData_congr {depth : ℕ} {data data' : Json Units}
    (hexposed : ¬Exposed toLowerCase depth data) (h : EqualButSecrets toLowerCase data' data) :
    maskSensitiveData toLowerCase depth data' = maskSensitiveData toLowerCase depth data := by
  induction data using Json.induction generalizing data' depth with
  | arr items ih =>
    rcases lt_or_ge 10 depth with hdeep | hdepth
    · rw [h.eq fun hkey => hexposed (.deep hdeep hkey)]
    · obtain ⟨items', rfl, hitems⟩ := h.arr
      rw [maskSensitiveData_arr hdepth, maskSensitiveData_arr hdepth,
        map_eq_map_of hitems fun item hitem item' hitem' =>
          ih item hitem (fun hkey => hexposed (.item hdepth hitem hkey)) hitem']
  | obj fields ih =>
    rcases lt_or_ge 10 depth with hdeep | hdepth
    · rw [h.eq fun hkey => hexposed (.deep hdeep hkey)]
    · obtain ⟨fields', rfl, hfields⟩ := h.obj
      rw [maskSensitiveData_obj hdepth, maskSensitiveData_obj hdepth,
        filterMap_eq_filterMap_of hfields fun field hfield field' hfield' => ?_]
      obtain ⟨hkey, hvalue⟩ := Prod.ext_iff.mp hfield'
      have hkey : field'.1 = field.1 := hkey
      unfold maskField
      rw [hkey]
      -- a field that is left as it is holds no secret, and none of those in it is exposed
      by_cases hproto : field.1 = units "__proto__"
      · rw [if_pos hproto, if_pos hproto]
      by_cases hmasked : isMasked toLowerCase field.1
      · simp only [hmasked, if_true]
      have hsensitive : ¬isSensitive toLowerCase field.1 := fun hs =>
        hexposed (.unmasked hdepth hfield hproto hs hmasked)
      simp only [fieldWithoutSecrets, hkey, if_neg hsensitive] at hvalue
      simp only [if_neg hproto, if_neg hmasked,
        ih field hfield (fun he => hexposed (.field hdepth hfield hproto hmasked he)) hvalue]
  | _ => cases data' <;> simp_all [EqualButSecrets, withoutSecrets]

/-! ## Secrets that are exposed -/

lemma equalButSecrets_arr {pre post : List (Json Units)} {item item' : Json Units}
    (h : EqualButSecrets toLowerCase item' item) :
    EqualButSecrets toLowerCase (.arr (pre ++ item' :: post)) (.arr (pre ++ item :: post)) := by
  unfold EqualButSecrets at h ⊢
  simp only [withoutSecrets, itemsWithoutSecrets_eq, List.map_append, List.map_cons, h]

lemma equalButSecrets_obj {pre post : List (Units × Json Units)} {field field' : Units × Json Units}
    (h : fieldWithoutSecrets toLowerCase field' = fieldWithoutSecrets toLowerCase field) :
    EqualButSecrets toLowerCase (.obj (pre ++ field' :: post)) (.obj (pre ++ field :: post)) := by
  unfold EqualButSecrets
  simp only [withoutSecrets, fieldsWithoutSecrets_eq, List.map_append, List.map_cons, h]

lemma fieldWithoutSecrets_eq {key : Units} {value value' : Json Units}
    (h : EqualButSecrets toLowerCase value' value) :
    fieldWithoutSecrets toLowerCase (key, value') =
      fieldWithoutSecrets toLowerCase (key, value) := by
  unfold EqualButSecrets at h
  simp only [fieldWithoutSecrets, h]

/-- The values of a sensitive field are all alike. -/
lemma fieldWithoutSecrets_of_sensitive {key : Units} (h : isSensitive toLowerCase key)
    (value value' : Json Units) :
    fieldWithoutSecrets toLowerCase (key, value') =
      fieldWithoutSecrets toLowerCase (key, value) := by
  simp only [fieldWithoutSecrets, if_pos h]

/-- A value with a sensitive key is equal to another one. -/
lemma exists_ne_of_hasKey {data : Json Units} (h : data.HasKey (isSensitive toLowerCase ·)) :
    ∃ data', EqualButSecrets toLowerCase data' data ∧ data' ≠ data := by
  induction h with
  | @here key value fields hfield hkey =>
    obtain ⟨pre, post, rfl⟩ := List.append_of_mem hfield
    obtain ⟨value', hvalue⟩ := value.exists_ne
    refine ⟨.obj (pre ++ (key, value') :: post),
      equalButSecrets_obj (fieldWithoutSecrets_of_sensitive hkey _ _), fun heq => hvalue ?_⟩
    have hfields := List.append_cancel_left (Json.obj.inj heq)
    exact (Prod.mk.inj (List.cons.inj hfields).1).2
  | item hitem _ ih =>
    obtain ⟨pre, post, rfl⟩ := List.append_of_mem hitem
    obtain ⟨item', hequal, hne⟩ := ih
    refine ⟨.arr (pre ++ item' :: post), equalButSecrets_arr hequal, fun heq => hne ?_⟩
    exact (List.cons.inj (List.append_cancel_left (Json.arr.inj heq))).1
  | @field key value fields hfield _ ih =>
    obtain ⟨pre, post, rfl⟩ := List.append_of_mem hfield
    obtain ⟨value', hequal, hne⟩ := ih
    refine ⟨.obj (pre ++ (key, value') :: post),
      equalButSecrets_obj (fieldWithoutSecrets_eq hequal), fun heq => hne ?_⟩
    have hfields := List.append_cancel_left (Json.obj.inj heq)
    exact (Prod.mk.inj (List.cons.inj hfields).1).2

/-- Two entries whose values are masked differently make a difference to the object. -/
lemma masked_obj_ne {depth : ℕ} (hdepth : depth ≤ 10) {key : Units}
    (hproto : key ≠ units "__proto__") (hmasked : ¬isMasked toLowerCase key)
    {value value' : Json Units} (pre post : List (Units × Json Units))
    (hne : maskSensitiveData toLowerCase (depth + 1) value' ≠
      maskSensitiveData toLowerCase (depth + 1) value) :
    maskSensitiveData toLowerCase depth (.obj (pre ++ (key, value') :: post)) ≠
      maskSensitiveData toLowerCase depth (.obj (pre ++ (key, value) :: post)) := by
  intro heq
  rw [maskSensitiveData_obj hdepth, maskSensitiveData_obj hdepth, Json.obj.injEq,
    List.filterMap_append, List.filterMap_append] at heq
  have hfields := List.append_cancel_left heq
  simp only [List.filterMap_cons, maskField, if_neg hproto, if_neg hmasked] at hfields
  exact hne (Prod.mk.inj (List.cons.inj hfields).1).2

lemma exists_ne_of_exposed {depth : ℕ} {data : Json Units} (h : Exposed toLowerCase depth data) :
    ∃ data', EqualButSecrets toLowerCase data' data ∧
      maskSensitiveData toLowerCase depth data' ≠ maskSensitiveData toLowerCase depth data := by
  induction h with
  | deep hdepth hkey =>
    obtain ⟨data', hequal, hne⟩ := exists_ne_of_hasKey hkey
    refine ⟨data', hequal, ?_⟩
    rwa [maskSensitiveData_of_deep hdepth, maskSensitiveData_of_deep hdepth]
  | item hdepth hitem _ ih =>
    obtain ⟨pre, post, rfl⟩ := List.append_of_mem hitem
    obtain ⟨item', hequal, hne⟩ := ih
    refine ⟨.arr (pre ++ item' :: post), equalButSecrets_arr hequal, fun heq => hne ?_⟩
    rw [maskSensitiveData_arr hdepth, maskSensitiveData_arr hdepth, Json.arr.injEq,
      List.map_append, List.map_append] at heq
    exact (List.cons.inj (List.append_cancel_left heq)).1
  | @unmasked depth key value fields hdepth hfield hproto hsensitive hmasked =>
    obtain ⟨pre, post, rfl⟩ := List.append_of_mem hfield
    obtain ⟨value', hne⟩ : ∃ value', maskSensitiveData toLowerCase (depth + 1) value' ≠
        maskSensitiveData toLowerCase (depth + 1) value := by
      -- a value that is no object stays as it is
      cases maskSensitiveData toLowerCase (depth + 1) value with
      | null => exact ⟨.bool true, by simp [maskSensitiveData]⟩
      | _ => exact ⟨.null, by simp [maskSensitiveData]⟩
    exact ⟨.obj (pre ++ (key, value') :: post),
      equalButSecrets_obj (fieldWithoutSecrets_of_sensitive hsensitive _ _),
      masked_obj_ne hdepth hproto hmasked pre post hne⟩
  | @field depth key value fields hdepth hfield hproto hmasked _ ih =>
    obtain ⟨pre, post, rfl⟩ := List.append_of_mem hfield
    obtain ⟨value', hequal, hne⟩ := ih
    exact ⟨.obj (pre ++ (key, value') :: post),
      equalButSecrets_obj (fieldWithoutSecrets_eq hequal),
      masked_obj_ne hdepth hproto hmasked pre post hne⟩

/-- **A log line does not depend on the secrets of a value** just if none of them is exposed:
no sensitive key is below the tenth level, and none above it is missing from the list once it is
written without hyphens and underscores. -/
theorem mask_noninterfering_iff (toLowerCase : Units → Units) (data : Json Units) :
    (∀ data', EqualButSecrets toLowerCase data' data →
      maskSensitiveData toLowerCase 0 data' = maskSensitiveData toLowerCase 0 data) ↔
      ¬Exposed toLowerCase 0 data := by
  constructor
  · intro h hexposed
    obtain ⟨data', hequal, hne⟩ := exists_ne_of_exposed hexposed
    exact hne (h data' hequal)
  · intro hexposed data' hequal
    exact maskSensitiveData_congr hexposed hequal

end Masking

/-- A response with one cookie. -/
def response (cookie : String) : Json Units := .obj [(units "set-cookie", .str (units cookie))]

/-- The cookie is logged. -/
theorem cookie_logged :
    ¬∀ (toLowerCase : Units → Units) (data data' : Json Units),
      EqualButSecrets toLowerCase data' data →
        maskSensitiveData toLowerCase 0 data' = maskSensitiveData toLowerCase 0 data := by
  intro h
  have hmasked : ¬isMasked asciiLower (units "set-cookie") := by decide +kernel
  have hsensitive : isSensitive asciiLower (units "set-cookie") := by decide +kernel
  have hequal : EqualButSecrets asciiLower (response "b") (response "a") :=
    @equalButSecrets_obj asciiLower [] [] _ _ (fieldWithoutSecrets_of_sensitive hsensitive _ _)
  refine masked_obj_ne (Nat.zero_le 10) (by decide) hmasked [] [] ?_ (h asciiLower _ _ hequal)
  show Json.str (units "b") ≠ Json.str (units "a")
  rw [Ne, Json.str.injEq]
  decide

example : (SENSITIVE_KEYS.filter fun key => !isMasked asciiLower key) =
    ["set-cookie", "jwt_access_secret", "jwt_refresh_secret", "stripe_secret_key",
      "razorpay_signature", "stripe-signature"].map units := by decide +kernel

end MeeoServer.Security
