/-
# The states of India

`tax/constants/indianStates.ts`: the codes of the states, and the search for the state that a
text means.  Texts are compared as lists of characters.
-/
import MeeoServer.Text.JsString

namespace MeeoServer

structure IndianStateInfo where
  code : String
  name : String
  isUnionTerritory : Bool
deriving DecidableEq, Repr

/-- The states in the order of `Object.values`: keys that are canonical integers come first. -/
def INDIAN_GST_STATES : List IndianStateInfo :=
  [⟨"10", "Bihar", false⟩, ⟨"11", "Sikkim", false⟩, ⟨"12", "Arunachal Pradesh", false⟩,
    ⟨"13", "Nagaland", false⟩, ⟨"14", "Manipur", false⟩, ⟨"15", "Mizoram", false⟩,
    ⟨"16", "Tripura", false⟩, ⟨"17", "Meghalaya", false⟩, ⟨"18", "Assam", false⟩,
    ⟨"19", "West Bengal", false⟩, ⟨"20", "Jharkhand", false⟩, ⟨"21", "Odisha", false⟩,
    ⟨"22", "Chhattisgarh", false⟩, ⟨"23", "Madhya Pradesh", false⟩, ⟨"24", "Gujarat", false⟩,
    ⟨"26", "Dadra and Nagar Haveli and Daman and Diu", true⟩, ⟨"27", "Maharashtra", false⟩,
    ⟨"28", "Andhra Pradesh", false⟩, ⟨"29", "Karnataka", false⟩, ⟨"30", "Goa", false⟩,
    ⟨"31", "Lakshadweep", true⟩, ⟨"32", "Kerala", false⟩, ⟨"33", "Tamil Nadu", false⟩,
    ⟨"34", "Puducherry", true⟩, ⟨"35", "Andaman and Nicobar Islands", true⟩,
    ⟨"36", "Telangana", false⟩, ⟨"37", "Andhra Pradesh (Newly Assigned)", false⟩,
    ⟨"38", "Ladakh", true⟩, ⟨"97", "Other Territory", true⟩,
    ⟨"01", "Jammu and Kashmir", true⟩, ⟨"02", "Himachal Pradesh", false⟩,
    ⟨"03", "Punjab", false⟩, ⟨"04", "Chandigarh", true⟩, ⟨"05", "Uttarakhand", false⟩,
    ⟨"06", "Haryana", false⟩, ⟨"07", "Delhi", true⟩, ⟨"08", "Rajasthan", false⟩,
    ⟨"09", "Uttar Pradesh", false⟩]

open JsString

/-- `INDIAN_GST_STATES[clean]`.  A plain object also has the properties of its prototype; the
two whose names are in lower case have no code. -/
def stateByCode (clean : List Char) : Option IndianStateInfo :=
  match INDIAN_GST_STATES.find? fun state => state.code.toList = clean with
  | some state => some state
  | none =>
    if clean = "constructor".toList then some ⟨"", "Object", false⟩
    else if clean = "__proto__".toList then some ⟨"", "", false⟩
    else none

def matchesName (clean : List Char) (state : IndianStateInfo) : Bool :=
  let normalizedName := toLowerCase state.name.toList
  normalizedName = clean || withoutSpaces normalizedName = withoutSpaces clean ||
    includes normalizedName clean || includes clean normalizedName

/-- Common synonyms. -/
def synonymCode (clean : List Char) : Option String :=
  if clean = "delhi ncr".toList ∨ clean = "new delhi".toList ∨ clean = "nct of delhi".toList then
    some "07"
  else if clean = "orissa".toList then some "21"
  else if clean = "uttaranchal".toList then some "05"
  else if clean = "pondicherry".toList then some "34"
  else none

/-- Normalizes an arbitrary state name or code string to a verified 2-digit Indian GST State
Code. -/
def normalizeIndianState (input : String) : Option IndianStateInfo :=
  if input = "" then none
  else
    let clean := toLowerCase (trim input.toList)
    match stateByCode clean with
    | some state => some state
    | none =>
      match INDIAN_GST_STATES.find? (matchesName clean) with
      | some state => some state
      | none => (synonymCode clean).bind fun code => stateByCode code.toList

example : (normalizeIndianState " maharashtra").map IndianStateInfo.code = some "27" := by
  decide +kernel

end MeeoServer
