/-
# Feature flags and rollouts

`isFeatureEnabled` of `settings/services/setting.service.ts`.  A user belongs to one of a hundred
buckets, by a hash of the identifier that is computed in a register of 32 bits, unit by unit.  A
flag whose name is a property of every object is left out.
-/
import MeeoServer.Numeric.Wrapping
import MeeoServer.Settings.Schema
import MeeoServer.Text.Units

namespace MeeoServer.Settings

open Wrapping Text

/-- `hash << 5`. -/
def shiftLeft5 (hash : ℤ) : ℤ := wrap 32 (hash * 2 ^ 5)

/-- The loop over the identifier. -/
def identifierHash (userIdentifier : Units) : ℤ :=
  userIdentifier.foldl (fun hash u => wrap 32 (shiftLeft5 hash - hash + u.toNat)) 0

/-- `Math.abs(hash) % 100`. -/
def bucket (userIdentifier : Units) : ℕ := (identifierHash userIdentifier).natAbs % 100

variable (settings : SystemSettings) (flagName : String)

def featureFlag : Option Bool := (settings .featureFlags).lookup flagName

def rolloutPercent : Option ℚ := (settings .percentageFeatureRollout).lookup flagName

/-- Evaluates whether a feature flag is enabled for a given user.  An identifier that is missing
is an empty one. -/
def isFeatureEnabled (userIdentifier : Units) : Bool :=
  if featureFlag settings flagName = some false then false
  else
    match rolloutPercent settings flagName with
    | some percent =>
      if 100 ≤ percent then true
      else if percent ≤ 0 then false
      else if userIdentifier = [] then false
      else decide ((bucket userIdentifier : ℚ) < percent)
    | none => (featureFlag settings flagName).getD false

/-! ## The bucket of a user -/

/-- The code units of an identifier, as the digits of a number in the base 31. -/
def number31 (userIdentifier : Units) : ℤ := horner 31 (userIdentifier.map fun u => ↑u.toNat) 0

/-- The hash is that number, wrapped once. -/
lemma identifierHash_eq (userIdentifier : Units) :
    identifierHash userIdentifier = wrap 32 (number31 userIdentifier) := by
  have hstep (x d : ℤ) : shiftLeft5 x - x + d ≡ x * 31 + d [ZMOD 2 ^ 32] := by
    have h := ((wrap_modEq 32 (x * 2 ^ 5)).sub_right x).add_right d
    rwa [show x * 2 ^ 5 - x + d = x * 31 + d by ring] at h
  have hfold := foldl_wrap (userIdentifier.map fun u => (↑u.toNat : ℤ)) hstep
    (Int.ModEq.refl 0)
  rwa [List.foldl_map] at hfold

lemma bucket_lt (userIdentifier : Units) : bucket userIdentifier < 100 := Nat.mod_lt _ (by omega)

variable {settings flagName}

/-- A flag that is not switched off is enabled for the buckets below its percentage. -/
lemma isFeatureEnabled_eq_true_iff {percent : ℚ} {userIdentifier : Units}
    (hflag : featureFlag settings flagName ≠ some false)
    (hpercent : rolloutPercent settings flagName = some percent) (huser : userIdentifier ≠ []) :
    isFeatureEnabled settings flagName userIdentifier = true ↔
      (bucket userIdentifier : ℚ) < percent := by
  simp only [isFeatureEnabled, hflag, hpercent, huser, if_false]
  split_ifs with hall hnone
  · have hlt : (bucket userIdentifier : ℚ) < 100 := by exact_mod_cast bucket_lt userIdentifier
    simpa using hlt.trans_le hall
  · have hnonneg : (0 : ℚ) ≤ bucket userIdentifier := Nat.cast_nonneg _
    simpa using hnone.trans hnonneg
  · simp

/-- **Rollouts are nested.**  A flag is enabled for the users whose number, wrapped once into 32
bits, leaves less than its percentage when its absolute value is divided by 100.  So whoever has
it keeps it as long as it is not switched off and its percentage does not get smaller, whatever
else is changed. -/
theorem rollout_nested {settings' : SystemSettings} {percent percent' : ℚ}
    (hflag : featureFlag settings flagName ≠ some false)
    (hflag' : featureFlag settings' flagName ≠ some false)
    (hpercent : rolloutPercent settings flagName = some percent)
    (hpercent' : rolloutPercent settings' flagName = some percent') (hle : percent ≤ percent') :
    (∀ userIdentifier ≠ [], isFeatureEnabled settings flagName userIdentifier = true ↔
      ((wrap 32 (number31 userIdentifier)).natAbs % 100 : ℕ) < percent) ∧
    ∀ userIdentifier, isFeatureEnabled settings flagName userIdentifier = true →
      isFeatureEnabled settings' flagName userIdentifier = true := by
  refine ⟨fun userIdentifier huser => ?_, fun userIdentifier h => ?_⟩
  · rw [← identifierHash_eq]
    exact isFeatureEnabled_eq_true_iff hflag hpercent huser
  · by_cases huser : userIdentifier = []
    · -- nobody in particular: only a complete rollout reaches them
      subst huser
      have hall : 100 ≤ percent := by
        by_contra hnot
        simp [isFeatureEnabled, hflag, hpercent, hnot] at h
      simp [isFeatureEnabled, hflag', hpercent', hall.trans hle]
    · rw [isFeatureEnabled_eq_true_iff hflag' hpercent' huser]
      exact ((isFeatureEnabled_eq_true_iff hflag hpercent huser).mp h).trans_le hle

/-- The recommendations reach one customer in five, then two. -/
theorem rollout_nested_recommendations :
    isFeatureEnabled defaults "aiProductRecommendations" (units "user_10") = true ∧
    isFeatureEnabled
      (Function.update defaults .percentageFeatureRollout [("aiProductRecommendations", 40)])
      "aiProductRecommendations" (units "user_10") = true := by
  have h : isFeatureEnabled defaults "aiProductRecommendations" (units "user_10") = true := by
    decide +kernel
  have hpercent : rolloutPercent defaults "aiProductRecommendations" = some 20 := by decide +kernel
  have hpercent' : rolloutPercent
      (Function.update defaults .percentageFeatureRollout [("aiProductRecommendations", 40)])
      "aiProductRecommendations" = some 40 := by
    decide +kernel
  refine ⟨h, (rollout_nested ?_ ?_ hpercent hpercent' (by norm_num)).2 _ h⟩ <;> decide +kernel

end MeeoServer.Settings
