/-
# Histories

What somebody may rely on after an operation has returned is a matter of time: a value that was
read before, or that an operation still in progress is about to replace, is not wrong yet.
`History δ` keeps all versions of a database of type `δ`, numbered from the oldest, and the
numbers of the versions whose operations have returned.

`Lost v P` says that the step to the version `v` has taken the property `P` away, and that no
later version has given it back.  It is the notion of staleness that only shrinks as the history
grows (`not_lost_of_extends`), so that what was up to date when it was looked up stays so.
-/
import Mathlib.Data.List.Infix

namespace MeeoServer

/-- The versions of a database, and those of them that are settled: the operation that made the
version has returned. -/
structure History (δ : Type) where
  past : List δ
  now : δ
  settled : List ℕ
  settled_le : ∀ v ∈ settled, v ≤ past.length

namespace History

variable {δ : Type} (h : History δ)

/-- A database that nothing has happened to. -/
def start (d : δ) : History δ := ⟨[], d, [], by simp⟩

/-- The version `v` is the entry `v` of this list. -/
def versions : List δ := h.past ++ [h.now]

/-- The number of the present version. -/
def version : ℕ := h.past.length

/-- A new version. -/
def record (d : δ) : History δ where
  past := h.past ++ [h.now]
  now := d
  settled := h.settled
  settled_le v hv := by
    have hle := h.settled_le v hv
    rw [List.length_append]
    exact Nat.le_add_right_of_le hle

/-- The operation that made the version `v` returns. -/
def settle (v : ℕ) (hv : v ≤ h.version) : History δ where
  past := h.past
  now := h.now
  settled := v :: h.settled
  settled_le w hw := by
    rcases List.mem_cons.mp hw with rfl | hw
    · exact hv
    · exact h.settled_le w hw

/-- `P` holds of some version from `v` on. -/
def Since (v : ℕ) (P : δ → Prop) : Prop := ∃ d ∈ h.versions.drop v, P d

/-- The step to the version `v` took `P` away. -/
def Took (v : ℕ) (P : δ → Prop) : Prop :=
  ∃ before ∈ h.versions[v - 1]?, ∃ after ∈ h.versions[v]?, P before ∧ ¬ P after

/-- The step to the version `v` took `P` away, and no later version has given it back. -/
def Lost (v : ℕ) (P : δ → Prop) : Prop := h.Took v P ∧ ¬ h.Since v P

instance (v : ℕ) (P : δ → Prop) [DecidablePred P] : Decidable (h.Since v P) := by
  unfold Since
  infer_instance

instance (v : ℕ) (P : δ → Prop) [DecidablePred P] : Decidable (h.Took v P) := by
  unfold Took
  infer_instance

instance (v : ℕ) (P : δ → Prop) [DecidablePred P] : Decidable (h.Lost v P) := by
  unfold Lost
  infer_instance

/-- The later history goes on from the earlier one. -/
structure Extends (h h' : History δ) : Prop where
  versions : h.versions <+: h'.versions
  settled : ∀ v ∈ h.settled, v ∈ h'.settled

variable {h} {h' h'' : History δ} {v : ℕ} {P : δ → Prop}

lemma length_versions (h : History δ) : h.versions.length = h.version + 1 := by
  unfold versions version
  simp

lemma Extends.refl (h : History δ) : h.Extends h := ⟨List.prefix_refl _, fun _ hv => hv⟩

lemma Extends.trans (hh' : h.Extends h') (hh'' : h'.Extends h'') : h.Extends h'' :=
  ⟨hh'.versions.trans hh''.versions, fun v hv => hh''.settled v (hh'.settled v hv)⟩

lemma extends_record (h : History δ) (d : δ) : h.Extends (h.record d) :=
  ⟨List.prefix_append _ _, fun _ hv => hv⟩

lemma extends_settle (h : History δ) (v : ℕ) (hv : v ≤ h.version) : h.Extends (h.settle v hv) :=
  ⟨List.prefix_refl _, fun _ hw => List.mem_cons_of_mem _ hw⟩

lemma Extends.version_le (hh' : h.Extends h') : h.version ≤ h'.version := by
  have hle := hh'.versions.length_le
  rw [length_versions, length_versions] at hle
  exact Nat.le_of_succ_le_succ hle

lemma Since.mono (hP : h.Since v P) (hh' : h.Extends h') : h'.Since v P := by
  obtain ⟨d, hd, hPd⟩ := hP
  obtain ⟨later, hlater⟩ := hh'.versions
  refine ⟨d, ?_, hPd⟩
  rw [← hlater, List.drop_append]
  exact List.mem_append_left _ hd

lemma Since.le_version (hP : h.Since v P) : v ≤ h.version := by
  obtain ⟨d, hd, -⟩ := hP
  have hlt : 0 < (h.versions.drop v).length := List.length_pos_of_mem hd
  rw [List.length_drop, length_versions] at hlt
  omega

/-- What holds now has held since every version up to this one. -/
lemma since_of_now (hv : v ≤ h.version) (hP : P h.now) : h.Since v P := by
  refine ⟨h.now, ?_, hP⟩
  unfold versions
  rw [List.drop_append_of_le_length hv]
  exact List.mem_append_right _ (List.mem_singleton_self _)

/-- What a step has taken was taken by it in every longer history, and the other way round. -/
lemma took_iff_of_extends (hh' : h.Extends h') (hv : v ≤ h.version) :
    h'.Took v P ↔ h.Took v P := by
  have hget : ∀ i ≤ v, h'.versions[i]? = h.versions[i]? := by
    intro i hi
    obtain ⟨later, hlater⟩ := hh'.versions
    have hlt : i < h.versions.length := by
      rw [length_versions]
      omega
    rw [← hlater, List.getElem?_append_left hlt]
  unfold Took
  rw [hget v le_rfl, hget (v - 1) (Nat.sub_le v 1)]

/-- **Staleness shrinks.**  What is not lost now will not be lost to the same step later. -/
theorem not_lost_of_extends (hh' : h.Extends h') (hv : v ≤ h.version) (hlost : ¬ h.Lost v P) :
    ¬ h'.Lost v P := by
  rintro ⟨htook, hnever⟩
  refine hlost ⟨(took_iff_of_extends hh' hv).mp htook, fun hsince => ?_⟩
  exact hnever (hsince.mono hh')

lemma not_lost_of_since (hP : h.Since v P) : ¬ h.Lost v P := fun hlost => hlost.2 hP

/-- What the step to the present version takes. -/
lemma took_record {d : δ} (htook : (h.record d).Took (h.record d).version P) :
    P h.now ∧ ¬ P d := by
  obtain ⟨before, hbefore, after, hafter, hP, hnot⟩ := htook
  have hversion : (h.record d).version = h.version + 1 := by
    unfold version record
    simp
  have hold : (h.record d).versions[h.version]? = some h.now := by
    unfold versions record version
    simp
  have hnew : (h.record d).versions[h.version + 1]? = some d := by
    unfold versions record version
    simp
  rw [hversion] at hbefore hafter
  obtain rfl : h.now = before := Option.some.inj (hold.symm.trans hbefore)
  obtain rfl : d = after := Option.some.inj (hnew.symm.trans hafter)
  exact ⟨hP, hnot⟩

end History

end MeeoServer
