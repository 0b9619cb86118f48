/-
# Caches beside a database

A reader asks the levels of a cache for a key, and if none of them has it, the database, whose
answer it then writes to the cache.  What it writes may have been replaced in the database since
it was read, and the cache cleared of it.

`Store δ L K V` is a database of type `δ` with its versions, and levels `L` of a cache of values
`V` under keys `K`; `view` says what the database has under a key.  Some fields are history, which
no program looks at: which keys of a level were cleared after which changes, what the cache has
answered, and what the readers have returned.

The invariant `Coherent` says that nothing is cached, or was returned, which a change has replaced
after which its key was cleared or whose operation has returned.
-/
import MeeoServer.Process.History
import Mathlib.Logic.Function.Basic

namespace MeeoServer

namespace History

variable {δ : Type} {h : History δ} {P : δ → Prop} {n : ℕ}

/-- What once held, and no change up to the version `n` has taken for good, has held since then. -/
lemma since_of_not_lost (hP : h.Since 0 P) (hn : n ≤ h.version)
    (hkept : ∀ v, 1 ≤ v → v ≤ n → ¬h.Lost v P) : h.Since n P := by
  induction n with
  | zero => exact hP
  | succ n ih =>
    obtain ⟨d, hd, hPd⟩ := ih (Nat.le_of_succ_le hn) fun v hv hvn => hkept v hv (Nat.le_succ_of_le hvn)
    by_contra hsince
    have hlt : n + 1 < h.versions.length := by
      rw [length_versions]
      omega
    have hn' : n < h.versions.length := Nat.lt_of_succ_lt hlt
    rw [List.drop_eq_getElem_cons hn'] at hd
    rcases List.mem_cons.mp hd with rfl | hd
    · refine hkept (n + 1) (Nat.le_add_left 1 n) le_rfl ⟨⟨_, List.getElem?_eq_getElem hn', _,
        List.getElem?_eq_getElem hlt, hPd, fun hafter => hsince ⟨_, ?_, hafter⟩⟩, hsince⟩
      rw [List.drop_eq_getElem_cons hlt]
      exact List.mem_cons_self
    · exact hsince ⟨d, hd, hPd⟩

end History

namespace Lookaside

/-- A value that the cache has answered with, and what was settled at that moment. -/
structure Hit (K V : Type) where
  key : K
  value : V
  settled : List ℕ

/-- A value that was returned, with the version of the database and what was settled when the
reader started. -/
structure Answer (K V : Type) where
  key : K
  value : V
  version : ℕ
  settled : List ℕ
deriving DecidableEq

structure Store (δ L K V : Type) where
  clock : ℕ
  history : History δ
  /-- The values, and when they expire. -/
  cache : L → K → Option (V × ℕ)
  swept : L → K → List ℕ
  hits : List (Hit K V)
  answers : List (Answer K V)

variable {δ L K V : Type}

/-! ## What a value is known to be -/

/-- The change `v` has replaced the value, which has not come back. -/
def Replaced (view : δ → K → Option V) (h : History δ) (v : ℕ) (k : K) (value : V) : Prop :=
  h.Lost v fun d => view d k = some value

/-- The value was in the database, and none of the changes `vs` has replaced it. -/
structure Fresh (view : δ → K → Option V) (h : History δ) (vs : List ℕ) (k : K) (value : V) :
    Prop where
  since : h.Since 0 fun d => view d k = some value
  kept : ∀ v ∈ vs, v ≤ h.version ∧ ¬Replaced view h v k value

section Freshness

variable {view : δ → K → Option V} {h h' : History δ} {vs ws : List ℕ} {k : K} {value : V}

lemma Fresh.mono (hf : Fresh view h vs k value) (hh' : h.Extends h') (hvs : ∀ v ∈ ws, v ∈ vs) :
    Fresh view h' ws k value where
  since := hf.since.mono hh'
  kept v hv := by
    obtain ⟨hle, hkept⟩ := hf.kept v (hvs v hv)
    exact ⟨hle.trans hh'.version_le, History.not_lost_of_extends hh' hle hkept⟩

/-- If the operations of all changes up to the version `n` had returned, the value has been in the
database since then. -/
lemma Fresh.since_version {n : ℕ} (hf : Fresh view h vs k value) (hn : n ≤ h.version)
    (hall : ∀ v, 1 ≤ v → v ≤ n → v ∈ vs) : h.Since n fun d => view d k = some value :=
  History.since_of_not_lost hf.since hn fun v hv hvn => (hf.kept v (hall v hv hvn)).2

end Freshness

namespace Store

/-! ## Operations -/

section Operations

variable [DecidableEq L] [DecidableEq K] (s : Store δ L K V)

/-- Nothing is cached yet. -/
def start (clock : ℕ) (db : δ) : Store δ L K V where
  clock := clock
  history := .start db
  cache _ _ := none
  swept _ _ := []
  hits := []
  answers := []

def db : δ := s.history.now

/-- What a level answers for a key. -/
def live (l : L) (k : K) : Option V := ((s.cache l k).filter fun e => s.clock < e.2).map Prod.fst

/-- Ask a level for a key. -/
def lookup (l : L) (k : K) : Store δ L K V :=
  { s with hits := s.hits ++ (s.live l k).toList.map fun value => ⟨k, value, s.history.settled⟩ }

/-- A level forgets the entry under a key if it has expired. -/
def forget (l : L) (k : K) : Store δ L K V :=
  { s with
    cache := Function.update s.cache l
      (Function.update (s.cache l) k ((s.cache l k).filter fun e => s.clock < e.2)) }

def put (l : L) (k : K) (value : V) (expiresAt : ℕ) : Store δ L K V :=
  { s with
    cache := Function.update s.cache l (Function.update (s.cache l) k (some (value, expiresAt))) }

/-- Clear some keys of a level, after the changes `vs`. -/
def clear (l : L) (keys : List K) (vs : List ℕ) : Store δ L K V :=
  { s with
    cache := Function.update s.cache l fun k => if k ∈ keys then none else s.cache l k
    swept := Function.update s.swept l fun k =>
      if k ∈ keys then vs ++ s.swept l k else s.swept l k }

def record (db : δ) : Store δ L K V := { s with history := s.history.record db }

def settle (v : ℕ) (hv : v ≤ s.history.version) : Store δ L K V :=
  { s with history := s.history.settle v hv }

def answer (a : Answer K V) : Store δ L K V := { s with answers := s.answers ++ [a] }

def tick (elapsed : ℕ) : Store δ L K V := { s with clock := s.clock + elapsed }

end Operations

section Freshness

variable (view : δ → K → Option V) (s : Store δ L K V)

/-- The cache has answered with the value since the moment when `vs` was settled, or the database
has had it since each of these versions. -/
def Known (vs : List ℕ) (k : K) (value : V) : Prop :=
  (∃ hit ∈ s.hits, hit.key = k ∧ hit.value = value ∧ ∀ v ∈ vs, v ∈ hit.settled) ∨
    ∀ v ∈ 0 :: vs, s.history.Since v fun d => view d k = some value

/-- Nothing that is cached, and nothing that was answered, is replaced by a change that it should
not have survived. -/
structure Coherent : Prop where
  entries : ∀ l k value, s.live l k = some value →
    Fresh view s.history (s.swept l k ++ s.history.settled) k value
  bounded : ∀ l k, ∀ v ∈ s.swept l k, v ≤ s.history.version
  hits : ∀ hit ∈ s.hits, Fresh view s.history hit.settled hit.key hit.value
  answers : ∀ a ∈ s.answers, a.version ≤ s.history.version ∧ Fresh view s.history a.settled a.key a.value

/-- History is only ever extended. -/
structure Grows (s s' : Store δ L K V) : Prop where
  history : s.history.Extends s'.history
  swept : ∀ l k, ∀ v ∈ s.swept l k, v ∈ s'.swept l k
  hits : ∀ hit ∈ s.hits, hit ∈ s'.hits

end Freshness

variable {view : δ → K → Option V} {s s' s₀ : Store δ L K V} {vs ws : List ℕ} {l : L} {k : K}
  {value : V} {v : ℕ}

lemma Grows.refl (s : Store δ L K V) : Grows s s :=
  ⟨.refl _, fun _ _ _ hv => hv, fun _ hhit => hhit⟩

lemma Grows.trans (h : Grows s₀ s) (h' : Grows s s') : Grows s₀ s' where
  history := h.history.trans h'.history
  swept l k v hv := h'.swept l k v (h.swept l k v hv)
  hits hit hhit := h'.hits hit (h.hits hit hhit)

lemma Known.mono (h : s.Known view vs k value) (hs : Grows s s') (hvs : ∀ v ∈ ws, v ∈ vs) :
    s'.Known view ws k value := by
  rcases h with ⟨hit, hhit, hkey, hvalue, hsettled⟩ | hsince
  · exact .inl ⟨hit, hs.hits hit hhit, hkey, hvalue, fun v hv => hsettled v (hvs v hv)⟩
  · refine .inr fun v hv => (hsince v ?_).mono hs.history
    exact List.cons_subset_cons 0 hvs hv

/-- What the database has now is known since everything that is settled. -/
lemma known_of_view (hs : Grows s₀ s) (h : view s.db k = some value) :
    s.Known view s₀.history.settled k value := by
  refine .inr fun v hv => History.since_of_now ?_ h
  rcases List.mem_cons.mp hv with rfl | hv
  · exact Nat.zero_le _
  · exact (s₀.history.settled_le v hv).trans hs.history.version_le

lemma Coherent.fresh_of_known (h : s.Coherent view) (hk : s.Known view vs k value) :
    Fresh view s.history vs k value := by
  rcases hk with ⟨hit, hhit, rfl, rfl, hsettled⟩ | hsince
  · exact (h.hits hit hhit).mono (.refl _) hsettled
  · refine ⟨hsince 0 List.mem_cons_self, fun v hv => ?_⟩
    have hv' := hsince v (List.mem_cons_of_mem 0 hv)
    exact ⟨hv'.le_version, History.not_lost_of_since hv'⟩

lemma Coherent.le_version (h : s.Coherent view) (l : L) (k : K) :
    ∀ v ∈ s.swept l k ++ s.history.settled, v ≤ s.history.version := by
  intro v hv
  rcases List.mem_append.mp hv with hv | hv
  · exact h.bounded l k v hv
  · exact s.history.settled_le v hv

/-! ## Steps -/

section Steps

/-- A step that neither caches, clears nor answers anything and after which no operation returns. -/
lemma Coherent.of_live (h : s.Coherent view) (hs : s.history.Extends s'.history)
    (hlive : ∀ l k value, s'.live l k = some value → s.live l k = some value)
    (hswept : s'.swept = s.swept) (hsettled : s'.history.settled = s.history.settled)
    (hhits : s'.hits = s.hits) (hanswers : s'.answers = s.answers) : s'.Coherent view where
  entries l k value hvalue := by
    refine (h.entries l k value (hlive l k value hvalue)).mono hs fun v hv => ?_
    rw [hswept, hsettled] at hv
    exact hv
  bounded l k v hv := by
    rw [hswept] at hv
    exact (h.bounded l k v hv).trans hs.version_le
  hits hit hhit := by
    rw [hhits] at hhit
    exact (h.hits hit hhit).mono hs fun _ hv => hv
  answers a ha := by
    rw [hanswers] at ha
    obtain ⟨hle, hfresh⟩ := h.answers a ha
    exact ⟨hle.trans hs.version_le, hfresh.mono hs fun _ hv => hv⟩

lemma coherent_start (clock : ℕ) (db : δ) : (start clock db : Store δ L K V).Coherent view where
  entries _ _ _ hvalue := by cases hvalue
  bounded _ _ _ hv := by cases hv
  hits _ hhit := by cases hhit
  answers _ ha := by cases ha

lemma Coherent.record (h : s.Coherent view) (db : δ) : (s.record db).Coherent view :=
  h.of_live (History.extends_record _ _) (fun _ _ _ hvalue => hvalue) rfl rfl rfl rfl

/-- Time only ends the lives of entries. -/
lemma Coherent.tick (h : s.Coherent view) (elapsed : ℕ) : (s.tick elapsed).Coherent view := by
  refine h.of_live (.refl _) (fun l k value hvalue => ?_) rfl rfl rfl rfl
  obtain ⟨e, he, hvalue⟩ := Option.map_eq_some_iff.mp hvalue
  obtain ⟨he, hclock⟩ := Option.filter_eq_some_iff.mp he
  refine Option.map_eq_some_iff.mpr ⟨e, Option.filter_eq_some_iff.mpr ⟨he, ?_⟩, hvalue⟩
  exact decide_eq_true ((Nat.le_add_right _ _).trans_lt (of_decide_eq_true hclock))

/-- What a level answers is known from then on. -/
lemma known_lookup [DecidableEq L] [DecidableEq K] (hs : Grows s₀ s)
    (h : s.live l k = some value) : (s.lookup l k).Known view s₀.history.settled k value := by
  refine .inl ⟨⟨k, value, s.history.settled⟩, List.mem_append_right _ ?_, rfl, rfl,
    hs.history.settled⟩
  rw [h]
  exact List.mem_singleton_self _

lemma Coherent.lookup (h : s.Coherent view) (l : L) (k : K) : (s.lookup l k).Coherent view where
  entries := h.entries
  bounded := h.bounded
  hits hit hhit := by
    rcases List.mem_append.mp hhit with hhit | hhit
    · exact h.hits hit hhit
    · obtain ⟨value, hvalue, rfl⟩ := List.mem_map.mp hhit
      exact (h.entries l k value (Option.mem_toList.mp hvalue)).mono (.refl _)
        fun v hv => List.mem_append_right _ hv
  answers := h.answers

lemma Coherent.answer (h : s.Coherent view) {a : Answer K V} (hle : a.version ≤ s.history.version)
    (hfresh : Fresh view s.history a.settled a.key a.value) : (s.answer a).Coherent view where
  entries := h.entries
  bounded := h.bounded
  hits := h.hits
  answers b hb := by
    rcases List.mem_append.mp hb with hb | hb
    · exact h.answers b hb
    · rw [List.mem_singleton.mp hb]
      exact ⟨hle, hfresh⟩

/-- An operation returns, and nothing that its change has replaced is cached. -/
lemma Coherent.settle (h : s.Coherent view) (hv : v ≤ s.history.version)
    (hall : ∀ l k value, s.live l k = some value → ¬Replaced view s.history v k value) :
    (s.settle v hv).Coherent view where
  entries l k value hvalue := by
    obtain ⟨hsince, hkept⟩ := h.entries l k value hvalue
    refine ⟨hsince, fun w hw => ?_⟩
    rcases List.mem_append.mp hw with hw | hw
    · exact hkept w (List.mem_append_left _ hw)
    · rcases List.mem_cons.mp hw with rfl | hw
      · exact ⟨hv, hall l k value hvalue⟩
      · exact hkept w (List.mem_append_right _ hw)
  bounded := h.bounded
  hits hit hhit := (h.hits hit hhit).mono (History.extends_settle _ v hv) fun _ hw => hw
  answers a ha :=
    ⟨(h.answers a ha).1, (h.answers a ha).2.mono (History.extends_settle _ v hv) fun _ hw => hw⟩

variable [DecidableEq L] [DecidableEq K]

/-- Forgetting what has expired does not show. -/
lemma live_forget (s : Store δ L K V) (l l' : L) (k k' : K) :
    (s.forget l k).live l' k' = s.live l' k' := by
  unfold live forget
  dsimp only
  by_cases hl : l' = l
  · subst hl
    rw [Function.update_self]
    by_cases hk : k' = k
    · subst hk
      rw [Function.update_self]
      cases s.cache l' k' with
      | none => rfl
      | some e => by_cases he : s.clock < e.2 <;> simp [Option.filter, he]
    · rw [Function.update_of_ne hk]
  · rw [Function.update_of_ne hl]

lemma Coherent.forget (h : s.Coherent view) (l : L) (k : K) : (s.forget l k).Coherent view := by
  refine h.of_live (.refl _) (fun l' k' value hvalue => ?_) rfl rfl rfl rfl
  rwa [live_forget] at hvalue

/-- An entry is put on a level, and nothing has replaced it that it should not have survived. -/
lemma Coherent.put (h : s.Coherent view) {expiresAt : ℕ}
    (hsince : s.history.Since 0 fun d => view d k = some value)
    (hkept : ∀ v ∈ s.swept l k ++ s.history.settled, ¬Replaced view s.history v k value) :
    (s.put l k value expiresAt).Coherent view where
  entries l' k' value' hvalue' := by
    unfold live Store.put at hvalue'
    dsimp only at hvalue'
    by_cases hl : l' = l
    · subst hl
      rw [Function.update_self] at hvalue'
      by_cases hk : k' = k
      · subst hk
        rw [Function.update_self] at hvalue'
        obtain ⟨e, he, rfl⟩ := Option.map_eq_some_iff.mp hvalue'
        obtain ⟨he, -⟩ := Option.filter_eq_some_iff.mp he
        obtain rfl := Option.some.inj he
        exact ⟨hsince, fun v hv => ⟨h.le_version l' k' v hv, hkept v hv⟩⟩
      · rw [Function.update_of_ne hk] at hvalue'
        exact h.entries l' k' value' hvalue'
    · rw [Function.update_of_ne hl] at hvalue'
      exact h.entries l' k' value' hvalue'
  bounded := h.bounded
  hits := h.hits
  answers := h.answers

lemma mem_swept_clear {keys : List K} {l' : L} {w : ℕ} :
    w ∈ (s.clear l keys vs).swept l' k ↔
      w ∈ s.swept l' k ∨ l' = l ∧ k ∈ keys ∧ w ∈ vs := by
  unfold Store.clear
  dsimp only
  by_cases hl : l' = l
  · subst hl
    rw [Function.update_self]
    by_cases hk : k ∈ keys
    · rw [if_pos hk, List.mem_append]
      tauto
    · rw [if_neg hk]
      tauto
  · rw [Function.update_of_ne hl]
    tauto

lemma Coherent.clear (h : s.Coherent view) (l : L) (keys : List K)
    (hvs : ∀ v ∈ vs, v ≤ s.history.version) : (s.clear l keys vs).Coherent view where
  entries l' k value hvalue := by
    have hold : s.live l' k = some value ∧ ¬(l' = l ∧ k ∈ keys) := by
      unfold live Store.clear at hvalue
      dsimp only at hvalue
      by_cases hl : l' = l
      · subst hl
        rw [Function.update_self] at hvalue
        by_cases hk : k ∈ keys
        · rw [if_pos hk] at hvalue
          cases hvalue
        · rw [if_neg hk] at hvalue
          exact ⟨hvalue, fun hcleared => hk hcleared.2⟩
      · rw [Function.update_of_ne hl] at hvalue
        exact ⟨hvalue, fun hcleared => hl hcleared.1⟩
    refine (h.entries l' k value hold.1).mono (.refl _) fun v hv => ?_
    rcases List.mem_append.mp hv with hv | hv
    · rcases mem_swept_clear.mp hv with hv | ⟨hl, hk, -⟩
      · exact List.mem_append_left _ hv
      · exact absurd ⟨hl, hk⟩ hold.2
    · exact List.mem_append_right _ hv
  bounded l' k v hv := by
    rcases mem_swept_clear.mp hv with hv | ⟨-, -, hv⟩
    · exact h.bounded l' k v hv
    · exact hvs v hv
  hits := h.hits
  answers := h.answers

end Steps

end Store

end Lookaside

end MeeoServer
