/-
# Revocation is effective

Once an operation has returned, no request that starts later is let in with a session, a role
or a permission that the operation has taken away and nothing has given back.

What can go wrong is in the condition `Meets`.  A context that was loaded before a key was
cleared must not be written back under the key; the index of a user must not gain a key between
the statement that reads it and the one that deletes it; the transaction that replaces the
permissions of a role must have found all its users; and three operations do not clear the cache
at all, so that nothing that they take may be cached.

The invariant says the same of every entry of the cache, on each level: no change after which
its key was cleared, and no change that has returned, has taken one of its grants for good.
-/
import MeeoServer.Auth.Invalidation

namespace MeeoServer.ContextCache

variable {ownerOf : SessionId → UserId}

/-! ## The property and the condition -/

/-- Every request that was let in had lost nothing to the changes that had returned before it
started. -/
def RevocationEffective (s : Store ownerOf) : Prop :=
  ∀ a ∈ s.admitted, s.UpToDate a.settled a.user.userId a.user.grants

instance (s : Store ownerOf) : Decidable (RevocationEffective s) := by
  unfold RevocationEffective
  infer_instance

def Meets (s : Store ownerOf) : Commit → Prop
  | .change change => change.overlooks s.db = false
  | .memorySet key context _ =>
    s.UpToDate (s.swept .memory key ++ s.history.settled) key.userId context.grants
  | .redisSet context =>
    s.UpToDate (s.swept .redis context.key ++ s.history.settled) context.userId context.grants
  | .redisDeleteAll userId contextKeys _ => ∀ key ∈ s.smembers userId, key ∈ contextKeys
  | .settle v false => ∀ entry ∈ s.live .memory ++ s.live .redis,
    s.UpToDate [v] entry.key.userId entry.context.grants
  | _ => True

instance (s : Store ownerOf) (c : Commit) : Decidable (Meets s c) := by
  unfold Meets
  split <;> infer_instance

/-! ## The invariant -/

namespace Store

variable (s : Store ownerOf)

/-- Of the grants of the user, none is lost to a change in `vs`, nor will be. -/
def Safe (vs : List ℕ) (userId : UserId) (grants : List Grant) : Prop :=
  ∀ v ∈ vs, ∀ grant ∈ grants, v ≤ s.history.version ∧
    ¬ s.history.Lost v fun db => db.Holds userId grant

/-- The entry is under its own key, and nothing in it is lost to a change after which its key
was cleared or that has returned. -/
structure Sound (level : CacheLevel) (entry : CacheEntry) : Prop where
  key : entry.key = entry.context.key
  safe : s.Safe (s.swept level entry.key ++ s.history.settled) entry.key.userId
    entry.context.grants

end Store

/-- What has been answered and who has been let in. -/
structure Answers (s : Store ownerOf) : Prop where
  hits : ∀ hit ∈ s.hits, hit.key = hit.context.key ∧
    s.Safe hit.settled hit.key.userId hit.context.grants
  admitted : ∀ a ∈ s.admitted, s.Safe a.settled a.user.userId a.user.grants

/-- What is cached; the index of a user lists the keys of his live entries in Redis, and lives
as long as they do. -/
structure Coherent (s : Store ownerOf) : Prop where
  entries : ∀ level, ∀ entry ∈ s.live level, s.Sound level entry
  bounded : ∀ level key, ∀ v ∈ s.swept level key, v ≤ s.history.version
  indexed : ∀ entry ∈ s.live .redis, ∃ index, s.index entry.key.userId = some index ∧
    entry.key ∈ index.members ∧ entry.expiresAt ≤ index.expiresAt
  lasting : ∀ userId index, s.index userId = some index →
    index.expiresAt ≤ s.clock + AUTH_CONTEXT_TTL_SECONDS * 1000
  overlooked : s.overlooked = []

variable {s s' : Store ownerOf} {vs ws : List ℕ} {userId : UserId} {grants : List Grant}

/-! ## What is safe stays safe -/

lemma Store.UpToDate.safe (h : s.UpToDate vs userId grants)
    (hvs : ∀ v ∈ vs, v ≤ s.history.version) : s.Safe vs userId grants :=
  fun v hv grant hgrant => ⟨hvs v hv, h v hv grant hgrant⟩

lemma Store.Safe.upToDate (h : s.Safe vs userId grants) : s.UpToDate vs userId grants :=
  fun v hv grant hgrant => (h v hv grant hgrant).2

lemma Store.Safe.mono (h : s.Safe vs userId grants) (hs : Grows s s')
    (hvs : ∀ v ∈ ws, v ∈ vs) : s'.Safe ws userId grants := by
  intro v hv grant hgrant
  obtain ⟨hle, hlost⟩ := h v (hvs v hv) grant hgrant
  exact ⟨hle.trans hs.history.version_le, History.not_lost_of_extends hs.history hle hlost⟩

lemma Store.FromTables.safe (h : s.FromTables vs userId grants) : s.Safe vs userId grants := by
  intro v hv grant hgrant
  have hsince := h v hv grant hgrant
  exact ⟨hsince.le_version, History.not_lost_of_since hsince⟩

lemma Answers.mono (h : Answers s) (hs : Grows s s') (hhits : s'.hits = s.hits)
    (hadmitted : s'.admitted = s.admitted) : Answers s' where
  hits hit hhit := by
    rw [hhits] at hhit
    obtain ⟨hkey, hsafe⟩ := h.hits hit hhit
    exact ⟨hkey, hsafe.mono hs fun _ hv => hv⟩
  admitted a ha := by
    rw [hadmitted] at ha
    exact (h.admitted a ha).mono hs fun _ hv => hv

/-- An entry stays sound if no change has cleared its key or returned meanwhile. -/
lemma Store.Sound.mono {level : CacheLevel} {entry : CacheEntry} (h : s.Sound level entry)
    (hs : Grows s s') (hswept : ∀ v ∈ s'.swept level entry.key, v ∈ s.swept level entry.key)
    (hsettled : ∀ v ∈ s'.history.settled, v ∈ s.history.settled) : s'.Sound level entry where
  key := h.key
  safe := h.safe.mono hs fun v hv => by
    rcases List.mem_append.mp hv with hv | hv
    · exact List.mem_append_left _ (hswept v hv)
    · exact List.mem_append_right _ (hsettled v hv)

lemma Store.Sound.congr {level : CacheLevel} {entry : CacheEntry} (h : s.Sound level entry)
    (hhistory : s'.history = s.history) (hswept : s'.swept = s.swept) : s'.Sound level entry where
  key := h.key
  safe := by
    unfold Store.Safe
    rw [hhistory, hswept]
    exact h.safe

/-! ## The levels of the cache -/

section Levels

variable {level l : CacheLevel} {entry new : CacheEntry}

lemma mem_live : entry ∈ s.live level ↔ entry ∈ s.cache level ∧ s.clock < entry.expiresAt := by
  unfold Store.live
  rw [List.mem_filter, decide_eq_true_iff]

lemma mem_live_put (h : entry ∈ (s.put level new).live l) :
    l = level ∧ entry = new ∨ entry ∈ s.live l := by
  obtain ⟨hmem, hlive⟩ := mem_live.mp h
  have hmem : entry ∈ Function.update s.cache level
      (new :: (s.cache level).filter fun old => old.key ≠ new.key) l := hmem
  by_cases hl : l = level
  · subst hl
    rw [Function.update_self] at hmem
    rcases List.mem_cons.mp hmem with rfl | hmem
    · exact .inl ⟨rfl, rfl⟩
    · exact .inr (mem_live.mpr ⟨(List.mem_filter.mp hmem).1, hlive⟩)
  · rw [Function.update_of_ne hl] at hmem
    exact .inr (mem_live.mpr ⟨hmem, hlive⟩)

lemma mem_live_delete {p : ContextKey → Bool} (h : entry ∈ (s.delete level p).live l) :
    entry ∈ s.live l ∧ (l = level → p entry.key = false) := by
  obtain ⟨hmem, hlive⟩ := mem_live.mp h
  have hmem : entry ∈ Function.update s.cache level
      ((s.cache level).filter fun entry => !p entry.key) l := hmem
  by_cases hl : l = level
  · subst hl
    rw [Function.update_self] at hmem
    obtain ⟨hmem, hkept⟩ := List.mem_filter.mp hmem
    exact ⟨mem_live.mpr ⟨hmem, hlive⟩, fun _ => by simpa using hkept⟩
  · rw [Function.update_of_ne hl] at hmem
    exact ⟨mem_live.mpr ⟨hmem, hlive⟩, fun hlevel => absurd hlevel hl⟩

lemma mem_live_of_cached {key : ContextKey} {context : CachedAuthContext}
    (h : s.cached level key = some context) :
    ∃ entry ∈ s.live level, entry.key = key ∧ entry.context = context := by
  obtain ⟨entry, hfind, hcontext⟩ := Option.map_eq_some_iff.mp h
  exact ⟨entry, List.mem_of_find?_eq_some hfind, by simpa using List.find?_some hfind, hcontext⟩

/-- What was cleared before a change is known to be true of the changes so far. -/
lemma Coherent.le_version (h : Coherent s) {key : ContextKey} :
    ∀ v ∈ s.swept level key ++ s.history.settled, v ≤ s.history.version := by
  intro v hv
  rcases List.mem_append.mp hv with hv | hv
  · exact h.bounded level key v hv
  · exact s.history.settled_le v hv

end Levels

/-! ## Steps of the cache -/

namespace Coherent

/-- A step that neither caches nor clears anything and after which no operation returns. -/
lemma of_uncached (h : Coherent s) (hs : Grows s s')
    (hlive : ∀ level, ∀ entry ∈ s'.live level, entry ∈ s.live level)
    (hswept : s'.swept = s.swept) (hsettled : s'.history.settled = s.history.settled)
    (hindex : s'.index = s.index) (hclock : s.clock ≤ s'.clock) (hoverlooked : s'.overlooked = []) :
    Coherent s' where
  entries level entry hentry := by
    refine (h.entries level entry (hlive level entry hentry)).mono hs ?_ ?_
    · rw [hswept]
      exact fun v hv => hv
    · rw [hsettled]
      exact fun v hv => hv
  bounded level key v hv := by
    rw [hswept] at hv
    exact (h.bounded level key v hv).trans hs.history.version_le
  indexed entry hentry := by
    rw [hindex]
    exact h.indexed entry (hlive .redis entry hentry)
  lasting userId index hentry := by
    rw [hindex] at hentry
    exact (h.lasting userId index hentry).trans (Nat.add_le_add_right hclock _)
  overlooked := hoverlooked

/-- An entry is put in memory, with nothing in it that is lost. -/
lemma memorySet (h : Coherent s) (entry : CacheEntry) (hkey : entry.key = entry.context.key)
    (hup : s.UpToDate (s.swept .memory entry.key ++ s.history.settled) entry.key.userId
      entry.context.grants) : Coherent (s.put .memory entry) where
  entries level old hold := by
    rcases mem_live_put hold with ⟨rfl, rfl⟩ | hold
    · exact ⟨hkey, hup.safe h.le_version⟩
    · exact (h.entries level old hold).congr rfl rfl
  bounded := h.bounded
  indexed old hold := by
    rcases mem_live_put hold with ⟨hlevel, -⟩ | hold
    · cases hlevel
    · exact h.indexed old hold
  lasting := h.lasting
  overlooked := h.overlooked

/-- An entry is put in Redis and listed in the index of its user. -/
lemma redisSet (h : Coherent s) (context : CachedAuthContext)
    (hup : s.UpToDate (s.swept .redis context.key ++ s.history.settled) context.userId
      context.grants) (happ : (Commit.redisSet context).apply s = some s') : Coherent s' := by
  have hcases : ∀ level, ∀ old ∈ s'.live level,
      level = .redis ∧ old = ⟨context.key, context, s.clock + AUTH_CONTEXT_TTL_SECONDS * 1000⟩ ∨
        old ∈ s.live level := by
    obtain rfl := Option.some.inj happ
    exact fun level old hold => mem_live_put hold
  have hindex : ∃ members, s'.index = Function.update s.index context.userId
      (some ⟨members, s.clock + AUTH_CONTEXT_TTL_SECONDS * 1000⟩) ∧
      context.key ∈ members ∧ ∀ key ∈ s.smembers context.userId, key ∈ members := by
    obtain rfl := Option.some.inj happ
    refine ⟨_, rfl, ?_, fun key hkey => ?_⟩
    · split
      · assumption
      · exact List.mem_cons_self
    · split
      · exact hkey
      · exact List.mem_cons_of_mem _ hkey
  have hsame : s'.clock = s.clock ∧ s'.history = s.history ∧ s'.swept = s.swept ∧
      s'.overlooked = s.overlooked := by
    obtain rfl := Option.some.inj happ
    exact ⟨rfl, rfl, rfl, rfl⟩
  obtain ⟨hclock, hhistory, hswept, hoverlooked⟩ := hsame
  obtain ⟨members, hindex, hmember, hmembers⟩ := hindex
  constructor
  · intro level old hold
    rcases hcases level old hold with ⟨rfl, rfl⟩ | hold
    · refine ⟨rfl, ?_⟩
      show s'.Safe (s'.swept .redis context.key ++ s'.history.settled) context.userId _
      rw [hswept, hhistory]
      exact (hup.safe h.le_version).mono (Grows.of_apply happ) fun v hv => hv
    · refine (h.entries level old hold).mono (Grows.of_apply happ) ?_ ?_
      · rw [hswept]
        exact fun v hv => hv
      · rw [hhistory]
        exact fun v hv => hv
  · rw [hswept, hhistory]
    exact h.bounded
  · intro old hold
    rcases hcases .redis old hold with ⟨-, rfl⟩ | hold
    · refine ⟨⟨members, s.clock + AUTH_CONTEXT_TTL_SECONDS * 1000⟩, ?_, hmember, le_rfl⟩
      rw [hindex]
      exact Function.update_self _ _ _
    · obtain ⟨index, hsome, hlisted, hexpires⟩ := h.indexed old hold
      have hlasting := h.lasting _ index hsome
      by_cases huser : old.key.userId = context.userId
      · -- the index is still there, since it lives as long as this entry
        have hlive : s.clock < index.expiresAt := (mem_live.mp hold).2.trans_le hexpires
        have hlist : old.key ∈ s.smembers context.userId := by
          rw [huser] at hsome
          unfold Store.smembers Store.liveIndex
          rw [hsome, Option.filter_some, if_pos (decide_eq_true hlive)]
          exact hlisted
        refine ⟨⟨members, s.clock + AUTH_CONTEXT_TTL_SECONDS * 1000⟩, ?_,
          hmembers old.key hlist, hexpires.trans hlasting⟩
        rw [hindex, huser, Function.update_self]
      · refine ⟨index, ?_, hlisted, hexpires⟩
        rw [hindex, Function.update_of_ne huser]
        exact hsome
  · intro userId index hsome
    rw [hindex] at hsome
    rw [hclock]
    by_cases huser : userId = context.userId
    · rw [huser, Function.update_self, Option.some.injEq] at hsome
      rw [← hsome]
    · rw [Function.update_of_ne huser] at hsome
      exact h.lasting userId index hsome
  · rw [hoverlooked]
    exact h.overlooked

lemma delete (h : Coherent s) (level : CacheLevel) (p : ContextKey → Bool) :
    Coherent (s.delete level p) where
  entries l entry hentry := (h.entries l entry (mem_live_delete hentry).1).congr rfl rfl
  bounded := h.bounded
  indexed entry hentry := h.indexed entry (mem_live_delete hentry).1
  lasting := h.lasting
  overlooked := h.overlooked

/-- A scope counts as cleared when no live entry of the level is left in it. -/
lemma sweep (h : Coherent s) {level : CacheLevel} {scope : InvalidationScope} {v : ℕ}
    (hv : v ≤ s.history.version)
    (hcleared : ∀ entry ∈ s.live level, scope.covers entry.key = false) :
    Coherent (s.sweep level scope v) where
  entries l entry hentry := by
    refine (h.entries l entry hentry).mono ((Grows.refl s).sweep level scope v) ?_ fun w hw => hw
    intro w hw
    rcases swept_sweep.mp hw with hw | ⟨rfl, hcovers, -⟩
    · exact hw
    · have hfree := hcleared entry hentry
      rw [hcovers] at hfree
      cases hfree
  bounded l key w hw := by
    rcases swept_sweep.mp hw with hw | ⟨-, -, rfl⟩
    · exact h.bounded l key w hw
    · exact hv
  indexed := h.indexed
  lasting := h.lasting
  overlooked := h.overlooked

/-- The index of a user who has no live entry is not needed. -/
lemma dropIndex (h : Coherent s) (userId : UserId)
    (hnone : ∀ entry ∈ s.live .redis, entry.key.userId ≠ userId) :
    Coherent { s with index := Function.update s.index userId none } where
  entries level entry hentry := (h.entries level entry hentry).congr rfl rfl
  bounded := h.bounded
  indexed entry hentry := by
    obtain ⟨index, hsome, hlisted⟩ := h.indexed entry hentry
    refine ⟨index, ?_, hlisted⟩
    show Function.update s.index userId none entry.key.userId = some index
    rw [Function.update_of_ne (hnone entry hentry)]
    exact hsome
  lasting other index hsome := by
    by_cases hother : other = userId
    · subst hother
      have hnone : Function.update s.index other none other = some index := hsome
      rw [Function.update_self] at hnone
      cases hnone
    · have hsome : Function.update s.index userId none other = some index := hsome
      rw [Function.update_of_ne hother] at hsome
      exact h.lasting other index hsome
  overlooked := h.overlooked

/-- An operation returns, and nothing that its change has taken is cached. -/
lemma settle (h : Coherent s) {v : ℕ} (hv : v ≤ s.history.version)
    (hall : ∀ level, ∀ entry ∈ s.live level,
      s.UpToDate [v] entry.key.userId entry.context.grants) :
    Coherent { s with history := s.history.settle v hv } where
  entries level entry hentry := by
    obtain ⟨hkey, hsafe⟩ := h.entries level entry hentry
    have hup := hall level entry hentry
    refine ⟨hkey, fun w hw grant hgrant => ?_⟩
    rcases List.mem_append.mp hw with hw | hw
    · exact hsafe w (List.mem_append_left _ hw) grant hgrant
    · rcases List.mem_cons.mp hw with rfl | hw
      · exact ⟨hv, hup w (List.mem_singleton_self _) grant hgrant⟩
      · exact hsafe w (List.mem_append_right _ hw) grant hgrant
  bounded := h.bounded
  indexed := h.indexed
  lasting := h.lasting
  overlooked := h.overlooked

end Coherent

/-! ## Steps of the server -/

/-- After a change nothing cached that it has taken is left, where it was cleared. -/
lemma Store.Cleared.upToDate {v : ℕ} (h : s.Cleared v) {level : CacheLevel} {entry : CacheEntry}
    (hsound : s.Sound level entry) : s.UpToDate [v] entry.key.userId entry.context.grants := by
  intro w hw grant hgrant hlost
  obtain rfl := List.mem_singleton.mp hw
  have hfits : Grant.Fits entry.key grant := by
    rw [hsound.key]
    exact fits_of_mem_grants hgrant
  have hswept := h entry.key.userId grant hlost.1 entry.key rfl hfits level
  exact (hsound.safe w (List.mem_append_left _ hswept) grant hgrant).2 hlost

lemma Coherent.of_apply (h : Coherent s) (hanswers : Answers s) {c : Commit}
    (hemitted : Emitted s c) (hmeets : Meets s c) (happ : c.apply s = some s') : Coherent s' := by
  have hgrows := Grows.of_apply happ
  cases c with
  | change c =>
    obtain ⟨db, -, rfl⟩ := Option.map_eq_some_iff.mp happ
    refine h.of_uncached hgrows (fun _ _ hentry => hentry) rfl rfl rfl le_rfl ?_
    show (if _ then _ else s.overlooked) = []
    have hsees : c.overlooks s.db = false := hmeets
    rw [hsees]
    exact h.overlooked
  | lookup level key =>
    have hlooked := lookedUp_of_apply happ
    refine h.of_uncached hgrows (fun l entry hentry => ?_) hlooked.swept ?_ hlooked.index ?_ ?_
    · rw [← hlooked.live l]
      exact hentry
    · rw [hlooked.history]
    · exact hlooked.clock.ge
    · rw [hlooked.overlooked]
      exact h.overlooked
  | memorySet key context expiresAt =>
    obtain rfl := Option.some.inj happ
    refine h.memorySet ⟨key, context, expiresAt⟩ ?_ hmeets
    rcases hemitted with hkey | ⟨hit, hhit, rfl, rfl⟩
    · exact hkey
    · exact (hanswers.hits hit hhit).1
  | redisSet context => exact h.redisSet context hmeets happ
  | memoryDelete scope v =>
    obtain rfl := Option.some.inj happ
    refine (h.delete .memory scope.covers).sweep hemitted fun entry hentry => ?_
    exact (mem_live_delete hentry).2 rfl
  | redisDelete userId sessionId v =>
    obtain rfl := Option.some.inj happ
    refine (h.delete .redis _).sweep hemitted fun entry hentry => ?_
    exact (mem_live_delete hentry).2 rfl
  | redisDeleteAll userId contextKeys v =>
    obtain rfl := Option.some.inj happ
    have hnone : ∀ entry ∈ (s.delete .redis (· ∈ contextKeys)).live .redis,
        entry.key.userId ≠ userId := by
      -- an entry of the user is listed, and what is listed is deleted
      rintro entry hentry rfl
      obtain ⟨hlive, hkept⟩ := mem_live_delete hentry
      obtain ⟨index, hsome, hlisted, hexpires⟩ := h.indexed entry hlive
      have hindexLive : s.clock < index.expiresAt := (mem_live.mp hlive).2.trans_le hexpires
      have hmember : entry.key ∈ s.smembers entry.key.userId := by
        unfold Store.smembers Store.liveIndex
        rw [hsome, Option.filter_some, if_pos (decide_eq_true hindexLive)]
        exact hlisted
      exact of_decide_eq_false (hkept rfl) (hmeets entry.key hmember)
    refine ((h.delete .redis _).dropIndex userId hnone).sweep hemitted fun entry hentry => ?_
    exact decide_eq_false (hnone entry hentry)
  | settle v invalidated =>
    simp only [Commit.apply] at happ
    split at happ
    · rename_i hv
      obtain rfl := Option.some.inj happ
      refine h.settle hv fun level entry hentry => ?_
      cases invalidated with
      | true =>
        rcases hemitted with hoverlooked | hcleared
        · rw [h.overlooked] at hoverlooked
          cases hoverlooked
        · exact hcleared.upToDate (h.entries level entry hentry)
      | false =>
        refine hmeets entry (List.mem_append.mpr ?_)
        cases level with
        | memory => exact .inl hentry
        | redis => exact .inr hentry
    · cases happ
  | letIn user settled =>
    obtain rfl := Option.some.inj happ
    exact h.of_uncached hgrows (fun _ _ hentry => hentry) rfl rfl rfl le_rfl h.overlooked

lemma Answers.of_apply (h : Answers s) (hcoherent : Coherent s) {c : Commit}
    (hemitted : Emitted s c) (happ : c.apply s = some s') : Answers s' := by
  have hgrows := Grows.of_apply happ
  cases c with
  | lookup level key =>
    have hlooked := lookedUp_of_apply happ
    constructor
    · intro hit hhit
      -- a new hit is an entry of a cache at this level
      rcases hlooked.new hit hhit with hold | ⟨hcached, rfl, hsettled⟩
      · obtain ⟨hkey, hsafe⟩ := h.hits hit hold
        exact ⟨hkey, hsafe.mono hgrows fun _ hv => hv⟩
      · obtain ⟨entry, hentry, hkey, hcontext⟩ := mem_live_of_cached hcached
        obtain ⟨hown, hsafe⟩ := hcoherent.entries level entry hentry
        rw [hkey, hcontext] at hown hsafe
        refine ⟨hown, hsafe.mono hgrows fun v hv => ?_⟩
        rw [hsettled] at hv
        exact List.mem_append_right _ hv
    · intro a ha
      rw [hlooked.admitted] at ha
      exact (h.admitted a ha).mono hgrows fun _ hv => hv
  | letIn user settled =>
    obtain rfl := Option.some.inj happ
    refine ⟨h.hits, fun a ha => ?_⟩
    rcases List.mem_append.mp ha with ha | ha
    · exact h.admitted a ha
    obtain rfl := List.mem_singleton.mp ha
    -- a request is let in by a hit, or by what it has read from the database
    rcases hemitted with ⟨hit, hhit, token, hkey, rfl, hsettled⟩ | hfrom
    · obtain ⟨hown, hsafe⟩ := h.hits hit hhit
      have hsession : hit.context.sessionId = token.sessionId := by
        rw [hown] at hkey
        exact congrArg ContextKey.sessionId hkey
      have huser : hit.key.userId = hit.context.userId := congrArg ContextKey.userId hown
      show s.Safe settled hit.context.userId (requestUser token hit.context).grants
      rw [grants_requestUser hsession, ← huser]
      exact hsafe.mono (Grows.refl s) hsettled
    · exact hfrom.safe
  | settle v invalidated =>
    simp only [Commit.apply] at happ
    split at happ
    · obtain rfl := Option.some.inj happ
      exact h.mono hgrows rfl rfl
    · cases happ
  | change c =>
    obtain ⟨db, -, rfl⟩ := Option.map_eq_some_iff.mp happ
    exact h.mono hgrows rfl rfl
  | memorySet key context expiresAt | redisSet context | memoryDelete scope v
  | redisDelete userId sessionId v | redisDeleteAll userId contextKeys v =>
    obtain rfl := Option.some.inj happ
    exact h.mono hgrows rfl rfl

/-- The invariant of the runs that meet the condition. -/
structure Consistent (s : Store ownerOf) : Prop where
  coherent : Coherent s
  answers : Answers s

lemma Consistent.environ {cacheEnabled : Bool} (h : Consistent s) (e : Action ownerOf) :
    Consistent ((authServer ownerOf cacheEnabled).environ e s) := by
  have hgrows := (authServer_rely ownerOf cacheEnabled Meets).env e s
  cases e with
  | tick elapsed =>
    refine ⟨h.coherent.of_uncached hgrows (fun level entry hentry => ?_) rfl rfl rfl
      (Nat.le_add_right _ _) h.coherent.overlooked, h.answers.mono hgrows rfl rfl⟩
    -- time only ends the lives of entries
    obtain ⟨hmem, hlive⟩ := mem_live.mp hentry
    exact mem_live.mpr ⟨hmem, (Nat.le_add_right _ _).trans_lt hlive⟩
  | write tables =>
    exact ⟨h.coherent.of_uncached hgrows (fun _ _ hentry => hentry) rfl rfl rfl le_rfl
      h.coherent.overlooked, h.answers.mono hgrows rfl rfl⟩

lemma consistent_start (clock : Millis) (tables : AuthTables ownerOf) :
    Consistent (.start clock tables) := by
  constructor
  · constructor <;> simp [Store.start, Store.live]
  · constructor <;> simp [Store.start]

/-- **Revocation is effective** in the runs whose commits meet the condition, on any tables,
however requests, operations and other writes to the tables are interleaved and wherever they
fail: a request that starts after an operation has returned is not let in with a session, a role
or a permission that the operation has taken and nothing has given back. -/
theorem revocation_effective (ownerOf : SessionId → UserId) (cacheEnabled : Bool)
    (clock : Millis) (tables : AuthTables ownerOf)
    {cfg : Config (Store ownerOf) Commit AppError}
    (hr : (authServer ownerOf cacheEnabled).Reachable (OwnToken ownerOf) Meets
      (.start clock tables) cfg) : RevocationEffective cfg.store := by
  have hinv : Consistent cfg.store :=
    (authServer_rely ownerOf cacheEnabled Meets).invariant hr (consistent_start clock tables)
      (fun e s hs => hs.environ e) fun _ hemitted hmeets happ hs =>
        ⟨hs.coherent.of_apply hs.answers hemitted hmeets happ,
          hs.answers.of_apply hs.coherent hemitted happ⟩
  exact fun a ha => (hinv.answers.admitted a ha).upToDate

/-! ## A password reset -/

/-- All sessions belong to one user. -/
def onlyOwner : SessionId → UserId := fun _ => 7

/-- One user, logged in twice, with one role and its permission. -/
def oneUser : AuthTables onlyOwner where
  users := [⟨7, .active, false⟩]
  sessions := ⟨[⟨1, 7, 1000000, none⟩, ⟨2, 7, 1000000, none⟩], by simp [onlyOwner]⟩
  roles := [⟨"r1", "STAFF"⟩]
  permissions := [⟨"p1", "orders.read"⟩]
  userRoles := [⟨7, "r1"⟩]
  rolePermissions := [⟨"r1", "p1"⟩]

/-- A request with the session 1 is let in and its context cached. -/
def firstRequest : List (Event Call (Action onlyOwner)) :=
  .call (.authenticate ⟨7, some 1⟩) :: List.replicate 9 (.step 0 .ok)

/-- The other session is revoked while the context of the first is cached; then the first is
used once more. -/
theorem revocation_effective_logout :
    ∃ cfg, (authServer onlyOwner true).Reachable (OwnToken onlyOwner) Meets (.start 0 oneUser) cfg ∧
      cfg.store.admitted.map Admission.settled = [[], [1]] ∧ RevocationEffective cfg.store := by
  obtain ⟨cfg, hr, hadmitted⟩ := Machine.exists_reachable_of_exec
    (authServer onlyOwner true) (OwnToken onlyOwner) Meets
    (firstRequest ++ .call (.logout 7 (some 2)) :: List.replicate 5 (.step 1 .ok) ++
      .call (.authenticate ⟨7, some 1⟩) :: List.replicate 3 (.step 2 .ok))
    (.start 0 oneUser) (fun s => s.admitted.map Admission.settled) [[], [1]] (by decide +kernel)
  exact ⟨cfg, hr, hadmitted, revocation_effective _ _ _ _ hr⟩

/-- Without the condition a revoked session is let in: the password is reset, which revokes the
sessions of the user but does not clear his cached context. -/
theorem revoked_session_admitted :
    ¬ ∀ (ownerOf : SessionId → UserId) (tables : AuthTables ownerOf)
      (cfg : Config (Store ownerOf) Commit AppError),
      (authServer ownerOf true).Reachable (OwnToken ownerOf) Free (.start 0 tables) cfg →
        RevocationEffective cfg.store := by
  intro h
  obtain ⟨cfg, hr, hstale⟩ := Machine.exists_reachable_of_exec
    (authServer onlyOwner true) (OwnToken onlyOwner) Free
    (firstRequest ++ .call (.resetPassword 7) :: List.replicate 4 (.step 1 .ok) ++
      .call (.authenticate ⟨7, some 1⟩) :: List.replicate 3 (.step 2 .ok))
    (.start 0 oneUser) (fun s => decide (RevocationEffective s)) false (by decide +kernel)
  exact of_decide_eq_false hstale (h _ _ cfg hr)

end MeeoServer.ContextCache
