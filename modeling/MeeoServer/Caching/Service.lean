/-
# The cache service

`common/cache/cache.service.ts`, as several servers use it at the same time.  Each server keeps
what it has read or written in its memory, and all of them share one Redis.  A value that is found
in Redis lives on in the memory of a server for another minute, whatever happens to it in Redis;
and what one server deletes stays in the memory of the others.

`JSON.parse` after `JSON.stringify` is a parameter, `json`, and so is the test of a key against the
regular expression that is made of a pattern.  A Redis that is not ready is a statement that fails.
What was fetched, found and answered is history.
-/
import MeeoServer.Process.Interleaving
import MeeoServer.Process.Levels
import MeeoServer.Schema.Commit

namespace MeeoServer.Caching

open Proc Relation

variable {V : Type}

/-! ## The store -/

/-- The memory of each server, and Redis. -/
inductive Level where
  | memory (server : ℕ)
  | redis
deriving DecidableEq

/-- What a cache has answered with. -/
structure Hit (V : Type) where
  level : Level
  key : String
  value : V
  time : ℕ

/-- What a query has found. -/
structure Fetch (V : Type) where
  key : String
  value : Option V
  time : ℕ
deriving DecidableEq

/-- What a call has returned that was started at some time. -/
structure Answer (V : Type) where
  key : String
  value : Option V
  askedAt : ℕ
deriving DecidableEq

structure Store (V : Type) extends Levels Level String V where
  /-- What the query for a key finds in the database. -/
  database : String → Option V
  /-- The result of the last lookup or query. -/
  reply : Option V
  fetched : List (Fetch V)
  hits : List (Hit V)
  answers : List (Answer V)

namespace Store

variable (s : Store V)

/-- Ask a level for a key. -/
def lookup (level : Level) (key : String) : Store V :=
  { s with
    reply := s.live level key
    hits := s.hits ++ (s.live level key).toList.map fun value => ⟨level, key, value, s.clock⟩ }

def fetch (key : String) : Store V :=
  { s with
    reply := s.database key
    fetched := s.fetched ++ [⟨key, s.database key, s.clock⟩] }

end Store

/-- The three parts of the configuration that the code does not decide. -/
structure Setting (V : Type) where
  /-- Whether the memory is not looked at. -/
  isTest : Bool
  json : V → V
  /-- `new RegExp("^" + pattern.replace(/\*/g, ".*") + "$").test(key)`. -/
  regex : String → String → Bool

inductive Commit (V : Type) where
  | lookup (level : Level) (key : String)
  /-- Copy a value from Redis to the memory, of a call that has looked at its clock at `now`. -/
  | backfill (server : ℕ) (key : String) (value : V) (now : ℕ)
  | fetch (key : String)
  | set (level : Level) (key : String) (value : V) (ttlSeconds : ℕ)
  | delete (level : Level) (keys : List String)
  | deleteMatching (server : ℕ) (pattern : String)
  | answer (a : Answer V)

section Apply

variable (g : Setting V)

/-- What a level keeps of a value: Redis keeps its JSON. -/
def Setting.kept : Level → V → V
  | .memory _, value => value
  | .redis, value => g.json value

/-- The value, or what has become of it on the way through Redis. -/
def Setting.Same (value value' : V) : Prop := value' = value ∨ value' = g.json value

def Commit.apply : Commit V → Store V → Option (Store V)
  | .lookup (.memory server) key, s =>
    -- an entry that has expired is deleted
    let s' := s.lookup (.memory server) key
    some { s' with
      toLevels := if (s.live (.memory server) key).isSome then s'.toLevels
        else s'.toLevels.clear (.memory server) fun k => k = key }
  | .lookup .redis key, s => some (s.lookup .redis key)
  | .backfill server key value now, s =>
    some { s with toLevels := s.put (.memory server) key ⟨value, now + 60000⟩ }
  | .fetch key, s => some (s.fetch key)
  | .set level key value ttlSeconds, s =>
    some { s with toLevels := s.write level key value (g.kept level value) (ttlSeconds * 1000) }
  | .delete level keys, s => some { s with toLevels := s.clear level fun key => keys.contains key }
  | .deleteMatching server pattern, s =>
    some { s with toLevels := s.clear (.memory server) (g.regex pattern) }
  | .answer a, s => some { s with answers := s.answers ++ [a] }

end Apply

/-! ## The service -/

abbrev Service (V α : Type) := Proc (Store V) (Commit V) AppError α

section Service

/-- What Redis has under the key; it is kept in the memory for a minute. -/
def getRedis (server : ℕ) (key : String) (now : ℕ) : Service V (Option V) := do
  let s ← Proc.commit (.lookup .redis key)
  match s.reply with
  | none => pure none
  | some parsed => do
    let _ ← Proc.commit (.backfill server key parsed now)
    pure (some parsed)

/-- Retrieves a cached item. Checks L1 in-memory cache first (in non-test env), then L2 Redis. -/
def get (isTest : Bool) (server : ℕ) (key : String) : Service V (Option V) :=
  if isTest then do
    let s ← Proc.read
    Proc.tryCatch (getRedis server key s.clock) fun _ => pure none
  else do
    let s ← Proc.commit (.lookup (.memory server) key)
    match s.reply with
    | some value => pure (some value)
    | none => Proc.tryCatch (getRedis server key s.clock) fun _ => pure none

/-- The part of `set` that waits for Redis. -/
def setRedis (key : String) (value : V) (ttlSeconds : ℕ) : Service V Unit :=
  Proc.attempt (.set .redis key value ttlSeconds)

/-- A call that was started at `askedAt` returns. -/
def answer (key : String) (value : Option V) (askedAt : ℕ) : Service V Unit := do
  let _ ← Proc.commit (.answer ⟨key, value, askedAt⟩)
  pure ()

/-- Execute fetchFn directly against the database, caching the result.  The caller does not wait for
Redis. -/
def fetchAndSet (server : ℕ) (key : String) (ttlSeconds askedAt : ℕ) : Service V Unit := do
  let s ← Proc.commit (.fetch key)
  match s.reply with
  | none => answer key none askedAt
  | some freshData => do
    let _ ← Proc.commit (.set (.memory server) key freshData ttlSeconds)
    let _ ← Proc.commit (.answer ⟨key, some freshData, askedAt⟩)
    setRedis key freshData ttlSeconds

/-- Cache-aside helper: returns cached data or executes fetchFn. -/
def getOrSet (isTest : Bool) (server : ℕ) (key : String) (ttlSeconds : ℕ) : Service V Unit := do
  let start ← Proc.read
  let cached ← Proc.tryCatch (get isTest server key) fun _ => pure none
  match cached with
  | some value => answer key (some value) start.clock
  | none => fetchAndSet server key ttlSeconds start.clock

/-- `CACHE_TTL.ONE_MINUTE`. -/
def oneMinute : ℕ := 60

/-- Compute the overview of the dashboard, which is there, and wait until it is cached. -/
def computeOverview (server : ℕ) (key : String) (askedAt : ℕ) : Service V Unit := do
  let s ← Proc.commit (.fetch key)
  match s.reply with
  | none => pure ()
  | some result => do
    let _ ← Proc.commit (.set (.memory server) key result oneMinute)
    setRedis key result oneMinute
    answer key (some result) askedAt

/-- The way the dashboard uses the cache. -/
def getExecutiveOverview (isTest : Bool) (server : ℕ) (key : String) : Service V Unit := do
  let start ← Proc.read
  let cached ← get isTest server key
  match cached with
  | some value => answer key (some value) start.clock
  | none => computeOverview server key start.clock

/-- The rounds of `SCAN`, each with the keys that it has found, which are deleted. -/
def scanAndDelete : List (List String) → Service V Unit
  | [] => pure ()
  | keys :: rounds => do
    let _ ← Proc.read
    (if keys = [] then pure () else do
      let _ ← Proc.commit (.delete .redis keys)
      pure () : Service V Unit)
    scanAndDelete rounds

/-- Non-blocking cache invalidation using Redis SCAN iteration. -/
def invalidatePattern (server : ℕ) (pattern : String) (rounds : List (List String)) :
    Service V Unit := do
  let _ ← Proc.commit (.deleteMatching server pattern)
  Proc.tryCatch (scanAndDelete rounds) fun _ => pure ()

/-- Flushes an entire domain namespace. -/
def flushNamespace (server : ℕ) (ns : String) (rounds : List (List String)) : Service V Unit :=
  invalidatePattern server (if ns.endsWith "*" then ns else ns ++ ":*") rounds

/-- The patterns among the keys that are deleted, one after another. -/
def invalidatePatterns (server : ℕ) (rounds : List (List String)) : List String → Service V Unit
  | [] => pure ()
  | pattern :: patterns => do
    invalidatePattern server pattern rounds
    invalidatePatterns server rounds patterns

def isPattern (key : String) : Bool := key.contains '*'

/-- Deletes one or multiple explicit cache keys. -/
def del (server : ℕ) (keys : List String) (rounds : List (List String)) : Service V Unit := do
  let _ ← Proc.commit (.delete (.memory server) keys)
  Proc.tryCatch (do
    (if keys.filter (fun k => k ≠ "" && !isPattern k) = [] then pure () else do
      let _ ← Proc.commit (.delete .redis (keys.filter fun k => k ≠ "" && !isPattern k))
      pure () : Service V Unit)
    invalidatePatterns server rounds (keys.filter isPattern))
    fun _ => pure ()

end Service

/-- The calls of the service, each on one of the servers. -/
inductive Call where
  | getOrSet (server : ℕ) (key : String) (ttlSeconds : ℕ)
  | getExecutiveOverview (server : ℕ) (key : String)
  | del (server : ℕ) (keys : List String) (rounds : List (List String))
  | flushNamespace (server : ℕ) (ns : String) (rounds : List (List String))

def Call.proc (isTest : Bool) : Call → Service V Unit
  | getOrSet server key ttlSeconds => Caching.getOrSet isTest server key ttlSeconds
  | getExecutiveOverview server key => Caching.getExecutiveOverview isTest server key
  | del server keys rounds => Caching.del server keys rounds
  | flushNamespace server ns rounds => Caching.flushNamespace server ns rounds

/-- Time passes, and others change the database. -/
inductive Action (V : Type) where
  | tick (elapsed : ℕ)
  | change (key : String) (value : Option V)

def Action.apply (e : Action V) (s : Store V) : Store V :=
  match e with
  | .tick elapsed => { s with toLevels := s.tick elapsed }
  | .change key value =>
    { s with database := fun k => if k = key then value else s.database k }

def cacheServers (g : Setting V) : Machine (Store V) (Commit V) AppError Call (Action V) where
  apply := Commit.apply g
  proc := Call.proc g.isTest
  environ := Action.apply

/-! ## What every step does -/

/-- The clock does not go back, and no history is forgotten. -/
structure Within (s s' : Store V) : Prop where
  clock : s.clock ≤ s'.clock
  written : s.written ⊆ s'.written
  fetched : s.fetched ⊆ s'.fetched
  hits : s.hits ⊆ s'.hits

namespace Within

variable {s s' s'' : Store V}

lemma refl (s : Store V) : Within s s := ⟨le_rfl, fun _ h => h, fun _ h => h, fun _ h => h⟩

lemma trans (h : Within s s') (h' : Within s' s'') : Within s s'' where
  clock := h.clock.trans h'.clock
  written _ hmem := h'.written (h.written hmem)
  fetched _ hmem := h'.fetched (h.fetched hmem)
  hits _ hmem := h'.hits (h.hits hmem)

end Within

/-- How long a level may serve a value after its time: the memory has a minute more. -/
def late : Level → ℕ
  | .memory _ => 60000
  | .redis => 0

/-- The query has found the value since `t`. -/
def Fetched (s : Store V) (key : String) (value : Option V) (t : ℕ) : Prop :=
  ∃ f ∈ s.fetched, f.key = key ∧ f.value = value ∧ t ≤ f.time

/-- Some level has answered with the value since `t`. -/
def Found (s : Store V) (key : String) (value : Option V) (t : ℕ) : Prop :=
  ∃ hit ∈ s.hits, hit.key = key ∧ some hit.value = value ∧ t ≤ hit.time

/-- What is said about a batch that a call commits. -/
def Emitted (s : Store V) : Commit V → Prop
  | .backfill _ key value now =>
    ∃ hit ∈ s.hits, hit.level = .redis ∧ hit.key = key ∧ hit.value = value ∧ now ≤ hit.time
  | .set _ key value _ => Fetched s key (some value) 0
  | .answer a => Fetched s a.key a.value a.askedAt ∨ Found s a.key a.value a.askedAt
  | _ => True

structure Store.Sound (g : Setting V) (s : Store V) : Prop where
  bounded : s.Bounded g.Same late
  fetched : ∀ f ∈ s.fetched, f.time ≤ s.clock
  written : ∀ w ∈ s.written, ∃ f ∈ s.fetched, f.key = w.key ∧ f.value = some w.value ∧
    f.time ≤ w.time
  hits : ∀ hit ∈ s.hits,
    Levels.Timely g.Same s.written (late hit.level) hit.key hit.value hit.time
  answers : ∀ a ∈ s.answers, Fetched s a.key a.value a.askedAt ∨ Found s a.key a.value a.askedAt

section Steps

variable {g : Setting V} {s s' : Store V} {c : Commit V} {key : String} {value : Option V} {t : ℕ}

lemma Fetched.within (h : Fetched s key value t) (hwithin : Within s s') :
    Fetched s' key value t := by
  obtain ⟨f, hf, hrest⟩ := h
  exact ⟨f, hwithin.fetched hf, hrest⟩

lemma Found.within (h : Found s key value t) (hwithin : Within s s') : Found s' key value t := by
  obtain ⟨hit, hmem, hrest⟩ := h
  exact ⟨hit, hwithin.hits hmem, hrest⟩

lemma within_lookup (level : Level) (key : String) : Within s (s.lookup level key) :=
  ⟨le_rfl, fun _ h => h, fun _ h => h, List.subset_append_left _ _⟩

/-- A deletion changes the entries of a level and nothing else. -/
lemma within_clear (s : Store V) (level : Level) (P : String → Bool) :
    Within s { s with toLevels := s.clear level P } :=
  ⟨le_rfl, fun _ h => h, fun _ h => h, fun _ h => h⟩

lemma within_apply (happ : c.apply g s = some s') : Within s s' := by
  cases c with
  | lookup level key =>
    cases level with
    | memory server =>
      obtain rfl := Option.some.inj happ
      refine (within_lookup (.memory server) key).trans ?_
      dsimp only
      split
      · exact Within.refl _
      · exact within_clear (s.lookup (.memory server) key) _ _
    | redis =>
      obtain rfl := Option.some.inj happ
      exact within_lookup _ key
  | fetch key =>
    obtain rfl := Option.some.inj happ
    exact ⟨le_rfl, fun _ h => h, List.subset_append_left _ _, fun _ h => h⟩
  | set level key value ttlSeconds =>
    obtain rfl := Option.some.inj happ
    exact ⟨le_rfl, List.subset_append_left _ _, fun _ h => h, fun _ h => h⟩
  | delete level keys =>
    obtain rfl := Option.some.inj happ
    exact within_clear s level _
  | deleteMatching server pattern =>
    obtain rfl := Option.some.inj happ
    exact within_clear s _ _
  | backfill server key value now | answer a =>
    obtain rfl := Option.some.inj happ
    exact ⟨le_rfl, fun _ h => h, fun _ h => h, fun _ h => h⟩

/-- What a level answers is recorded. -/
lemma found_lookup {level : Level} {value : V} (h : (s.lookup level key).reply = some value) :
    ⟨level, key, value, s.clock⟩ ∈ (s.lookup level key).hits := by
  have hlive : s.live level key = some value := h
  simp [Store.lookup, hlive]

lemma Store.Sound.lookup (h : s.Sound g) (level : Level) (key : String) :
    (s.lookup level key).Sound g where
  bounded := h.bounded
  fetched := h.fetched
  written := h.written
  hits := by
    intro hit hmem
    rcases List.mem_append.mp hmem with hmem | hmem
    · exact h.hits hit hmem
    · obtain ⟨value, hvalue, rfl⟩ := List.mem_map.mp hmem
      exact h.bounded.live (Option.mem_toList.mp hvalue)
  answers a ha := (h.answers a ha).imp (·.within (within_lookup level key))
    (·.within (within_lookup level key))

lemma Store.Sound.clear (h : s.Sound g) (level : Level) (P : String → Bool) :
    Store.Sound g { s with toLevels := s.clear level P } where
  bounded := h.bounded.clear level P
  fetched := h.fetched
  written := h.written
  hits := h.hits
  answers a ha := (h.answers a ha).imp (·.within (within_clear s level P))
    (·.within (within_clear s level P))

lemma kept_same (level : Level) (value : V) : g.Same value (g.kept level value) := by
  cases level with
  | memory server => exact .inl rfl
  | redis => exact .inr rfl

lemma Store.Sound.apply (h : s.Sound g) (hc : Emitted s c) (happ : c.apply g s = some s') :
    s'.Sound g := by
  have hwithin := within_apply happ
  have hanswers : ∀ a ∈ s.answers,
      Fetched s' a.key a.value a.askedAt ∨ Found s' a.key a.value a.askedAt :=
    fun a ha => (h.answers a ha).imp (·.within hwithin) (·.within hwithin)
  cases c with
  | lookup level key =>
    cases level with
    | memory server =>
      obtain rfl := Option.some.inj happ
      dsimp only
      split
      · exact h.lookup (.memory server) key
      · exact (h.lookup (.memory server) key).clear _ _
    | redis =>
      obtain rfl := Option.some.inj happ
      exact h.lookup .redis key
  | backfill server key value now =>
    obtain rfl := Option.some.inj happ
    obtain ⟨hit, hmem, hlevel, rfl, rfl, hnow⟩ := hc
    have hlate : late (.redis) + 60000 ≤ late (.memory server) := le_rfl
    exact
      { bounded := h.bounded.copy ((hlevel ▸ h.hits hit hmem).earlier hnow) hlate
        fetched := h.fetched
        written := h.written
        hits := h.hits
        answers := hanswers }
  | fetch key =>
    obtain rfl := Option.some.inj happ
    refine ⟨h.bounded, fun f hf => ?_, fun w hw => ?_, h.hits, hanswers⟩
    · rcases List.mem_append.mp hf with hf | hf
      · exact h.fetched f hf
      · rw [List.mem_singleton.mp hf]
        exact le_rfl
    · obtain ⟨f, hf, hrest⟩ := h.written w hw
      exact ⟨f, List.mem_append_left _ hf, hrest⟩
  | set level key value ttlSeconds =>
    obtain rfl := Option.some.inj happ
    refine ⟨h.bounded.write (kept_same level value) _, h.fetched, fun w hw => ?_, fun hit hmem =>
      (h.hits hit hmem).mono (List.subset_append_left _ _), hanswers⟩
    rcases List.mem_append.mp hw with hw | hw
    · exact h.written w hw
    · obtain ⟨f, hf, hkey, hvalue, -⟩ := hc
      rw [List.mem_singleton.mp hw]
      exact ⟨f, hf, hkey, hvalue, h.fetched f hf⟩
  | delete level keys =>
    obtain rfl := Option.some.inj happ
    exact h.clear level _
  | deleteMatching server pattern =>
    obtain rfl := Option.some.inj happ
    exact h.clear _ _
  | answer a =>
    obtain rfl := Option.some.inj happ
    refine ⟨h.bounded, h.fetched, h.written, h.hits, fun a' ha' => ?_⟩
    rcases List.mem_append.mp ha' with ha' | ha'
    · exact hanswers a' ha'
    · rw [List.mem_singleton.mp ha']
      exact hc.imp (·.within hwithin) (·.within hwithin)

/-! ### The service keeps to it -/

/-- What a lookup since `t` has returned, some level has answered with. -/
def Returned (key : String) (t : ℕ) (r : Except AppError (Option V)) (s : Store V) : Prop :=
  ∀ value, r = .ok (some value) → Found s key (some value) t

lemma getRedis_emits (server : ℕ) {now : ℕ} (hnow : now ≤ s.clock) (ht : t ≤ now) :
    (getRedis server key now).Emits (Commit.apply g) Within Within Emitted (Returned key t) s := by
  refine emits_commit_post (fun _ => nofun) (fun _ _ => trivial) fun s₁ s₂ h₁ happ _ => ?_
  obtain rfl := Option.some.inj happ
  have hle : now ≤ s₁.clock := hnow.trans h₁.clock
  split
  · rintro _ ⟨⟩
  · rename_i parsed hreply
    have hhit := found_lookup hreply
    refine emits_commit_post (fun _ => nofun)
      (fun s₃ h₃ => ⟨_, h₃.hits hhit, rfl, rfl, rfl, hle⟩) fun s₃ s₄ h₃ _ h₄ => ?_
    rintro _ ⟨⟩
    exact ⟨_, h₄.hits (h₃.hits hhit), rfl, rfl, ht.trans hle⟩

lemma get_emits (isTest : Bool) (server : ℕ) (ht : t ≤ s.clock) :
    (get isTest server key).Emits (Commit.apply g) Within Within Emitted (Returned key t) s := by
  unfold get
  -- without Redis there is nothing to return
  have hredis {s : Store V} {now : ℕ} (hnow : now ≤ s.clock) (ht : t ≤ now) :
      (Proc.tryCatch (getRedis server key now) fun _ => pure none).Emits (Commit.apply g) Within
        Within Emitted (Returned key t) s := by
    refine Emits.tryCatch ((getRedis_emits server hnow ht).mono fun r s' hr => ?_)
    cases r with
    | ok found => exact hr
    | error e => rintro _ ⟨⟩
  split
  · exact emits_read_post (fun _ => nofun) fun s₁ h₁ => hredis le_rfl (ht.trans h₁.clock)
  · refine emits_commit_post (fun _ => nofun) (fun _ _ => trivial) fun s₁ s₂ h₁ happ h₂ => ?_
    have hle : t ≤ s₁.clock := ht.trans h₁.clock
    split
    · rename_i value hreply
      obtain rfl := Option.some.inj happ
      have hhit := found_lookup hreply
      rintro _ ⟨⟩
      exact ⟨_, hhit, rfl, rfl, hle⟩
    · exact hredis le_rfl (hle.trans h₂.clock)

lemma fetched_fetch (s : Store V) (key : String) (ht : t ≤ s.clock) :
    Fetched (s.fetch key) key (s.fetch key).reply t :=
  ⟨_, List.mem_append_right _ (List.mem_singleton.mpr rfl), rfl, rfl, ht⟩

lemma setRedis_emits (value : V) (ttlSeconds : ℕ) (h : Fetched s key (some value) 0) :
    (setRedis key value ttlSeconds).Emits (Commit.apply g) Within Within Emitted Any s :=
  emits_attempt fun _ h₁ => h.within h₁

lemma Fetched.since {t' : ℕ} (h : Fetched s key value t) (ht : t' ≤ t) :
    Fetched s key value t' := by
  obtain ⟨f, hf, hkey, hvalue, hle⟩ := h
  exact ⟨f, hf, hkey, hvalue, ht.trans hle⟩

lemma answer_emits {askedAt : ℕ} (h : Fetched s key value askedAt ∨ Found s key value askedAt) :
    (answer key value askedAt).Emits (Commit.apply g) Within Within Emitted Any s :=
  emits_commit (fun _ h₁ => h.imp (·.within h₁) (·.within h₁)) fun _ _ _ _ _ => emits_pure

lemma fetchAndSet_emits (server : ℕ) (key : String) (ttlSeconds : ℕ) {askedAt : ℕ}
    (hle : askedAt ≤ s.clock) :
    (fetchAndSet server key ttlSeconds askedAt).Emits (Commit.apply g) Within Within Emitted Any
      s := by
  refine emits_commit (fun _ _ => trivial) fun s₁ s₂ h₁ happ _ => ?_
  obtain rfl := Option.some.inj happ
  have hfetched := fetched_fetch s₁ key (hle.trans h₁.clock)
  split
  · rename_i hreply
    exact answer_emits (.inl (hreply ▸ hfetched))
  · rename_i freshData hreply
    rw [hreply] at hfetched
    refine emits_commit (fun s₃ h₃ => (hfetched.within h₃).since (Nat.zero_le _))
      fun s₃ s₄ h₃ _ h₄ => ?_
    have hset := (hfetched.within h₃).within h₄
    refine emits_commit (fun s₅ h₅ => .inl (hset.within h₅)) fun s₅ s₆ h₅ _ h₆ => ?_
    exact setRedis_emits freshData ttlSeconds (((hset.within h₅).within h₆).since (Nat.zero_le _))

lemma computeOverview_emits (server : ℕ) (key : String) {askedAt : ℕ} (hle : askedAt ≤ s.clock) :
    (computeOverview server key askedAt).Emits (Commit.apply g) Within Within Emitted Any s := by
  refine emits_commit (fun _ _ => trivial) fun s₁ s₂ h₁ happ _ => ?_
  obtain rfl := Option.some.inj happ
  have hfetched := fetched_fetch s₁ key (hle.trans h₁.clock)
  split
  · exact emits_pure
  · rename_i result hreply
    rw [hreply] at hfetched
    refine emits_commit (fun s₃ h₃ => (hfetched.within h₃).since (Nat.zero_le _))
      fun s₃ s₄ h₃ _ h₄ => ?_
    have hset := (hfetched.within h₃).within h₄
    refine emits_attempt_bind (fun s₅ h₅ => (hset.within h₅).since (Nat.zero_le _))
      (fun s₅ h₅ => answer_emits (.inl (hset.within h₅))) fun s₅ s₆ h₅ _ h₆ => ?_
    exact answer_emits (.inl ((hset.within h₅).within h₆))

/-- A lookup that knows when the call was started. -/
lemma get_emits_since (isTest : Bool) (server : ℕ) (key : String) :
    (get isTest server key).Emits (Commit.apply g) Within Within Emitted
      (fun r s' => Returned key s.clock r s' ∧ s.clock ≤ s'.clock) s :=
  (get_emits isTest server le_rfl).frame (F := fun s' => s.clock ≤ s'.clock)
    (fun _ _ h hle => hle.trans h.clock) (fun _ _ h hle => hle.trans h.clock) le_rfl

lemma getOrSet_emits (isTest : Bool) (server : ℕ) (key : String) (ttlSeconds : ℕ) :
    (getOrSet isTest server key ttlSeconds).Emits (Commit.apply g) Within Within Emitted Any s := by
  refine emits_read fun start _ => Emits.bind (Emits.tryCatch
    ((get_emits_since isTest server key).mono ?_))
  rintro r s₁ ⟨hr, hle⟩
  cases r with
  | error e => exact fetchAndSet_emits server key ttlSeconds hle
  | ok cached =>
    cases cached with
    | none => exact fetchAndSet_emits server key ttlSeconds hle
    | some value => exact answer_emits (.inr (hr value rfl))

lemma getExecutiveOverview_emits (isTest : Bool) (server : ℕ) (key : String) :
    (getExecutiveOverview isTest server key).Emits (Commit.apply g) Within Within Emitted Any
      s := by
  refine emits_read fun start _ => Emits.bind ((get_emits_since isTest server key).mono ?_)
  rintro r s₁ ⟨hr, hle⟩
  cases r with
  | error e => trivial
  | ok cached =>
    cases cached with
    | none => exact computeOverview_emits server key hle
    | some value => exact answer_emits (.inr (hr value rfl))

lemma scanAndDelete_emits (rounds : List (List String)) :
    (scanAndDelete rounds).Emits (Commit.apply g) Within Within Emitted Any s := by
  induction rounds generalizing s with
  | nil => exact emits_pure
  | cons keys rounds ih =>
    refine emits_read fun _ _ => Emits.andThen ?_ fun _ _ => ih
    split
    · exact emits_pure
    · exact emits_commit (fun _ _ => trivial) fun _ _ _ _ _ => emits_pure

lemma invalidatePattern_emits (server : ℕ) (pattern : String) (rounds : List (List String)) :
    (invalidatePattern server pattern rounds).Emits (Commit.apply g) Within Within Emitted Any s :=
  emits_commit (fun _ _ => trivial) fun _ _ _ _ _ =>
    (scanAndDelete_emits rounds).orElse fun _ _ => emits_pure

lemma invalidatePatterns_emits (server : ℕ) (rounds : List (List String)) (patterns : List String) :
    (invalidatePatterns server rounds patterns).Emits (Commit.apply g) Within Within Emitted Any
      s := by
  induction patterns generalizing s with
  | nil => exact emits_pure
  | cons pattern patterns ih =>
    exact (invalidatePattern_emits server pattern rounds).andThen fun _ _ => ih

lemma call_emits (isTest : Bool) (x : Call) :
    (x.proc isTest).Emits (Commit.apply g) Within Within Emitted Any s := by
  cases x with
  | getOrSet server key ttlSeconds => exact getOrSet_emits isTest server key ttlSeconds
  | getExecutiveOverview server key => exact getExecutiveOverview_emits isTest server key
  | flushNamespace server ns rounds => exact invalidatePattern_emits server _ rounds
  | del server keys rounds =>
    refine emits_commit (fun _ _ => trivial) fun _ _ _ _ _ => Emits.orElse ?_ fun _ _ => emits_pure
    refine Emits.andThen ?_ fun _ _ => invalidatePatterns_emits server rounds _
    split
    · exact emits_pure
    · exact emits_commit (fun _ _ => trivial) fun _ _ _ _ _ => emits_pure

end Steps

/-! ## Runs -/

lemma within_environ (e : Action V) (s : Store V) : Within s (e.apply s) := by
  cases e with
  | tick elapsed => exact ⟨Nat.le_add_right _ _, fun _ h => h, fun _ h => h, fun _ h => h⟩
  | change key value => exact ⟨le_rfl, fun _ h => h, fun _ h => h, fun _ h => h⟩

lemma cacheServers_rely (g : Setting V) :
    Rely (cacheServers g) (fun _ => True) Free Within fun _ => Emitted where
  refl := Within.refl
  trans := Within.trans
  env := within_environ
  commit _ _ _ happ := within_apply happ
  emits x _ _ := call_emits g.isTest x

lemma Store.Sound.environ {g : Setting V} {s : Store V} (h : s.Sound g) (e : Action V) :
    (e.apply s).Sound g := by
  have hwithin := within_environ e s
  cases e with
  | tick elapsed =>
    exact
      { bounded := h.bounded
        fetched := fun f hf => (h.fetched f hf).trans hwithin.clock
        written := h.written
        hits := h.hits
        answers := h.answers }
  | change key value => exact ⟨h.bounded, h.fetched, h.written, h.hits, h.answers⟩

section Runs

variable {g : Setting V} {s₀ : Store V} {cfg : Config (Store V) (Commit V) AppError}

lemma sound_of_reachable (h₀ : s₀.Sound g)
    (hr : (cacheServers g).Reachable (fun _ => True) Free s₀ cfg) : cfg.store.Sound g :=
  (cacheServers_rely g).invariant hr h₀ (fun e _ h => h.environ e)
    fun _ hc _ happ h => h.apply hc happ

/-- **How old an answer may be.**  What a server returns for a key, a query for this key has found,
either since the call was started or before; and then it was written, by whatever server, to a
memory or to Redis less than its time to live and a minute before the call was started.  On the way
through Redis it was serialized once. -/
theorem answer_timely (h₀ : s₀.Sound g)
    (hr : (cacheServers g).Reachable (fun _ => True) Free s₀ cfg) {a : Answer V}
    (ha : a ∈ cfg.store.answers) :
    ∃ f ∈ cfg.store.fetched, f.key = a.key ∧
      (f.value = a.value ∧ a.askedAt ≤ f.time ∨
        ∃ w ∈ cfg.store.written, ∃ value, w.key = a.key ∧ f.value = some w.value ∧
          a.value = some value ∧ (value = w.value ∨ value = g.json w.value) ∧ f.time ≤ w.time ∧
          a.askedAt < w.time + w.ttl + 60000) := by
  have hsound := sound_of_reachable h₀ hr
  rcases hsound.answers a ha with ⟨f, hf, hkey, hvalue, htime⟩ | ⟨hit, hhit, hkey, hvalue, htime⟩
  · exact ⟨f, hf, hkey, .inl ⟨hvalue, htime⟩⟩
  · obtain ⟨w, hw, hwkey, hsame, hlt⟩ := hsound.hits hit hhit
    obtain ⟨f, hf, hfkey, hfvalue, hle⟩ := hsound.written w hw
    have hlate : late hit.level ≤ 60000 := by
      cases hit.level with
      | memory server => exact le_rfl
      | redis => exact Nat.zero_le _
    exact ⟨f, hf, hfkey.trans (hwkey.trans hkey), .inr ⟨w, hw, hit.value, hwkey.trans hkey, hfvalue,
      hvalue.symm, hsame, hle, by omega⟩⟩

end Runs

/-- Nothing is cached. -/
def Store.start (database : String → Option V) : Store V where
  clock := 0
  entries _ _ := none
  written := []
  database := database
  reply := none
  fetched := []
  hits := []
  answers := []

lemma sound_start (g : Setting V) (database : String → Option V) :
    (Store.start database).Sound g where
  bounded _ _ _ _ h := nomatch h
  fetched _ h := nomatch h
  written _ h := nomatch h
  hits _ h := nomatch h
  answers _ h := nomatch h

/-- Numbers are their own JSON, and no pattern is used. -/
def numbers : Setting ℕ := ⟨false, id, fun _ _ => false⟩

/-- The server 0 caches a value for a minute, the server 1 finds it in Redis just in time, and the
value changes: a minute after it has expired the server 1 still returns it, and does so in time. -/
theorem answer_timely_expired : ∃ c : Config (Store ℕ) (Commit ℕ) AppError,
    ⟨"k", some 1, 119998⟩ ∈ c.store.answers ∧ c.store.database "k" = some 2 ∧
      ∃ w ∈ c.store.written, w.key = "k" ∧ 119998 < w.time + w.ttl + 60000 := by
  obtain ⟨c, hr, hrun⟩ := (cacheServers numbers).exists_reachable_of_exec (fun _ => True) Free
    [.call (.getOrSet 0 "k" 60), .step 0 .ok, .step 0 .ok, .step 0 .ok, .step 0 .ok, .step 0 .ok,
      .step 0 .ok, .step 0 .ok, .env (.change "k" (some 2)), .env (.tick 59999),
      .call (.getOrSet 1 "k" 60), .step 1 .ok, .step 1 .ok, .step 1 .ok, .step 1 .ok, .step 1 .ok,
      .env (.tick 59999), .call (.getOrSet 1 "k" 60), .step 2 .ok, .step 2 .ok, .step 2 .ok]
    (Store.start fun _ => some 1)
    (fun s : Store ℕ => (s.answers, s.database "k", s.fetched))
    ([⟨"k", some 1, 0⟩, ⟨"k", some 1, 59999⟩, ⟨"k", some 1, 119998⟩], some 2, [⟨"k", some 1, 0⟩])
    (by decide +kernel)
  obtain ⟨hanswers, hrest⟩ := Prod.mk.inj hrun
  obtain ⟨hdatabase, hfetched⟩ := Prod.mk.inj hrest
  have hmem : ⟨"k", some 1, 119998⟩ ∈ c.store.answers := hanswers ▸ by simp
  obtain ⟨f, hf, -, ⟨-, hlate⟩ | ⟨w, hw, -, hkey, -, -, -, -, hlt⟩⟩ :=
    answer_timely (sound_start numbers fun _ => some 1) hr hmem
  · -- the only query was made at the beginning
    have hfirst : f = ⟨"k", some 1, 0⟩ := List.mem_singleton.mp (hfetched ▸ hf)
    rw [hfirst] at hlate
    exact absurd hlate (by decide)
  · exact ⟨c, hmem, hdatabase, w, hw, hkey, hlt⟩

end MeeoServer.Caching
