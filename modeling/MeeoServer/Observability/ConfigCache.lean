/-
# The cache of the observability configuration

One node keeps the configuration in its memory for a minute and in Redis for a day.  Memory has
one time stamp, `l1LoadedAt`, for all of its entries.  An update puts its item into memory and
renews the stamp: if memory was empty it then seems to be complete, and the other entries seem
to be as new as the item.

A run is as it should be if no read is answered from memory after either has happened.
-/
import Mathlib.Data.List.Sort
import Mathlib.Data.String.Basic
import MeeoServer.Process.Sequences
import MeeoServer.Table.Keyed
import MeeoServer.Text.Json

namespace MeeoServer.Observability

open Table Text

abbrev ConfigValue := List (String × Json String)

structure ConfigItem where
  key : String
  category : String
  value : ConfigValue
  description : Option String
  isEnabled : Bool
  updatedBy : Option String

def DEFAULT_OBSERVABILITY_CONFIGS : List ConfigItem :=
  let config key category description value : ConfigItem :=
    { key, category, value, description := some description, isEnabled := true, updatedBy := none }
  let numbers l : Json String := .arr (l.map Json.num)
  let strings l : Json String := .arr (l.map Json.str)
  [config "thresholds:server_5xx" "server_errors"
      "Primary service-health alert for 500-599 user-impacting server failures"
      [("warningRatePercent", .num 2), ("criticalRatePercent", .num 5),
        ("evaluationWindowMinutes", .num 5), ("minimumRequestsPerMinute", .num 10),
        ("max5xxVolumePerMinute", .num 20), ("cooldownMinutes", .num 15)],
    config "thresholds:client_4xx" "client_errors"
      "Client validation and route error tracking for 400, 404, 405, 413, 415, 422"
      [("warningRatePercent", .num 10), ("criticalRatePercent", .num 25),
        ("evaluationWindowMinutes", .num 5),
        ("monitoredStatusCodes", numbers [400, 404, 405, 413, 415, 422]),
        ("excludeStatusCodes", numbers [409, 410])],
    config "thresholds:security_events" "security"
      "Security and policy metrics tracking for 401 Unauthorized, 403 Forbidden, 429 Rate Limiting"
      [("spikeThresholdRequestsPerMin", .num 30), ("rateLimit429ThresholdPerMin", .num 15),
        ("evaluationWindowMinutes", .num 5), ("monitoredStatusCodes", numbers [401, 403, 429])],
    config "thresholds:business_operations" "business"
      "Business operation failure rates (payment failures, checkout errors, background DLQ)"
      [("paymentFailureRatePercent", .num 2), ("orderFailureRatePercent", .num 1),
        ("backgroundJobDlqThreshold", .num 5), ("evaluationWindowMinutes", .num 5)],
    config "preferences:polling_policy" "preferences"
      "Server-managed dashboard time windows, auto-refresh intervals, and alert cooldown policies"
      [("allowedWindows", strings ["15m", "1h", "6h", "24h"]), ("activeWindow", .str "15m"),
        ("allowedIntervals", strings ["5s", "15s", "30s", "Off"]), ("activeInterval", .str "15s"),
        ("minIntervalSeconds", .num 5),
        ("allowedAlertCooldownMinutes", numbers [5, 10, 15, 30, 60]),
        ("alertCooldownMinutes", .num 15)]]

/-- `CACHE_TTL.ONE_DAY`, in milliseconds. -/
def ONE_DAY : ℕ := 86400000

def L1_TTL_MS : ℕ := 60000

/-- An item as it lies in memory, with the time at which it was put there. -/
structure Entry where
  item : ConfigItem
  loadedAt : ℕ

def Entry.key (e : Entry) : String := e.item.key

/-- The node, with the table, the list in Redis and when it expires, and the messages that are on
their way to the node. -/
structure Node where
  clock : ℕ
  rows : List ConfigItem
  redis : Option (List ConfigItem × ℕ)
  l1Cache : List Entry
  l1LoadedAt : ℕ
  /-- Whether a whole list was put into memory since it was last empty. -/
  filled : Bool
  messages : List String

namespace Node

def start (clock : ℕ) (rows : List ConfigItem) : Node := ⟨clock, rows, none, [], 0, false, []⟩

variable (s : Node)

/-- `l1Cache.clear()` and `l1LoadedAt = 0` -/
def clear : Node := { s with l1Cache := [], l1LoadedAt := 0, filled := false }

def entries (items : List ConfigItem) : List Entry := items.map fun item => ⟨item, s.clock⟩

def populateL1 (items : List ConfigItem) : Node :=
  { s with
    l1Cache := (s.entries items).foldl (fun cache e => put Entry.key e cache) []
    l1LoadedAt := s.clock
    filled := true }

/-- `this.l1Cache.size > 0 && now - this.l1LoadedAt < this.L1_TTL_MS` -/
def inMemory : Prop := s.l1Cache ≠ [] ∧ s.clock - s.l1LoadedAt < L1_TTL_MS

instance : Decidable s.inMemory := inferInstanceAs (Decidable (¬ _ ∧ _))

/-- `redis.get` -/
def cached : Option (List ConfigItem) :=
  s.redis.bind fun (items, expiry) => if s.clock < expiry then some items else none

def seedDefaultConfigs : Node :=
  { s with
    rows := DEFAULT_OBSERVABILITY_CONFIGS.foldl
      (fun rows config => if config.key ∈ rows.map ConfigItem.key then rows else rows ++ [config])
      s.rows }

/-- The items, as they are returned and put into memory. -/
def load (items : List ConfigItem) : List Entry × Node := (s.entries items, s.populateL1 items)

/-- In each of the functions, `db` is whether the database answers. -/
def getAllConfigs (db : Bool) : List Entry × Node :=
  if s.inMemory then (s.l1Cache, s)
  else match s.cached with
    | some parsed => s.load parsed
    | none =>
      if db then
        let s := if s.rows = [] then s.seedDefaultConfigs else s
        let normalized := s.rows.insertionSort fun a b => a.category ≤ b.category
        { s with redis := some (normalized, s.clock + ONE_DAY) }.load normalized
      else s.load DEFAULT_OBSERVABILITY_CONFIGS

def getConfig (key : String) (db : Bool) : Option Entry × Node :=
  let warm :=
    let (all, s) := s.getAllConfigs db
    (all.find? fun e => e.key = key, s)
  match s.l1Cache.find? fun e => e.key = key with
  | some inMem => if s.clock - s.l1LoadedAt < L1_TTL_MS then (some inMem, s) else warm
  | none => warm

/-- Memory gets the item, Redis loses its list, and the other nodes are told. -/
def invalidateAndPublish (updatedItem : ConfigItem) : Node :=
  { s with
    l1Cache := put Entry.key ⟨updatedItem, s.clock⟩ s.l1Cache
    l1LoadedAt := s.clock
    redis := none
    messages := s.messages ++ [updatedItem.key] }

end Node

structure ConfigUpdates where
  value : Option ConfigValue
  isEnabled : Option Bool
  description : Option String

/-- `{ ...baseValue, ...updates }` -/
def mergeValue (baseValue updates : ConfigValue) : ConfigValue :=
  updates.foldl (fun value field => put Prod.fst field value) baseValue

def isValidUuid (s : String) : Bool :=
  let isHex c := c.isDigit || 'a' ≤ c && c ≤ 'f' || 'A' ≤ c && c ≤ 'F'
  let parts := s.toList.splitOn '-'
  parts.map List.length = [8, 4, 4, 4, 12] && parts.all fun part => part.all isHex

/-- `key.split(":")[1] || "custom"` -/
def categoryOf (key : String) : String :=
  match key.toList.splitOn ':' with
  | _ :: [] :: _ => "custom"
  | _ :: category :: _ => String.ofList category
  | _ => "custom"

namespace Node

variable (s : Node)

def updateConfig (key : String) (updates : ConfigUpdates) (adminUserId : Option String)
    (db : Bool) : ConfigItem × Node :=
  let existing := if db then s.rows.find? fun row => row.key = key
    else (s.l1Cache.find? fun e => e.key = key).map Entry.item
  let defaultFallback := DEFAULT_OBSERVABILITY_CONFIGS.find? fun config => config.key = key
  let baseValue := ((existing.or defaultFallback).map ConfigItem.value).getD []
  let mergedValue := (updates.value.map (mergeValue baseValue)).getD baseValue
  let validAdminUuid := adminUserId.filter isValidUuid
  if db then
    let normalized : ConfigItem := match existing with
      | some row =>
        { row with
          value := mergedValue
          isEnabled := updates.isEnabled.getD row.isEnabled
          description := updates.description.or row.description
          updatedBy := if adminUserId.isSome then validAdminUuid else row.updatedBy }
      | none =>
        { key
          category := categoryOf key
          value := mergedValue
          description := updates.description
          isEnabled := updates.isEnabled.getD true
          updatedBy := validAdminUuid }
    (normalized,
      { s with rows := put ConfigItem.key normalized s.rows }.invalidateAndPublish normalized)
  else
    let normalized : ConfigItem :=
      { key
        category := categoryOf key
        value := mergedValue
        description := (updates.description.or (existing.bind ConfigItem.description)).or
          (defaultFallback.bind ConfigItem.description)
        isEnabled := (updates.isEnabled.or (existing.map ConfigItem.isEnabled)).getD true
        updatedBy := validAdminUuid }
    (normalized, s.invalidateAndPublish normalized)

def resetToDefaults (adminUserId : Option String) (db : Bool) : List Entry × Node :=
  let s := if db then
      { s with
        rows := DEFAULT_OBSERVABILITY_CONFIGS.foldl
          (fun rows config => put ConfigItem.key
            { config with
              -- an update leaves the category of a row as it is
              category := ((rows.find? fun row => row.key = config.key).map
                ConfigItem.category).getD config.category
              updatedBy := adminUserId } rows)
          s.rows }
    else s
  { s.clear with redis := none, messages := s.messages ++ ["reset"] }.getAllConfigs db

end Node

/-! ## Runs -/

inductive CacheAction where
  /-- Some milliseconds go by. -/
  | tick (ms : ℕ)
  /-- A message arrives and clears the memory. -/
  | deliver (i : ℕ)
  | getAllConfigs (db : Bool)
  | getConfig (key : String) (db : Bool)
  | updateConfig (key : String) (updates : ConfigUpdates) (adminUserId : Option String) (db : Bool)
  | resetToDefaults (adminUserId : Option String) (db : Bool)

namespace Node

def step : CacheAction → Node → Node
  | .tick ms, s => { s with clock := s.clock + ms }
  | .deliver i, s =>
    if i < s.messages.length then { s.clear with messages := s.messages.eraseIdx i } else s
  | .getAllConfigs db, s => (s.getAllConfigs db).2
  | .getConfig key db, s => (s.getConfig key db).2
  | .updateConfig key updates adminUserId db, s => (s.updateConfig key updates adminUserId db).2
  | .resetToDefaults adminUserId db, s => (s.resetToDefaults adminUserId db).2

/-- Every key of the table has an entry in the list. -/
def Complete (s : Node) (list : List Entry) : Prop :=
  s.rows.map ConfigItem.key ⊆ list.map Entry.key

/-- No entry was put into memory more than a minute ago. -/
def Recent (s : Node) (list : List Entry) : Prop :=
  ∀ e ∈ list, s.clock ≤ e.loadedAt + L1_TTL_MS

/-- What is asked of an answer; the table is the one that the call leaves. -/
def Answers : CacheAction → Node → Prop
  | .getAllConfigs db, s =>
    (s.getAllConfigs db).2.Complete (s.getAllConfigs db).1 ∧ s.Recent (s.getAllConfigs db).1
  | .getConfig key db, s =>
    (key ∈ (s.getConfig key db).2.rows.map ConfigItem.key → (s.getConfig key db).1 ≠ none) ∧
      s.Recent (s.getConfig key db).1.toList
  | .resetToDefaults adminUserId db, s =>
    (s.resetToDefaults adminUserId db).2.Complete (s.resetToDefaults adminUserId db).1 ∧
      s.Recent (s.resetToDefaults adminUserId db).1
  | _, _ => True

/-- Memory was filled with a list, and no entry is older than the time stamp. -/
def Honest (s : Node) : Prop := s.filled = true ∧ ∀ e ∈ s.l1Cache, s.l1LoadedAt ≤ e.loadedAt

/-- The database answers, and what is read from memory can be trusted. -/
def Meets : CacheAction → Node → Prop
  | .getAllConfigs db, s => db = true ∧ (s.inMemory → s.Honest)
  | .getConfig _ db, s => db = true ∧ (s.inMemory → s.Honest)
  | .updateConfig _ _ _ db, _ => db = true
  | .resetToDefaults _ db, _ => db = true
  | _, _ => True

instance (s : Node) : Decidable s.Honest := inferInstanceAs (Decidable (_ ∧ _))

instance : (action : CacheAction) → (s : Node) → Decidable (Meets action s)
  | .getAllConfigs _, _ => inferInstanceAs (Decidable (_ ∧ _))
  | .getConfig _ _, _ => inferInstanceAs (Decidable (_ ∧ _))
  | .updateConfig _ _ _ _, _ => inferInstanceAs (Decidable (_ = _))
  | .resetToDefaults _ _, _ => inferInstanceAs (Decidable (_ = _))
  | .tick _, _ => inferInstanceAs (Decidable True)
  | .deliver _, _ => inferInstanceAs (Decidable True)

/-! ## The invariant -/

/-- The list in Redis is complete, and so is memory once it was filled. -/
structure Kept (s : Node) : Prop where
  redis : ∀ items expiry, s.redis = some (items, expiry) →
    s.rows.map ConfigItem.key ⊆ items.map ConfigItem.key
  memory : s.filled = true → s.Complete s.l1Cache

variable {s : Node}

lemma kept_start (clock : ℕ) (rows : List ConfigItem) : (start clock rows).Kept where
  redis _ _ h := nomatch h
  memory h := nomatch h

lemma map_key_entries (items : List ConfigItem) :
    (s.entries items).map Entry.key = items.map ConfigItem.key := by
  rw [entries, List.map_map]
  rfl

/-- A complete list is put into memory. -/
lemma complete_populateL1 {items : List ConfigItem}
    (hitems : s.rows.map ConfigItem.key ⊆ items.map ConfigItem.key) :
    s.Complete (s.populateL1 items).l1Cache := by
  intro key hkey
  refine mem_map_foldl_put.mpr (.inl ?_)
  rw [map_key_entries]
  exact hitems hkey

lemma Kept.load (h : s.Kept) {items : List ConfigItem}
    (hitems : s.rows.map ConfigItem.key ⊆ items.map ConfigItem.key) : (s.load items).2.Kept where
  redis := h.redis
  memory _ := complete_populateL1 hitems

lemma complete_load {items : List ConfigItem}
    (hitems : s.rows.map ConfigItem.key ⊆ items.map ConfigItem.key) :
    (s.load items).2.Complete (s.load items).1 := by
  intro key hkey
  show key ∈ (s.entries items).map Entry.key
  rw [map_key_entries]
  exact hitems hkey

lemma recent_load (items : List ConfigItem) : s.Recent (s.load items).1 := by
  intro e he
  obtain ⟨item, -, rfl⟩ := List.mem_map.mp he
  exact Nat.le_add_right _ _

/-- What the answer of `getAllConfigs` is worth, and what it leaves. -/
lemma Kept.getAllConfigs (h : s.Kept) (hhonest : s.inMemory → s.Honest) :
    (s.getAllConfigs true).2.Kept ∧ (s.getAllConfigs true).2.Complete (s.getAllConfigs true).1 ∧
      s.Recent (s.getAllConfigs true).1 := by
  unfold Node.getAllConfigs
  split
  · next hmemory =>
    obtain ⟨hfilled, hages⟩ := hhonest hmemory
    refine ⟨h, h.memory hfilled, fun e he => ?_⟩
    have hage := hages e he
    have hfresh := hmemory.2
    omega
  · split
    · next parsed hparsed =>
      have hcomplete : s.rows.map ConfigItem.key ⊆ parsed.map ConfigItem.key := by
        obtain ⟨⟨items, expiry⟩, hredis, hitems⟩ := Option.bind_eq_some_iff.mp hparsed
        obtain ⟨-, rfl⟩ : s.clock < expiry ∧ items = parsed := by simpa using hitems
        exact h.redis items expiry hredis
      exact ⟨h.load hcomplete, complete_load hcomplete, recent_load parsed⟩
    · rw [if_pos rfl]
      -- the table is sorted and put into Redis and into memory
      have hread : ∀ t : Node, t.clock = s.clock →
          let items := t.rows.insertionSort fun a b => a.category ≤ b.category
          let t' := { t with redis := some (items, t.clock + ONE_DAY) }
          (t'.load items).2.Kept ∧ (t'.load items).2.Complete (t'.load items).1 ∧
            s.Recent (t'.load items).1 := by
        intro t hclock items t'
        have hall : t.rows.map ConfigItem.key ⊆ items.map ConfigItem.key :=
          List.map_subset _ (List.perm_insertionSort _ t.rows).symm.subset
        have hkept : (t'.load items).2.Kept := by
          refine ⟨fun other expiry hother => ?_, fun _ => complete_populateL1 hall⟩
          obtain ⟨rfl, -⟩ := Prod.mk.inj (Option.some.inj hother)
          exact hall
        refine ⟨hkept, complete_load hall, fun e he => ?_⟩
        rw [← hclock]
        exact recent_load items e he
      exact hread _ (by split <;> rfl)

/-- What the answer of `getConfig` is worth, and what it leaves. -/
lemma Kept.getConfig (h : s.Kept) (hhonest : s.inMemory → s.Honest) (key : String) :
    (s.getConfig key true).2.Kept ∧
      (key ∈ (s.getConfig key true).2.rows.map ConfigItem.key → (s.getConfig key true).1 ≠ none) ∧
      s.Recent (s.getConfig key true).1.toList := by
  obtain ⟨hkept, hcomplete, hrecent⟩ := h.getAllConfigs hhonest
  -- the item is looked up in the list of all
  have hwarm : (s.getAllConfigs true).2.Kept ∧
      (key ∈ (s.getAllConfigs true).2.rows.map ConfigItem.key →
        ((s.getAllConfigs true).1.find? fun e => e.key = key) ≠ none) ∧
      s.Recent ((s.getAllConfigs true).1.find? fun e => e.key = key).toList := by
    refine ⟨hkept, fun hkey hnone => ?_, fun e he => ?_⟩
    · obtain ⟨e, he, hsame⟩ := List.mem_map.mp (hcomplete hkey)
      exact absurd (decide_eq_true hsame) (List.find?_eq_none.mp hnone e he)
    · exact hrecent e (List.mem_of_find?_eq_some (Option.mem_toList.mp he))
  unfold Node.getConfig
  cases hmem : s.l1Cache.find? fun e => e.key = key with
  | none => exact hwarm
  | some inMem =>
    by_cases hfresh : s.clock - s.l1LoadedAt < L1_TTL_MS
    · simp only [if_pos hfresh]
      have hin := List.mem_of_find?_eq_some hmem
      have hage := (hhonest ⟨List.ne_nil_of_mem hin, hfresh⟩).2 inMem hin
      refine ⟨h, fun _ => by simp, fun e he => ?_⟩
      obtain rfl : e = inMem := List.mem_singleton.mp he
      omega
    · simp only [if_neg hfresh]
      exact hwarm

/-- An item that the table and memory get both. -/
lemma Kept.invalidateAndPublish (h : s.Kept) (item : ConfigItem) :
    ({ s with rows := put ConfigItem.key item s.rows }.invalidateAndPublish item).Kept where
  redis _ _ h := nomatch h
  memory hfilled key hkey := by
    rcases mem_map_put.mp hkey with rfl | hold
    · exact mem_map_put.mpr (.inl rfl)
    · exact mem_map_put.mpr (.inr (h.memory hfilled hold))

lemma Kept.updateConfig (h : s.Kept) (key : String) (updates : ConfigUpdates)
    (adminUserId : Option String) : (s.updateConfig key updates adminUserId true).2.Kept := by
  unfold Node.updateConfig
  rw [if_pos rfl]
  exact h.invalidateAndPublish _

/-- Without memory and Redis nothing is incomplete. -/
lemma kept_clear (t : Node) (messages : List String) :
    { t.clear with redis := none, messages }.Kept where
  redis _ _ h := nomatch h
  memory h := nomatch h

lemma Kept.deliver (h : s.Kept) {messages : List String} : { s.clear with messages }.Kept where
  redis := h.redis
  memory h := nomatch h

lemma resetToDefaults_answers (adminUserId : Option String) :
    (s.resetToDefaults adminUserId true).2.Kept ∧
      (s.resetToDefaults adminUserId true).2.Complete (s.resetToDefaults adminUserId true).1 ∧
      s.Recent (s.resetToDefaults adminUserId true).1 := by
  unfold Node.resetToDefaults
  rw [if_pos rfl]
  generalize DEFAULT_OBSERVABILITY_CONFIGS.foldl _ s.rows = rows
  exact (kept_clear { s with rows } _).getAllConfigs fun hmemory => absurd rfl hmemory.1

/-- One step. -/
lemma Kept.step (h : s.Kept) (action : CacheAction) (hmeets : Meets action s) :
    (step action s).Kept ∧ Answers action s := by
  cases action with
  | tick ms => exact ⟨⟨h.redis, h.memory⟩, trivial⟩
  | deliver i =>
    refine ⟨?_, trivial⟩
    show (if i < s.messages.length then _ else s).Kept
    split
    · exact h.deliver
    · exact h
  | getAllConfigs db =>
    obtain ⟨rfl, hhonest⟩ := hmeets
    exact h.getAllConfigs hhonest
  | getConfig key db =>
    obtain ⟨rfl, hhonest⟩ := hmeets
    exact h.getConfig hhonest key
  | updateConfig key updates adminUserId db =>
    obtain rfl : db = true := hmeets
    exact ⟨h.updateConfig key updates adminUserId, trivial⟩
  | resetToDefaults adminUserId db =>
    obtain rfl : db = true := hmeets
    exact resetToDefaults_answers adminUserId

/-- In a run in which the database answers and no read trusts a memory that was begun by an
update, or entries older than the time stamp, every list is complete, every key of the table is
found, and nothing from memory is older than a minute. -/
theorem answers_of_meets {clock : ℕ} {rows : List ConfigItem} {actions : List CacheAction}
    (h : Sequences.Along step Meets actions (start clock rows)) :
    Sequences.Along step Answers actions (start clock rows) :=
  h.imp (kept_start clock rows) fun action _ hkept hmeets => hkept.step action hmeets

/-- A table with two rows. -/
def twoRows : List ConfigItem :=
  [⟨"limits:a", "a", [], none, true, none⟩, ⟨"limits:b", "b", [], none, true, none⟩]

def noUpdates : ConfigUpdates := ⟨none, some false, none⟩

theorem answers_of_messages_in_time :
    Sequences.Along step Answers
      [.getAllConfigs true, .tick 50000, .getConfig "limits:b" true,
        .updateConfig "limits:a" noUpdates none true, .deliver 0, .getAllConfigs true, .tick 70000,
        .updateConfig "limits:c" noUpdates none true, .deliver 0, .getConfig "limits:c" true,
        .resetToDefaults none true, .getAllConfigs true] (start 100000 twoRows) :=
  answers_of_meets (by decide)

/-- After an update on an empty memory the list has one entry, and another key is not found; and
updates keep an entry in memory for longer than a minute. -/
theorem answers_wrong_after_update :
    ¬ Sequences.Along step Answers
      [.updateConfig "limits:a" noUpdates none true, .getAllConfigs true]
      (start 100000 twoRows) ∧
    ¬ Sequences.Along step Answers
      [.updateConfig "limits:a" noUpdates none true, .getConfig "limits:b" true]
      (start 100000 twoRows) ∧
    ¬ Sequences.Along step Answers
      [.getAllConfigs true, .tick 50000, .updateConfig "limits:a" noUpdates none true,
        .tick 50000, .getConfig "limits:b" true] (start 100000 twoRows) := by
  refine ⟨fun h => ?_, fun h => ?_, fun h => ?_⟩
  · obtain ⟨-, ⟨hcomplete, -⟩, -⟩ := h
    have hlisted := @hcomplete "limits:b" (by decide)
    exact absurd hlisted (by decide)
  · obtain ⟨-, ⟨hfound, -⟩, -⟩ := h
    exact hfound (by decide) rfl
  · obtain ⟨-, -, -, -, ⟨-, hrecent⟩, -⟩ := h
    exact absurd (hrecent ⟨_, 100000⟩ (List.mem_singleton.mpr rfl)) (by decide)

end Node

end MeeoServer.Observability
