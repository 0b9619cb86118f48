/-
# The metrics of the requests

`MetricsService` of `common/observability/metrics.service.ts`.  The latencies of the last requests
are in a circular buffer, and each route has its own figures, until there are too many routes: what
comes then is counted under one key for each method.

Durations are exact, and so are their sums and quotients.  `toUpperCase` is whatever the language
makes of a method.  The time and the memory of the process are left out.
-/
import MeeoServer.Numeric.Fixed
import MeeoServer.Table.Circular
import MeeoServer.Table.Grouping
import MeeoServer.Text.Units
import Mathlib.Data.List.Dedup
import Mathlib.Data.List.GetD
import Mathlib.Data.List.Sort

namespace MeeoServer.Observability

open Table (adjust Circular)
open Text (Units units)

namespace Metrics

/-! ## Routes -/

def isDigit (u : UInt16) : Bool := 48 ≤ u ∧ u ≤ 57

def isHexDigit (u : UInt16) : Bool := isDigit u || (65 ≤ u ∧ u ≤ 70) || (97 ≤ u ∧ u ≤ 102)

/-- `\w` -/
def isWord (u : UInt16) : Bool :=
  isDigit u || (65 ≤ u ∧ u ≤ 90) || (97 ≤ u ∧ u ≤ 122) || u = 95

def isDash (u : UInt16) : Bool := u = 45

def isSlash (u : UInt16) : Bool := u = 47

/-- The text begins with units of these kinds. -/
def fits : List (UInt16 → Bool) → Units → Bool
  | [], _ => true
  | _ :: _, [] => false
  | kind :: shape, u :: s => kind u && fits shape s

/-- The length of a match of this shape between word boundaries; `previous` is the unit before the
text. -/
def wordOf (shape : List (UInt16 → Bool)) (previous : Option UInt16) (s : Units) : Option ℕ :=
  if !previous.any isWord && fits shape s && !(s.drop shape.length).head?.any isWord then
    some shape.length
  else none

def uuidShape : List (UInt16 → Bool) :=
  .replicate 8 isHexDigit ++ isDash :: .replicate 4 isHexDigit ++ isDash ::
    .replicate 4 isHexDigit ++ isDash :: .replicate 4 isHexDigit ++ isDash ::
      .replicate 12 isHexDigit

def objectIdShape : List (UInt16 → Bool) := .replicate 24 isHexDigit

/-- `/\/\d+(?=\/|$)/` -/
def numberSegment (_ : Option UInt16) : Units → Option ℕ
  | [] => none
  | u :: s =>
    let digits := s.takeWhile isDigit
    if isSlash u && digits ≠ [] && (s.drop digits.length).head?.all isSlash then
      some (digits.length + 1)
    else none

/-- The loop of a global replacement; `inside` more units belong to a match. -/
def replaceFrom (pattern : Option UInt16 → Units → Option ℕ) (replacement : Units) :
    ℕ → Option UInt16 → Units → Units
  | _, _, [] => []
  | inside + 1, _, u :: s => replaceFrom pattern replacement inside (some u) s
  | 0, previous, u :: s =>
    match pattern previous (u :: s) with
    | some n => replacement ++ replaceFrom pattern replacement (n - 1) (some u) s
    | none => u :: replaceFrom pattern replacement 0 (some u) s

def replaceAll (pattern : Option UInt16 → Units → Option ℕ) (replacement s : Units) : Units :=
  replaceFrom pattern replacement 0 none s

/-- Sanitizes dynamic IDs from route paths to prevent metric cardinality explosion. -/
def sanitizeRoute (rawRoute : Units) : Units :=
  if rawRoute = [] then units "unknown"
  else
    replaceAll numberSegment (units "/:id")
      (replaceAll (wordOf objectIdShape) (units ":id")
        (replaceAll (wordOf uuidShape) (units ":id") rawRoute))

example : sanitizeRoute (units "/orders/123e4567-e89b-12d3-a456-426614174000/items/42") =
    units "/orders/:id/items/:id" := by decide +kernel

/-! ## The service -/

structure LatencyStats where
  count : ℕ
  min : ℚ
  max : ℚ
  avg : ℚ
  p50 : ℚ
  p90 : ℚ
  p99 : ℚ
deriving DecidableEq

/-- How many requests were answered with a status of each class. -/
structure StatusCodes where
  status2xx : ℕ
  status3xx : ℕ
  status4xx : ℕ
  status5xx : ℕ
deriving DecidableEq

structure RouteStat where
  count : ℕ
  totalDurationMs : ℚ
deriving DecidableEq

structure TopRoute where
  route : Units
  count : ℕ
  avgDurationMs : ℚ

def RouteStat.average (entry : Units × RouteStat) : TopRoute :=
  ⟨entry.1, entry.2.count, fixedTwo (entry.2.totalDurationMs / entry.2.count)⟩

structure HttpMetrics where
  totalRequests : ℕ
  statusCodes : StatusCodes
  latencyMs : LatencyStats
  topRoutes : List TopRoute

structure DatabaseMetrics where
  totalQueries : ℕ
  slowQueries : ℕ
  latencyMs : LatencyStats

structure MetricsSnapshot where
  http : HttpMetrics
  database : DatabaseMetrics

end Metrics

open Metrics

structure MetricsService where
  totalRequests : ℕ
  statusCodes : StatusCodes
  routeStats : List (Units × RouteStat)
  /-- `httpDurations` and `httpIndex` -/
  httpDurations : Circular ℚ
  totalDbQueries : ℕ
  slowDbQueries : ℕ
  /-- `dbDurations` and `dbIndex` -/
  dbDurations : Circular ℚ
deriving DecidableEq

/-- A request that has been answered. -/
structure HttpRequest where
  method : Units
  route : Units
  statusCode : ℤ
  durationMs : ℚ

namespace Metrics

def maxTrackedRoutes : ℕ := 300

def maxLatencySamples : ℕ := 5000

def maxDbSamples : ℕ := 2000

def StatusCodes.count (statusCodes : StatusCodes) (statusCode : ℤ) : StatusCodes :=
  if 200 ≤ statusCode ∧ statusCode < 300 then
    { statusCodes with status2xx := statusCodes.status2xx + 1 }
  else if 300 ≤ statusCode ∧ statusCode < 400 then
    { statusCodes with status3xx := statusCodes.status3xx + 1 }
  else if 400 ≤ statusCode ∧ statusCode < 500 then
    { statusCodes with status4xx := statusCodes.status4xx + 1 }
  else if 500 ≤ statusCode then
    { statusCodes with status5xx := statusCodes.status5xx + 1 }
  else statusCodes

/-- The figures of a route with one more request. -/
def RouteStat.record (durationMs : ℚ) (current : Option RouteStat) : RouteStat :=
  let current := current.getD ⟨0, 0⟩
  { count := current.count + 1, totalDurationMs := current.totalDurationMs + durationMs }

/-- Calculates statistical percentiles (p50, p90, p99) from an array of numbers. -/
def computeStats (samples : List ℚ) : LatencyStats :=
  if samples.length = 0 then ⟨0, 0, 0, 0, 0, 0, 0⟩
  else
    let sorted := samples.insertionSort (· ≤ ·)
    let count := sorted.length
    let getPercentile (p : ℕ) := sorted.getD (min ⌊(p / 100 : ℚ) * count⌋₊ (count - 1)) 0
    { count := count
      min := fixedTwo (sorted.getD 0 0)
      max := fixedTwo (sorted.getD (count - 1) 0)
      avg := fixedTwo (sorted.sum / count)
      p50 := fixedTwo (getPercentile 50)
      p90 := fixedTwo (getPercentile 90)
      p99 := fixedTwo (getPercentile 99) }

end Metrics

namespace MetricsService

/-- The state of a new service, and of one that was reset. -/
def start : MetricsService := ⟨0, ⟨0, 0, 0, 0⟩, [], .empty, 0, 0, .empty⟩

/-- Records a database query execution using O(1) ring buffer. -/
def recordDbQuery (m : MetricsService) (durationMs : ℚ) (isSlow : Bool) : MetricsService :=
  { m with
    totalDbQueries := m.totalDbQueries + 1
    slowDbQueries := if isSlow then m.slowDbQueries + 1 else m.slowDbQueries
    dbDurations := m.dbDurations.record maxDbSamples durationMs }

/-- Retrieves complete JSON snapshot of all system metrics. -/
def getMetricsSnapshot (m : MetricsService) : MetricsSnapshot where
  http :=
    { totalRequests := m.totalRequests
      statusCodes := m.statusCodes
      latencyMs := computeStats m.httpDurations.items
      topRoutes :=
        ((m.routeStats.map RouteStat.average).insertionSort fun a b => b.count ≤ a.count).take 10 }
  database :=
    { totalQueries := m.totalDbQueries
      slowQueries := m.slowDbQueries
      latencyMs := computeStats m.dbDurations.items }

section Recording

/-- The key under which the requests with a method are counted that have none of their own. -/
def otherKey (method : Units) : Units := method ++ units " /OTHER"

variable (toUpperCase : Units → Units)

/-- Records an HTTP request completion with method, route, status, and duration. -/
def recordHttpRequest (m : MetricsService) (r : HttpRequest) : MetricsService :=
  let method := toUpperCase r.method
  let routeKey := method ++ units " " ++ sanitizeRoute r.route
  { m with
    totalRequests := m.totalRequests + 1
    statusCodes := m.statusCodes.count r.statusCode
    routeStats :=
      if routeKey ∈ m.routeStats.map Prod.fst ∨ m.routeStats.length < maxTrackedRoutes then
        adjust routeKey (RouteStat.record r.durationMs) m.routeStats
      else adjust (otherKey method) (RouteStat.record r.durationMs) m.routeStats
    httpDurations := m.httpDurations.record maxLatencySamples r.durationMs }

/-- The service after these requests. -/
def after (requests : List HttpRequest) : MetricsService :=
  requests.foldl (recordHttpRequest toUpperCase) start

end Recording

/-! ## Statistics -/

end MetricsService

namespace Metrics

/-- The statistics are in order. -/
structure LatencyStats.Ordered (s : LatencyStats) : Prop where
  min_le : s.min ≤ s.p50
  p50_le : s.p50 ≤ s.p90
  p90_le : s.p90 ≤ s.p99
  le_max : s.p99 ≤ s.max

lemma getD_mono {l : List ℚ} (h : l.Pairwise (· ≤ ·)) {i j : ℕ} (hij : i ≤ j)
    (hj : j < l.length) : l.getD i 0 ≤ l.getD j 0 := by
  rw [List.getD_eq_getElem _ _ (hij.trans_lt hj), List.getD_eq_getElem _ _ hj]
  rcases hij.eq_or_lt with rfl | hlt
  · exact le_rfl
  · exact List.pairwise_iff_getElem.mp h i j _ hj hlt

/-- **The percentiles** of any samples are in order. -/
lemma computeStats_ordered (samples : List ℚ) : (computeStats samples).Ordered := by
  unfold computeStats
  split
  · exact ⟨le_rfl, le_rfl, le_rfl, le_rfl⟩
  · next hsome =>
    set sorted := samples.insertionSort (· ≤ ·) with hsorted
    have hpairwise : sorted.Pairwise (· ≤ ·) := List.pairwise_insertionSort (· ≤ ·) samples
    have hlength : sorted.length = samples.length := List.length_insertionSort ..
    have hlast : sorted.length - 1 < sorted.length := by omega
    have hindex : ∀ p q : ℕ, p ≤ q →
        min ⌊(p / 100 : ℚ) * sorted.length⌋₊ (sorted.length - 1) ≤
          min ⌊(q / 100 : ℚ) * sorted.length⌋₊ (sorted.length - 1) := by
      intro p q hpq
      have hscaled : (p / 100 : ℚ) * sorted.length ≤ (q / 100 : ℚ) * sorted.length := by
        gcongr
      exact min_le_min_right _ (Nat.floor_mono hscaled)
    have hpercentile : ∀ p q : ℕ, p ≤ q →
        sorted.getD (min ⌊(p / 100 : ℚ) * sorted.length⌋₊ (sorted.length - 1)) 0 ≤
          sorted.getD (min ⌊(q / 100 : ℚ) * sorted.length⌋₊ (sorted.length - 1)) 0 :=
      fun p q hpq => getD_mono hpairwise (hindex p q hpq) ((min_le_right _ _).trans_lt hlast)
    constructor
    · exact fixedTwo_mono (getD_mono hpairwise (Nat.zero_le _) ((min_le_right _ _).trans_lt hlast))
    · exact fixedTwo_mono (hpercentile 50 90 (by decide))
    · exact fixedTwo_mono (hpercentile 90 99 (by decide))
    · exact fixedTwo_mono (getD_mono hpairwise (min_le_right _ _) hlast)

end Metrics

namespace MetricsService

/-! ## What is counted -/

/-- At most so many keys are those of routes, and the others are those of methods. -/
structure Tracked (methods keys : List Units) : Prop where
  nodup : keys.Nodup
  within : ∃ routes : List Units, routes.length ≤ maxTrackedRoutes ∧
    ∀ key ∈ keys, key ∈ routes ∨ key ∈ methods.map otherKey

lemma Tracked.length_le {methods keys : List Units} (h : Tracked methods keys) :
    keys.length ≤ maxTrackedRoutes + methods.dedup.length := by
  obtain ⟨routes, hroutes, hkeys⟩ := h.within
  have hsub : keys ⊆ routes ++ methods.dedup.map otherKey := by
    intro key hkey
    rcases hkeys key hkey with hmem | hmem
    · exact List.mem_append_left _ hmem
    · obtain ⟨method, hmethod, rfl⟩ := List.mem_map.mp hmem
      exact List.mem_append_right _ (List.mem_map_of_mem (List.mem_dedup.mpr hmethod))
  have hle := (h.nodup.subperm hsub).length_le
  rw [List.length_append, List.length_map] at hle
  omega

/-- What the figures of the service say about the requests that were recorded. -/
structure Accounts (toUpperCase : Units → Units) (requests : List HttpRequest)
    (m : MetricsService) : Prop where
  latencies : m.httpDurations.items.Perm
    ((requests.map HttpRequest.durationMs).rtake (min requests.length maxLatencySamples))
  total : m.totalRequests = requests.length
  counts : (m.routeStats.map fun entry => entry.2.count).sum = m.totalRequests
  tracked : Tracked (requests.map fun r => toUpperCase r.method) (m.routeStats.map Prod.fst)
  tracked_le : m.routeStats.length ≤
    maxTrackedRoutes + (requests.map fun r => toUpperCase r.method).dedup.length
  ordered : m.getMetricsSnapshot.http.latencyMs.Ordered

/-- The same with the place of the next duration, as one request after another keeps it. -/
structure Recorded (toUpperCase : Units → Units) (requests : List HttpRequest)
    (m : MetricsService) : Prop where
  latencies : Circular.Holds maxLatencySamples (requests.map HttpRequest.durationMs)
    m.httpDurations
  total : m.totalRequests = requests.length
  counts : (m.routeStats.map fun entry => entry.2.count).sum = requests.length
  tracked : Tracked (requests.map fun r => toUpperCase r.method) (m.routeStats.map Prod.fst)

section Runs

variable {toUpperCase : Units → Units} {requests : List HttpRequest} {m : MetricsService}
  {r : HttpRequest}

lemma sum_counts_record :
    ((m.recordHttpRequest toUpperCase r).routeStats.map fun entry => entry.2.count).sum =
      (m.routeStats.map fun entry => entry.2.count).sum + 1 := by
  have hadjust : ∀ key, ((adjust key (RouteStat.record r.durationMs) m.routeStats).map
      fun entry => entry.2.count).sum = (m.routeStats.map fun entry => entry.2.count).sum + 1 := by
    intro key
    refine Table.sum_adjust (P := fun _ => True) (fun _ _ => trivial) fun current _ => ?_
    cases current with
    | none => rfl
    | some stat => rfl
  show ((if _ then adjust _ _ m.routeStats else adjust _ _ m.routeStats).map _).sum = _
  split
  · exact hadjust _
  · exact hadjust _

/-- One request adds the key of its route, if there is room for it, or that of its method. -/
lemma Tracked.record {methods : List Units} (h : Tracked methods (m.routeStats.map Prod.fst)) :
    Tracked (methods ++ [toUpperCase r.method])
      ((m.recordHttpRequest toUpperCase r).routeStats.map Prod.fst) := by
  obtain ⟨routes, hroutes, hkeys⟩ := h.within
  have hlater : ∀ key ∈ m.routeStats.map Prod.fst,
      key ∈ routes ∨ key ∈ (methods ++ [toUpperCase r.method]).map otherKey := by
    intro key hkey
    refine (hkeys key hkey).imp_right fun hmem => ?_
    rw [List.map_append]
    exact List.mem_append_left _ hmem
  show Tracked _ ((if _ then adjust _ _ m.routeStats else adjust _ _ m.routeStats).map Prod.fst)
  split
  · next hroom =>
    refine ⟨Table.nodup_adjust h.nodup, ?_⟩
    rw [Table.map_fst_adjust]
    split
    · exact ⟨routes, hroutes, hlater⟩
    · next hnew =>
      -- all keys together are not too many yet
      have hlt : m.routeStats.length < maxTrackedRoutes := hroom.resolve_left hnew
      refine ⟨m.routeStats.map Prod.fst ++ [_], ?_, fun key hkey => .inl hkey⟩
      rw [List.length_append, List.length_map, List.length_singleton]
      exact hlt
  · refine ⟨Table.nodup_adjust h.nodup, routes, hroutes, fun key hkey => ?_⟩
    have hother : otherKey (toUpperCase r.method) ∈
        (methods ++ [toUpperCase r.method]).map otherKey :=
      List.mem_map_of_mem (List.mem_append_right _ (List.mem_singleton_self _))
    rw [Table.map_fst_adjust] at hkey
    split at hkey
    · exact hlater key hkey
    · rcases List.mem_append.mp hkey with hkey | hkey
      · exact hlater key hkey
      · exact .inr (List.mem_singleton.mp hkey ▸ hother)

lemma recorded_start : Recorded toUpperCase [] start where
  latencies := Circular.holds_empty (by decide)
  total := rfl
  counts := rfl
  tracked := ⟨List.nodup_nil, [], Nat.zero_le _, fun _ hkey => absurd hkey List.not_mem_nil⟩

lemma Recorded.recordHttpRequest (h : Recorded toUpperCase requests m) :
    Recorded toUpperCase (requests ++ [r]) (m.recordHttpRequest toUpperCase r) := by
  have hlength : (requests ++ [r]).length = requests.length + 1 := List.length_append
  constructor
  · rw [List.map_append]
    exact h.latencies.record
  · rw [hlength, ← h.total]
    rfl
  · rw [sum_counts_record, h.counts, hlength]
  · rw [List.map_append]
    exact h.tracked.record

/-- The queries that are recorded meanwhile make no difference. -/
lemma Recorded.recordDbQuery (h : Recorded toUpperCase requests m) (durationMs : ℚ)
    (isSlow : Bool) : Recorded toUpperCase requests (m.recordDbQuery durationMs isSlow) :=
  ⟨h.latencies, h.total, h.counts, h.tracked⟩

lemma Recorded.accounts (h : Recorded toUpperCase requests m) :
    Accounts toUpperCase requests m := by
  refine ⟨?_, h.total, h.counts.trans h.total.symm, h.tracked, ?_, computeStats_ordered _⟩
  · have hperm := h.latencies.perm_items
    rwa [List.length_map] at hperm
  · have hle := h.tracked.length_le
    rwa [List.length_map] at hle

end Runs

/-- **The metrics** account for the requests, whatever these are. -/
theorem metrics_accounts (toUpperCase : Units → Units) (requests : List HttpRequest) :
    Accounts toUpperCase requests (after toUpperCase requests) := by
  refine Recorded.accounts ?_
  induction requests using List.reverseRecOn with
  | nil => exact recorded_start
  | append_singleton requests r ih =>
    have hafter : after toUpperCase (requests ++ [r]) =
        (after toUpperCase requests).recordHttpRequest toUpperCase r := List.foldl_append
    rw [hafter]
    exact ih.recordHttpRequest

end MetricsService

end MeeoServer.Observability
