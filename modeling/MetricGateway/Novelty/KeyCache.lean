import MetricGateway.Novelty.CacheConfig
import MetricGateway.Novelty.OrgCache

/-!
# The novelty cache

The cache answers whether a series has been seen within the stale threshold, and records the sighting
at the same time. Every organization has shards of its own, which are set up when the organization is
first seen and removed by the first prune that leaves them empty.
-/

namespace MetricGateway.Novelty

/-- The series that have been seen, by organization. -/
structure KeyCache where
  /-- How long a series that is not seen stays known. -/
  stale : Age
  /-- The time between two prunes. -/
  pruneInterval : Duration
  /-- The number of shards of an organization. -/
  shardCount : Nat
  orgs : Std.ExtTreeMap OrgId OrgCache

/-- What a prune has left. -/
structure PruneReport where
  /-- The number of series that are still known. -/
  keys : Nat
  /-- The number of organizations that are still known. -/
  orgs : Nat
  /-- The number of organizations that have been removed. -/
  removedOrgs : Nat
  deriving DecidableEq, Repr, Inhabited

namespace KeyCache

/-- A cache without keys, if the limits are kept. -/
def ofConfig (c : CacheConfig) : Except CacheConfigError KeyCache :=
  match c.validate with
  | .error e => .error e
  | .ok () =>
    match Age.ofDuration? c.staleThreshold with
    | some stale => .ok ⟨stale, c.pruneInterval, c.shardCount, ∅⟩
    | none => .error (.staleThresholdTooLong c.staleThreshold)

/-- The shards of an organization, set up at a time if it has none. -/
def orgCache (c : KeyCache) (org : OrgId) (time : Bucket) : OrgCache :=
  (c.orgs[org]?).getD (.empty c.shardCount time c.stale)

/-- Records a sighting. Says whether the series was known before. -/
def touch (c : KeyCache) (key : MetricKey) (now : Timestamp) : Bool × KeyCache :=
  let time := Bucket.ofTimestamp now
  let (seen, cache) := (c.orgCache key.org time).touch key.key time
  (seen, { c with orgs := c.orgs.insert key.org cache })

/-- Removes a series. Says whether it was known. Organizations are left to the next prune. -/
def forget (c : KeyCache) (key : MetricKey) : Bool × KeyCache :=
  match c.orgs[key.org]? with
  | none => (false, c)
  | some cache =>
    let (seen, cache) := cache.forget key.key
    (seen, { c with orgs := c.orgs.insert key.org cache })

/-- The number of series. -/
def size (c : KeyCache) : Nat := c.orgs.foldl (fun n _ cache => n + cache.size) 0

/-- Whether no series is known. -/
def isEmpty (c : KeyCache) : Bool := c.orgs.all fun _ cache => cache.isEmpty

/-- The number of organizations. -/
def orgCount (c : KeyCache) : Nat := c.orgs.size

/-- The stale threshold, rounded down to whole buckets. -/
def staleThreshold (c : KeyCache) : Duration := c.stale.toDuration

/-- Drops what is stale at a time, and then the organizations that are left without series. -/
def prune (c : KeyCache) (now : Timestamp) : PruneReport × KeyCache :=
  let time := Bucket.ofTimestamp now
  let pruned := c.orgs.map fun _ cache => cache.prune time
  let kept := pruned.filter fun _ cache => !cache.isEmpty
  let report : PruneReport :=
    { keys := pruned.foldl (fun n _ cache => n + cache.size) 0,
      orgs := kept.size,
      removedOrgs := pruned.foldl (fun n _ cache => if cache.isEmpty then n + 1 else n) 0 }
  (report, { c with orgs := kept })

/-- The bucket in which a series was last seen. -/
def lastSeen (c : KeyCache) (key : MetricKey) : Option Nat :=
  (c.orgs[key.org]?).bind fun cache => cache.lastSeen key.key

end KeyCache

end MetricGateway.Novelty
