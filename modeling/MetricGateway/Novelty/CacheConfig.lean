import MetricGateway.Novelty.Age

/-!
# Limits of the novelty cache

Both spans of time are limited to forty hours, a little less than the largest age, so that a shard
which moves its reference on a sighting still has room for all keys that are fresh.
-/

namespace MetricGateway.Novelty

/-- The longest span that the cache accepts. -/
def longestSpan : Duration := .ofSeconds (40 * 60 * 60)

/-- The largest number of shards, one per first byte of a key. -/
def maxShards : Nat := 256

/-- How a novelty cache is set up. -/
structure CacheConfig where
  /-- How long a series that is not seen stays known. -/
  staleThreshold : Duration := .ofSeconds (6 * 60 * 60)
  /-- The time between two prunes. -/
  pruneInterval : Duration := .ofSeconds (60 * 60)
  /-- The number of shards per organization. -/
  shardCount : Nat := maxShards
  deriving DecidableEq, Repr, Inhabited

/-- Why a cache cannot be set up. -/
inductive CacheConfigError where
  | staleThresholdTooLong (span : Duration)
  | pruneIntervalTooLong (span : Duration)
  | zeroPruneInterval
  | invalidShardCount (count : Nat)
  deriving DecidableEq, Repr

/-- The wording shown to users. -/
def CacheConfigError.message : CacheConfigError → String
  | .staleThresholdTooLong span =>
    "stale threshold of " ++ span.debug ++ " exceeds the maximum of 40 hours"
  | .pruneIntervalTooLong span =>
    "prune interval of " ++ span.debug ++ " exceeds the maximum of 40 hours"
  | .zeroPruneInterval => "prune interval must not be zero"
  | .invalidShardCount count =>
    "shard count must be between 1 and 256, got " ++ String.ofList (Number.digits count)

/-- Checks the limits. -/
def CacheConfig.validate (c : CacheConfig) : Except CacheConfigError Unit :=
  if longestSpan.nanoseconds < c.staleThreshold.nanoseconds then
    .error (.staleThresholdTooLong c.staleThreshold)
  else if longestSpan.nanoseconds < c.pruneInterval.nanoseconds then
    .error (.pruneIntervalTooLong c.pruneInterval)
  else if c.pruneInterval.nanoseconds = 0 then .error .zeroPruneInterval
  else if 1 ≤ c.shardCount ∧ c.shardCount ≤ maxShards then .ok ()
  else .error (.invalidShardCount c.shardCount)

end MetricGateway.Novelty
