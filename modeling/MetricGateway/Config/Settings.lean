import MetricGateway.Config.Producer
import MetricGateway.Log.Format
import MetricGateway.Novelty.CacheConfig
import MetricGateway.Storage.Schema

/-!
# Settings

The settings of the gateway by section. Every setting has a value if it is not configured.
-/

namespace MetricGateway.Config

open Number (Binary64)

/-- The settings of the log. -/
structure LoggingSettings where
  level : Log.Level := .upTo .info
  format : Log.Format := .auto
  /-- Whether the program is to show where it was when it fails. -/
  backtraces : Bool := false
  deriving DecidableEq, Repr, Inhabited

/-- The settings of the measurements of the gateway itself. -/
structure MetricsSettings where
  /-- The server that they are sent to; without it, there are none. -/
  server : Option String := none
  /-- What all names start with. -/
  namespaceName : String := "tsgw"
  /-- Tags of every measurement, in the order of their keys. -/
  defaultTags : List (String × String) := []
  /-- The share of measurements that are sent. -/
  sampleRate : Binary64 := .one
  deriving DecidableEq, Repr, Inhabited

/-- The settings of publishing. -/
structure PublishSettings where
  /-- Whether metrics are published; if not, they are discarded. -/
  enabled : Bool := false
  /-- Whether samples of known series are sent as points. -/
  compact : Bool := true
  /-- Whether points carry their organization. -/
  compactWithOrg : Bool := true
  /-- Seconds that a series which is not seen stays known. -/
  staleThreshold : Nat := 6 * 60 * 60
  /-- Seconds between two prunes of the novelty cache. -/
  pruneInterval : Nat := 60 * 60
  /-- The number of shards per organization in the novelty cache. -/
  shardCount : Nat := Novelty.maxShards
  /-- Seconds to wait for the next report of a batch; without it, for ever. -/
  ackTimeout : Option Nat := none
  /-- How many idle buffers are kept per encoding. -/
  bufferPoolSize : Nat := 1024
  deriving DecidableEq, Repr, Inhabited

/-- The limits of the novelty cache. -/
def PublishSettings.cacheConfig (p : PublishSettings) : Novelty.CacheConfig :=
  { staleThreshold := .ofSeconds p.staleThreshold, pruneInterval := .ofSeconds p.pruneInterval,
    shardCount := p.shardCount }

/-- All settings. -/
structure Settings where
  logging : LoggingSettings := {}
  metrics : MetricsSettings := {}
  producer : ProducerSettings := {}
  publish : PublishSettings := {}
  schemas : List Storage.SchemaConfig := [.default]
  deriving DecidableEq, Repr, Inhabited

end MetricGateway.Config
