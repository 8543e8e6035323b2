import MetricGateway.Config.Settings
import MetricGateway.Yaml.Decode

/-!
# Reading settings

Settings are written in YAML, a mapping of sections. A section or a setting that is left out has its
value as if nothing were configured; names that are not known are passed over.
-/

namespace MetricGateway.Config

open Yaml (Decoder)
open Yaml.Decoder (bool double entries field fieldOr fields natural string variant)

/-- The largest number of 32 bits. -/
def limit32 : Nat := 2 ^ 32 - 1

/-- The largest number of 64 bits. -/
def limit64 : Nat := 2 ^ 64 - 1

/-- Reads one of several values by its name. -/
def named {α : Type} (display : α → String) (all : List α) : Decoder α :=
  variant (all.map fun x => (display x, x))

/-- Puts a value under a key, in the order of the keys. -/
def insertTag (key value : String) : List (String × String) → List (String × String)
  | [] => [(key, value)]
  | (k, v) :: rest =>
    if key < k then (key, value) :: (k, v) :: rest
    else if key = k then (key, value) :: rest
    else (k, v) :: insertTag key value rest

/-- Reads tags. Of several values under one key the last counts. -/
def tagsDecoder : Decoder (List (String × String)) := fun d n => do
  let given ← entries string d n
  return given.foldl (fun sorted (key, value) => insertTag key value sorted) []

/-- Reads the settings of the log. -/
def LoggingSettings.decoder : Decoder LoggingSettings := fun d n => do
  let given ← fields ["level", "format", "enable_backtraces"] d n
  let absent : LoggingSettings := {}
  return {
    level := ← fieldOr "level" absent.level (named Log.Level.display Log.Level.all) given d,
    format := ← fieldOr "format" absent.format (named Log.Format.display Log.Format.all) given d,
    backtraces := ← fieldOr "enable_backtraces" absent.backtraces bool given d }

/-- Reads the settings of the measurements. -/
def MetricsSettings.decoder : Decoder MetricsSettings := fun d n => do
  let given ← fields ["statsd", "prefix", "default_tags", "sample_rate"] d n
  let absent : MetricsSettings := {}
  return {
    server := ← fieldOr "statsd" absent.server (Decoder.option string) given d,
    namespaceName := ← fieldOr "prefix" absent.namespaceName string given d,
    defaultTags := ← fieldOr "default_tags" absent.defaultTags tagsDecoder given d,
    sampleRate := ← fieldOr "sample_rate" absent.sampleRate double given d }

/-- Reads a parameter of the client. -/
def ClientParam.decoder : Decoder ClientParam := fun d n => do
  let given ← fields ["name", "value"] d n
  return ⟨← field "name" string given d, ← field "value" string given d⟩

/-- Reads a partition scheme, which goes by two names. -/
def schemeDecoder : Decoder Routing.PartitionScheme :=
  variant
    [("by-org", .byOrg), ("byOrg", .byOrg), ("by-series", .bySeries), ("bySeries", .bySeries),
     ("by-series-with-tags", .bySeriesWithTags), ("bySeriesWithTags", .bySeriesWithTags)]

/-- Reads the settings of the producer. -/
def ProducerSettings.decoder : Decoder ProducerSettings := fun d n => do
  let given ← fields
    ["brokers", "topic", "compression", "partition_scheme", "max_in_flight", "linger_ms",
     "batch_num_messages", "queue_max_messages", "metadata_timeout", "params"] d n
  let absent : ProducerSettings := {}
  let word (name : String) (value : Nat) := fieldOr name value (natural limit32) given d
  return {
    brokers := ← fieldOr "brokers" absent.brokers (Decoder.list string) given d,
    topic := ← fieldOr "topic" absent.topic string given d,
    compression :=
      ← fieldOr "compression" absent.compression (named Compression.display Compression.all) given d,
    scheme := ← fieldOr "partition_scheme" absent.scheme schemeDecoder given d,
    maxInFlight := ← word "max_in_flight" absent.maxInFlight,
    lingerMs := ← word "linger_ms" absent.lingerMs,
    batchMessages := ← word "batch_num_messages" absent.batchMessages,
    queueMessages := ← word "queue_max_messages" absent.queueMessages,
    metadataTimeout :=
      ← fieldOr "metadata_timeout" absent.metadataTimeout (natural limit64) given d,
    params := ← fieldOr "params" absent.params (Decoder.list ClientParam.decoder) given d }

/-- Reads the settings of publishing. -/
def PublishSettings.decoder : Decoder PublishSettings := fun d n => do
  let given ← fields
    ["enabled", "compact_encoding", "compact_with_org", "stale_threshold", "prune_interval",
     "shard_count", "ack_timeout", "buffer_pool_size"] d n
  let absent : PublishSettings := {}
  let word (name : String) (value : Nat) := fieldOr name value (natural limit64) given d
  return {
    enabled := ← fieldOr "enabled" absent.enabled bool given d,
    compact := ← fieldOr "compact_encoding" absent.compact bool given d,
    compactWithOrg := ← fieldOr "compact_with_org" absent.compactWithOrg bool given d,
    staleThreshold := ← word "stale_threshold" absent.staleThreshold,
    pruneInterval := ← word "prune_interval" absent.pruneInterval,
    shardCount := ← word "shard_count" absent.shardCount,
    ackTimeout :=
      ← fieldOr "ack_timeout" absent.ackTimeout (Decoder.option (natural limit64)) given d,
    bufferPoolSize := ← word "buffer_pool_size" absent.bufferPoolSize }

/-- Reads a storage schema. -/
def schemaDecoder : Decoder Storage.SchemaConfig := fun d n => do
  let given ← fields ["name", "pattern", "retentions"] d n
  return {
    name := ← field "name" string given d,
    pattern := ← fieldOr "pattern" "" string given d,
    retentions := ← field "retentions" string given d }

/-- Reads all settings. -/
def Settings.decoder : Decoder Settings := fun d n => do
  let given ← fields ["logging", "metrics", "kafka", "publish", "schemas"] d n
  let absent : Settings := {}
  return {
    logging := ← fieldOr "logging" absent.logging LoggingSettings.decoder given d,
    metrics := ← fieldOr "metrics" absent.metrics MetricsSettings.decoder given d,
    producer := ← fieldOr "kafka" absent.producer ProducerSettings.decoder given d,
    publish := ← fieldOr "publish" absent.publish PublishSettings.decoder given d,
    schemas := ← fieldOr "schemas" absent.schemas (Decoder.list schemaDecoder) given d }

/-- Reads the settings in a text. -/
def Settings.read (text : String) : Except Yaml.Error Settings := Yaml.decode Settings.decoder text

end MetricGateway.Config
