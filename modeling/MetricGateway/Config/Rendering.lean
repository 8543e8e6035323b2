import MetricGateway.Config.Settings
import MetricGateway.Text.Outline
import MetricGateway.Yaml.Printer

/-!
# Showing settings

Settings are shown as the YAML that they could have been read from, with every value that was left out, or
as an outline for people who debug.
-/

namespace MetricGateway.Config

open Number (FloatFormat)
open Text (Outline)
open Yaml (Value)

/-! ## YAML -/

/-- The settings of the log. -/
def LoggingSettings.value (l : LoggingSettings) : Value :=
  .mapping
    [("level", .text l.level.display), ("format", .text l.format.display),
     ("enable_backtraces", .bool l.backtraces)]

/-- The settings of the measurements. -/
def MetricsSettings.value (m : MetricsSettings) : Value :=
  .mapping
    [("statsd", .option .text m.server), ("prefix", .text m.namespaceName),
     ("default_tags", .mapping (m.defaultTags.map fun (key, value) => (key, .text value))),
     ("sample_rate", .double m.sampleRate)]

/-- A parameter of the client. -/
def ClientParam.entry (p : ClientParam) : Value :=
  .mapping [("name", .text p.name), ("value", .text p.value)]

/-- The settings of the producer. -/
def ProducerSettings.value (p : ProducerSettings) : Value :=
  .mapping
    [("brokers", .list (p.brokers.map .text)), ("topic", .text p.topic),
     ("compression", .text p.compression.display), ("partition_scheme", .text p.scheme.display),
     ("max_in_flight", .natural p.maxInFlight), ("linger_ms", .natural p.lingerMs),
     ("batch_num_messages", .natural p.batchMessages),
     ("queue_max_messages", .natural p.queueMessages),
     ("metadata_timeout", .natural p.metadataTimeout),
     ("params", .list (p.params.map ClientParam.entry))]

/-- The settings of publishing. -/
def PublishSettings.value (p : PublishSettings) : Value :=
  .mapping
    [("enabled", .bool p.enabled), ("compact_encoding", .bool p.compact),
     ("compact_with_org", .bool p.compactWithOrg), ("stale_threshold", .natural p.staleThreshold),
     ("prune_interval", .natural p.pruneInterval), ("shard_count", .natural p.shardCount),
     ("ack_timeout", .option .natural p.ackTimeout),
     ("buffer_pool_size", .natural p.bufferPoolSize)]

/-- A storage schema. -/
def schemaValue (s : Storage.SchemaConfig) : Value :=
  .mapping
    [("name", .text s.name), ("pattern", .text s.pattern), ("retentions", .text s.retentions)]

/-- All settings. -/
def Settings.value (s : Settings) : Value :=
  .mapping
    [("logging", s.logging.value), ("metrics", s.metrics.value), ("kafka", s.producer.value),
     ("publish", s.publish.value), ("schemas", .list (s.schemas.map schemaValue))]

/-- All settings as a document. -/
def Settings.yaml (s : Settings) : String := s.value.print

/-! ## Outlines -/

/-- A quoted text. -/
def quotedAtom (s : String) : Outline := .atom (Text.quoted s)

/-- The settings of the log. -/
def LoggingSettings.outline (l : LoggingSettings) : Outline :=
  .record "LogConfig"
    [("level", .atom l.level.debug), ("format", .atom l.format.debug),
     ("enable_backtraces", .bool l.backtraces)]

/-- The settings of the measurements. -/
def MetricsSettings.outline (m : MetricsSettings) : Outline :=
  .record "Metrics"
    [("statsd", .option quotedAtom m.server), ("prefix", quotedAtom m.namespaceName),
     ("default_tags",
       .mapping (m.defaultTags.map fun (key, value) => (Text.quoted key, quotedAtom value))),
     ("sample_rate", .atom (FloatFormat.debug.write m.sampleRate))]

/-- A parameter of the client. -/
def ClientParam.outline (p : ClientParam) : Outline :=
  .record "KafkaConfigParam" [("name", quotedAtom p.name), ("value", quotedAtom p.value)]

/-- The settings of the producer. -/
def ProducerSettings.outline (p : ProducerSettings) : Outline :=
  .record "ProducerConfig"
    [("brokers", .list (p.brokers.map quotedAtom)), ("topic", quotedAtom p.topic),
     ("compression", .atom p.compression.debug), ("partition_scheme", .atom p.scheme.debug),
     ("max_in_flight", .natural p.maxInFlight), ("linger_ms", .natural p.lingerMs),
     ("batch_num_messages", .natural p.batchMessages),
     ("queue_max_messages", .natural p.queueMessages),
     ("metadata_timeout", .natural p.metadataTimeout),
     ("params", .list (p.params.map ClientParam.outline))]

/-- The settings of publishing. -/
def PublishSettings.outline (p : PublishSettings) : Outline :=
  .record "Publish"
    [("enabled", .bool p.enabled), ("compact_encoding", .bool p.compact),
     ("compact_with_org", .bool p.compactWithOrg), ("stale_threshold", .natural p.staleThreshold),
     ("prune_interval", .natural p.pruneInterval), ("shard_count", .natural p.shardCount),
     ("ack_timeout", .option .natural p.ackTimeout),
     ("buffer_pool_size", .natural p.bufferPoolSize)]

/-- A storage schema. -/
def schemaOutline (s : Storage.SchemaConfig) : Outline :=
  .record "StorageSchemaConfig"
    [("name", quotedAtom s.name), ("pattern", quotedAtom s.pattern),
     ("retentions", quotedAtom s.retentions)]

/-- All settings. -/
def Settings.outline (s : Settings) : Outline :=
  .record "ConfigValues"
    [("logging", s.logging.outline), ("metrics", s.metrics.outline), ("kafka", s.producer.outline),
     ("publish", s.publish.outline), ("schemas", .list (s.schemas.map schemaOutline))]

end MetricGateway.Config
