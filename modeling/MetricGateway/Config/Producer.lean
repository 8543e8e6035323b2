import MetricGateway.Routing.Partitioner
import MetricGateway.Text.Blank

/-!
# Settings of the producer

The settings of the client that hands records to the brokers, and the parameters that the client
understands. Parameters that are configured by name come last, so that they win over the others.
-/

namespace MetricGateway.Config

open Routing (PartitionScheme)

/-- How batches of records are compressed. -/
inductive Compression where
  | none
  | gzip
  | snappy
  | lz4
  | zstd
  deriving DecidableEq, Repr, Inhabited

namespace Compression

/-- All ways to compress. -/
def all : List Compression := [.none, .gzip, .snappy, .lz4, .zstd]

/-- The name of a way to compress. -/
def display : Compression → String
  | .none => "none"
  | .gzip => "gzip"
  | .snappy => "snappy"
  | .lz4 => "lz4"
  | .zstd => "zstd"

/-- The name of a way to compress for people who debug. -/
def debug : Compression → String
  | .none => "None"
  | .gzip => "Gzip"
  | .snappy => "Snappy"
  | .lz4 => "Lz4"
  | .zstd => "Zstd"

end Compression

/-- A parameter of the client. -/
structure ClientParam where
  name : String
  value : String
  deriving DecidableEq, Repr, Inhabited

/-- The settings of the producer. -/
structure ProducerSettings where
  /-- The brokers to start from, each a host and a port. -/
  brokers : List String := ["localhost:9092"]
  topic : String := "mdm"
  compression : Compression := .snappy
  scheme : PartitionScheme := .bySeries
  /-- How many requests may be under way at once. -/
  maxInFlight : Nat := 1000000
  /-- Milliseconds that records wait for others to share a request with. -/
  lingerMs : Nat := 100
  /-- How many records share a request. -/
  batchMessages : Nat := 10000
  /-- How many records wait in all, beyond which the client refuses further ones. -/
  queueMessages : Nat := 100000
  /-- Seconds to wait for the partitions of the topic. -/
  metadataTimeout : Nat := 30
  /-- Further parameters of the client. -/
  params : List ClientParam := []
  deriving DecidableEq, Repr, Inhabited

/-- Why a producer cannot be set up. -/
inductive ProducerError where
  | noBrokers
  | emptyTopic
  deriving DecidableEq, Repr

/-- The wording shown to users. -/
def ProducerError.message : ProducerError → String
  | .noBrokers => "no kafka brokers configured"
  | .emptyTopic => "kafka topic must not be empty"

namespace ProducerSettings

/-- Checks that there is a broker and a topic. -/
def validate (p : ProducerSettings) : Except ProducerError Unit :=
  if p.brokers.all fun b => Text.isBlankText b.toList then .error .noBrokers
  else if p.topic.isEmpty then .error .emptyTopic
  else .ok ()

/-- The name of the parameter that lists the brokers. -/
def brokersParam : String := "bootstrap.servers"

/-- All parameters of the client. Every record has to reach all replicas, and the client itself tries
again where it does not. -/
def clientParams (p : ProducerSettings) : List ClientParam :=
  [⟨"request.required.acks", "all"⟩, ⟨"message.send.max.retries", "10"⟩,
   ⟨brokersParam, ",".intercalate p.brokers⟩, ⟨"compression.codec", p.compression.display⟩,
   ⟨"max.in.flight", toString p.maxInFlight⟩, ⟨"queue.buffering.max.ms", toString p.lingerMs⟩,
   ⟨"batch.num.messages", toString p.batchMessages⟩,
   ⟨"queue.buffering.max.messages", toString p.queueMessages⟩] ++ p.params

end ProducerSettings

end MetricGateway.Config
