import MetricGateway.Novelty.KeyCache
import MetricGateway.Publish.Buffer
import MetricGateway.Publish.Event
import MetricGateway.Routing.Partitioner
import MetricGateway.Storage.Schema
import MetricGateway.Wire.Message

/-!
# Publishing batches

A batch goes through four stages. Metrics without an interval get one and an id, and all ids are read.
Every metric is encoded, as a point if its series is known and this batch has not been the first to
describe it, and in full otherwise. The messages are submitted until the broker refuses one. Then the
reports of all records that it has taken are awaited.

If a batch fails, the series that it was the first to describe are forgotten again, so that a later
batch describes them anew.
-/

namespace MetricGateway.Publish

open Novelty (KeyCache)
open Routing (Broker DeliveryReport Partitioner Record ReportsEnd SendFailed)
open Storage (Schemas)
open Wire (PointFormat)

/-- How batches are published. -/
structure Publisher where
  topic : String := "mdm"
  partitioner : Partitioner
  schemas : Schemas
  /-- The format of compact points. -/
  format : PointFormat := .withOrg
  /-- How long to wait for a report; without it, for ever. -/
  ackTimeout : Option Duration := none

/-- What a publisher works with and changes. -/
structure State (σ : Type) where
  /-- The series that are known; without it, all metrics are sent in full. -/
  cache : Option KeyCache
  pools : BufferPools
  /-- The state of the broker. -/
  broker : σ

/-! ## Intervals and ids -/

/-- Gives a metric without an interval the interval of its schema, and an id. -/
def resolve (schemas : Schemas) (m : Metric) : Metric :=
  if m.interval = 0 then { m with interval := (schemas.find m.name).interval }.setId else m

/-- Resolves metrics and reads their ids, up to the first that is invalid. -/
def normalize (schemas : Schemas) : List Metric → List Metric × Except InvalidId (List MetricKey)
  | [] => ([], .ok [])
  | m :: rest =>
    let m := resolve schemas m
    match m.key with
    | .error e => (m :: rest, .error e)
    | .ok key =>
      let (rest, keys) := normalize schemas rest
      (m :: rest, keys.map (key :: ·))

/-! ## Encoding -/

/-- What encoding a batch changes. -/
structure EncodingState where
  cache : Option KeyCache
  /-- The series that the batch is the first to describe, the latest first. -/
  described : List MetricKey := []
  pools : BufferPools

/-- Records the sighting of a series and says how its sample is encoded. -/
def chooseEncoding (format : PointFormat) (now : Timestamp) (key : MetricKey)
    (s : EncodingState) : Encoding × EncodingState :=
  match s.cache with
  | none => (.full, s)
  | some cache =>
    let (seen, cache) := cache.touch key now
    if seen && !s.described.contains key then (.compact format, { s with cache := some cache })
    else
      let described := if s.described.contains key then s.described else key :: s.described
      (.full, { s with cache := some cache, described })

/-- Writes the message of a metric behind what a buffer holds. -/
def writeMessage (encoding : Encoding) (m : Metric) (key : MetricKey) (buffer : Bytes) : Bytes :=
  match encoding with
  | .full => buffer ++ Wire.encodeFull m
  | .compact format => (m.pointOf key).encodeTo buffer format

/-- The kind of buffer for an encoding. -/
def Encoding.bufferKind : Encoding → BufferKind
  | .full => .full
  | .compact _ => .compact

/-- Encodes a metric. -/
def encodeOne (format : PointFormat) (now : Timestamp) (m : Metric) (key : MetricKey)
    (s : EncodingState) : (Encoding × Message) × EncodingState :=
  let (encoding, s) := chooseEncoding format now key s
  let (message, pools) := s.pools.push encoding.bufferKind (writeMessage encoding m key)
  ((encoding, message), { s with pools })

/-- Encodes metrics in order. -/
def encode (format : PointFormat) (now : Timestamp) :
    List (Metric × MetricKey) → EncodingState → List (Encoding × Message) × EncodingState
  | [], s => ([], s)
  | (m, key) :: rest, s =>
    let (first, s) := encodeOne format now m key s
    let (others, s) := encode format now rest s
    (first :: others, s)

/-! ## Submission and reports -/

/-- The record of a metric with its message. -/
def recordOf (p : Publisher) (m : Metric) (message : Message) : Record :=
  let (partition, key) := p.partitioner.partition m
  { topic := p.topic, partition, key, payload := message.payload }

/-- The records of encoded metrics in order. -/
def recordsOf (p : Publisher) (metrics : List Metric) (messages : List (Encoding × Message)) :
    List Record :=
  (metrics.zip messages).map fun (m, _, message) => recordOf p m message

/-- What has been submitted to a broker. -/
structure Submission where
  /-- The records that the broker has taken. -/
  accepted : List Record := []
  /-- The record that it has refused, after which nothing is submitted. -/
  refused : Option (Record × SendFailed) := none
  deriving DecidableEq, Repr

namespace Submission

/-- All records that have been submitted. -/
def records (s : Submission) : List Record := s.accepted ++ (s.refused.map (·.1)).toList

/-- The error of a record that was refused. -/
def errors (s : Submission) : List PublishError :=
  (s.refused.map fun (_, e) => PublishError.producer e).toList

/-- The size of every message that has been submitted. -/
def sizes (s : Submission) : List Event := s.records.map fun r => .messageSize r.payload.length

end Submission

/-- Submits records until one is refused. -/
def submit {σ : Type} (b : Broker σ) : List Record → σ → Submission × σ
  | [], s => ({}, s)
  | r :: rest, s =>
    match b.produce r s with
    | (.error e, s) => ({ refused := some (r, e) }, s)
    | (.ok (), s) =>
      let (others, s) := submit b rest s
      ({ others with accepted := r :: others.accepted }, s)

/-- The error in a report, if there is one. -/
def reportError? : DeliveryReport → Option PublishError
  | .delivered => none
  | .failed partition error => some (.delivery partition error)

/-- The error of reports that do not come. -/
def missingError {patience : Option Duration} (ending : ReportsEnd patience) (missing : Nat) :
    PublishError :=
  match ending with
  | .disconnected => .missingReports missing
  | .silent timeout _ => .ackTimeout timeout missing

/-- Receives reports until as many have come as are expected or no more come. Says which have come,
and which errors were noticed on the way. -/
def await {patience : Option Duration} (ending : ReportsEnd patience) :
    (expected : Nat) → List DeliveryReport → List DeliveryReport × List PublishError
  | 0, _ => ([], [])
  | missing + 1, [] => ([], [missingError ending (missing + 1)])
  | expected + 1, report :: rest =>
    let (received, errors) := await ending expected rest
    (report :: received, (reportError? report).toList ++ errors)

/-- What has passed between a batch and the broker. -/
structure Exchange where
  submission : Submission
  /-- The reports that were received. -/
  received : List DeliveryReport
  /-- All errors, in the order in which they were noticed. -/
  errors : List PublishError
  deriving DecidableEq, Repr

/-- Submits the records of a batch and awaits a report for each that the broker has taken. -/
def exchange {σ : Type} (p : Publisher) (b : Broker σ) (room : Nat) (records : List Record) (s : σ) :
    Exchange × σ :=
  let (submission, s) := submit b records (b.openBatch room s)
  let (reports, s) := b.closeBatch p.ackTimeout s
  let (received, errors) :=
    await reports.ending submission.accepted.length reports.received
  ({ submission, received, errors := submission.errors ++ errors }, s)

/-! ## Batches -/

/-- What came of a batch. -/
structure Outcome where
  result : Except PublishError Unit
  /-- The metrics as the batch has left them. -/
  metrics : List Metric
  submission : Submission := {}
  /-- The delivery reports that were received. -/
  received : List DeliveryReport := []
  /-- How the metrics were encoded, if they were. -/
  encodings : List Encoding := []
  events : List Event := []

/-- How many messages have an encoding. -/
def countOf (encoding : Encoding) (encodings : List Encoding) : Nat := encodings.count encoding

/-- The counts of a batch that has been published. -/
def publishedEvents (encodings : List Encoding) : List Event :=
  let counted := [Encoding.full, .compact .withOrg, .compact .withoutOrg]
  .published :: counted.map fun encoding => .publishedAs encoding (countOf encoding encodings)

/-- Forgets series. -/
def forgetAll (cache : Option KeyCache) (keys : List MetricKey) : Option KeyCache :=
  cache.map fun cache => keys.foldl (fun cache key => (cache.forget key).2) cache

/-- A batch fails with its first error. -/
def resultOf : List PublishError → Except PublishError Unit
  | [] => .ok ()
  | first :: _ => .error first

/-- What is reported when the exchange of a batch is over: its counts, or else its errors. -/
def closingEvents (encodings : List Encoding) : List PublishError → List Event
  | [] => publishedEvents encodings
  | errors => errors.filterMap fun e => e.category.map Event.sendError

/-- The messages of a batch that has been normalized, and what encoding them changes. -/
def encodeBatch {σ : Type} (p : Publisher) (now : Timestamp) (metrics : List Metric)
    (keys : List MetricKey) (s : State σ) : List (Encoding × Message) × EncodingState :=
  encode p.format now (metrics.zip keys) { cache := s.cache, pools := s.pools }

/-- Encodes metrics that have been normalized, submits them and awaits their reports. -/
def send {σ : Type} (p : Publisher) (b : Broker σ) (now : Timestamp) (metrics : List Metric)
    (keys : List MetricKey) (s : State σ) : Outcome × State σ :=
  let (messages, encoding) := encodeBatch p now metrics keys s
  let (exchange, broker) := exchange p b metrics.length (recordsOf p metrics messages) s.broker
  let encodings := messages.map (·.1)
  ({ result := resultOf exchange.errors, metrics, submission := exchange.submission,
     received := exchange.received, encodings,
     events := exchange.submission.sizes ++ closingEvents encodings exchange.errors },
   { cache :=
       if exchange.errors.isEmpty then encoding.cache
       else forgetAll encoding.cache encoding.described,
     pools := encoding.pools.releaseAll (messages.map (·.2)), broker })

/-- Publishes a batch at a point in time, which only the novelty cache takes notice of. -/
def publishAt {σ : Type} (p : Publisher) (b : Broker σ) (now : Timestamp) (metrics : List Metric)
    (s : State σ) : Outcome × State σ :=
  if metrics.isEmpty then ({ result := .ok (), metrics }, s)
  else
    match normalize p.schemas metrics with
    | (metrics, .error e) => ({ result := .error (.invalidMetric e), metrics }, s)
    | (metrics, .ok keys) => send p b now metrics keys s

/-- Takes a batch and does nothing with it, as long as publishing is disabled. -/
def discard (metrics : List Metric) : Outcome := { result := .ok (), metrics }

/-- Takes a batch from outside: counts its samples and hands it on, unless it is empty. -/
def ingest {α : Type} (publish : List Metric → α → Outcome × α) (metrics : List Metric) (s : α) :
    Outcome × α :=
  if metrics.isEmpty then ({ result := .ok (), metrics }, s)
  else
    let (outcome, s) := publish metrics s
    ({ outcome with events := .samplesIngested metrics.length :: outcome.events }, s)

/-- The name of a publisher that hands batches to a broker. -/
def brokerKind : String := "kafka"

/-- The name of a publisher that discards batches. -/
def discardKind : String := "null"

/-- A publisher for people who debug. -/
def Publisher.debug (p : Publisher) (compact : Bool) : String :=
  "Publisher \x7b topic: " ++ Text.quoted p.topic ++ ", partitioner: Partitioner \x7b scheme: " ++
    p.partitioner.scheme.debug ++ ", partition_count: " ++ toString p.partitioner.count ++
    " \x7d, compact: " ++ toString compact ++ " \x7d"

end MetricGateway.Publish
