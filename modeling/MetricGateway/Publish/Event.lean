import MetricGateway.Publish.Error
import MetricGateway.Stats.Measurement
import MetricGateway.Wire.Point

/-!
# What publishing reports about itself
-/

namespace MetricGateway.Publish

open Stats (Measurement)

/-- How a message is encoded. -/
inductive Encoding where
  | full
  | compact (format : Wire.PointFormat)
  deriving DecidableEq, Repr

/-- The name under which messages of an encoding are counted. -/
def Encoding.counterName : Encoding → String
  | .full => "publish.published.metricdata"
  | .compact .withOrg => "publish.published.metricpoint"
  | .compact .withoutOrg => "publish.published.metricpoint_no_org"

/-- Something that is worth a measurement. -/
inductive Event where
  /-- So many samples have come in. -/
  | samplesIngested (count : Nat)
  /-- A message of so many bytes is submitted. -/
  | messageSize (bytes : Nat)
  /-- A message has not been sent. -/
  | sendError (category : SendErrorCategory)
  /-- A batch has been published. -/
  | published
  /-- So many messages of an encoding have been published. -/
  | publishedAs (encoding : Encoding) (count : Nat)
  deriving DecidableEq, Repr

/-- The name under which the time is reported that a batch has taken. -/
def durationName : String := "publish.duration"

/-- The measurement of an event of a batch that has taken some time so far. -/
def Event.measurement (elapsed : Duration) : Event → Measurement
  | .samplesIngested count => ⟨"publish.samples_ingested", .counter count, []⟩
  | .messageSize bytes => ⟨"publish.message_size", .histogram bytes, []⟩
  | .sendError category => ⟨"publish.send_error", .counter 1, [("category", category.display)]⟩
  | .published => ⟨durationName, .timer elapsed, []⟩
  | .publishedAs encoding count => ⟨encoding.counterName, .counter count, []⟩

end MetricGateway.Publish
