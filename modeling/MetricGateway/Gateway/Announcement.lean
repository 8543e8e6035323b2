import MetricGateway.Config.Basic
import MetricGateway.Log.Event
import MetricGateway.Plaintext.Intake
import MetricGateway.Publish.Publisher
import MetricGateway.Stats.Measurement

/-!
# What the gateway says

The messages that the gateway writes to its log while it starts and while it takes in lines.
-/

namespace MetricGateway.Gateway

open Log (Event FieldValue Severity)
open Number (Binary64)
open Plaintext (IntakeEvent LineStats)

/-- The part of the program that follows the command line. -/
def commandTarget : String := "tsgw::cli"

/-- The part of the program that sets the gateway up. -/
def setupTarget : String := "tsgw::setup"

/-- The part of the program that discards batches. -/
def discardTarget : String := "tsgw_publish::null"

/-- The part of the program that sends measurements. -/
def statsTarget : String := "tsgw_statsd"

/-- The part of the program that reports the error which ends it. -/
def errorTarget : String := "tsgw_log::utils"

/-- An info about the set-up. -/
def setupInfo (message : String) : Event := ⟨.info, setupTarget, message, []⟩

/-- The settings that a producer would be used with. -/
def producerLines (p : Config.ProducerSettings) : List String :=
  ["  brokers: " ++ ",".intercalate p.brokers, "  topic: " ++ p.topic,
   "  partition scheme: " ++ p.scheme.display, "  compression: " ++ p.compression.display]

/-- What is said at the start. -/
def launch (c : Config) : List Event :=
  let first := if c.folder.isEmpty then "launching gateway without config folder"
    else "launching gateway from config folder " ++ c.folder
  let publishing := if c.settings.publish.enabled then producerLines c.settings.producer
    else ["  publishing: disabled"]
  (first :: ("  log level: " ++ c.settings.logging.level.display) :: publishing).map setupInfo

/-- What is said about the server for measurements. -/
def measuring (address : Stats.Address) (sampleRate : Binary64) : List Event :=
  let rate : Event := if sampleRate.le .zero then
      ⟨.warn, statsTarget, "metrics sample rate is 0, no metrics will be reported", []⟩
    else
      ⟨.debug, statsTarget, "configured metrics sample rate", [("sample_rate", .double sampleRate)]⟩
  [⟨.info, statsTarget, "reporting metrics to statsd at " ++ address.display, []⟩, rate]

/-- What is said about the publisher. -/
def publisherChosen (kind : String) : Event := setupInfo ("using " ++ kind ++ " publisher")

/-- What is said about lines and batches, where batches are discarded. -/
def intakeEvent : IntakeEvent → Event
  | .lineSkipped line error =>
    ⟨.warn, commandTarget, "skipping invalid line: " ++ error.message, [("line", .text line)]⟩
  | .batchPublished count =>
    ⟨.debug, discardTarget, "publishing not enabled, dropping metrics", [("count", .natural count)]⟩
  | .batchFailed count error =>
    ⟨.error, commandTarget, "failed to publish metrics: " ++ Log.chainText error.chain,
      [("count", .natural count)]⟩

/-- What is said at the end of the input. -/
def inputClosed (stats : LineStats) : Event :=
  ⟨.info, commandTarget, "input closed, shutting down",
    [("lines", .natural stats.lines), ("invalid", .natural stats.invalid),
     ("failed_batches", .natural stats.failedBatches)]⟩

end MetricGateway.Gateway
