import MetricGateway.Routing.Broker
import MetricGateway.Series
import MetricGateway.Time

/-!
# What can go wrong with a batch
-/

namespace MetricGateway.Publish

open Routing (SendFailed)

/-- Why a message of a batch has not been sent. -/
inductive SendErrorCategory where
  /-- The broker refused to take a record. -/
  | producer
  /-- The broker reported a failure. -/
  | broker
  /-- A report did not come. -/
  | unexpected
  deriving DecidableEq, Repr

/-- The name of a category. -/
def SendErrorCategory.display : SendErrorCategory → String
  | .producer => "producer"
  | .broker => "broker"
  | .unexpected => "unexpected"

/-- Why a batch has failed. -/
inductive PublishError where
  /-- A metric of the batch has no valid id. Nothing was produced. -/
  | invalidMetric (cause : InvalidId)
  /-- The broker refused to take a record. -/
  | producer (cause : SendFailed)
  /-- The broker reported that a record was not delivered. -/
  | delivery (partition : Int32) (error : String)
  /-- The reports ended before all records were accounted for. -/
  | missingReports (missing : Nat)
  /-- No report came for too long. -/
  | ackTimeout (timeout : Duration) (missing : Nat)
  deriving DecidableEq, Repr

namespace PublishError

/-- The wording shown to users. -/
def message : PublishError → String
  | .invalidMetric _ => "invalid metric in batch"
  | .producer _ => "failed to submit message"
  | .delivery partition error =>
    "failed to deliver message to partition " ++ toString partition ++ ": " ++ error
  | .missingReports missing =>
    "delivery reports ended with " ++ toString missing ++ " messages unaccounted for"
  | .ackTimeout timeout missing =>
    "no delivery report within " ++ timeout.debug ++ ", " ++ toString missing ++
      " messages unaccounted for"

/-- The messages of the error and of what has caused it. -/
def chain (e : PublishError) : List String :=
  match e with
  | .invalidMetric cause => [e.message, cause.message]
  | .producer cause => [e.message, cause.message, cause.cause]
  | _ => [e.message]

/-- The category of an error, unless the batch failed before anything was sent. -/
def category : PublishError → Option SendErrorCategory
  | .invalidMetric _ => none
  | .producer _ => some .producer
  | .delivery .. => some .broker
  | .missingReports _ | .ackTimeout .. => some .unexpected

end PublishError

end MetricGateway.Publish
