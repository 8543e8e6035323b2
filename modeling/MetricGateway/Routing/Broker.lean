import MetricGateway.Bytes
import MetricGateway.Text.Quoted
import MetricGateway.Time

/-!
# Brokers

Producing is asynchronous. A broker takes a record or refuses it at once; of every record that it has
taken it reports later whether it was delivered. The reports of a batch go to a channel of their own,
and when the records of the batch have all been submitted, what arrives there ends in one of two ways:
no further report can come, or none comes for as long as somebody waits. Who waits for ever never
learns of the second, so it is no end for him.
-/

namespace MetricGateway.Routing

/-- A message on its way to a topic. -/
structure Record where
  topic : String
  partition : Nat
  /-- The bytes that decided about the partition. -/
  key : Bytes
  payload : Bytes
  deriving DecidableEq, Repr, Inhabited

/-- A record that the broker has refused to take. -/
structure SendFailed where
  /-- What the client said. -/
  cause : String
  deriving DecidableEq, Repr

/-- The wording shown to users. -/
def SendFailed.message (_ : SendFailed) : String := "failed to send kafka message"

/-- What became of a record that the broker had taken. -/
inductive DeliveryReport where
  | delivered
  /-- The record was given up, with the partition it was meant for and what the broker said. -/
  | failed (partition : Int32) (error : String)
  deriving DecidableEq, Repr

/-- How the reports of a batch end for somebody who waits so long for each of them, or for ever. -/
inductive ReportsEnd (patience : Option Duration) where
  /-- No further report can come. -/
  | disconnected
  /-- Further reports could come, but none does for as long as he waits. -/
  | silent (timeout : Duration) (waits : patience = some timeout)
  deriving DecidableEq, Repr, Inhabited

/-- The reports of a batch in the order in which they arrive. -/
structure Reports (patience : Option Duration) where
  received : List DeliveryReport
  /-- What follows them, which is of interest only if further reports are expected. -/
  ending : ReportsEnd patience
  deriving DecidableEq, Repr, Inhabited

/-- A broker with states of type `σ`. -/
structure Broker (σ : Type) where
  /-- Opens the channel of a batch, with room for so many reports. -/
  openBatch : (room : Nat) → σ → σ
  /-- Takes a record or refuses it. -/
  produce : Record → σ → Except SendFailed Unit × σ
  /-- Ends a batch: what has arrived and will arrive on its channel. -/
  closeBatch : (patience : Option Duration) → σ → Reports patience × σ

/-! ## The number of partitions -/

/-- Why the client of a broker cannot be used. -/
inductive ClientError where
  /-- The client cannot be set up like this. -/
  | invalidConfig (cause : String)
  /-- What is known of a topic could not be fetched. -/
  | metadata (topic cause : String)
  /-- The topic has had no partitions in so many attempts. -/
  | noPartitions (topic : String) (attempts : Nat)
  deriving DecidableEq, Repr

namespace ClientError

/-- The wording shown to users. -/
def message : ClientError → String
  | .invalidConfig _ => "failed to create kafka producer: invalid kafka config"
  | .metadata topic _ => "failed to fetch metadata for topic " ++ Text.quoted topic
  | .noPartitions topic attempts =>
    "topic " ++ Text.quoted topic ++ " has no partitions after " ++ toString attempts ++ " attempts"

/-- The messages of the error and of what has caused it. -/
def chain (e : ClientError) : List String :=
  match e with
  | .invalidConfig cause | .metadata _ cause => [e.message, cause]
  | .noPartitions .. => [e.message]

end ClientError

/-- Asks a broker for the number of partitions until it is positive, at most `left` times more.
`answer n` is what the broker says when it is asked for the `n`-th time, from zero on; `asked` counts
the questions so far. An error is passed on as it is. Also says how often the broker has been asked
in the end. -/
def askPartitionCount (topic : String) (attempts : Nat) (answer : Nat → Except ClientError Int)
    (asked : Nat) : (left : Nat) → Except ClientError Int × Nat
  | 0 => (.error (.noPartitions topic attempts), asked)
  | left + 1 =>
    match answer asked with
    | .error e => (.error e, asked + 1)
    | .ok count =>
      if 0 < count then (.ok count, asked + 1)
      else askPartitionCount topic attempts answer (asked + 1) left

/-- Asks a broker for the number of partitions of a topic, which a topic that has just been created
does not know at once. Also says how often the broker has been asked. -/
def fetchPartitionCount (topic : String) (attempts : Nat) (answer : Nat → Except ClientError Int) :
    Except ClientError Int × Nat :=
  askPartitionCount topic attempts answer 0 attempts

end MetricGateway.Routing
