import MetricGateway.Plaintext.Line
import MetricGateway.Publish.Error

/-!
# Taking in lines

Metrics are read line by line and handed on in batches of a given size. Blank lines do not count, lines
that are no metrics are skipped, and a batch that fails does not keep the following ones from being
handed on. A line that cannot be read at all ends the intake at once.
-/

namespace MetricGateway.Plaintext

open Publish (PublishError)

/-! ## Lines of an input -/

/-- Cuts bytes behind every line feed. What follows the last one is a line too unless it is empty. -/
def cutLines (b : Bytes) : List Bytes :=
  go [] b
where
  /-- `current` holds the line under way, its last byte first. -/
  go (current : Bytes) : Bytes → List Bytes
    | [] => if current.isEmpty then [] else [current.reverse]
    | x :: rest => if x = 0x0a then (x :: current).reverse :: go [] rest else go (x :: current) rest

/-- A line without the line feed at its end and a carriage return in front of it. -/
def dropLineEnd (s : List Char) : List Char :=
  match s.reverse with
  | '\n' :: '\r' :: rest => rest.reverse
  | '\n' :: rest => rest.reverse
  | _ => s

/-- The lines of an input; nothing stands for a line that is not UTF-8. -/
def readLines (b : Bytes) : List (Option String) :=
  (cutLines b).map fun line =>
    (Bytes.toString? line).map fun s => String.ofList (dropLineEnd s.toList)

/-! ## Batches -/

/-- What has been taken in. -/
structure LineStats where
  /-- The lines that are not blank. -/
  lines : Nat := 0
  /-- Those of them that are no metrics. -/
  invalid : Nat := 0
  /-- The batches that have failed. -/
  failedBatches : Nat := 0
  deriving DecidableEq, Repr, Inhabited

/-- Something that has happened while an input was taken in. -/
inductive IntakeEvent where
  | lineSkipped (line : String) (error : LineError)
  | batchPublished (count : Nat)
  | batchFailed (count : Nat) (error : PublishError)
  deriving DecidableEq, Repr

/-- The complaint about an input that cannot be read. -/
def readFailure : String := "failed to read input"

/-- What has caused that complaint. -/
def readFailureCause : String := "stream did not contain valid UTF-8"

/-- How far an input has been taken in. `σ` is what batches are handed to. -/
structure Intake (σ : Type) where
  sink : σ
  stats : LineStats := {}
  /-- The metrics of the batch under way, in order. -/
  batch : List Metric := []
  /-- What has happened, the latest first. -/
  events : List IntakeEvent := []

namespace Intake

/-- Hands a batch to a publisher. -/
abbrev Publish (σ : Type) := List Metric → σ → Except PublishError Unit × σ

/-- Hands the batch under way on and starts another. -/
def flush {σ : Type} (publish : Publish σ) (s : Intake σ) : Intake σ :=
  match publish s.batch s.sink with
  | (.ok (), sink) =>
    { s with sink, batch := [], events := .batchPublished s.batch.length :: s.events }
  | (.error e, sink) =>
    { s with
      sink, batch := [],
      stats := { s.stats with failedBatches := s.stats.failedBatches + 1 },
      events := .batchFailed s.batch.length e :: s.events }

/-- Counts a line and adds its metric to the batch, which is handed on when it is large enough. -/
def takeLine {σ : Type} (publish : Publish σ) (org : OrgId) (batchSize : Nat) (line : String)
    (s : Intake σ) : Intake σ :=
  if Text.isBlankText line.toList then s
  else
    let stats := { s.stats with lines := s.stats.lines + 1 }
    match parseLine org line with
    | .error e =>
      { s with
        stats := { stats with invalid := stats.invalid + 1 },
        events := .lineSkipped line e :: s.events }
    | .ok m =>
      let s := { s with stats, batch := s.batch ++ [m] }
      if batchSize ≤ s.batch.length then s.flush publish else s

/-- Hands on what is left when the input ends. -/
def finish {σ : Type} (publish : Publish σ) (s : Intake σ) : Intake σ :=
  if s.batch.isEmpty then s else s.flush publish

/-- Takes in the lines of an input. Says whether all of them could be read. -/
def takeLines {σ : Type} (publish : Publish σ) (org : OrgId) (batchSize : Nat) :
    List (Option String) → Intake σ → Bool × Intake σ
  | [], s => (true, s.finish publish)
  | none :: _, s => (false, s)
  | some line :: rest, s =>
    takeLines publish org batchSize rest (s.takeLine publish org batchSize line)

end Intake

/-- Publishes the lines of an input. Says whether all of them could be read. -/
def publishLines {σ : Type} (publish : Intake.Publish σ) (org : OrgId) (batchSize : Nat)
    (input : Bytes) (sink : σ) : Bool × Intake σ :=
  Intake.takeLines publish org batchSize (readLines input) { sink }

end MetricGateway.Plaintext
