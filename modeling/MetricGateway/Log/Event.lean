import MetricGateway.Log.Level
import MetricGateway.Number.Decimal
import MetricGateway.Text.Quoted

/-!
# Messages of the log

A message says what has happened where, and may have fields with further details. An error is logged
with everything that has caused it.
-/

namespace MetricGateway.Log

open Number (Binary64)

/-- The value of a field. -/
inductive FieldValue where
  | text (s : String)
  | natural (n : Nat)
  | double (x : Binary64)
  deriving DecidableEq, Repr

/-- A message with its fields. -/
structure Event where
  severity : Severity
  /-- The part of the program that speaks. -/
  target : String
  message : String
  fields : List (String × FieldValue) := []
  deriving DecidableEq, Repr

/-- The names of all that a message has, its text first. -/
def Event.fieldNames (e : Event) : List String := "message" :: e.fields.map (·.1)

/-- What a message starts its causes with. -/
def causeMark : String := "\n  caused by: "

/-- The messages of an error and of what has caused it, the error itself first. -/
def chainText (chain : List String) : String := causeMark.intercalate chain

end MetricGateway.Log
