import MetricGateway.Metric
import MetricGateway.Number.Decimal
import MetricGateway.Text.Blank

/-!
# Plaintext lines

A line is a path, a value and a time with white space between them. The path is the name of the metric
and its tags with semicolons between them, and a tag is a key that is not empty, an equals sign and a
value. Lines say nothing of unit and type, which are the same for all of them, nor of the interval,
which is left to the storage schemas.
-/

namespace MetricGateway.Plaintext

open Number (Binary64)

/-- The unit of metrics that arrive as lines. -/
def lineUnit : String := "unknown"

/-- The type of metrics that arrive as lines. -/
def lineType : String := "gauge"

/-- Why a line is refused. -/
inductive LineError where
  /-- The line does not have three fields. -/
  | fieldCount (found : Nat)
  /-- The name is empty. -/
  | emptyName
  /-- A tag has no equals sign or an empty key. -/
  | invalidTag (tag : String)
  /-- The value is no number. -/
  | invalidValue (text : String)
  /-- The time is no integer. -/
  | invalidTimestamp (text : String)
  deriving DecidableEq, Repr

/-- The wording shown to users. -/
def LineError.message : LineError → String
  | .fieldCount found => "expected 3 fields, found " ++ toString found
  | .emptyName => "empty metric name"
  | .invalidTag tag => "invalid tag " ++ Text.quoted tag
  | .invalidValue text => "invalid value " ++ Text.quoted text
  | .invalidTimestamp text => "invalid timestamp " ++ Text.quoted text

/-- Whether a text is a tag: a key that is not empty, and an equals sign behind it. -/
def isTag (tag : List Char) : Bool :=
  match Text.splitOnce '=' tag with
  | some (key, _) => !key.isEmpty
  | none => false

/-- Reads the name and the tags of a path. -/
def readPath (path : List Char) : Except LineError (String × List String) :=
  match Text.split ';' path with
  | [] => .error .emptyName
  | name :: tags =>
    if name.isEmpty then .error .emptyName
    else match tags.find? fun tag => !isTag tag with
      | some tag => .error (.invalidTag (String.ofList tag))
      | none => .ok (String.ofList name, sortTexts (tags.map String.ofList))

/-- Reads the fields of a line, the path first, then the value and the time. -/
def readFields (org : OrgId) (path value time : List Char) : Except LineError Metric :=
  match readPath path with
  | .error e => .error e
  | .ok (name, tags) =>
    match Binary64.read? value with
    | none => .error (.invalidValue (String.ofList value))
    | some x =>
      match Number.readInt64 time with
      | .error _ => .error (.invalidTimestamp (String.ofList time))
      | .ok t =>
        .ok { org, name, value := x, unit := lineUnit, time := t, mtype := lineType, tags }

/-- Reads a line as a metric of an organization. -/
def parseLine (org : OrgId) (line : String) : Except LineError Metric :=
  match Text.fields line.toList with
  | [path, value, time] => readFields org path value time
  | fields => .error (.fieldCount fields.length)

end MetricGateway.Plaintext
