import MetricGateway.Wire.MessagePack
import MetricGateway.Wire.Point

/-!
# Full messages

A metric in full is a MessagePack map from the names of its nine fields to their values. It is written
with the fields in a fixed order, and read with them in any order and among others that are passed
over, or as an array of the values in order. A field may be named by its position too. Only the tags
may be left out.
-/

namespace MetricGateway.Wire

open MessagePack (Value)

/-- The fields of a metric in a full message. -/
inductive Field where
  | id
  | org
  | name
  | interval
  | value
  | unit
  | time
  | mtype
  | tags
  deriving DecidableEq, Repr, Inhabited

namespace Field

/-- The fields in the order in which they are written. -/
def all : List Field := [.id, .org, .name, .interval, .value, .unit, .time, .mtype, .tags]

/-- The name of a field in a message. -/
def label : Field → String
  | .id => "Id"
  | .org => "OrgId"
  | .name => "Name"
  | .interval => "Interval"
  | .value => "Value"
  | .unit => "Unit"
  | .time => "Time"
  | .mtype => "Mtype"
  | .tags => "Tags"

/-- The value of a field of a metric. -/
def valueOf (m : Metric) : Field → Value
  | .id => .ofString m.id
  | .org => .unsigned m.org.value.toNat
  | .name => .ofString m.name
  | .interval => .unsigned m.interval.toNat
  | .value => .double m.value
  | .unit => .ofString m.unit
  | .time => .signed m.time.toInt
  | .mtype => .ofString m.mtype
  | .tags => .array (m.tags.map .ofString)

/-- Sets a field of a metric, if the value is of its kind. -/
def set? (m : Metric) (v : Value) : Field → Option Metric
  | .id => v.string?.map fun id => { m with id }
  | .org => (v.integerIn? 0 (2 ^ 32 - 1)).map fun n => { m with org := ⟨UInt32.ofNat n.toNat⟩ }
  | .name => v.string?.map fun name => { m with name }
  | .interval =>
    (v.integerIn? 0 (2 ^ 32 - 1)).map fun n => { m with interval := UInt32.ofNat n.toNat }
  | .value => v.double?.map fun value => { m with value }
  | .unit => v.string?.map fun unit => { m with unit }
  | .time => (v.integerIn? (-2 ^ 63) (2 ^ 63 - 1)).map fun n => { m with time := Int64.ofInt n }
  | .mtype => v.string?.map fun mtype => { m with mtype }
  | .tags => v.strings?.map fun tags => { m with tags }

/-- What the key of an entry names: a field, or something unknown. Some keys are no names at all. -/
def ofKey? : Value → Option (Option Field)
  | .text utf8 => some (all.find? fun f => Bytes.ofString f.label = utf8)
  | .binary bytes => some (all.find? fun f => Bytes.ofString f.label = bytes)
  | .unsigned n => some all[n]?
  | _ => none

end Field

/-- A metric as a value. -/
def messageValue (m : Metric) : Value :=
  .map (Field.all.map fun f => (.ofString f.label, f.valueOf m))

/-- The full message of a metric. -/
def encodeFull (m : Metric) : Bytes := (messageValue m).encode

/-- Sets the fields of a metric from entries, none of which may set a field again. -/
def setEntries? (m : Metric) (seen : List Field) :
    List (Value × Value) → Option (Metric × List Field)
  | [] => some (m, seen)
  | (key, value) :: entries => do
    match ← Field.ofKey? key with
    | none => setEntries? m seen entries
    | some f =>
      if seen.contains f then none
      else
        let m ← f.set? m value
        setEntries? m (f :: seen) entries

/-- Sets the fields of a metric from values in order. -/
def setInOrder? (m : Metric) : List Field → List Value → Option Metric
  | _, [] => some m
  | [], _ :: _ => none
  | f :: fields, v :: values => do setInOrder? (← f.set? m v) fields values

/-- Whether enough fields have been set. -/
def isComplete (seen : List Field) : Bool := Field.all.all fun f => f = .tags || seen.contains f

/-- The metric that a value describes. -/
def metricOf? : Value → Option Metric
  | .map entries => do
    let (m, seen) ← setEntries? {} [] entries
    if isComplete seen then some m else none
  | .array values => if values.length < 8 then none else setInOrder? {} Field.all values
  | _ => none

/-- How many collections and extensions may be nested in one another in a message. -/
def messageLevels : Nat := 1023

/-- The complaint about bytes that start with no full message. -/
def decodeFullComplaint : String := "failed to decode metric"

/-- Reads a metric from the full message at the start of some bytes. -/
def decodeFull? (b : Bytes) : Option Metric := do
  let (v, _) ← Value.read messageLevels b
  metricOf? v

end MetricGateway.Wire
