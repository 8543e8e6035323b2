import MetricGateway.Number.Decimal
import MetricGateway.Time

/-!
# Measurements of the gateway itself

The gateway reports on itself to a StatsD server, one line per measurement: name, value, type, and if
need be the sample rate and tags. Counts of zero are not reported.
-/

namespace MetricGateway.Stats

open Number (Binary64 FloatFormat)

/-- What is measured. -/
inductive Reading where
  /-- So many events. -/
  | counter (count : Int)
  /-- The latest value of a quantity. -/
  | gauge (value : Nat)
  /-- A value whose distribution is of interest. -/
  | histogram (value : Nat)
  /-- A span of time whose distribution is of interest. -/
  | timer (span : Duration)
  deriving DecidableEq, Repr

/-- A named reading with tags. -/
structure Measurement where
  name : String
  reading : Reading
  tags : List (String × String) := []
  deriving DecidableEq, Repr

/-- A sample rate between zero and one, or none at all: a NaN. -/
structure SampleRate where
  rate : Binary64
  deriving DecidableEq, Repr

namespace SampleRate

/-- Brings a number into the interval from zero to one. -/
def ofDouble (x : Binary64) : SampleRate := ⟨Binary64.clamp .zero .one x⟩

/-- Whether a measurement is reported, given a number drawn at random from zero to one. -/
def keeps (r : SampleRate) (draw : Binary64) : Bool :=
  if Binary64.one.le r.rate then true
  else if r.rate.le .zero then false
  else draw.lt r.rate

/-- Whether some measurements are left out, which the lines then say. -/
def isPartial (r : SampleRate) : Bool := r.rate.lt .one

end SampleRate

/-- A span of time in milliseconds: its seconds as a double and its nanoseconds as one are added
before the sum is scaled. -/
def milliseconds (span : Duration) : Binary64 :=
  let whole := Binary64.ofInt span.seconds
  let part := Binary64.ofMagnitude false (Binary64.nearest span.subsecond (10 ^ 9))
  (whole.addMagnitudes part).scaleMagnitude 1000

/-- The value and the type of a reading in a line. -/
def Reading.text : Reading → String
  | .counter count => toString count ++ "|c"
  | .gauge value => toString value ++ "|g"
  | .histogram value => toString value ++ "|h"
  | .timer span => FloatFormat.plain.write (milliseconds span) ++ "|d"

/-- What is reported with every measurement. -/
structure Client where
  /-- What all names start with. -/
  namespaceName : String := ""
  /-- Tags of every measurement, in the order of their keys. -/
  defaultTags : List (String × String) := []
  /-- The share of measurements that are reported. -/
  sampleRate : SampleRate := ⟨.one⟩

namespace Client

/-- What a name starts with: the configured text without points at its end, and one point. -/
def nameStart (c : Client) : String :=
  if c.namespaceName.isEmpty then ""
  else String.ofList ((c.namespaceName.toList.reverse.dropWhile (· = '.')).reverse ++ ['.'])

/-- The tags in a line. -/
def tagText (tags : List (String × String)) : String :=
  if tags.isEmpty then ""
  else "|#" ++ ",".intercalate (tags.map fun (key, value) => key ++ ":" ++ value)

/-- The line of a measurement. -/
def line (c : Client) (m : Measurement) : String :=
  let rate := if c.sampleRate.isPartial then "|@" ++ FloatFormat.plain.write c.sampleRate.rate
    else ""
  c.nameStart ++ m.name ++ ":" ++ m.reading.text ++ rate ++ tagText (m.tags ++ c.defaultTags)

/-- The line of a measurement if it is reported, given a number drawn at random from zero to one. -/
def report (c : Client) (draw : Binary64) (m : Measurement) : Option String :=
  if m.reading = .counter 0 || !c.sampleRate.keeps draw then none else some (c.line m)

end Client

end MetricGateway.Stats
