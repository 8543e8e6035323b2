import MetricGateway.Number.Natural

/-!
# Points in time and spans of time

The clock counts whole seconds. Spans of time that are configured have nanoseconds as well, since
limits compare them exactly.
-/

namespace MetricGateway

/-- Seconds since the start of 1970. -/
structure Timestamp where
  seconds : UInt64
  deriving DecidableEq, Repr, Inhabited

/-- The seconds in decimal. -/
def Timestamp.display (t : Timestamp) : String := String.ofList (Number.digits t.seconds.toNat)

/-- The seconds with the name of their kind, for people who debug. -/
def Timestamp.debug (t : Timestamp) : String := "UnixTimestamp(" ++ t.display ++ ")"

/-- A span of time. -/
structure Duration where
  nanoseconds : Nat
  deriving DecidableEq, Repr, Inhabited

namespace Duration

/-- No time at all. -/
def zero : Duration := ⟨0⟩

/-- A span of seconds and nanoseconds. -/
def ofParts (seconds nanoseconds : Nat) : Duration := ⟨seconds * 10 ^ 9 + nanoseconds⟩

/-- A span of whole seconds. -/
def ofSeconds (seconds : Nat) : Duration := ofParts seconds 0

/-- The whole seconds of a span. -/
def seconds (d : Duration) : Nat := d.nanoseconds / 10 ^ 9

/-- What a span has beyond its whole seconds, in nanoseconds. -/
def subsecond (d : Duration) : Nat := d.nanoseconds % 10 ^ 9

@[simp] theorem seconds_ofSeconds (n : Nat) : (ofSeconds n).seconds = n := by
  simp [ofSeconds, ofParts, seconds]

/-- A fraction of so many digits behind the point, without zeros at its end. -/
def fraction (places n : Nat) : List Char :=
  let ds := Number.digits n
  let padded := List.replicate (places - ds.length) '0' ++ ds
  let shown := (padded.reverse.dropWhile (· = '0')).reverse
  if shown.isEmpty then [] else '.' :: shown

/-- A number of units with a fraction of them that is given in smaller units. -/
def inUnits (whole places smaller : Nat) (unit : String) : String :=
  String.ofList (Number.digits whole ++ fraction places smaller) ++ unit

/-- The span in the largest unit of which it has at least one, from seconds down to nanoseconds. -/
def debug (d : Duration) : String :=
  let n := d.nanoseconds
  if 10 ^ 9 ≤ n then inUnits (n / 10 ^ 9) 9 (n % 10 ^ 9) "s"
  else if 10 ^ 6 ≤ n then inUnits (n / 10 ^ 6) 6 (n % 10 ^ 6) "ms"
  else if 10 ^ 3 ≤ n then inUnits (n / 10 ^ 3) 3 (n % 10 ^ 3) "µs"
  else inUnits n 0 0 "ns"

end Duration

end MetricGateway
