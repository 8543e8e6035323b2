import MetricGateway.Metric

/-!
# Compact points

Once a series has been described in full, its samples can be sent as points: the key of the series,
the value and the time. The first byte tells the two formats apart, one with the organization and one
without it, and fixes the length of the message. A decoder that meets the shorter format sets the
organization to zero, for the consumer to fill in.
-/

namespace MetricGateway.Wire

open Number (Binary64)

/-- Whether a point carries its organization. -/
inductive PointFormat where
  | withOrg
  | withoutOrg
  deriving DecidableEq, Repr, Inhabited

namespace PointFormat

/-- The first byte of a point. -/
def mark : PointFormat → UInt8
  | .withOrg => 2
  | .withoutOrg => 3

/-- The length of a point in bytes. -/
def size : PointFormat → Nat
  | .withOrg => 33
  | .withoutOrg => 29

/-- The format that the first byte of a message shows, if the message is a point at all. -/
def detect (message : Bytes) : Option PointFormat :=
  match message with
  | [] => none
  | b :: _ => if b = 2 then some .withOrg else if b = 3 then some .withoutOrg else none

end PointFormat

/-- A sample of a series that has been described before. -/
structure Point where
  key : MetricKey
  value : Binary64
  /-- Seconds since the start of 1970. -/
  time : UInt32
  deriving DecidableEq, Repr, Inhabited

/-- Why a message is no point. -/
inductive PointError where
  /-- The first byte is not that of a point. -/
  | unknownFormat
  /-- The message does not have the length of its format. -/
  | unexpectedLength
  /-- The message ends within a field. -/
  | truncated
  deriving DecidableEq, Repr

/-- The wording shown to users. -/
def PointError.message : PointError → String
  | .unknownFormat => "invalid point message: unknown format"
  | .unexpectedLength => "invalid point message: unexpected length"
  | .truncated => "invalid point message: truncated"

namespace Point

/-- The bytes of a point in a format. -/
def encode (format : PointFormat) (p : Point) : Bytes :=
  let org := match format with
    | .withOrg => p.key.org.toBytes
    | .withoutOrg => []
  format.mark :: p.key.key.toBytes ++ org ++ p.value.toBytes ++
    Bytes.littleEndian 4 p.time.toNat

/-- Appends a point to what a buffer holds. -/
def encodeTo (buffer : Bytes) (format : PointFormat) (p : Point) : Bytes :=
  buffer ++ p.encode format

/-- Reads the fields of a point whose first byte has been taken off. -/
def decodeFields (format : PointFormat) (fields : Bytes) : Option Point := do
  let (key, rest) ← Bytes.take? 16 fields
  let key ← SeriesKey.ofBytes? key
  let (org, rest) ← match format with
    | .withOrg => (Bytes.take? 4 rest).map fun (org, rest) => (OrgId.ofBytes org, rest)
    | .withoutOrg => some (⟨0⟩, rest)
  let (value, rest) ← Bytes.take? 8 rest
  let (time, _) ← Bytes.take? 4 rest
  return ⟨⟨org, key⟩, Binary64.ofBytes value, UInt32.ofNat (Bytes.ofLittleEndian time)⟩

/-- Reads a message that consists of a point. -/
def decode (message : Bytes) : Except PointError (PointFormat × Point) :=
  match PointFormat.detect message with
  | none => .error .unknownFormat
  | some format =>
    if message.length = format.size then
      match decodeFields format message.tail with
      | some p => .ok (format, p)
      | none => .error .truncated
    else .error .unexpectedLength

@[simp] theorem length_encode (format : PointFormat) (p : Point) :
    (p.encode format).length = format.size := by
  cases format <;> simp [encode, PointFormat.size]

/-- A point shows its format. -/
theorem detect_encode (format : PointFormat) (p : Point) :
    PointFormat.detect (p.encode format) = some format := by
  cases format <;> simp [encode, PointFormat.detect, PointFormat.mark]

end Point

end MetricGateway.Wire

namespace MetricGateway.Metric

/-- The compact point of a sample whose series is given. -/
def pointOf (m : Metric) (key : MetricKey) : Wire.Point := ⟨key, m.value, m.shortTime⟩

/-- The compact point of a sample, if its id names a series. -/
def toPoint (m : Metric) : Except InvalidId Wire.Point := m.key.map m.pointOf

end MetricGateway.Metric
