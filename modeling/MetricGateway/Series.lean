import MetricGateway.Organization
import MetricGateway.Text.Quoted
import MetricGateway.Text.Split

/-!
# Series

A series is identified by a digest of its description, which is its key within the organization that
owns it. Both together are written as the metric id: the number of the organization, a point, and the
digits of the key.
-/

namespace MetricGateway

/-- What is left of a key without its first byte. -/
abbrev SubKey := Vector UInt8 15

/-- The key of a series within its organization. -/
structure SeriesKey where
  bytes : Vector UInt8 16
  deriving DecidableEq, Repr, Inhabited

namespace SeriesKey

/-- The first byte, by which keys are spread over shards. -/
def leading (key : SeriesKey) : UInt8 := key.bytes[0]

/-- The fifteen bytes behind the first. -/
def tail (key : SeriesKey) : SubKey := key.bytes.tail

/-- The sixteen bytes as a sequence. -/
def toBytes (key : SeriesKey) : Bytes := key.bytes.toList

/-- The key that consists of the given bytes, if there are sixteen. -/
def ofBytes? (b : Bytes) : Option SeriesKey :=
  if h : b.length = 16 then some ⟨⟨b.toArray, by simp [h]⟩⟩ else none

/-- The digits of the key, two per byte. -/
def display (key : SeriesKey) : String := String.ofList (Hex.encode key.toBytes)

/-- Reads thirty-two digits of either case. -/
def parse? (s : List Char) : Option SeriesKey := Hex.decode? s >>= ofBytes?

@[simp] theorem length_toBytes (key : SeriesKey) : key.toBytes.length = 16 := by simp [toBytes]

/-- A key consists of its bytes. -/
theorem ofBytes?_toBytes (key : SeriesKey) : ofBytes? key.toBytes = some key := by
  obtain ⟨⟨a, h⟩⟩ := key
  simp [ofBytes?, toBytes, Vector.toList, h]

/-- Only its own bytes make up a key. -/
theorem toBytes_of_ofBytes? {b : Bytes} {key : SeriesKey} (h : ofBytes? b = some key) :
    key.toBytes = b := by
  unfold ofBytes? at h
  split at h
  · cases h; simp [toBytes]
  · cases h

/-- Reading the digits of a key gives it back. -/
theorem parse?_display (key : SeriesKey) : parse? key.display.toList = some key := by
  simp [parse?, display, Hex.decode?_encode, ofBytes?_toBytes]

end SeriesKey

/-- A series of an organization. -/
structure MetricKey where
  org : OrgId
  key : SeriesKey
  deriving DecidableEq, Repr, Inhabited

/-- The complaint about a text that is no metric id. -/
structure InvalidId where
  /-- The text as it was given. -/
  id : String
  deriving DecidableEq, Repr

/-- The wording shown to users. -/
def InvalidId.message (e : InvalidId) : String := "invalid metric id " ++ Text.quoted e.id

namespace MetricKey

/-- The metric id: organization, point, key. -/
def display (k : MetricKey) : String := k.org.display ++ "." ++ k.key.display

/-- The parts of a metric id with the names of their kinds, for people who debug. -/
def debug (k : MetricKey) : String :=
  "MetricKey \x7b org: " ++ k.org.debug ++ ", key: SeriesKey(" ++ k.key.display ++ ") \x7d"

/-- Reads a metric id. It is cut at its first point. -/
def parse (s : String) : Except InvalidId MetricKey :=
  match Text.splitOnce '.' s.toList with
  | none => .error ⟨s⟩
  | some (org, key) =>
    match Number.readUInt32 org, SeriesKey.parse? key with
    | .ok org, some key => .ok ⟨⟨org⟩, key⟩
    | _, _ => .error ⟨s⟩

end MetricKey

end MetricGateway
