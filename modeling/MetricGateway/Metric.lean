import MetricGateway.Digest.Md5
import MetricGateway.Number.Binary64
import MetricGateway.Series

/-!
# Metrics

A metric is one sample together with the full description of its series: name, unit, type, interval
and tags. The description without the organization is written as a sequence of bytes, the identity,
whose digest is the key of the series. Value and time do not take part in it, and tags do so sorted
and without repetition, so that all samples of a series have one id.
-/

namespace MetricGateway

open Number (Binary64)

/-- A sample with the description of its series. -/
structure Metric where
  /-- The metric id, empty until it has been computed. -/
  id : String := ""
  /-- The organization that owns the series. -/
  org : OrgId := ⟨0⟩
  /-- The name, such as `host.cpu.load`. -/
  name : String := ""
  /-- Seconds between two samples; zero until it has been resolved. -/
  interval : UInt32 := 0
  /-- The value of the sample. -/
  value : Binary64 := .zero
  /-- The unit of the value, such as `ms`. -/
  unit : String := ""
  /-- The time of the sample in seconds since the start of 1970. -/
  time : Int64 := 0
  /-- The type, such as `gauge` or `counter`. -/
  mtype : String := ""
  /-- Tags, each of which is a key, an equals sign and a value. -/
  tags : List String := []
  deriving DecidableEq, Repr, Inhabited

/-! ## Tags -/

/-- Keeps one of each run of equal texts. -/
def dropRepeats : List String → List String
  | [] => []
  | [s] => [s]
  | s :: t :: rest => if s = t then dropRepeats (t :: rest) else s :: dropRepeats (t :: rest)

/-- Sorts texts by their characters, which is the order of their bytes too. -/
def sortTexts (tags : List String) : List String := tags.mergeSort fun a b => decide (a ≤ b)

/-- Tags in order and without repetition. -/
def sortedTags (tags : List String) : List String := dropRepeats (sortTexts tags)

namespace Metric

/-- Sorts the tags and drops repetitions. -/
def normalizeTags (m : Metric) : Metric := { m with tags := sortedTags m.tags }

/-! ## Identity -/

/-- The description of a series as bytes: name, unit, type, interval and tags with zero bytes between
them. -/
def identity (m : Metric) : Bytes :=
  Bytes.ofString m.name ++ 0 :: Bytes.ofString m.unit ++ 0 :: Bytes.ofString m.mtype ++
    0 :: Bytes.ofString (String.ofList (Number.digits m.interval.toNat)) ++
    m.tags.flatMap fun tag => 0 :: Bytes.ofString tag

/-- The key of a series with this description. -/
def seriesKey (m : Metric) : SeriesKey := ⟨Digest.md5 m.identity⟩

/-- Normalizes the tags and computes the id. -/
def setId (m : Metric) : Metric :=
  let m := m.normalizeTags
  { m with id := MetricKey.display ⟨m.org, m.seriesKey⟩ }

/-- The series that the id names. -/
def key (m : Metric) : Except InvalidId MetricKey := MetricKey.parse m.id

/-- The time of the sample modulo `2 ^ 32`, as compact points carry it. -/
def shortTime (m : Metric) : UInt32 := m.time.toUInt64.toUInt32

end Metric

end MetricGateway
