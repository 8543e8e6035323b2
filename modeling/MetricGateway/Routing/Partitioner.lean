import MetricGateway.Digest.Fnv
import MetricGateway.Metric

/-!
# Partitions

A topic is divided into partitions, and the scheme says what decides about the partition of a metric:
its organization, its name, or its name and tags. These bytes are hashed, the hash is taken for a
signed number, and the partition is the absolute value of its remainder, which is how consumers
compute it too.
-/

namespace MetricGateway.Routing

/-- What decides about the partition of a metric. -/
inductive PartitionScheme where
  /-- All series of an organization share a partition. -/
  | byOrg
  /-- Series are spread by name. -/
  | bySeries
  /-- Series are spread by name and tags. -/
  | bySeriesWithTags
  deriving DecidableEq, Repr, Inhabited

namespace PartitionScheme

/-- The name of a scheme. -/
def display : PartitionScheme → String
  | .byOrg => "by-org"
  | .bySeries => "by-series"
  | .bySeriesWithTags => "by-series-with-tags"

/-- The name of a scheme for people who debug. -/
def debug : PartitionScheme → String
  | .byOrg => "ByOrg"
  | .bySeries => "BySeries"
  | .bySeriesWithTags => "BySeriesWithTags"

/-- The bytes that decide about the partition of a metric. -/
def key (scheme : PartitionScheme) (m : Metric) : Bytes :=
  match scheme with
  | .byOrg => m.org.toBytes
  | .bySeries => Bytes.ofString m.name
  | .bySeriesWithTags =>
    Bytes.ofString m.name ++ m.tags.flatMap fun tag => Bytes.ofString ";" ++ Bytes.ofString tag

end PartitionScheme

/-- The complaint about a number of partitions that is not positive. -/
structure InvalidPartitionCount where
  count : Int
  deriving DecidableEq, Repr

/-- The wording shown to users. -/
def InvalidPartitionCount.message (e : InvalidPartitionCount) : String :=
  "invalid partition count " ++ toString e.count ++ ", must be at least 1"

/-- Spreads metrics over the partitions of a topic. -/
structure Partitioner where
  scheme : PartitionScheme
  /-- The number of partitions. -/
  count : Nat
  count_pos : 0 < count
  deriving DecidableEq, Repr

namespace Partitioner

/-- A partitioner for a number of partitions. -/
def of (scheme : PartitionScheme) (count : Int) : Except InvalidPartitionCount Partitioner :=
  if h : 1 ≤ count then .ok ⟨scheme, count.toNat, by omega⟩ else .error ⟨count⟩

/-- The partition that bytes belong to. -/
def partitionOf (p : Partitioner) (key : Bytes) : Nat :=
  ((Digest.fnv1a key).toInt32.toInt.tmod p.count).natAbs

/-- The bytes that decide about the partition of a metric. -/
def key (p : Partitioner) (m : Metric) : Bytes := p.scheme.key m

/-- The partition of a metric and the bytes that decide about it. -/
def partition (p : Partitioner) (m : Metric) : Nat × Bytes := (p.partitionOf (p.key m), p.key m)

/-- A partition is one of the topic. -/
theorem partitionOf_lt (p : Partitioner) (key : Bytes) : p.partitionOf key < p.count := by
  have h : (0 : Int) < p.count := by exact_mod_cast p.count_pos
  have := Int.natAbs_tmod (Digest.fnv1a key).toInt32.toInt p.count
  simp only [partitionOf, this, Int.natAbs_natCast]
  exact Nat.mod_lt _ p.count_pos

end Partitioner

end MetricGateway.Routing
