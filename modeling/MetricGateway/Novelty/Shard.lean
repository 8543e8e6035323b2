import MetricGateway.Novelty.Age
import MetricGateway.Series
import Std.Data.ExtTreeMap

/-!
# Shards of the novelty cache

A shard remembers when keys were last seen. All its ages count from one reference, which only moves
forward: when it does, every age shrinks by the same number of buckets, and keys that were seen before
the new reference are dropped.

A sighting further than the largest age behind the reference does not fit into an age. It first moves
the reference to where keys become stale, so that ages stay exact however far sightings and prunes are
apart.
-/

namespace MetricGateway.Novelty

/-- Keys and when they were last seen. -/
structure Shard where
  /-- How long keys stay fresh. -/
  stale : Age
  /-- The bucket that all ages count from. -/
  reference : Bucket
  /-- The age of every key at its last sighting. -/
  ages : Std.ExtTreeMap SubKey Age

namespace Shard

/-- A shard without keys. -/
def empty (reference : Bucket) (stale : Age) : Shard := ⟨stale, reference, ∅⟩

/-- Moves the reference forward and drops the keys seen before it. -/
def rebase (s : Shard) (reference : Bucket) : Shard :=
  let shift := reference.toNat - s.reference.toNat
  if shift = 0 then s
  else { s with reference, ages := s.ages.filterMap fun _ age => age.sub? shift }

/-- Moves the reference if a time is too far behind it. -/
def reach (s : Shard) (time : Bucket) : Shard :=
  if maxAge < time.toNat - s.reference.toNat then s.rebase (time.back s.stale) else s

/-- Records a sighting. Says whether the key was there before. -/
def touch (s : Shard) (key : SubKey) (time : Bucket) : Bool × Shard :=
  let s := s.reach time
  (s.ages.contains key, { s with ages := s.ages.insert key (.between s.reference time) })

/-- Removes a key. Says whether it was there. -/
def forget (s : Shard) (key : SubKey) : Bool × Shard :=
  (s.ages.contains key, { s with ages := s.ages.erase key })

/-- Drops the keys that are stale at a time. A time before earlier ones changes nothing. -/
def prune (s : Shard) (now : Bucket) : Shard :=
  s.rebase (Bucket.later (now.back s.stale) s.reference)

/-- The number of keys. -/
def size (s : Shard) : Nat := s.ages.size

/-- Whether there are no keys. -/
def isEmpty (s : Shard) : Bool := s.size == 0

/-- Keys and ages in the order of the keys. -/
def toList (s : Shard) : List (SubKey × Age) := s.ages.toList

/-- The bucket in which a key was last seen. -/
def lastSeen (s : Shard) (key : SubKey) : Option Nat :=
  (s.ages[key]?).map fun age => s.reference.toNat + age.toNat

end Shard

end MetricGateway.Novelty
