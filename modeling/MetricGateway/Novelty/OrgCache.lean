import MetricGateway.Novelty.Shard

/-!
# The keys of an organization

The keys of an organization are spread over a fixed number of shards by their first byte. With fewer
than 256 shards, keys that agree in all other bytes may share a place.
-/

namespace MetricGateway.Novelty

/-- The shards of an organization. -/
structure OrgCache where
  shards : Array Shard
  nonempty : 0 < shards.size

namespace OrgCache

/-- Shards without keys. There is always at least one. -/
def empty (shardCount : Nat) (reference : Bucket) (stale : Age) : OrgCache :=
  ⟨Array.replicate (max shardCount 1) (.empty reference stale), by
    rw [Array.size_replicate]; exact Nat.lt_of_lt_of_le Nat.zero_lt_one (Nat.le_max_right _ _)⟩

/-- The number of shards. -/
def shardCount (c : OrgCache) : Nat := c.shards.size

/-- Which of the shards is that of a key. -/
def shardOf (c : OrgCache) (key : SeriesKey) : Fin c.shards.size :=
  ⟨key.leading.toNat % c.shards.size, Nat.mod_lt _ c.nonempty⟩

/-- The shard of a key. -/
def shardAt (c : OrgCache) (key : SeriesKey) : Shard := c.shards[c.shardOf key]

/-- Replaces a shard by what an operation on it leaves, and passes on its answer. -/
def onShard {α : Type} (c : OrgCache) (key : SeriesKey) (op : Shard → α × Shard) : α × OrgCache :=
  let (answer, shard) := op (c.shardAt key)
  (answer, ⟨c.shards.set (c.shardOf key) shard, by simpa using c.nonempty⟩)

/-- Records a sighting. Says whether the key was there before. -/
def touch (c : OrgCache) (key : SeriesKey) (time : Bucket) : Bool × OrgCache :=
  c.onShard key (·.touch key.tail time)

/-- Removes a key. Says whether it was there. -/
def forget (c : OrgCache) (key : SeriesKey) : Bool × OrgCache := c.onShard key (·.forget key.tail)

/-- Drops the keys that are stale at a time. -/
def prune (c : OrgCache) (now : Bucket) : OrgCache :=
  ⟨c.shards.map (·.prune now), by simpa using c.nonempty⟩

/-- The number of keys. -/
def size (c : OrgCache) : Nat := c.shards.foldl (fun n shard => n + shard.size) 0

/-- Whether there are no keys. -/
def isEmpty (c : OrgCache) : Bool := c.shards.all Shard.isEmpty

/-- The bucket in which a key was last seen. -/
def lastSeen (c : OrgCache) (key : SeriesKey) : Option Nat :=
  (c.shardAt key).lastSeen key.tail

end OrgCache

end MetricGateway.Novelty
