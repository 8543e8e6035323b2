import MetricGateway.Proofs.Novelty.Sighting

/-!
# Slots of the novelty cache

The cache does not store the first byte of a key: it only picks the shard. What
it tells apart are therefore **slots**, an organization, a shard and the fifteen
bytes behind the first. With 256 shards every series has a slot of its own, with
fewer of them two series may share one.

An organization keeps its shards in an array. An operation on a key replaces the
shard of that key and leaves the others as they are.
-/

namespace MetricGateway.Novelty

/-- Where the cache keeps a series. -/
structure Slot where
  org : OrgId
  shard : Nat
  tail : SubKey
  deriving DecidableEq, Repr

/-- The slot of a series among so many shards. -/
def slotOf (shardCount : Nat) (key : MetricKey) : Slot :=
  ⟨key.org, key.key.leading.toNat % shardCount, key.key.tail⟩

theorem slotOf_eq_iff {n : Nat} {a b : MetricKey} :
    slotOf n a = slotOf n b ↔ a.org = b.org
      ∧ a.key.leading.toNat % n = b.key.leading.toNat % n ∧ a.key.tail = b.key.tail := by
  simp [slotOf]

theorem getElem_tail (key : SeriesKey) {i : Nat} (h : i < 15) :
    key.tail[i] = key.bytes[i + 1] := by
  have hi : i < min 16 16 - 1 := by omega
  have hcut : (key.bytes.extract 1)[i] = key.bytes[1 + i] := Vector.getElem_extract hi
  rw [show key.tail[i] = (key.bytes.extract 1)[i] from rfl, hcut]
  congr 1; omega

/-- A key is its first byte and the bytes behind it. -/
theorem eq_of_leading_of_tail {a b : SeriesKey} (hl : a.leading = b.leading)
    (ht : a.tail = b.tail) : a = b := by
  have hbytes : a.bytes = b.bytes := by
    refine Vector.ext fun i hi => ?_
    cases i with
    | zero => exact hl
    | succ i => rw [← getElem_tail a (by omega), ← getElem_tail b (by omega), ht]
  cases a; cases b
  exact congrArg SeriesKey.mk hbytes

/-- **With as many shards as there are bytes, every series has a slot of its own.** -/
theorem slotOf_maxShards_inj {a b : MetricKey} (h : slotOf maxShards a = slotOf maxShards b) :
    a = b := by
  obtain ⟨horg, hlead, htail⟩ := slotOf_eq_iff.mp h
  -- a byte is its own remainder
  have ha := a.key.leading.toNat_lt
  have hb := b.key.leading.toNat_lt
  rw [maxShards, Nat.mod_eq_of_lt ha, Nat.mod_eq_of_lt hb] at hlead
  cases a; cases b
  exact congr (congrArg MetricKey.mk horg) (eq_of_leading_of_tail (UInt8.toNat_inj.mp hlead) htail)

/-! ## One organization -/

namespace OrgCache

/-- Shards of organizations are the same if they are so one by one. -/
theorem ext_getElem? {c d : OrgCache} (h : ∀ i : Nat, c.shards[i]? = d.shards[i]?) :
    c = d := by
  cases c; cases d
  congr
  exact Array.ext_getElem? h

theorem shardAt_mem (c : OrgCache) (key : SeriesKey) : c.shardAt key ∈ c.shards :=
  Array.getElem_mem _

theorem lastSeen_eq (c : OrgCache) (key : SeriesKey) :
    c.lastSeen key = (c.shardAt key).lastSeen key.tail := rfl

theorem shardAt_eq {c : OrgCache} {key : SeriesKey} {i : Nat} (h : i < c.shards.size)
    (hi : key.leading.toNat % c.shards.size = i) : c.shardAt key = c.shards[i] := by
  subst hi; rfl

/-- Keys with the same place in the array share their shard. -/
theorem shardAt_congr {c : OrgCache} {key other : SeriesKey}
    (h : other.leading.toNat % c.shards.size = key.leading.toNat % c.shards.size) :
    c.shardAt other = c.shardAt key :=
  shardAt_eq (Nat.mod_lt _ c.nonempty) h

@[simp] theorem size_onShard {α : Type} (c : OrgCache) (key : SeriesKey)
    (op : Shard → α × Shard) : (c.onShard key op).2.shards.size = c.shards.size :=
  Array.size_set (c.shardOf key).isLt

theorem getElem_onShard {α : Type} {c : OrgCache} {key : SeriesKey} {op : Shard → α × Shard}
    {i : Nat} (h : i < (c.onShard key op).2.shards.size) (hi : i < c.shards.size) :
    (c.onShard key op).2.shards[i] =
      if key.leading.toNat % c.shards.size = i then (op (c.shardAt key)).2 else c.shards[i] :=
  Array.getElem_set (c.shardOf key).isLt h

/-- An operation on the shard of a key replaces that shard only. -/
theorem shardAt_onShard {α : Type} (c : OrgCache) (key other : SeriesKey)
    (op : Shard → α × Shard) :
    (c.onShard key op).2.shardAt other =
      if other.leading.toNat % c.shards.size = key.leading.toNat % c.shards.size
      then (op (c.shardAt key)).2 else c.shardAt other := by
  have hother := Nat.mod_lt other.leading.toNat c.nonempty
  rw [shardAt_eq (by rwa [size_onShard]) (by rw [size_onShard]), getElem_onShard _ hother]
  by_cases h : other.leading.toNat % c.shards.size = key.leading.toNat % c.shards.size
  · rw [if_pos h, if_pos h.symm]
  · rw [if_neg h, if_neg (Ne.symm h)]; rfl

theorem mem_onShard {α : Type} {c : OrgCache} {key : SeriesKey} {op : Shard → α × Shard}
    {shard : Shard} (h : shard ∈ (c.onShard key op).2.shards) :
    shard ∈ c.shards ∨ shard = (op (c.shardAt key)).2 := by
  obtain ⟨i, hi, rfl⟩ := Array.mem_iff_getElem.mp h
  rw [getElem_onShard hi (by rwa [size_onShard] at hi)]
  split
  · exact Or.inr rfl
  · exact Or.inl (Array.getElem_mem _)

theorem shardAt_empty (shardCount : Nat) (reference : Bucket) (stale : Age) (key : SeriesKey) :
    (empty shardCount reference stale).shardAt key = .empty reference stale :=
  Array.getElem_replicate ..

theorem isEmpty_iff (c : OrgCache) : c.isEmpty = true ↔ ∀ shard ∈ c.shards, shard.isEmpty := by
  rw [isEmpty, Array.all_eq_true_iff_forall_mem]

/-! ## Entries -/

/-- The bucket in which the entry of one of the shards was last seen, if it is there. -/
def seenAt (c : OrgCache) (i : Nat) (tail : SubKey) : Option Nat :=
  (c.shards[i]?).bind fun shard => shard.lastSeen tail

/-- A key is looked up at its place. -/
theorem lastSeen_eq_seenAt (c : OrgCache) (key : SeriesKey) :
    c.lastSeen key = c.seenAt (key.leading.toNat % c.shards.size) key.tail := by
  have hkey := Nat.mod_lt key.leading.toNat c.nonempty
  rw [seenAt, Array.getElem?_eq_getElem hkey, Option.bind_some, lastSeen_eq, shardAt_eq hkey rfl]

/-- Shards are empty if they have no entry. -/
theorem isEmpty_iff_seenAt (c : OrgCache) :
    c.isEmpty = true ↔ ∀ i tail, c.seenAt i tail = none := by
  rw [isEmpty_iff]
  constructor
  · intro h i tail
    rw [seenAt, Option.bind_eq_none_iff]
    intro shard hshard
    exact (Shard.isEmpty_iff shard).mp (h shard (Array.mem_of_getElem? hshard)) tail
  · intro h shard hmem
    obtain ⟨i, hi⟩ := Array.mem_iff_getElem?.mp hmem
    refine (Shard.isEmpty_iff shard).mpr fun tail => ?_
    have hnone := h i tail
    rwa [seenAt, hi, Option.bind_some] at hnone

/-- Nothing has been seen in shards that are empty. -/
theorem lastSeen_of_isEmpty {c : OrgCache} (h : c.isEmpty = true) (key : SeriesKey) :
    c.lastSeen key = none := by
  rw [lastSeen_eq_seenAt, (isEmpty_iff_seenAt c).mp h]

/-- A prune drops the entries that were last seen before the stale threshold. -/
theorem seenAt_prune {c : OrgCache} {stale : Age} (h : ∀ shard ∈ c.shards, shard.stale = stale)
    (now : Bucket) (i : Nat) (tail : SubKey) :
    (c.prune now).seenAt i tail =
      (c.seenAt i tail).filter (now.toNat - stale.toNat ≤ ·) := by
  rw [seenAt, prune, Array.getElem?_map, seenAt]
  cases hshard : c.shards[i]? with
  | none => rfl
  | some shard =>
      rw [Option.map_some, Option.bind_some, Option.bind_some, Shard.lastSeen_prune,
        h shard (Array.mem_of_getElem? hshard)]

end OrgCache

end MetricGateway.Novelty
