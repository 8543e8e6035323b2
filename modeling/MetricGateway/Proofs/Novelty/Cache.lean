import MetricGateway.Proofs.Novelty.Slot

/-!
# Sightings of the novelty cache

The laws of shards, carried to the whole cache. A touch acts on one shard of one
organization: it sets the sighting of its slot, may drop others of that shard by
moving the reference, and leaves all other shards alone. A prune acts on every
shard at once. The organizations that it removes hold no sightings any more, so
they make no difference to what the cache says.

Which shard a key goes to depends on the number of shards that its organization
was set up with, and when keys grow stale on the threshold in its shards. Both
are those of the cache (`Uniform`), which every operation preserves.
-/

namespace MetricGateway.Novelty

namespace CacheConfig

/-- The limits that are accepted. -/
theorem validate_eq_ok_iff {config : CacheConfig} :
    config.validate = .ok () ↔ config.staleThreshold.nanoseconds ≤ longestSpan.nanoseconds
      ∧ config.pruneInterval.nanoseconds ≤ longestSpan.nanoseconds
      ∧ config.pruneInterval.nanoseconds ≠ 0
      ∧ 1 ≤ config.shardCount ∧ config.shardCount ≤ maxShards := by
  rw [validate]
  split
  case isTrue hlong => exact iff_of_false nofun (by omega)
  case isFalse =>
    split
    case isTrue hlong => exact iff_of_false nofun (by omega)
    case isFalse =>
      split
      case isTrue hzero => exact iff_of_false nofun (by omega)
      case isFalse =>
        split
        case isTrue hcount => exact iff_of_true rfl (by omega)
        case isFalse => exact iff_of_false nofun (by omega)

end CacheConfig

namespace KeyCache

/-- Every shard of every organization has a property. -/
def AllShards (c : KeyCache) (P : Shard → Prop) : Prop :=
  ∀ (org : OrgId) (cache : OrgCache), c.orgs[org]? = some cache → ∀ shard ∈ cache.shards, P shard

/-- Organizations have the shards that the cache is set up with. -/
structure Uniform (c : KeyCache) : Prop where
  /-- There is at least one shard. -/
  positive : 0 < c.shardCount
  /-- All organizations have the same number of them. -/
  size : ∀ (org : OrgId) (cache : OrgCache), c.orgs[org]? = some cache →
    cache.shards.size = c.shardCount
  /-- All of them share the stale threshold of the cache. -/
  stale : c.AllShards fun shard => shard.stale = c.stale

/-- Caches with the same limits that hold the same for every organization are the same. -/
theorem ext_orgs {c d : KeyCache} (hstale : c.stale = d.stale)
    (hinterval : c.pruneInterval = d.pruneInterval) (hcount : c.shardCount = d.shardCount)
    (horgs : ∀ org : OrgId, c.orgs[org]? = d.orgs[org]?) : c = d := by
  cases c; cases d
  cases hstale; cases hinterval; cases hcount
  exact congrArg _ (Std.ExtTreeMap.ext_getElem? horgs)

theorem orgCache_of_some {c : KeyCache} {org : OrgId} {cache : OrgCache} {time : Bucket}
    (h : c.orgs[org]? = some cache) : c.orgCache org time = cache := by
  rw [orgCache, h]; rfl

theorem orgCache_of_none {c : KeyCache} {org : OrgId} {time : Bucket}
    (h : c.orgs[org]? = none) : c.orgCache org time = .empty c.shardCount time c.stale := by
  rw [orgCache, h]; rfl

/-- Setting up an organization adds no sightings. -/
theorem lastSeen_orgCache (c : KeyCache) (key : MetricKey) (time : Bucket) :
    (c.orgCache key.org time).lastSeen key.key = c.lastSeen key := by
  rw [lastSeen]
  cases h : c.orgs[key.org]? with
  | none =>
      rw [orgCache_of_none h, OrgCache.lastSeen_eq, OrgCache.shardAt_empty, Shard.lastSeen_empty]
      rfl
  | some cache => rw [orgCache_of_some h]; rfl

theorem size_orgCache {c : KeyCache} (hc : c.Uniform) (org : OrgId) (time : Bucket) :
    (c.orgCache org time).shards.size = c.shardCount := by
  cases h : c.orgs[org]? with
  | none =>
      have := hc.positive
      rw [orgCache_of_none h, OrgCache.empty, Array.size_replicate]; omega
  | some cache => rw [orgCache_of_some h]; exact hc.size _ _ h

theorem forall_mem_orgCache {c : KeyCache} {P : Shard → Prop} {time : Bucket}
    (hc : c.AllShards P) (hnew : P (.empty time c.stale)) (org : OrgId) :
    ∀ shard ∈ (c.orgCache org time).shards, P shard := by
  cases h : c.orgs[org]? with
  | none =>
      rw [orgCache_of_none h]
      intro shard hmem
      rwa [Array.eq_of_mem_replicate hmem]
  | some cache => rw [orgCache_of_some h]; exact hc _ _ h

/-! ## Entries -/

/-- The bucket in which the entry of a slot was last seen, if it is there: the reference of its shard
and its age. -/
def seenAt (c : KeyCache) (slot : Slot) : Option Nat :=
  (c.orgs[slot.org]?).bind fun cache => cache.seenAt slot.shard slot.tail

/-- A series is looked up at its slot. -/
theorem lastSeen_eq_seenAt {c : KeyCache} (hc : c.Uniform) (key : MetricKey) :
    c.lastSeen key = c.seenAt (slotOf c.shardCount key) := by
  rw [lastSeen, seenAt, slotOf]
  cases hget : c.orgs[key.org]? with
  | none => rfl
  | some cache =>
      rw [Option.bind_some, Option.bind_some, OrgCache.lastSeen_eq_seenAt, hc.size _ _ hget]

/-! ## Setting up -/

/-- **Accepted limits make a cache.** The stale threshold is rounded down to whole buckets, and
is at most forty hours. -/
theorem ofConfig_of_validate {config : CacheConfig} (h : config.validate = .ok ()) :
    ∃ stale : Age, stale.toNat = config.staleThreshold.seconds / bucketSeconds
      ∧ 0 < config.shardCount
      ∧ ofConfig config = .ok ⟨stale, config.pruneInterval, config.shardCount, ∅⟩ := by
  obtain ⟨hstale, -, -, hcount, -⟩ := CacheConfig.validate_eq_ok_iff.mp h
  have hfits : config.staleThreshold.seconds / bucketSeconds ≤ maxAge := by
    simp only [longestSpan, Duration.ofSeconds, Duration.ofParts] at hstale
    simp only [Duration.seconds, bucketSeconds, maxAge]
    omega
  refine ⟨.clamp (config.staleThreshold.seconds / bucketSeconds), ?_, hcount, ?_⟩
  · rw [Age.toNat_clamp, Nat.min_eq_left hfits]
  · simp only [ofConfig, h, Age.ofDuration?, if_pos hfits]

/-- A cache is set up without organizations. -/
theorem orgs_of_ofConfig {config : CacheConfig} {c : KeyCache} (h : ofConfig config = .ok c) :
    c.orgs = ∅ ∧ c.shardCount = config.shardCount := by
  cases hvalid : config.validate with
  | error e => rw [ofConfig, hvalid] at h; cases h
  | ok =>
      obtain ⟨stale, -, -, hok⟩ := ofConfig_of_validate hvalid
      rw [hok] at h
      cases h
      exact ⟨rfl, rfl⟩

/-- What is accepted is within the limits. -/
theorem limits_of_ofConfig {config : CacheConfig} {c : KeyCache} (h : ofConfig config = .ok c) :
    0 < config.shardCount ∧ c.stale.toNat = config.staleThreshold.seconds / bucketSeconds := by
  cases hvalid : config.validate with
  | error e => rw [ofConfig, hvalid] at h; cases h
  | ok =>
      obtain ⟨stale, hstale, hpos, hok⟩ := ofConfig_of_validate hvalid
      rw [hok] at h
      cases h
      exact ⟨hpos, hstale⟩

/-- A cache that has just been set up knows nothing. -/
theorem lastSeen_of_orgs_empty {c : KeyCache} (h : c.orgs = ∅) (key : MetricKey) :
    c.lastSeen key = none := by
  rw [lastSeen, h, Std.ExtTreeMap.getElem?_empty]; rfl

theorem allShards_of_orgs_empty {c : KeyCache} (h : c.orgs = ∅) (P : Shard → Prop) :
    c.AllShards P := by
  intro org cache hget
  rw [h, Std.ExtTreeMap.getElem?_empty] at hget
  cases hget

theorem uniform_of_orgs_empty {c : KeyCache} (h : c.orgs = ∅) (hpos : 0 < c.shardCount) :
    c.Uniform where
  positive := hpos
  size := by
    intro org cache hget
    rw [h, Std.ExtTreeMap.getElem?_empty] at hget
    cases hget
  stale := allShards_of_orgs_empty h _

/-! ## Touch -/

/-- The reference from which a touch at a time counts. -/
def origin (c : KeyCache) (key : MetricKey) (time : Bucket) : Nat :=
  (((c.orgCache key.org time).shardAt key.key).reach time).reference.toNat

theorem orgs_touch (c : KeyCache) (key : MetricKey) (now : Timestamp) (org : OrgId) :
    (c.touch key now).2.orgs[org]? =
      if org = key.org
      then some ((c.orgCache key.org (.ofTimestamp now)).touch key.key (.ofTimestamp now)).2
      else c.orgs[org]? := by
  simp only [touch, Std.ExtTreeMap.getElem?_insert, Std.LawfulEqCmp.compare_eq_iff_eq]
  by_cases h : org = key.org
  · rw [if_pos h, if_pos h.symm]
  · rw [if_neg h, if_neg (Ne.symm h)]

@[simp] theorem shardCount_touch (c : KeyCache) (key : MetricKey) (now : Timestamp) :
    (c.touch key now).2.shardCount = c.shardCount := rfl

@[simp] theorem stale_touch (c : KeyCache) (key : MetricKey) (now : Timestamp) :
    (c.touch key now).2.stale = c.stale := rfl

/-- A touch finds its key unless the key was seen before the reference it counts from. -/
theorem touch_fst (c : KeyCache) (key : MetricKey) (now : Timestamp) :
    (c.touch key now).1 =
      ((c.lastSeen key).filter (c.origin key (.ofTimestamp now) ≤ ·)).isSome := by
  rw [← lastSeen_orgCache c key (.ofTimestamp now), OrgCache.lastSeen_eq, origin,
    ← Shard.lastSeen_reach, ← Shard.touch_fst]
  rfl

theorem allShards_touch {c : KeyCache} {P : Shard → Prop} {key : MetricKey} {now : Timestamp}
    (hc : c.AllShards P) (hnew : P (.empty (.ofTimestamp now) c.stale))
    (hP : ∀ s, P s → P (s.touch key.key.tail (.ofTimestamp now)).2) :
    (c.touch key now).2.AllShards P := by
  intro org cache hget shard hmem
  have hall := forall_mem_orgCache hc hnew key.org
  -- all shards but that of the key are from before, or new
  rw [orgs_touch] at hget
  by_cases h : org = key.org
  · rw [if_pos h, Option.some.injEq] at hget
    subst hget
    rcases OrgCache.mem_onShard hmem with hold | rfl
    · exact hall shard hold
    · exact hP _ (hall _ (OrgCache.shardAt_mem ..))
  · rw [if_neg h] at hget
    exact hc org cache hget shard hmem

theorem uniform_touch {c : KeyCache} (hc : c.Uniform) (key : MetricKey) (now : Timestamp) :
    (c.touch key now).2.Uniform where
  positive := hc.positive
  size := by
    intro org cache hget
    rw [orgs_touch] at hget
    by_cases h : org = key.org
    · rw [if_pos h, Option.some.injEq] at hget
      subst hget
      rw [OrgCache.touch, OrgCache.size_onShard, size_orgCache hc, shardCount_touch]
    · rw [if_neg h] at hget
      exact hc.size org cache hget
  stale := allShards_touch hc.stale rfl fun s hs => by rw [Shard.stale_touch, hs]

/-- **What a touch leaves.** Its slot is seen at the time of the touch, or at the reference if
that lies ahead. Other slots of the shard are dropped if they were seen before the reference. -/
theorem lastSeen_touch {c : KeyCache} (hc : c.Uniform) (key other : MetricKey) (now : Timestamp) :
    (c.touch key now).2.lastSeen other =
      if slotOf c.shardCount other = slotOf c.shardCount key
      then some (max (Bucket.ofTimestamp now).toNat (c.origin key (.ofTimestamp now)))
      else if other.org = key.org
        ∧ other.key.leading.toNat % c.shardCount = key.key.leading.toNat % c.shardCount
      then (c.lastSeen other).filter (c.origin key (.ofTimestamp now) ≤ ·)
      else c.lastSeen other := by
  generalize htime : Bucket.ofTimestamp now = time
  rw [lastSeen, orgs_touch, htime]
  by_cases horg : other.org = key.org
  · have hsize := size_orgCache hc key.org time
    have hsame : (c.orgCache key.org time).lastSeen other.key = c.lastSeen other := by
      rw [← horg]; exact lastSeen_orgCache c other time
    rw [if_pos horg, Option.bind_some, OrgCache.lastSeen_eq, OrgCache.touch,
      OrgCache.shardAt_onShard, hsize]
    by_cases hlead : other.key.leading.toNat % c.shardCount = key.key.leading.toNat % c.shardCount
    · have hshard : (c.orgCache key.org time).shardAt other.key =
          (c.orgCache key.org time).shardAt key.key :=
        OrgCache.shardAt_congr (by rw [hsize]; exact hlead)
      rw [if_pos hlead, Shard.lastSeen_touch]
      by_cases htail : other.key.tail = key.key.tail
      · rw [if_pos htail, if_pos (slotOf_eq_iff.mpr ⟨horg, hlead, htail⟩)]
        rfl
      · have hslot : slotOf c.shardCount other ≠ slotOf c.shardCount key :=
          fun h => htail (slotOf_eq_iff.mp h).2.2
        rw [if_neg htail, if_neg hslot, if_pos ⟨horg, hlead⟩, Shard.lastSeen_reach, ← hsame,
          OrgCache.lastSeen_eq, hshard]
        rfl
    · have hslot : slotOf c.shardCount other ≠ slotOf c.shardCount key :=
        fun h => hlead (slotOf_eq_iff.mp h).2.1
      rw [if_neg hlead, if_neg hslot, if_neg (fun h => hlead h.2), ← hsame]
      rfl
  · have hslot : slotOf c.shardCount other ≠ slotOf c.shardCount key :=
      fun h => horg (slotOf_eq_iff.mp h).1
    rw [if_neg horg, if_neg hslot, if_neg (fun h => horg h.1)]
    rfl

/-! ## Forget -/

theorem forget_fst (c : KeyCache) (key : MetricKey) :
    (c.forget key).1 = (c.lastSeen key).isSome := by
  rw [forget, lastSeen]
  cases h : c.orgs[key.org]? with
  | none => rfl
  | some cache => exact Shard.forget_fst _ _

theorem orgs_forget (c : KeyCache) (key : MetricKey) (org : OrgId) :
    (c.forget key).2.orgs[org]? =
      if org = key.org then c.orgs[org]?.map fun cache => (cache.forget key.key).2
      else c.orgs[org]? := by
  rw [forget]
  by_cases h : org = key.org
  · subst h
    rw [if_pos rfl]
    cases hget : c.orgs[key.org]? with
    | none => exact hget
    | some cache => exact Std.ExtTreeMap.getElem?_insert_self
  · rw [if_neg h]
    cases hget : c.orgs[key.org]? with
    | none => rfl
    | some cache =>
        simp only [Std.ExtTreeMap.getElem?_insert, Std.LawfulEqCmp.compare_eq_iff_eq]
        rw [if_neg (Ne.symm h)]

@[simp] theorem shardCount_forget (c : KeyCache) (key : MetricKey) :
    (c.forget key).2.shardCount = c.shardCount := by
  rw [forget]; split <;> rfl

@[simp] theorem stale_forget (c : KeyCache) (key : MetricKey) :
    (c.forget key).2.stale = c.stale := by
  rw [forget]; split <;> rfl

theorem allShards_forget {c : KeyCache} {P : Shard → Prop} {key : MetricKey}
    (hc : c.AllShards P) (hP : ∀ s, P s → P (s.forget key.key.tail).2) :
    (c.forget key).2.AllShards P := by
  intro org cache hget shard hmem
  rw [orgs_forget] at hget
  by_cases h : org = key.org
  · rw [if_pos h, Option.map_eq_some_iff] at hget
    obtain ⟨before, hbefore, rfl⟩ := hget
    rcases OrgCache.mem_onShard hmem with hold | rfl
    · exact hc org before hbefore shard hold
    · exact hP _ (hc org before hbefore _ (OrgCache.shardAt_mem ..))
  · rw [if_neg h] at hget
    exact hc org cache hget shard hmem

theorem uniform_forget {c : KeyCache} (hc : c.Uniform) (key : MetricKey) :
    (c.forget key).2.Uniform where
  positive := by rw [shardCount_forget]; exact hc.positive
  size := by
    intro org cache hget
    rw [orgs_forget] at hget
    rw [shardCount_forget]
    by_cases h : org = key.org
    · rw [if_pos h, Option.map_eq_some_iff] at hget
      obtain ⟨before, hbefore, rfl⟩ := hget
      rw [OrgCache.forget, OrgCache.size_onShard]
      exact hc.size org before hbefore
    · rw [if_neg h] at hget
      exact hc.size org cache hget
  stale := by
    rw [stale_forget]
    exact allShards_forget hc.stale fun s hs => by rw [Shard.stale_forget, hs]

/-- **What a forget leaves.** Its slot is gone, and nothing else changes. -/
theorem lastSeen_forget {c : KeyCache} (hc : c.Uniform) (key other : MetricKey) :
    (c.forget key).2.lastSeen other =
      if slotOf c.shardCount other = slotOf c.shardCount key then none else c.lastSeen other := by
  rw [lastSeen, orgs_forget, lastSeen]
  by_cases horg : other.org = key.org
  · rw [if_pos horg]
    cases hget : c.orgs[other.org]? with
    | none => simp
    | some cache =>
        have hsize := hc.size _ _ hget
        rw [Option.map_some, Option.bind_some, Option.bind_some, OrgCache.lastSeen_eq,
          OrgCache.forget, OrgCache.shardAt_onShard, hsize, OrgCache.lastSeen_eq]
        by_cases hlead :
            other.key.leading.toNat % c.shardCount = key.key.leading.toNat % c.shardCount
        · have hshard : cache.shardAt other.key = cache.shardAt key.key :=
            OrgCache.shardAt_congr (by rw [hsize]; exact hlead)
          rw [if_pos hlead, Shard.lastSeen_forget, hshard]
          simp only [slotOf_eq_iff, horg, hlead, true_and]
        · rw [if_neg hlead, if_neg fun h => hlead (slotOf_eq_iff.mp h).2.1]
  · rw [if_neg horg, if_neg fun h => horg (slotOf_eq_iff.mp h).1]

/-! ## Prune -/

theorem orgs_prune (c : KeyCache) (now : Timestamp) (org : OrgId) :
    (c.prune now).2.orgs[org]? =
      (c.orgs[org]?.map fun cache => cache.prune (.ofTimestamp now)).filter
        fun cache => !cache.isEmpty := by
  simp only [prune, Std.ExtTreeMap.getElem?_filter', Std.ExtTreeMap.getElem?_map]

@[simp] theorem shardCount_prune (c : KeyCache) (now : Timestamp) :
    (c.prune now).2.shardCount = c.shardCount := rfl

@[simp] theorem stale_prune (c : KeyCache) (now : Timestamp) :
    (c.prune now).2.stale = c.stale := rfl

/-- An organization that a prune has left is one from before, with its shards pruned. -/
theorem exists_of_orgs_prune {c : KeyCache} {now : Timestamp} {org : OrgId} {cache : OrgCache}
    (h : (c.prune now).2.orgs[org]? = some cache) :
    ∃ before, c.orgs[org]? = some before ∧ cache = before.prune (.ofTimestamp now) := by
  rw [orgs_prune] at h
  obtain ⟨hmap, _⟩ := Option.filter_eq_some_iff.mp h
  obtain ⟨before, hbefore, heq⟩ := Option.map_eq_some_iff.mp hmap
  exact ⟨before, hbefore, heq.symm⟩

theorem allShards_prune {c : KeyCache} {P : Shard → Prop} {now : Timestamp}
    (hc : c.AllShards P) (hP : ∀ s, P s → P (s.prune (.ofTimestamp now))) :
    (c.prune now).2.AllShards P := by
  intro org cache hget shard hmem
  obtain ⟨before, hbefore, rfl⟩ := exists_of_orgs_prune hget
  obtain ⟨shard, hold, rfl⟩ := Array.mem_map.mp hmem
  exact hP shard (hc org before hbefore shard hold)

theorem uniform_prune {c : KeyCache} (hc : c.Uniform) (now : Timestamp) :
    (c.prune now).2.Uniform where
  positive := hc.positive
  size := by
    intro org cache hget
    obtain ⟨before, hbefore, rfl⟩ := exists_of_orgs_prune hget
    rw [OrgCache.prune, Array.size_map, shardCount_prune]
    exact hc.size org before hbefore
  stale := allShards_prune hc.stale fun s hs => by rw [Shard.stale_prune, hs]

/-- **What a prune leaves.** It drops exactly the entries that were last seen before the stale
threshold; an organization that it removes has none left. -/
theorem seenAt_prune {c : KeyCache} (hc : c.Uniform) (now : Timestamp) (slot : Slot) :
    (c.prune now).2.seenAt slot =
      (c.seenAt slot).filter ((Bucket.ofTimestamp now).toNat - c.stale.toNat ≤ ·) := by
  rw [seenAt, orgs_prune, seenAt]
  cases hget : c.orgs[slot.org]? with
  | none => rfl
  | some cache =>
      rw [Option.map_some, Option.bind_some,
        ← OrgCache.seenAt_prune (hc.stale _ _ hget) (.ofTimestamp now)]
      by_cases hempty : (cache.prune (.ofTimestamp now)).isEmpty
      · rw [Option.filter_some, if_neg (by simp [hempty]),
          (OrgCache.isEmpty_iff_seenAt _).mp hempty]
        rfl
      · rw [Option.filter_some, if_pos (by simp [hempty]), Option.bind_some]

/-- What a prune leaves of a series. -/
theorem lastSeen_prune {c : KeyCache} (hc : c.Uniform) (now : Timestamp) (key : MetricKey) :
    (c.prune now).2.lastSeen key =
      (c.lastSeen key).filter ((Bucket.ofTimestamp now).toNat - c.stale.toNat ≤ ·) := by
  rw [lastSeen_eq_seenAt (uniform_prune hc now), lastSeen_eq_seenAt hc, shardCount_prune,
    seenAt_prune hc]

end KeyCache

end MetricGateway.Novelty
