import MetricGateway.Proofs.Novelty.Cache

/-!
# What the novelty cache knows

Whether a series is known is all that a publisher asks the cache, and the times
of the sightings do not matter for it. What matters is where knowledge comes
from: only a touch adds any, and only that of its own slot. A prune and the far
touch that moves a reference can merely take some away, and a forget takes
exactly its slot.
-/

namespace MetricGateway.Novelty

namespace KeyCache

/-- The cache holds a sighting of a series. -/
def Knows (c : KeyCache) (key : MetricKey) : Prop := (c.lastSeen key).isSome

theorem not_knows_of_orgs_empty {c : KeyCache} (h : c.orgs = ∅) (key : MetricKey) :
    ¬ c.Knows key := by
  rw [Knows, lastSeen_of_orgs_empty h]; simp

/-- Series that share their slot are not told apart. -/
theorem lastSeen_congr {c : KeyCache} (hc : c.Uniform) {key other : MetricKey}
    (h : slotOf c.shardCount other = slotOf c.shardCount key) :
    c.lastSeen other = c.lastSeen key := by
  obtain ⟨horg, hlead, htail⟩ := slotOf_eq_iff.mp h
  rw [lastSeen, lastSeen, horg]
  cases hget : c.orgs[key.org]? with
  | none => rfl
  | some cache =>
      have hshard : cache.shardAt other.key = cache.shardAt key.key :=
        OrgCache.shardAt_congr (by rw [hc.size _ _ hget]; exact hlead)
      rw [Option.bind_some, Option.bind_some, OrgCache.lastSeen_eq, OrgCache.lastSeen_eq, hshard,
        htail]

theorem knows_congr {c : KeyCache} (hc : c.Uniform) {key other : MetricKey}
    (h : slotOf c.shardCount other = slotOf c.shardCount key) : c.Knows other ↔ c.Knows key := by
  rw [Knows, Knows, lastSeen_congr hc h]

/-- What a touch finds has been known. -/
theorem knows_of_touch_fst {c : KeyCache} {key : MetricKey} {now : Timestamp}
    (h : (c.touch key now).1 = true) : c.Knows key := by
  rw [touch_fst] at h
  rw [Knows]
  cases hseen : c.lastSeen key with
  | none => rw [hseen] at h; cases h
  | some t => rfl

/-- **Only a touch adds knowledge, and only that of its slot.** -/
theorem knows_of_knows_touch {c : KeyCache} (hc : c.Uniform) {key other : MetricKey}
    {now : Timestamp} (h : (c.touch key now).2.Knows other) :
    slotOf c.shardCount other = slotOf c.shardCount key ∨ c.Knows other := by
  by_cases hslot : slotOf c.shardCount other = slotOf c.shardCount key
  · exact Or.inl hslot
  · refine Or.inr ?_
    rw [Knows, lastSeen_touch hc, if_neg hslot] at h
    split at h
    · obtain ⟨t, ht⟩ := Option.isSome_iff_exists.mp h
      exact Option.isSome_iff_exists.mpr ⟨t, (Option.filter_eq_some_iff.mp ht).1⟩
    · exact h

theorem knows_forget_iff {c : KeyCache} (hc : c.Uniform) {key other : MetricKey} :
    (c.forget key).2.Knows other ↔
      slotOf c.shardCount other ≠ slotOf c.shardCount key ∧ c.Knows other := by
  rw [Knows, lastSeen_forget hc]
  by_cases h : slotOf c.shardCount other = slotOf c.shardCount key
  · rw [if_pos h]; simp [h]
  · rw [if_neg h]; simp [h, Knows]

theorem knows_of_knows_prune {c : KeyCache} (hc : c.Uniform) {now : Timestamp} {key : MetricKey}
    (h : (c.prune now).2.Knows key) : c.Knows key := by
  rw [Knows, lastSeen_prune hc] at h
  obtain ⟨t, ht⟩ := Option.isSome_iff_exists.mp h
  exact Option.isSome_iff_exists.mpr ⟨t, (Option.filter_eq_some_iff.mp ht).1⟩

end KeyCache

end MetricGateway.Novelty
