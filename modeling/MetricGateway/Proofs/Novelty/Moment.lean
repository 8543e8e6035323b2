import MetricGateway.Proofs.Novelty.Known
import MetricGateway.Proofs.Novelty.Window

/-!
# Touches of one moment

A batch touches all its series at one time. For calls at that time the cache
comes down to a yes or no per slot, whether a touch would find it (`Finds`). A
touch makes the answer yes for its own slot and a forget makes it no; neither has
any influence on other slots, because the first touch of a shard has moved the
reference as far as any later touch of that moment would.

What the cache knows is a little more than what it would find: a shard that no
touch has come to may still hold sightings which the next touch is going to drop.
-/

namespace MetricGateway.Novelty

/-- Two series have the same shard. -/
def SameShard (shardCount : Nat) (a b : MetricKey) : Prop :=
  a.org = b.org ∧ a.key.leading.toNat % shardCount = b.key.leading.toNat % shardCount

theorem sameShard_of_slotOf_eq {n : Nat} {a b : MetricKey} (h : slotOf n a = slotOf n b) :
    SameShard n a b :=
  ⟨(slotOf_eq_iff.mp h).1, (slotOf_eq_iff.mp h).2.1⟩

/-- Touches of one moment. -/
def touches (now : Timestamp) (keys : List MetricKey) : List Call := keys.map (.touch · now)

namespace Shard

/-- A touch leaves nothing to do for the next touch of that moment. -/
theorem reference_reach_touch (s : Shard) (key : SubKey) (time : Bucket) :
    ((s.touch key time).2.reach time).reference.toNat = (s.reach time).reference.toNat := by
  have hstale := s.stale.toNat_le
  have href := reference_reach s time
  rw [reference_reach, reference_touch, stale_touch]
  split at href <;> split <;> omega

end Shard

namespace KeyCache

/-- A touch at this time would find the series. -/
def Finds (c : KeyCache) (now : Timestamp) (key : MetricKey) : Prop := (c.touch key now).1 = true

instance (c : KeyCache) (now : Timestamp) (key : MetricKey) : Decidable (c.Finds now key) :=
  inferInstanceAs (Decidable ((c.touch key now).1 = true))

theorem finds_iff {c : KeyCache} {now : Timestamp} {key : MetricKey} :
    c.Finds now key ↔ ∃ n, c.lastSeen key = some n ∧ c.origin key (.ofTimestamp now) ≤ n := by
  rw [Finds, touch_fst]
  cases c.lastSeen key with
  | none => simp
  | some n => simp [Option.filter_some]

theorem knows_of_finds {c : KeyCache} {now : Timestamp} {key : MetricKey}
    (h : c.Finds now key) : c.Knows key := knows_of_touch_fst h

/-! ## Where a touch counts from -/

/-- Series of one shard are counted from one reference. -/
theorem origin_congr {c : KeyCache} (hc : c.Uniform) {key other : MetricKey} {time : Bucket}
    (h : SameShard c.shardCount other key) : c.origin other time = c.origin key time := by
  have hshard : (c.orgCache key.org time).shardAt other.key =
      (c.orgCache key.org time).shardAt key.key :=
    OrgCache.shardAt_congr (by rw [size_orgCache hc]; exact h.2)
  rw [origin, origin, h.1, hshard]

theorem finds_congr {c : KeyCache} (hc : c.Uniform) {now : Timestamp} {key other : MetricKey}
    (h : slotOf c.shardCount other = slotOf c.shardCount key) :
    c.Finds now other ↔ c.Finds now key := by
  rw [finds_iff, finds_iff, lastSeen_congr hc h, origin_congr hc (sameShard_of_slotOf_eq h)]

/-- A touch does not change where touches of the same time count from. -/
theorem origin_touch {c : KeyCache} (hc : c.Uniform) (key other : MetricKey) (now : Timestamp) :
    (c.touch key now).2.origin other (.ofTimestamp now) = c.origin other (.ofTimestamp now) := by
  generalize htime : Bucket.ofTimestamp now = time
  rw [origin, origin, orgCache, orgs_touch, htime]
  by_cases horg : other.org = key.org
  · have hsize := size_orgCache hc key.org time
    rw [if_pos horg, Option.getD_some, OrgCache.touch, OrgCache.shardAt_onShard, horg, hsize]
    by_cases hlead : other.key.leading.toNat % c.shardCount = key.key.leading.toNat % c.shardCount
    · have hshard : (c.orgCache key.org time).shardAt other.key =
          (c.orgCache key.org time).shardAt key.key :=
        OrgCache.shardAt_congr (by rw [hsize]; exact hlead)
      rw [if_pos hlead, Shard.reference_reach_touch, hshard]
    · rw [if_neg hlead]
  · rw [if_neg horg]; rfl

/-- A forget moves no reference. -/
theorem origin_forget {c : KeyCache} (hc : c.Uniform) (key other : MetricKey) (time : Bucket) :
    (c.forget key).2.origin other time = c.origin other time := by
  rw [origin, origin, orgCache, orgs_forget, shardCount_forget, stale_forget]
  by_cases horg : other.org = key.org
  · rw [if_pos horg]
    cases hget : c.orgs[other.org]? with
    | none => rw [orgCache_of_none hget]; rfl
    | some cache =>
        have hsize := hc.size _ _ hget
        rw [orgCache_of_some hget, Option.map_some, Option.getD_some, OrgCache.forget,
          OrgCache.shardAt_onShard, hsize]
        by_cases hlead :
            other.key.leading.toNat % c.shardCount = key.key.leading.toNat % c.shardCount
        · have hshard : cache.shardAt other.key = cache.shardAt key.key :=
            OrgCache.shardAt_congr (by rw [hsize]; exact hlead)
          rw [if_pos hlead, hshard]
          -- without the key, the shard has the reference and the threshold that it had
          refine congrArg Bucket.toNat ?_
          exact Bucket.ext_toNat (by rw [Shard.reference_reach, Shard.reference_reach]; rfl)
        · rw [if_neg hlead]
  · rw [if_neg horg]; rfl

/-- The reference of the shard of a series, if its organization has shards. -/
def reference? (c : KeyCache) (key : MetricKey) : Option Nat :=
  (c.orgs[key.org]?).map fun cache => (cache.shardAt key.key).reference.toNat

/-- A touch finds what is known, unless it is too far behind the reference and the sighting is stale
for it. -/
theorem finds_iff_of_knows {c : KeyCache} (hc : c.Uniform) {now : Timestamp} {key : MetricKey}
    (h : c.Knows key) : c.Finds now key ↔
      ¬ ((∃ r, c.reference? key = some r ∧ r + 255 < (Bucket.ofTimestamp now).toNat)
        ∧ ∃ n, c.lastSeen key = some n ∧ n < (Bucket.ofTimestamp now).toNat - c.stale.toNat) := by
  obtain ⟨n, hn⟩ := Option.isSome_iff_exists.mp h
  have hstale := c.stale.toNat_le
  cases hget : c.orgs[key.org]? with
  | none => rw [lastSeen, hget] at hn; cases hn
  | some cache =>
      have href : (cache.shardAt key.key).reference.toNat ≤ n := by
        rw [lastSeen, hget] at hn
        exact Shard.reference_le_of_lastSeen hn
      simp only [finds_iff, reference?, origin_eq hc, orgCache_of_some hget, hget, hn,
        Option.map_some, Option.some.injEq, exists_eq_left', maxAge]
      split <;> omega

/-! ## One call -/

/-- **A touch is found at its own time, and changes nothing else that is found then.** -/
theorem finds_touch_iff {c : KeyCache} (hc : c.Uniform) {key other : MetricKey}
    {now : Timestamp} :
    (c.touch key now).2.Finds now other ↔
      slotOf c.shardCount other = slotOf c.shardCount key ∨ c.Finds now other := by
  rw [finds_iff, origin_touch hc, lastSeen_touch hc, finds_iff]
  by_cases hslot : slotOf c.shardCount other = slotOf c.shardCount key
  · -- the sighting is at the origin of its shard or behind it
    rw [if_pos hslot, origin_congr hc (sameShard_of_slotOf_eq hslot)]
    exact iff_of_true ⟨_, rfl, Nat.le_max_right _ _⟩ (Or.inl hslot)
  · rw [if_neg hslot, or_iff_right hslot]
    split
    case isTrue hshard =>
      rw [origin_congr hc hshard]
      simp only [Option.filter_eq_some_iff, decide_eq_true_eq]
      constructor
      · rintro ⟨n, ⟨hn, hle⟩, -⟩; exact ⟨n, hn, hle⟩
      · rintro ⟨n, hn, hle⟩; exact ⟨n, ⟨hn, hle⟩, hle⟩
    case isFalse => rfl

/-- A touch loses what the first touch of that time in its shard would not find. -/
theorem knows_touch_iff {c : KeyCache} (hc : c.Uniform) {key other : MetricKey}
    {now : Timestamp} :
    (c.touch key now).2.Knows other ↔
      slotOf c.shardCount other = slotOf c.shardCount key
        ∨ c.Knows other ∧ (SameShard c.shardCount other key → c.Finds now other) := by
  rw [Knows, lastSeen_touch hc]
  by_cases hslot : slotOf c.shardCount other = slotOf c.shardCount key
  · rw [if_pos hslot]; exact iff_of_true rfl (Or.inl hslot)
  · rw [if_neg hslot, or_iff_right hslot]
    split
    case isTrue hshard =>
      have hsame : SameShard c.shardCount other key := hshard
      rw [Knows, imp_iff_right hsame, finds_iff, origin_congr hc hsame]
      cases c.lastSeen other with
      | none => simp
      | some n => simp [Option.filter_some]
    case isFalse hshard =>
      exact ⟨fun h => ⟨h, fun hsame => absurd hsame hshard⟩, And.left⟩

theorem finds_forget_iff {c : KeyCache} (hc : c.Uniform) {key other : MetricKey}
    {now : Timestamp} :
    (c.forget key).2.Finds now other ↔
      slotOf c.shardCount other ≠ slotOf c.shardCount key ∧ c.Finds now other := by
  rw [finds_iff, origin_forget hc, lastSeen_forget hc, finds_iff]
  by_cases hslot : slotOf c.shardCount other = slotOf c.shardCount key
  · rw [if_pos hslot]; simp [hslot]
  · rw [if_neg hslot]; simp [hslot]

/-! ## Many calls -/

theorem finds_run_touches_iff {c : KeyCache} (hc : c.Uniform) {now : Timestamp}
    {keys : List MetricKey} {other : MetricKey} :
    (c.run (touches now keys)).Finds now other ↔
      (∃ k ∈ keys, slotOf c.shardCount other = slotOf c.shardCount k) ∨ c.Finds now other := by
  induction keys generalizing c with
  | nil => simp [touches, run]
  | cons k rest ih =>
      have hstep : (c.run (touches now (k :: rest))).Finds now other ↔
          ((c.touch k now).2.run (touches now rest)).Finds now other := Iff.rfl
      rw [hstep, ih (uniform_touch hc k now), shardCount_touch, finds_touch_iff hc]
      simp only [List.mem_cons, exists_eq_or_imp]
      rw [or_left_comm, or_assoc]

/-- **What touches of one moment leave**: their slots, and of the shards that they come to what the
first of them would find. -/
theorem knows_run_touches_iff {c : KeyCache} (hc : c.Uniform) {now : Timestamp}
    {keys : List MetricKey} {other : MetricKey} :
    (c.run (touches now keys)).Knows other ↔
      (∃ k ∈ keys, slotOf c.shardCount other = slotOf c.shardCount k)
        ∨ c.Knows other ∧ ((∃ k ∈ keys, SameShard c.shardCount other k) → c.Finds now other) := by
  induction keys generalizing c with
  | nil => simp [touches, run]
  | cons k rest ih =>
      have hstep : (c.run (touches now (k :: rest))).Knows other ↔
          ((c.touch k now).2.run (touches now rest)).Knows other := Iff.rfl
      rw [hstep, ih (uniform_touch hc k now), shardCount_touch, knows_touch_iff hc,
        finds_touch_iff hc]
      simp only [List.mem_cons, exists_eq_or_imp]
      by_cases hslot : slotOf c.shardCount other = slotOf c.shardCount k
      · simp only [hslot, true_or, or_true, true_and, imp_true_iff]
      · simp only [hslot, false_or, or_imp, and_assoc]

theorem finds_run_forgets_iff {c : KeyCache} (hc : c.Uniform) {now : Timestamp}
    {keys : List MetricKey} {other : MetricKey} :
    (c.run (keys.map .forget)).Finds now other ↔
      (∀ k ∈ keys, slotOf c.shardCount other ≠ slotOf c.shardCount k) ∧ c.Finds now other := by
  induction keys generalizing c with
  | nil => simp [run]
  | cons k rest ih =>
      have hstep : (c.run ((k :: rest).map .forget)).Finds now other ↔
          ((c.forget k).2.run (rest.map .forget)).Finds now other := Iff.rfl
      rw [hstep, ih (uniform_forget hc k), shardCount_forget, finds_forget_iff hc,
        List.forall_mem_cons, and_left_comm, and_assoc]

end KeyCache

end MetricGateway.Novelty
