import MetricGateway.Proofs.Novelty.Cache

/-!
# The novelty window

The cache is asked to remember a series for the stale threshold, and it does so
to the bucket: after a touch the series is known for as long as all calls lie
within the threshold, it is gone after a prune beyond it, and even without any
prune it is gone to a touch further away than the largest age.

The argument follows one slot through a run. At its touch the sighting is the
bucket of the touch, because a clock that never goes back keeps every reference
at or before it. From then on, calls on other slots can only keep that sighting
or drop it (`lastSeen_of_apply`), and they keep it as long as they are not
further away than the threshold (`lastSeen_apply`).
-/

namespace MetricGateway.Novelty

/-- A call of the cache. -/
inductive Call where
  | touch (key : MetricKey) (now : Timestamp)
  | forget (key : MetricKey)
  | prune (now : Timestamp)
  deriving DecidableEq, Repr

namespace Call

/-- What a call leaves of a cache. -/
def apply (c : KeyCache) : Call → KeyCache
  | touch key now => (c.touch key now).2
  | forget key => (c.forget key).2
  | prune now => (c.prune now).2

/-- The time of a call. Forgetting takes none. -/
def time? : Call → Option Timestamp
  | touch _ now => some now
  | forget _ => none
  | prune now => some now

/-- The series that a call names. -/
def key? : Call → Option MetricKey
  | touch key _ => some key
  | forget key => some key
  | prune _ => none

/-- A call that does not name a series of a slot. -/
def Spares (call : Call) (shardCount : Nat) (slot : Slot) : Prop :=
  ∀ key, call.key? = some key → slotOf shardCount key ≠ slot

end Call

/-- The times of calls, in seconds. -/
def secondsOf (calls : List Call) : List Nat :=
  calls.filterMap fun call => call.time?.map (·.seconds.toNat)

theorem mem_secondsOf {calls : List Call} (call : Call) {now : Timestamp} (h : call ∈ calls)
    (htime : call.time? = some now) : now.seconds.toNat ∈ secondsOf calls :=
  List.mem_filterMap.mpr ⟨call, h, by rw [htime]; rfl⟩

theorem toNat_ofTimestamp_le (now : Timestamp) :
    (Bucket.ofTimestamp now).toNat ≤ now.seconds.toNat / 600 := by
  rw [Bucket.ofTimestamp, Bucket.toNat_clamp, bucketSeconds]; omega

theorem toNat_ofTimestamp {now : Timestamp} (h : now.seconds.toNat < 600 * 2 ^ 32) :
    (Bucket.ofTimestamp now).toNat = now.seconds.toNat / 600 := by
  rw [Bucket.ofTimestamp, Bucket.toNat_clamp, bucketSeconds, lastBucket]; omega

namespace KeyCache

/-- What calls leave of a cache, one after the other. -/
def run (c : KeyCache) (calls : List Call) : KeyCache := calls.foldl Call.apply c

theorem run_append (c : KeyCache) (calls later : List Call) :
    c.run (calls ++ later) = (c.run calls).run later := List.foldl_append

/-! ## What no call changes -/

@[simp] theorem shardCount_apply (c : KeyCache) (call : Call) :
    (call.apply c).shardCount = c.shardCount := by
  cases call <;> simp [Call.apply]

@[simp] theorem stale_apply (c : KeyCache) (call : Call) : (call.apply c).stale = c.stale := by
  cases call <;> simp [Call.apply]

theorem uniform_apply {c : KeyCache} (hc : c.Uniform) (call : Call) : (call.apply c).Uniform := by
  cases call with
  | touch key now => exact uniform_touch hc key now
  | forget key => exact uniform_forget hc key
  | prune now => exact uniform_prune hc now

@[simp] theorem shardCount_run (c : KeyCache) (calls : List Call) :
    (c.run calls).shardCount = c.shardCount := by
  induction calls generalizing c with
  | nil => rfl
  | cons call rest ih => exact (ih _).trans (shardCount_apply c call)

@[simp] theorem stale_run (c : KeyCache) (calls : List Call) : (c.run calls).stale = c.stale := by
  induction calls generalizing c with
  | nil => rfl
  | cons call rest ih => exact (ih _).trans (stale_apply c call)

theorem uniform_run {c : KeyCache} (hc : c.Uniform) (calls : List Call) :
    (c.run calls).Uniform := by
  induction calls generalizing c with
  | nil => exact hc
  | cons call rest ih => exact ih (uniform_apply hc call)

/-! ## References follow the clock -/

/-- No reference lies behind a bucket. -/
def Within (c : KeyCache) (n : Nat) : Prop := c.AllShards fun shard => shard.reference.toNat ≤ n

theorem within_apply {c : KeyCache} {n : Nat} (hc : c.Within n) (call : Call)
    (htime : ∀ now, call.time? = some now → (Bucket.ofTimestamp now).toNat ≤ n) :
    (call.apply c).Within n := by
  cases call with
  | touch key now =>
      have hnow := htime now rfl
      refine allShards_touch hc hnow fun s hs => ?_
      rw [Shard.reference_touch, Shard.reference_reach]
      split <;> omega
  | forget key => exact allShards_forget hc fun s hs => hs
  | prune now =>
      have hnow := htime now rfl
      refine allShards_prune hc fun s hs => ?_
      rw [Shard.reference_prune]
      omega

theorem within_run {c : KeyCache} {n : Nat} (hc : c.Within n) (calls : List Call)
    (htime : ∀ call ∈ calls, ∀ now, call.time? = some now → (Bucket.ofTimestamp now).toNat ≤ n) :
    (c.run calls).Within n := by
  induction calls generalizing c with
  | nil => exact hc
  | cons call rest ih =>
      refine ih (within_apply hc call (htime call (List.mem_cons_self ..))) fun call hmem => ?_
      exact htime call (List.mem_cons_of_mem _ hmem)

/-- The shard that a touch works on, and where its reference is moved to. -/
theorem origin_eq {c : KeyCache} (hc : c.Uniform) (key : MetricKey) (time : Bucket) :
    c.origin key time =
      if maxAge < time.toNat - ((c.orgCache key.org time).shardAt key.key).reference.toNat
      then time.toNat - c.stale.toNat
      else ((c.orgCache key.org time).shardAt key.key).reference.toNat := by
  have hstale : ((c.orgCache key.org time).shardAt key.key).stale = c.stale :=
    forall_mem_orgCache hc.stale rfl _ _ (OrgCache.shardAt_mem ..)
  rw [origin, Shard.reference_reach, hstale]

theorem origin_le_of_within {c : KeyCache} (hc : c.Uniform) {key : MetricKey} {time : Bucket}
    {n : Nat} (hwithin : c.Within n) (htime : time.toNat ≤ n) : c.origin key time ≤ n := by
  have href : ((c.orgCache key.org time).shardAt key.key).reference.toNat ≤ n :=
    forall_mem_orgCache hwithin htime _ _ (OrgCache.shardAt_mem ..)
  rw [origin_eq hc]
  split <;> omega

/-- A touch keeps what it finds in its shard, unless that is stale. -/
theorem origin_le {c : KeyCache} (hc : c.Uniform) {key other : MetricKey} {time : Bucket} {n : Nat}
    (horg : other.org = key.org)
    (hlead : other.key.leading.toNat % c.shardCount = key.key.leading.toNat % c.shardCount)
    (hn : c.lastSeen other = some n) (hfresh : time.toNat - c.stale.toNat ≤ n) :
    c.origin key time ≤ n := by
  have hshard : (c.orgCache key.org time).shardAt other.key =
      (c.orgCache key.org time).shardAt key.key :=
    OrgCache.shardAt_congr (by rw [size_orgCache hc]; exact hlead)
  -- the sighting lies at or behind the old reference, and is fresh for the new one
  rw [← lastSeen_orgCache c other time, horg, OrgCache.lastSeen_eq, hshard] at hn
  have href := Shard.reference_le_of_lastSeen hn
  rw [origin_eq hc]
  split <;> omega

/-- A touch beyond the largest age does not find its key. -/
theorem lt_origin {c : KeyCache} (hc : c.Uniform) {key : MetricKey} {time : Bucket} {n : Nat}
    (hn : c.lastSeen key = some n) (hfar : n + maxAge < time.toNat) :
    n < c.origin key time := by
  have hstale := c.stale.toNat_le
  rw [← lastSeen_orgCache c key time, OrgCache.lastSeen_eq] at hn
  have href := Shard.reference_le_of_lastSeen hn
  -- so far away the reference moves, to within the threshold of the touch
  rw [origin_eq hc, if_pos (by omega)]
  omega

/-! ## One slot through a run -/

/-- **A sighting is exact** if no reference has gone ahead of the clock. -/
theorem lastSeen_touch_self {c : KeyCache} (hc : c.Uniform) {key other : MetricKey}
    {now : Timestamp} (hslot : slotOf c.shardCount other = slotOf c.shardCount key)
    (hwithin : c.Within (Bucket.ofTimestamp now).toNat) :
    (c.touch key now).2.lastSeen other = some (Bucket.ofTimestamp now).toNat := by
  have horigin : c.origin key (.ofTimestamp now) ≤ (Bucket.ofTimestamp now).toNat :=
    origin_le_of_within hc hwithin (Nat.le_refl _)
  rw [lastSeen_touch hc, if_pos hslot, Nat.max_eq_left horigin]

/-- Calls on other slots make up no sightings and move none. -/
theorem lastSeen_of_apply {c : KeyCache} (hc : c.Uniform) {call : Call} {key : MetricKey} {n : Nat}
    (hspares : call.Spares c.shardCount (slotOf c.shardCount key))
    (hn : (call.apply c).lastSeen key = some n) : c.lastSeen key = some n := by
  cases call with
  | touch other now =>
      rw [Call.apply, lastSeen_touch hc, if_neg (Ne.symm (hspares other rfl))] at hn
      split at hn
      · exact (Option.filter_eq_some_iff.mp hn).1
      · exact hn
  | forget other =>
      rw [Call.apply, lastSeen_forget hc, if_neg (Ne.symm (hspares other rfl))] at hn
      exact hn
  | prune now =>
      rw [Call.apply, lastSeen_prune hc] at hn
      exact (Option.filter_eq_some_iff.mp hn).1

/-- **Calls on other slots keep a sighting that is not stale for them.** -/
theorem lastSeen_apply {c : KeyCache} (hc : c.Uniform) {call : Call} {key : MetricKey} {n : Nat}
    (hspares : call.Spares c.shardCount (slotOf c.shardCount key))
    (hn : c.lastSeen key = some n)
    (hfresh : ∀ now, call.time? = some now → (Bucket.ofTimestamp now).toNat ≤ n + c.stale.toNat) :
    (call.apply c).lastSeen key = some n := by
  cases call with
  | touch other now =>
      have hnow := hfresh now rfl
      rw [Call.apply, lastSeen_touch hc, if_neg (Ne.symm (hspares other rfl))]
      split
      · -- a touch of the same shard may move its reference, but not past what is fresh
        rename_i hsame
        have horigin : c.origin other (.ofTimestamp now) ≤ n :=
          origin_le hc hsame.1 hsame.2 hn (by omega)
        rw [hn, Option.filter_some, if_pos (by simpa using horigin)]
      · exact hn
  | forget other =>
      rw [Call.apply, lastSeen_forget hc, if_neg (Ne.symm (hspares other rfl))]
      exact hn
  | prune now =>
      have hnow := hfresh now rfl
      rw [Call.apply, lastSeen_prune hc, hn, Option.filter_some, if_pos (by simp; omega)]

theorem lastSeen_of_run {c : KeyCache} (hc : c.Uniform) {calls : List Call} {key : MetricKey}
    {n : Nat} (hspares : ∀ call ∈ calls, call.Spares c.shardCount (slotOf c.shardCount key))
    (hn : (c.run calls).lastSeen key = some n) : c.lastSeen key = some n := by
  induction calls generalizing c with
  | nil => exact hn
  | cons call rest ih =>
      refine lastSeen_of_apply hc (hspares call (List.mem_cons_self ..)) ?_
      refine ih (uniform_apply hc call) (fun other hmem => ?_) hn
      rw [shardCount_apply]
      exact hspares other (List.mem_cons_of_mem _ hmem)

theorem lastSeen_run {c : KeyCache} (hc : c.Uniform) {calls : List Call} {key : MetricKey}
    {n : Nat} (hspares : ∀ call ∈ calls, call.Spares c.shardCount (slotOf c.shardCount key))
    (hn : c.lastSeen key = some n)
    (hfresh : ∀ call ∈ calls, ∀ now, call.time? = some now →
      (Bucket.ofTimestamp now).toNat ≤ n + c.stale.toNat) :
    (c.run calls).lastSeen key = some n := by
  induction calls generalizing c with
  | nil => exact hn
  | cons call rest ih =>
      have hcall := lastSeen_apply hc (hspares call (List.mem_cons_self ..)) hn
        (hfresh call (List.mem_cons_self ..))
      refine ih (uniform_apply hc call) (fun other hmem => ?_) hcall fun other hmem => ?_
      · rw [shardCount_apply]
        exact hspares other (List.mem_cons_of_mem _ hmem)
      · rw [stale_apply]
        exact hfresh other (List.mem_cons_of_mem _ hmem)

/-- **A stale sighting does not survive a prune**, wherever in the run the prune stands. -/
theorem lastSeen_run_of_prune {c : KeyCache} (hc : c.Uniform) {calls : List Call}
    {key : MetricKey} {n : Nat} {now : Timestamp}
    (hspares : ∀ call ∈ calls, call.Spares c.shardCount (slotOf c.shardCount key))
    (hn : c.lastSeen key = some n) (hprune : .prune now ∈ calls)
    (hstale : n + c.stale.toNat < (Bucket.ofTimestamp now).toNat) :
    (c.run calls).lastSeen key = none := by
  obtain ⟨before, after, rfl⟩ := List.append_of_mem hprune
  cases hlast : (c.run (before ++ .prune now :: after)).lastSeen key with
  | none => rfl
  | some m =>
      exfalso
      rw [run_append] at hlast
      have hbefore := uniform_run hc before
      -- what is there at the end was there before the prune and was kept by it
      have hkept : ((c.run before).prune now).2.lastSeen key = some m := by
        refine lastSeen_of_run (uniform_prune hbefore now) (fun call hmem => ?_) hlast
        rw [shardCount_prune, shardCount_run]
        exact hspares call (by simp [hmem])
      rw [lastSeen_prune hbefore, stale_run] at hkept
      obtain ⟨hm, hle⟩ := Option.filter_eq_some_iff.mp hkept
      have hold := lastSeen_of_run hc (fun call hmem => hspares call (by simp [hmem])) hm
      rw [hn, Option.some.injEq] at hold
      simp only [decide_eq_true_eq] at hle
      omega

/-! ## What the next call answers -/

theorem touch_of_fresh {c : KeyCache} (hc : c.Uniform) {key : MetricKey} {n : Nat}
    {now : Timestamp} (hn : c.lastSeen key = some n)
    (hfresh : (Bucket.ofTimestamp now).toNat ≤ n + c.stale.toNat) : (c.touch key now).1 = true := by
  have horigin : c.origin key (.ofTimestamp now) ≤ n := origin_le hc rfl rfl hn (by omega)
  rw [touch_fst, hn, Option.filter_some, if_pos (by simpa using horigin)]
  rfl

theorem touch_of_far {c : KeyCache} (hc : c.Uniform) {key : MetricKey} {now : Timestamp}
    (hfar : ∀ n, c.lastSeen key = some n → n + maxAge < (Bucket.ofTimestamp now).toNat) :
    (c.touch key now).1 = false := by
  rw [touch_fst]
  cases hn : c.lastSeen key with
  | none => rfl
  | some n =>
      have := lt_origin hc hn (hfar n hn)
      rw [Option.filter_some, if_neg (by simpa using this)]
      rfl

/-- After a run with a clock that never goes back, the slot touched last has been seen in the
bucket of that touch. -/
theorem lastSeen_run_touch {c : KeyCache} (hc : c.Uniform) (hwithin : c.Within 0)
    {before : List Call} {key other : MetricKey} {touched : Timestamp}
    (hslot : slotOf c.shardCount other = slotOf c.shardCount key)
    (hclock : ∀ n ∈ secondsOf before, n ≤ touched.seconds.toNat) :
    (c.run (before ++ [.touch key touched])).lastSeen other =
      some (Bucket.ofTimestamp touched).toNat := by
  have hbehind : (c.run before).Within (Bucket.ofTimestamp touched).toNat := by
    refine within_run (fun org cache hget shard hmem => ?_) before fun call hmem now htime => ?_
    · exact Nat.le_trans (hwithin org cache hget shard hmem) (Nat.zero_le _)
    · have := hclock _ (mem_secondsOf call hmem htime)
      rw [Bucket.ofTimestamp, Bucket.ofTimestamp, Bucket.toNat_clamp, Bucket.toNat_clamp,
        bucketSeconds]
      omega
  rw [run_append]
  exact lastSeen_touch_self (uniform_run hc before) (by rw [shardCount_run]; exact hslot) hbehind

/-- **From a sighting on**, for as long as its slot is not named again: what the next call of
the slot answers, in buckets. -/
theorem answers_of_seen {c : KeyCache} (hc : c.Uniform) {since : List Call} {key : MetricKey}
    {n : Nat} (hspares : ∀ call ∈ since, call.Spares c.shardCount (slotOf c.shardCount key))
    (hn : c.lastSeen key = some n) :
    ((∀ call ∈ since, ∀ now, call.time? = some now →
        (Bucket.ofTimestamp now).toNat ≤ n + c.stale.toNat) →
      ((c.run since).forget key).1 = true
      ∧ ∀ now, (Bucket.ofTimestamp now).toNat ≤ n + c.stale.toNat →
          ((c.run since).touch key now).1 = true)
    ∧ (∀ now, .prune now ∈ since → n + c.stale.toNat < (Bucket.ofTimestamp now).toNat →
      ((c.run since).forget key).1 = false ∧ ∀ later, ((c.run since).touch key later).1 = false)
    ∧ ∀ now, n + maxAge < (Bucket.ofTimestamp now).toNat →
        ((c.run since).touch key now).1 = false := by
  have hrun := uniform_run hc since
  refine ⟨fun hnear => ?_, fun now hprune hfar => ?_, fun now hfar => ?_⟩
  · -- near calls keep the sighting
    have hkept := lastSeen_run hc hspares hn hnear
    refine ⟨by rw [forget_fst, hkept]; rfl, fun now hnow => ?_⟩
    exact touch_of_fresh hrun hkept (by rw [stale_run]; exact hnow)
  · have hgone := lastSeen_run_of_prune hc hspares hn hprune hfar
    refine ⟨by rw [forget_fst, hgone]; rfl, fun later => ?_⟩
    exact touch_of_far hrun fun m hm => by rw [hgone] at hm; cases hm
  · -- whether or not the sighting is still there, it is too old for this touch
    refine touch_of_far hrun fun m hm => ?_
    have hold := lastSeen_of_run hc hspares hm
    rw [hn, Option.some.injEq] at hold
    omega

/--
**The novelty window is exact to the bucket.**

Take any cache that the configuration allows, any run of calls whose clock never
goes back, and any slot, last touched in second `s` and not named since.

* While no call is further away than the stale threshold, counted in buckets (and
  so in particular in seconds), the slot is present: the next call finds it.
* Once a prune has been further away, it is absent.
* A touch more than 255 buckets away does not find it, pruned or not.
-/
theorem window_exact (config : CacheConfig) (hvalid : config.validate = .ok ())
    (before since : List Call) (key : MetricKey) (touched : Timestamp)
    (hclock : (secondsOf (before ++ .touch key touched :: since)).Pairwise (· ≤ ·))
    (hrange : ∀ n ∈ secondsOf (before ++ .touch key touched :: since), n < 600 * 2 ^ 32)
    (hspares : ∀ call ∈ since, call.Spares config.shardCount (slotOf config.shardCount key)) :
    ∃ fresh, ofConfig config = .ok fresh ∧
      let cache := fresh.run (before ++ .touch key touched :: since)
      let window := config.staleThreshold.seconds / 600
      let s := touched.seconds.toNat
      ∀ other, slotOf config.shardCount other = slotOf config.shardCount key →
        ((∀ n ∈ secondsOf since, n / 600 ≤ s / 600 + window) →
          (cache.forget other).1 = true ∧ ∀ now : Timestamp,
            now.seconds.toNat / 600 ≤ s / 600 + window → (cache.touch other now).1 = true)
        ∧ ((∀ n ∈ secondsOf since, n ≤ s + 600 * window) →
          (cache.forget other).1 = true ∧ ∀ now : Timestamp,
            now.seconds.toNat ≤ s + 600 * window → (cache.touch other now).1 = true)
        ∧ ((∃ now, .prune now ∈ since ∧ s / 600 + window < now.seconds.toNat / 600) →
          (cache.forget other).1 = false ∧ ∀ now, (cache.touch other now).1 = false)
        ∧ ∀ now : Timestamp, now.seconds.toNat < 600 * 2 ^ 32 →
            s / 600 + 255 < now.seconds.toNat / 600 → (cache.touch other now).1 = false := by
  obtain ⟨stale, hstale, hpos, hfresh⟩ := ofConfig_of_validate hvalid
  refine ⟨_, hfresh, ?_⟩
  generalize hnew : KeyCache.mk stale config.pruneInterval config.shardCount ∅ = fresh
  intro cache window s other hslot
  have horgs : fresh.orgs = ∅ := by rw [← hnew]
  have hcount : fresh.shardCount = config.shardCount := by rw [← hnew]
  have hfreshUniform : fresh.Uniform := uniform_of_orgs_empty horgs (by rw [hcount]; exact hpos)
  have hs : (Bucket.ofTimestamp touched).toNat = s / 600 :=
    toNat_ofTimestamp (hrange _ (mem_secondsOf (.touch key touched) (by simp) rfl))
  have hbehind : ∀ n ∈ secondsOf before, n ≤ s := by
    intro n hn
    rw [secondsOf, List.filterMap_append] at hclock
    exact (List.pairwise_append.mp hclock).2.2 n hn s
      (mem_secondsOf (.touch key touched) (List.mem_cons_self ..) rfl)
  -- the run is cut behind the touch, where the sighting is known
  generalize hmid : fresh.run (before ++ [.touch key touched]) = mid
  have hcache : cache = mid.run since := by
    rw [← hmid, ← run_append, List.append_assoc]; rfl
  have hmidCount : mid.shardCount = config.shardCount := by rw [← hmid, shardCount_run, hcount]
  have hmidStale : mid.stale.toNat = window := by rw [← hmid, stale_run, ← hnew]; exact hstale
  have hseen : mid.lastSeen other = some (s / 600) := by
    rw [← hmid, ← hs]
    exact lastSeen_run_touch hfreshUniform (allShards_of_orgs_empty horgs _)
      (by rw [hcount]; exact hslot) hbehind
  obtain ⟨hpresent, habsent, hlost⟩ := answers_of_seen (hmid ▸ uniform_run hfreshUniform _)
    (by rw [hmidCount, hslot]; exact hspares) hseen
  rw [← hcache, hmidStale] at hpresent habsent
  rw [← hcache] at hlost
  have hbuckets : (∀ n ∈ secondsOf since, n / 600 ≤ s / 600 + window) →
      (cache.forget other).1 = true ∧ ∀ now : Timestamp,
        now.seconds.toNat / 600 ≤ s / 600 + window → (cache.touch other now).1 = true := by
    intro hnear
    obtain ⟨hforget, htouch⟩ := hpresent fun call hmem now htime =>
      Nat.le_trans (toNat_ofTimestamp_le now) (hnear _ (mem_secondsOf call hmem htime))
    exact ⟨hforget, fun now hnow => htouch now (Nat.le_trans (toNat_ofTimestamp_le now) hnow)⟩
  refine ⟨hbuckets, fun hnear => ?_, fun ⟨now, hprune, hfar⟩ => ?_, fun now hnow hfar => ?_⟩
  · -- seconds within the threshold are buckets within it
    obtain ⟨hforget, htouch⟩ := hbuckets fun n hn => by have := hnear n hn; omega
    exact ⟨hforget, fun now hnow => htouch now (by omega)⟩
  · refine habsent now hprune ?_
    rwa [toNat_ofTimestamp (hrange _ (mem_secondsOf (.prune now) (by simp [hprune]) rfl))]
  · refine hlost now ?_
    rwa [toNat_ofTimestamp hnow, maxAge]

/-- An organization that a prune has removed and a touch has set up again: six hours after that
touch its series is still known, although another series has been touched and pruned meanwhile. -/
theorem window_exact_of_removed_org :
    ∃ fresh, ofConfig {} = .ok fresh ∧
      ((fresh.run [.touch ⟨⟨7⟩, ⟨.replicate 16 1⟩⟩ ⟨0⟩, .prune ⟨30000⟩,
          .touch ⟨⟨7⟩, ⟨.replicate 16 1⟩⟩ ⟨30600⟩, .touch ⟨⟨7⟩, ⟨.replicate 16 2⟩⟩ ⟨50000⟩,
          .prune ⟨52200⟩]).touch ⟨⟨7⟩, ⟨.replicate 16 1⟩⟩ ⟨52799⟩).1 = true := by
  obtain ⟨fresh, hfresh, h⟩ := window_exact {} rfl
    [.touch ⟨⟨7⟩, ⟨.replicate 16 1⟩⟩ ⟨0⟩, .prune ⟨30000⟩]
    [.touch ⟨⟨7⟩, ⟨.replicate 16 2⟩⟩ ⟨50000⟩, .prune ⟨52200⟩]
    ⟨⟨7⟩, ⟨.replicate 16 1⟩⟩ ⟨30600⟩ (by decide) (by decide) (by
      intro call hmem named hnamed
      simp only [List.mem_cons, List.not_mem_nil, or_false] at hmem
      rcases hmem with rfl | rfl
      · cases hnamed; decide
      · cases hnamed)
  exact ⟨fresh, hfresh, ((h _ rfl).1 (by decide)).2 ⟨52799⟩ (by decide)⟩

end KeyCache

end MetricGateway.Novelty
