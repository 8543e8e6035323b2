import MetricGateway.Proofs.Novelty.Count

/-!
# What a prune reports

A prune goes through the organizations one after the other. It drops what is stale
from their shards, adds up the keys that are left, and removes an organization if
there are none. It is not told what has emptied the shards: forgets and touches may
have done so before.

So the keys are counted before the empty organizations are removed, and the
organizations after it. Both counts are of the same cache in the end, because an
organization that is removed has no keys to be counted.
-/

namespace MetricGateway.Novelty

/-- The bucket of a time, cut off at the last that there is. -/
theorem toNat_ofTimestamp_eq_min (now : Timestamp) :
    (Bucket.ofTimestamp now).toNat = min (now.seconds.toNat / 600) (2 ^ 32 - 1) := by
  rw [Bucket.ofTimestamp, Bucket.toNat_clamp]
  rfl

/-! ## Counting -/

/-- Empty organizations make no difference to the number of keys. -/
theorem foldl_size_filter (entries : List (OrgId × OrgCache)) (n : Nat) :
    (entries.filter fun entry => !entry.2.isEmpty).foldl (fun n entry => n + entry.2.size) n =
      entries.foldl (fun n entry => n + entry.2.size) n := by
  induction entries generalizing n with
  | nil => rfl
  | cons entry rest ih =>
      rw [List.foldl_cons, ← ih]
      by_cases hempty : entry.2.isEmpty = true
      · have hzero := (OrgCache.size_eq_zero_iff entry.2).mpr hempty
        rw [List.filter_cons_of_neg (by simp [hempty]), hzero, Nat.add_zero]
      · rw [List.filter_cons_of_pos (by simpa using hempty), List.foldl_cons]

/-- Counting the empty organizations tells how many others there are. -/
theorem foldl_isEmpty_add (entries : List (OrgId × OrgCache)) (n : Nat) :
    (entries.filter fun entry => !entry.2.isEmpty).length
        + entries.foldl (fun n entry => if entry.2.isEmpty then n + 1 else n) n =
      entries.length + n := by
  induction entries generalizing n with
  | nil => rfl
  | cons entry rest ih =>
      rw [List.foldl_cons, List.length_cons]
      by_cases hempty : entry.2.isEmpty = true
      · have hrest := ih (n + 1)
        rw [List.filter_cons_of_neg (by simp [hempty]), if_pos hempty]
        omega
      · have hrest := ih n
        rw [List.filter_cons_of_pos (by simpa using hempty), if_neg hempty, List.length_cons]
        omega

namespace KeyCache

/-- The organizations that a prune leaves, listed. -/
theorem toList_prune (c : KeyCache) (now : Timestamp) :
    (c.prune now).2.orgs.toList =
      (c.orgs.map fun _ cache => cache.prune (.ofTimestamp now)).toList.filter
        fun entry => !entry.2.isEmpty :=
  Std.ExtTreeMap.toList_filter

/-- **The keys that a prune reports are those that are left.** -/
theorem keys_prune (c : KeyCache) (now : Timestamp) :
    (c.prune now).1.keys = (c.prune now).2.size := by
  rw [size, Std.ExtTreeMap.foldl_eq_foldl_toList, toList_prune, foldl_size_filter]
  exact Std.ExtTreeMap.foldl_eq_foldl_toList

/-- **The organizations that a prune has removed are missing afterwards.** -/
theorem removedOrgs_prune (c : KeyCache) (now : Timestamp) :
    (c.prune now).2.orgCount + (c.prune now).1.removedOrgs = c.orgCount := by
  have hcounted := foldl_isEmpty_add
    (c.orgs.map fun _ cache => cache.prune (.ofTimestamp now)).toList 0
  have hreported : (c.prune now).1.removedOrgs =
      (c.orgs.map fun _ cache => cache.prune (.ofTimestamp now)).toList.foldl
        (fun n entry => if entry.2.isEmpty then n + 1 else n) 0 :=
    Std.ExtTreeMap.foldl_eq_foldl_toList
  rw [← toList_prune, Std.ExtTreeMap.length_toList, Std.ExtTreeMap.length_toList,
    Std.ExtTreeMap.size_map, ← hreported] at hcounted
  exact hcounted

/-- **Every organization that a prune leaves has an entry.** -/
theorem exists_seenAt_prune {c : KeyCache} {now : Timestamp} {org : OrgId}
    (h : org ∈ (c.prune now).2.orgs) :
    ∃ slot : Slot, slot.org = org ∧ (c.prune now).2.seenAt slot ≠ none := by
  have hget := Std.ExtTreeMap.getElem?_eq_some_getElem h
  generalize (c.prune now).2.orgs[org] = cache at hget
  have hkept := hget
  rw [orgs_prune, Option.filter_eq_some_iff] at hkept
  -- otherwise the organization would have been removed
  have hsome : ¬ ∀ i tail, cache.seenAt i tail = none := by
    rw [← OrgCache.isEmpty_iff_seenAt]
    simpa using hkept.2
  simp only [not_forall] at hsome
  obtain ⟨i, tail, hseen⟩ := hsome
  refine ⟨⟨org, i, tail⟩, rfl, ?_⟩
  rw [seenAt, hget, Option.bind_some]
  exact hseen

/-- A touch does not find a key of an organization that is not there. -/
theorem touch_fst_of_not_mem {c : KeyCache} {key : MetricKey} (h : key.org ∉ c.orgs)
    (now : Timestamp) : (c.touch key now).1 = false := by
  have hnone : c.lastSeen key = none := by
    rw [lastSeen, Std.ExtTreeMap.getElem?_eq_none h]
    rfl
  rw [touch_fst, hnone]
  rfl

/-- What a prune leaves of a cache and what it reports, where entries are stale that were last seen
before a threshold. -/
structure Accounted (threshold : Nat) (c : KeyCache) (report : PruneReport) (left : KeyCache) :
    Prop where
  /-- The entries are left that are not stale, each as it was last seen. -/
  entries : ∀ slot, left.seenAt slot = (c.seenAt slot).filter (threshold ≤ ·)
  /-- Only organizations with entries are left. -/
  nonempty : ∀ org ∈ left.orgs, ∃ slot : Slot, slot.org = org ∧ left.seenAt slot ≠ none
  keys : report.keys = left.size
  orgs : report.orgs = left.orgCount
  removed : left.orgCount + report.removedOrgs = c.orgCount
  /-- Series of organizations that are gone are new to the next touch. -/
  unseen : ∀ (key : MetricKey) (later : Timestamp), key.org ∉ left.orgs →
    (left.touch key later).1 = false

/-- **What a prune reports is what it leaves.**

Take any cache that was set up within its limits and has been used in any way since, with clocks that
may have gone back, and prune it at any time. Exactly the entries are left that were last seen at most
the stale threshold before the bucket of that time, each in the bucket in which it was seen. Every
organization that is left has an entry, and the report counts the keys and the organizations that are
left and the organizations that are gone. -/
theorem prune_reports_what_is_left {config : CacheConfig} {fresh : KeyCache}
    (h : ofConfig config = .ok fresh) (calls : List Call) (now : Timestamp) :
    Accounted
      (min (now.seconds.toNat / 600) (2 ^ 32 - 1) - config.staleThreshold.seconds / bucketSeconds)
      (fresh.run calls) ((fresh.run calls).prune now).1 ((fresh.run calls).prune now).2 := by
  obtain ⟨horgs, hcount⟩ := orgs_of_ofConfig h
  obtain ⟨hpos, hstale⟩ := limits_of_ofConfig h
  have huniform : (fresh.run calls).Uniform :=
    uniform_run (uniform_of_orgs_empty horgs (by omega)) calls
  refine ⟨fun slot => ?_, fun org => exists_seenAt_prune, keys_prune _ now, rfl,
    removedOrgs_prune _ now, fun key later hgone => touch_fst_of_not_mem hgone later⟩
  rw [seenAt_prune huniform, stale_run, hstale, toNat_ofTimestamp_eq_min]

/-- Seven hours after its only sighting the first organization is stale. The second has been seen
again two hours ago, and the third too, but that was forgotten. -/
theorem prune_reports_what_is_left_of_three :
    let fresh : KeyCache := ⟨.clamp 36, .ofSeconds 3600, 1, ∅⟩
    let c := fresh.run [.touch ⟨⟨1⟩, ⟨.replicate 16 1⟩⟩ ⟨0⟩, .touch ⟨⟨2⟩, ⟨.replicate 16 1⟩⟩ ⟨0⟩,
      .touch ⟨⟨2⟩, ⟨.replicate 16 2⟩⟩ ⟨18000⟩, .touch ⟨⟨3⟩, ⟨.replicate 16 1⟩⟩ ⟨18000⟩,
      .forget ⟨⟨3⟩, ⟨.replicate 16 1⟩⟩]
    ofConfig { shardCount := 1 } = .ok fresh ∧ (c.prune ⟨25200⟩).1 = ⟨1, 1, 2⟩
      ∧ (c.prune ⟨25200⟩).2.size = 1 ∧ (c.prune ⟨25200⟩).2.orgCount = 1 ∧ c.orgCount = 3 := by
  intro fresh c
  have hfresh : ofConfig { shardCount := 1 } = .ok fresh := rfl
  have hreport : (c.prune ⟨25200⟩).1 = ⟨1, 1, 2⟩ := by decide +kernel
  have haccounted := prune_reports_what_is_left hfresh
    [.touch ⟨⟨1⟩, ⟨.replicate 16 1⟩⟩ ⟨0⟩, .touch ⟨⟨2⟩, ⟨.replicate 16 1⟩⟩ ⟨0⟩,
      .touch ⟨⟨2⟩, ⟨.replicate 16 2⟩⟩ ⟨18000⟩, .touch ⟨⟨3⟩, ⟨.replicate 16 1⟩⟩ ⟨18000⟩,
      .forget ⟨⟨3⟩, ⟨.replicate 16 1⟩⟩] ⟨25200⟩
  have hkeys : (c.prune ⟨25200⟩).1.keys = (c.prune ⟨25200⟩).2.size := haccounted.keys
  have horgs : (c.prune ⟨25200⟩).1.orgs = (c.prune ⟨25200⟩).2.orgCount := haccounted.orgs
  have hremoved : (c.prune ⟨25200⟩).2.orgCount + (c.prune ⟨25200⟩).1.removedOrgs = c.orgCount :=
    haccounted.removed
  rw [hreport] at hkeys horgs hremoved
  rw [← horgs] at hremoved
  exact ⟨hfresh, hreport, hkeys.symm, horgs.symm, hremoved.symm⟩

end KeyCache

end MetricGateway.Novelty
