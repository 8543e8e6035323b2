import MetricGateway.Proofs.Novelty.Pruning

/-!
# Prunes one after the other

A prune moves the reference of every shard to where keys grow stale, unless it is
there or ahead already, and drops what lies behind. The second of two prunes finds
the references where the first has left them. Whichever is the later, every
reference ends at the threshold of the later one, and what lies before it is gone.
Ages are bytes and shrink twice on the way, but the bucket that reference and age
stand for stays the same.

An organization may be removed by the first prune already. It has no keys to show
to the second, which would have removed it as well.

So several prunes leave what the latest of them leaves on its own, wherever it
stands among the others, and a clock that goes back between two prunes does no harm.
-/

namespace MetricGateway

namespace Timestamp

/-- The later of two times. -/
def later (a b : Timestamp) : Timestamp := if a.seconds ≤ b.seconds then b else a

theorem toNat_later (a b : Timestamp) :
    (a.later b).seconds.toNat = max a.seconds.toNat b.seconds.toNat := by
  rw [later]
  split
  case isTrue h => exact (Nat.max_eq_right (UInt64.le_iff_toNat_le.mp h)).symm
  case isFalse h => exact (Nat.max_eq_left (by rw [UInt64.le_iff_toNat_le] at h; omega)).symm

theorem ext_toNat {a b : Timestamp} (h : a.seconds.toNat = b.seconds.toNat) : a = b :=
  congrArg mk (UInt64.toNat_inj.mp h)

theorem later_comm (a b : Timestamp) : a.later b = b.later a :=
  ext_toNat (by rw [toNat_later, toNat_later, Nat.max_comm])

theorem later_of_le {a b : Timestamp} (h : b.seconds ≤ a.seconds) : a.later b = a :=
  ext_toNat (by rw [toNat_later, Nat.max_eq_left (UInt64.le_iff_toNat_le.mp h)])

end Timestamp

namespace Novelty

/-- Buckets follow the clock, up to the last one. -/
theorem Bucket.ofTimestamp_later (a b : Timestamp) :
    ofTimestamp (a.later b) = (ofTimestamp a).later (ofTimestamp b) := by
  refine ext_toNat ?_
  simp only [toNat_later, ofTimestamp, toNat_clamp, Timestamp.toNat_later, bucketSeconds]
  omega

namespace Shard

/-- **Two prunes of a shard are one prune at the later time.** -/
theorem prune_prune (s : Shard) (a b : Bucket) : (s.prune a).prune b = s.prune (a.later b) := by
  refine ext_lastSeen (by simp) ?_ fun key => ?_
  · rw [reference_prune, reference_prune, reference_prune, stale_prune, Bucket.toNat_later]
    omega
  · rw [lastSeen_prune, lastSeen_prune, lastSeen_prune, stale_prune, Bucket.toNat_later,
      Option.filter_filter]
    congr 1
    funext n
    -- both thresholds have been passed if the later one has
    rw [← Bool.decide_and]
    exact decide_eq_decide.mpr (by omega)

theorem isEmpty_prune {s : Shard} (h : s.isEmpty = true) (now : Bucket) :
    (s.prune now).isEmpty = true := by
  rw [isEmpty_iff] at h ⊢
  intro key
  rw [lastSeen_prune, h key]
  rfl

end Shard

namespace OrgCache

theorem prune_prune (c : OrgCache) (a b : Bucket) : (c.prune a).prune b = c.prune (a.later b) := by
  refine ext_getElem? fun i => ?_
  simp only [prune, Array.getElem?_map, Option.map_map]
  exact congrArg (Option.map · _) (funext fun shard => Shard.prune_prune shard a b)

/-- A prune does not fill an organization that has no keys. -/
theorem isEmpty_prune {c : OrgCache} (h : c.isEmpty = true) (now : Bucket) :
    (c.prune now).isEmpty = true := by
  rw [isEmpty_iff] at h ⊢
  intro shard hmem
  obtain ⟨shard, hold, rfl⟩ := Array.mem_map.mp hmem
  exact Shard.isEmpty_prune (h shard hold) now

end OrgCache

namespace KeyCache

@[simp] theorem pruneInterval_prune (c : KeyCache) (now : Timestamp) :
    (c.prune now).2.pruneInterval = c.pruneInterval := rfl

/-- **Two prunes are one prune at the later time.** -/
theorem prune_prune (c : KeyCache) (a b : Timestamp) :
    ((c.prune a).2.prune b).2 = (c.prune (a.later b)).2 := by
  refine ext_orgs (by simp) (by simp) (by simp) fun org => ?_
  rw [orgs_prune, orgs_prune, orgs_prune, Bucket.ofTimestamp_later]
  cases c.orgs[org]? with
  | none => rfl
  | some cache =>
      rw [Option.map_some, Option.map_some, ← OrgCache.prune_prune]
      by_cases hempty : (cache.prune (.ofTimestamp a)).isEmpty = true
      · -- gone after the first prune, and without keys for the single one
        rw [Option.filter_some, if_neg (by simp [hempty]), Option.filter_some,
          if_neg (by simp [OrgCache.isEmpty_prune hempty])]
        rfl
      · rw [Option.filter_some, if_pos (by simpa using hempty)]
        rfl

/-- After a prune, a prune at an earlier time changes nothing. -/
theorem prune_of_le {c : KeyCache} {a b : Timestamp} (h : b.seconds ≤ a.seconds) :
    ((c.prune a).2.prune b).2 = (c.prune a).2 := by
  rw [prune_prune, Timestamp.later_of_le h]

/-- After a prune, any number of prunes at earlier times change nothing. -/
theorem run_prunes_of_le {c : KeyCache} {latest : Timestamp} {times : List Timestamp}
    (h : ∀ now ∈ times, now.seconds ≤ latest.seconds) :
    (c.prune latest).2.run (times.map .prune) = (c.prune latest).2 := by
  induction times with
  | nil => rfl
  | cons now rest ih =>
      have hnow := prune_of_le (c := c) (h now (List.mem_cons_self ..))
      have hrest := ih fun later hlater => h later (List.mem_cons_of_mem _ hlater)
      exact (congrArg (run · (rest.map .prune)) hnow).trans hrest

/-- **Prunes leave what the latest of them leaves**, whenever it comes. -/
theorem run_prunes (c : KeyCache) {latest : Timestamp} {times : List Timestamp}
    (hmem : latest ∈ times) (h : ∀ now ∈ times, now.seconds ≤ latest.seconds) :
    c.run (times.map .prune) = (c.prune latest).2 := by
  induction times generalizing c with
  | nil => cases hmem
  | cons now rest ih =>
      have hrest : ∀ other ∈ rest, other.seconds ≤ latest.seconds :=
        fun other hother => h other (List.mem_cons_of_mem _ hother)
      by_cases hlater : latest ∈ rest
      · -- the first prune is overtaken by the latest
        have hnow : now.later latest = latest := by
          rw [Timestamp.later_comm, Timestamp.later_of_le (h now (List.mem_cons_self ..))]
        exact (ih _ hlater hrest).trans (by rw [Call.apply, prune_prune, hnow])
      · obtain rfl : latest = now := (List.mem_cons.mp hmem).resolve_right hlater
        exact run_prunes_of_le hrest

/-- **Prunes compose to the latest one.**

Take any cache, whatever has been done with it, and any two times, in either order. Two prunes at
these times leave the same organizations with the same shards as one prune at the later of them: the
same references, keys and ages. So a repeated prune changes nothing, two prunes may change places,
and a prune after the clock has gone back changes nothing. The same holds of any number of prunes
in any order, which leave what the latest of them leaves. -/
theorem prunes_compose (c : KeyCache) (a b : Timestamp) :
    ((c.prune a).2.prune b).2 = (c.prune (a.later b)).2
      ∧ ((c.prune a).2.prune a).2 = (c.prune a).2
      ∧ ((c.prune a).2.prune b).2 = ((c.prune b).2.prune a).2
      ∧ (b.seconds ≤ a.seconds → ((c.prune a).2.prune b).2 = (c.prune a).2)
      ∧ ∀ (times : List Timestamp) (latest : Timestamp), latest ∈ times →
        (∀ now ∈ times, now.seconds ≤ latest.seconds) →
        c.run (times.map .prune) = (c.prune latest).2 :=
  ⟨prune_prune c a b, prune_of_le (UInt64.le_refl _),
    by rw [prune_prune, prune_prune, Timestamp.later_comm], prune_of_le,
    fun _ _ => run_prunes c⟩

/-- Two organizations have a key each, the first of them not seen for seven hours. Pruned once
between and once with a clock that has gone back, the cache is left as by the prune at seven hours
alone: the first organization is gone and the second has its key. -/
theorem prunes_compose_of_clock_back :
    let c := run ⟨.clamp 36, .ofSeconds 3600, 1, ∅⟩
      [.touch ⟨⟨1⟩, ⟨.replicate 16 1⟩⟩ ⟨0⟩, .touch ⟨⟨2⟩, ⟨.replicate 16 1⟩⟩ ⟨18000⟩]
    let left := (c.prune ⟨25200⟩).2
    c.run [.prune ⟨18000⟩, .prune ⟨25200⟩, .prune ⟨600⟩] = left ∧ (left.prune ⟨600⟩).2 = left
      ∧ c.orgCount = 2 ∧ left.orgCount = 1
      ∧ left.lastSeen ⟨⟨2⟩, ⟨.replicate 16 1⟩⟩ = some 30 := by
  intro c left
  obtain ⟨-, -, -, hback, hruns⟩ := prunes_compose c ⟨25200⟩ ⟨600⟩
  exact ⟨hruns [⟨18000⟩, ⟨25200⟩, ⟨600⟩] ⟨25200⟩ (by decide) (by decide), hback (by decide),
    by decide +kernel, by decide +kernel, by decide +kernel⟩

end KeyCache

end Novelty

end MetricGateway
