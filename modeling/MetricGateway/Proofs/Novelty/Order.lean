import MetricGateway.Proofs.Novelty.Moment

/-!
# Touches and forgets in any order

Touches of one time may change places. In one shard the first of them has moved
the reference as far as any of that time would, so both see the same reference,
and each writes the same age under its own key. In different shards, or in
different organizations, they have nothing to do with each other.

So what a batch leaves in the cache does not depend on the order of its metrics.
Nor does it depend on the order in which a batch that has failed forgets series:
forgets only erase, and may change places as well.
-/

namespace MetricGateway.Novelty

namespace Shard

/-- After a touch the reference is where the next touch of that time wants it. -/
theorem reach_touch (s : Shard) (key : SubKey) (time : Bucket) :
    (s.touch key time).2.reach time = (s.touch key time).2 := by
  have href := reference_reach s time
  have hstale := s.stale.toNat_le
  rw [reach, reference_touch, if_neg]
  split at href <;> omega

/-- **Touches of one time may change places.** -/
theorem touch_comm (s : Shard) (key other : SubKey) (time : Bucket) :
    ((s.touch key time).2.touch other time).2 = ((s.touch other time).2.touch key time).2 := by
  let reached := s.reach time
  let age := Age.between reached.reference time
  have htwice : ∀ a b : SubKey, ((s.touch a time).2.touch b time).2 =
      { reached with ages := (reached.ages.insert a age).insert b age } := by
    intro a b
    rw [touch, reach_touch]
    rfl
  rw [htwice, htwice]
  congr 1
  refine Std.ExtTreeMap.ext_getElem? fun k => ?_
  simp only [Std.ExtTreeMap.getElem?_insert]
  split <;> split <;> rfl

theorem forget_comm (s : Shard) (key other : SubKey) :
    ((s.forget key).2.forget other).2 = ((s.forget other).2.forget key).2 := by
  have hages : (s.ages.erase key).erase other = (s.ages.erase other).erase key := by
    refine Std.ExtTreeMap.ext_getElem? fun k => ?_
    simp only [Std.ExtTreeMap.getElem?_erase]
    split <;> split <;> rfl
  exact congrArg (Shard.mk s.stale s.reference) hages

end Shard

namespace OrgCache

theorem getElem?_onShard {α : Type} (c : OrgCache) (key : SeriesKey) (op : Shard → α × Shard)
    (i : Nat) :
    (c.onShard key op).2.shards[i]? =
      if key.leading.toNat % c.shards.size = i then some (op (c.shardAt key)).2
      else c.shards[i]? := by
  by_cases hi : i < c.shards.size
  · rw [Array.getElem?_eq_getElem (by rwa [size_onShard]), getElem_onShard _ hi,
      Array.getElem?_eq_getElem hi]
    split <;> rfl
  · have hkey := Nat.mod_lt key.leading.toNat c.nonempty
    rw [if_neg (by omega), Array.getElem?_eq_none (by rw [size_onShard]; omega),
      Array.getElem?_eq_none (by omega)]

/-- Operations that may change places on one shard may do so on all of them. -/
theorem onShard_comm {α β : Type} (c : OrgCache) (key other : SeriesKey) {op : Shard → α × Shard}
    {op' : Shard → β × Shard} (h : ∀ s, (op' (op s).2).2 = (op (op' s).2).2) :
    ((c.onShard key op).2.onShard other op').2 = ((c.onShard other op').2.onShard key op).2 := by
  refine ext_getElem? fun i => ?_
  simp only [getElem?_onShard, size_onShard, shardAt_onShard]
  by_cases hkey : key.leading.toNat % c.shards.size = i
  · by_cases hother : other.leading.toNat % c.shards.size = i
    · -- both work on this shard
      have hsame := shardAt_congr (hkey.trans hother.symm)
      simp only [hkey, hother, if_true, hsame, h]
    · simp only [hkey, hother, if_true, if_false, Ne.symm hother]
  · simp only [hkey, if_false]
    split
    case isTrue hother => simp only [hother, Ne.symm hkey, if_false]
    case isFalse => rfl

theorem touch_comm (c : OrgCache) (key other : SeriesKey) (time : Bucket) :
    ((c.touch key time).2.touch other time).2 = ((c.touch other time).2.touch key time).2 :=
  onShard_comm c key other fun s => Shard.touch_comm s key.tail other.tail time

theorem forget_comm (c : OrgCache) (key other : SeriesKey) :
    ((c.forget key).2.forget other).2 = ((c.forget other).2.forget key).2 :=
  onShard_comm c key other fun s => Shard.forget_comm s key.tail other.tail

end OrgCache

namespace KeyCache

theorem orgCache_touch (c : KeyCache) (key : MetricKey) (now : Timestamp) (org : OrgId)
    (time : Bucket) :
    (c.touch key now).2.orgCache org time =
      if org = key.org then
        ((c.orgCache key.org (.ofTimestamp now)).touch key.key (.ofTimestamp now)).2
      else c.orgCache org time := by
  rw [orgCache, orgs_touch]
  split <;> rfl

theorem touch_comm (c : KeyCache) (key other : MetricKey) (now : Timestamp) :
    ((c.touch key now).2.touch other now).2 = ((c.touch other now).2.touch key now).2 := by
  refine ext_orgs rfl rfl rfl fun org => ?_
  simp only [orgs_touch, orgCache_touch]
  by_cases hkey : org = key.org
  · subst hkey
    by_cases hother : key.org = other.org
    · -- both belong to this organization
      simp only [hother, if_true, OrgCache.touch_comm]
    · simp only [hother, if_true, if_false]
  · simp only [hkey, if_false]
    split
    case isTrue hother =>
        subst hother
        simp only [hkey, if_false]
    case isFalse => rfl

/-- **The order of touches of one time makes no difference.** -/
theorem run_touches_perm (c : KeyCache) (now : Timestamp) {keys others : List MetricKey}
    (h : keys.Perm others) : c.run (touches now keys) = c.run (touches now others) := by
  rw [run, run, touches, touches, List.foldl_map, List.foldl_map]
  exact h.foldl_eq' (fun key _ other _ c => touch_comm c key other now) c

@[simp] theorem pruneInterval_forget (c : KeyCache) (key : MetricKey) :
    (c.forget key).2.pruneInterval = c.pruneInterval := by
  rw [forget]; split <;> rfl

theorem forget_comm (c : KeyCache) (key other : MetricKey) :
    ((c.forget key).2.forget other).2 = ((c.forget other).2.forget key).2 := by
  refine ext_orgs (by simp) (by simp) (by simp) fun org => ?_
  simp only [orgs_forget]
  by_cases hkey : org = key.org
  · by_cases hother : org = other.org
    · -- both belong to this organization
      rw [if_pos hkey, if_pos hother, if_pos hother, if_pos hkey, Option.map_map, Option.map_map]
      exact congrArg (Option.map · _) (funext fun cache => OrgCache.forget_comm cache ..)
    · rw [if_pos hkey, if_neg hother, if_neg hother, if_pos hkey]
  · rw [if_neg hkey, if_neg hkey]

/-- **The order of forgets makes no difference.** -/
theorem run_forgets_perm (c : KeyCache) {keys others : List MetricKey} (h : keys.Perm others) :
    c.run (keys.map .forget) = c.run (others.map .forget) := by
  rw [run, run, List.foldl_map, List.foldl_map]
  exact h.foldl_eq' (fun key _ other _ c => forget_comm c key other) c

end KeyCache

end MetricGateway.Novelty
