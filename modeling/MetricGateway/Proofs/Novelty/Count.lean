import Mathlib.Algebra.GroupWithZero.Nat
import Mathlib.Data.Finset.Card
import MetricGateway.Proofs.Novelty.Moment

/-!
# How many keys

Shards count their keys, and the cache adds up what its shards have. Replacing one
shard of an organization, or the shards of one organization, changes these sums by
what has been replaced.

A touch that does not move the reference of its shard drops nothing. So it adds
one key if it does not find its own, and none if it does.
-/

namespace MetricGateway.Novelty

/-- Replacing a member changes a sum by the difference. -/
theorem sum_set_add_getElem {l : List Nat} {i : Nat} (h : i < l.length) (n : Nat) :
    (l.set i n).sum + l[i] = l.sum + n := by
  induction l generalizing i with
  | nil => cases h
  | cons x rest ih =>
      cases i with
      | zero => simp only [List.set_cons_zero, List.sum_cons, List.getElem_cons_zero]; omega
      | succ i =>
          have hrest := ih (Nat.lt_of_succ_lt_succ h)
          simp only [List.set_cons_succ, List.sum_cons, List.getElem_cons_succ]
          omega

namespace Shard

theorem reach_of_le {s : Shard} {time : Bucket} (h : time.toNat ≤ s.reference.toNat + maxAge) :
    s.reach time = s := by
  rw [reach, if_neg]; omega

theorem size_empty (reference : Bucket) (stale : Age) : (empty reference stale).size = 0 := rfl

/-- A touch that does not move the reference adds its key, if that is not there. -/
theorem size_touch {s : Shard} {key : SubKey} {time : Bucket}
    (h : time.toNat ≤ s.reference.toNat + maxAge) :
    (s.touch key time).2.size = if (s.touch key time).1 then s.size else s.size + 1 := by
  rw [touch, reach_of_le h]
  exact Std.ExtTreeMap.size_insert

end Shard

namespace OrgCache

theorem size_eq_sum (c : OrgCache) : c.size = (c.shards.toList.map Shard.size).sum := by
  rw [size, ← Array.foldl_toList, List.sum_eq_foldl, List.foldl_map]

/-- Shards are empty if they have no keys. -/
theorem size_eq_zero_iff (c : OrgCache) : c.size = 0 ↔ c.isEmpty = true := by
  rw [isEmpty_iff, size_eq_sum, List.sum_eq_zero_iff_forall_eq_nat]
  simp [Shard.isEmpty]

@[simp] theorem size_empty (shardCount : Nat) (reference : Bucket) (stale : Age) :
    (empty shardCount reference stale).size = 0 := by
  rw [size_eq_sum, empty, Array.toList_replicate, List.map_replicate, Shard.size_empty]
  simp

/-- An operation on a shard changes the number of keys as it does there. -/
theorem size_onShard_add {α : Type} (c : OrgCache) (key : SeriesKey) (op : Shard → α × Shard) :
    (c.onShard key op).2.size + (c.shardAt key).size =
      c.size + (op (c.shardAt key)).2.size := by
  have hlt : (c.shardOf key : Nat) < (c.shards.toList.map Shard.size).length := by
    rw [List.length_map, Array.length_toList]; exact (c.shardOf key).isLt
  have hsum := sum_set_add_getElem hlt (op (c.shardAt key)).2.size
  rw [List.getElem_map, Array.getElem_toList (c.shardOf key).isLt, ← List.map_set,
    ← Array.toList_set (h := (c.shardOf key).isLt)] at hsum
  rw [size_eq_sum, size_eq_sum]
  exact hsum

/-- A touch that does not move the reference of its shard adds its key, if that is not there. -/
theorem size_touch {c : OrgCache} {key : SeriesKey} {time : Bucket}
    (h : time.toNat ≤ (c.shardAt key).reference.toNat + maxAge) :
    (c.touch key time).2.size = if (c.touch key time).1 then c.size else c.size + 1 := by
  have hadd : (c.touch key time).2.size + (c.shardAt key).size =
      c.size + ((c.shardAt key).touch key.tail time).2.size := size_onShard_add c key _
  have hseen : (c.touch key time).1 = ((c.shardAt key).touch key.tail time).1 := rfl
  rw [Shard.size_touch h] at hadd
  rw [hseen]
  split at hadd
  case isTrue hthere => rw [if_pos hthere]; omega
  case isFalse hnew => rw [if_neg hnew]; omega

end OrgCache

namespace KeyCache

/-- Gives an organization other shards. -/
def setOrg (c : KeyCache) (org : OrgId) (cache : OrgCache) : KeyCache :=
  { c with orgs := c.orgs.insert org cache }

theorem orgs_setOrg (c : KeyCache) (org o : OrgId) (cache : OrgCache) :
    (c.setOrg org cache).orgs[o]? = if o = org then some cache else c.orgs[o]? := by
  simp only [setOrg, Std.ExtTreeMap.getElem?_insert, Std.LawfulEqCmp.compare_eq_iff_eq,
    eq_comm (a := org)]

theorem touch_eq (c : KeyCache) (key : MetricKey) (now : Timestamp) :
    c.touch key now =
      (((c.orgCache key.org (.ofTimestamp now)).touch key.key (.ofTimestamp now)).1,
        c.setOrg key.org
          ((c.orgCache key.org (.ofTimestamp now)).touch key.key (.ofTimestamp now)).2) := rfl

/-- Setting up an organization makes no difference to what a touch works on. -/
theorem orgCache_setOrg_orgCache (c : KeyCache) (org o : OrgId) (time : Bucket) :
    (c.setOrg org (c.orgCache org time)).orgCache o time = c.orgCache o time := by
  rw [orgCache, orgs_setOrg]
  split
  case isTrue h => rw [h]; rfl
  case isFalse => rfl

/-- Nor to the touch itself. -/
theorem touch_setOrg_orgCache (c : KeyCache) (key : MetricKey) (now : Timestamp) :
    (c.setOrg key.org (c.orgCache key.org (.ofTimestamp now))).touch key now = c.touch key now := by
  rw [touch_eq, touch_eq, orgCache_setOrg_orgCache]
  refine Prod.ext rfl (ext_orgs rfl rfl rfl fun o => ?_)
  rw [orgs_setOrg, orgs_setOrg, orgs_setOrg]
  split <;> rfl

theorem finds_setOrg_orgCache_iff {c : KeyCache} {now : Timestamp} {org : OrgId}
    {key : MetricKey} :
    (c.setOrg org (c.orgCache org (.ofTimestamp now))).Finds now key ↔ c.Finds now key := by
  rw [Finds, Finds, touch_eq, touch_eq, orgCache_setOrg_orgCache]

theorem allShards_setOrg {c : KeyCache} {P : Shard → Prop} {org : OrgId} {cache : OrgCache}
    (hc : c.AllShards P) (hcache : ∀ shard ∈ cache.shards, P shard) :
    (c.setOrg org cache).AllShards P := by
  intro o cache' hget shard hmem
  rw [orgs_setOrg] at hget
  split at hget
  case isTrue => cases hget; exact hcache shard hmem
  case isFalse => exact hc o cache' hget shard hmem

theorem uniform_setOrg {c : KeyCache} (hc : c.Uniform) {org : OrgId} {cache : OrgCache}
    (hsize : cache.shards.size = c.shardCount)
    (hstale : ∀ shard ∈ cache.shards, shard.stale = c.stale) : (c.setOrg org cache).Uniform where
  positive := hc.positive
  size := by
    intro o cache' hget
    rw [orgs_setOrg] at hget
    split at hget
    case isTrue => cases hget; exact hsize
    case isFalse => exact hc.size o cache' hget
  stale := allShards_setOrg hc.stale hstale

theorem size_eq_sum (c : KeyCache) : c.size = (c.orgs.toList.map (·.2.size)).sum := by
  rw [size, Std.ExtTreeMap.foldl_eq_foldl_toList, List.sum_eq_foldl, List.foldl_map]

theorem nodup_toList (m : Std.ExtTreeMap OrgId OrgCache) : m.toList.Nodup :=
  m.distinct_keys_toList.imp fun hne heq => hne (by rw [heq]; exact Std.ReflCmp.compare_self)

/-- An organization apart, the others are listed as if it were not there. -/
theorem toList_insert_perm (m : Std.ExtTreeMap OrgId OrgCache) (org : OrgId) (cache : OrgCache) :
    (m.insert org cache).toList.Perm ((org, cache) :: (m.erase org).toList) := by
  have hnew : (org, cache) ∉ (m.erase org).toList := by
    rw [Std.ExtTreeMap.mem_toList_iff_getElem?_eq_some, Std.ExtTreeMap.getElem?_erase_self]
    exact nofun
  rw [List.perm_ext_iff_of_nodup (nodup_toList _) (List.nodup_cons.mpr ⟨hnew, nodup_toList _⟩)]
  rintro ⟨o, cache'⟩
  rw [List.mem_cons, Std.ExtTreeMap.mem_toList_iff_getElem?_eq_some,
    Std.ExtTreeMap.mem_toList_iff_getElem?_eq_some, Std.ExtTreeMap.getElem?_insert,
    Std.ExtTreeMap.getElem?_erase]
  by_cases h : compare org o = .eq
  · obtain rfl := Std.LawfulEqCmp.compare_eq_iff_eq.mp h
    simp [eq_comm]
  · have hne : o ≠ org := fun heq => h (Std.LawfulEqCmp.compare_eq_iff_eq.mpr heq.symm)
    simp [h, hne]

/-- Other shards for an organization change the number of keys by what it had before. -/
theorem size_setOrg_add (c : KeyCache) (org : OrgId) (cache : OrgCache) (time : Bucket) :
    (c.setOrg org cache).size + (c.orgCache org time).size = c.size + cache.size := by
  have herased : ∀ (m : Std.ExtTreeMap OrgId OrgCache) (cache : OrgCache),
      ((m.insert org cache).toList.map (·.2.size)).sum =
        cache.size + ((m.erase org).toList.map (·.2.size)).sum := fun m cache => by
    rw [((toList_insert_perm m org cache).map _).sum_nat, List.map_cons, List.sum_cons]
  rw [size_eq_sum, size_eq_sum, setOrg, herased]
  cases hget : c.orgs[org]? with
  | none =>
      rw [orgCache_of_none hget, OrgCache.size_empty]
      have hsame : c.orgs.erase org = c.orgs := by
        refine Std.ExtTreeMap.ext_getElem? fun o => ?_
        rw [Std.ExtTreeMap.getElem?_erase]
        split
        case isTrue h => rw [← Std.LawfulEqCmp.compare_eq_iff_eq.mp h, hget]
        case isFalse => rfl
      rw [hsame]; omega
  | some before =>
      rw [orgCache_of_some hget]
      have hsame : c.orgs = c.orgs.insert org before := by
        refine Std.ExtTreeMap.ext_getElem? fun o => ?_
        rw [Std.ExtTreeMap.getElem?_insert]
        split
        case isTrue h => rw [← Std.LawfulEqCmp.compare_eq_iff_eq.mp h, hget]
        case isFalse => rfl
      have hbefore := herased c.orgs before
      rw [← hsame] at hbefore
      omega

/-- Setting up an organization adds no keys. -/
theorem size_setOrg_orgCache (c : KeyCache) (org : OrgId) (time : Bucket) :
    (c.setOrg org (c.orgCache org time)).size = c.size :=
  Nat.add_right_cancel (size_setOrg_add c org _ time)

/-- **A touch that does not move the reference of its shard adds its key, if that is not there.** -/
theorem size_touch {c : KeyCache} {key : MetricKey} {now : Timestamp}
    (h : (Bucket.ofTimestamp now).toNat ≤
      ((c.orgCache key.org (.ofTimestamp now)).shardAt key.key).reference.toNat + maxAge) :
    (c.touch key now).2.size = if (c.touch key now).1 then c.size else c.size + 1 := by
  have hadd := size_setOrg_add c key.org
    ((c.orgCache key.org (.ofTimestamp now)).touch key.key (.ofTimestamp now)).2 (.ofTimestamp now)
  rw [OrgCache.size_touch h] at hadd
  rw [touch_eq]
  split at hadd
  case isTrue hseen => rw [if_pos hseen]; dsimp only; omega
  case isFalse hseen => rw [if_neg hseen]; dsimp only; omega

/-- As many organizations as keys of a set, if they are the same. -/
theorem orgCount_eq_card {c : KeyCache} {orgs : Finset OrgId}
    (h : ∀ org : OrgId, org ∈ c.orgs ↔ org ∈ orgs) : c.orgCount = orgs.card := by
  have hkeys : c.orgs.keys.toFinset = orgs := by
    ext org
    rw [List.mem_toFinset, Std.ExtTreeMap.mem_keys, h]
  rw [orgCount, ← Std.ExtTreeMap.length_keys, ← hkeys, List.toFinset_card_of_nodup]
  exact c.orgs.distinct_keys.imp fun hne heq => hne (by rw [heq]; exact Std.ReflCmp.compare_self)

end KeyCache

end MetricGateway.Novelty
