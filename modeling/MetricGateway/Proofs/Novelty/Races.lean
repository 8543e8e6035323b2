import MetricGateway.Proofs.Log
import MetricGateway.Proofs.Novelty.Threads

/-!
# Touches that prunes lose

What a touch has recorded stays in the shards that it has looked up: no thread with
the same time drops it. A later touch of the same series finds it, unless it looks
up other shards. So all that can go wrong is that the organization is taken off
the list in between, and there are two ways.

* A prune finds the shards empty while the touch has looked them up and not yet
  recorded its sighting. The check under the lock does not see that.
* A prune finds shards empty that are not those on the list any more, because
  another prune has removed these and a touch has set up new ones. It takes the new
  ones off the list without a look at them.

Both do happen. The invariant is about the log: shards that were looked up are in
use until the log says that they were removed.
-/

namespace MetricGateway.Novelty

/-- A shard that is touched keeps what was seen no earlier than the touch. -/
theorem Shard.lastSeen_reach_of_le {s : Shard} {key : SubKey} {n : Nat} {time : Bucket}
    (hn : s.lastSeen key = some n) (htime : time.toNat ≤ n) :
    (s.reach time).lastSeen key = some n := by
  have href := Shard.reference_le_of_lastSeen hn
  have horigin := Shard.reference_reach s time
  rw [Shard.lastSeen_reach, hn, Option.filter_some, if_pos]
  simp only [decide_eq_true_eq]
  split at horigin <;> omega

namespace OrgCache

/-- A key was seen in a bucket or later. -/
def SeenSince (c : OrgCache) (key : SeriesKey) (first : Bucket) : Prop :=
  ∃ n, c.lastSeen key = some n ∧ first.toNat ≤ n

theorem seenSince_touch_self (c : OrgCache) (key : SeriesKey) (time : Bucket) :
    (c.touch key time).2.SeenSince key time := by
  refine ⟨_, ?_, Nat.le_max_left _ ((c.shardAt key).reach time).reference.toNat⟩
  rw [lastSeen_eq, touch, shardAt_onShard, if_pos rfl, Shard.lastSeen_touch, if_pos rfl]

/-- **A touch drops nothing that was seen since its time.** -/
theorem SeenSince.touch {c : OrgCache} {key : SeriesKey} {time : Bucket}
    (h : c.SeenSince key time) (other : SeriesKey) : (c.touch other time).2.SeenSince key time := by
  obtain ⟨n, hn, hle⟩ := h
  rw [SeenSince, lastSeen_eq, OrgCache.touch, shardAt_onShard]
  split
  case isTrue hlead =>
    rw [Shard.lastSeen_touch]
    split
    · exact ⟨_, rfl, Nat.le_max_left _ _⟩
    · rw [lastSeen_eq, shardAt_congr hlead] at hn
      exact ⟨n, Shard.lastSeen_reach_of_le hn hle, hle⟩
  case isFalse => exact ⟨n, hn, hle⟩

/-- A touch finds what was seen since its time. -/
theorem SeenSince.touch_fst {c : OrgCache} {key : SeriesKey} {time : Bucket}
    (h : c.SeenSince key time) : (c.touch key time).1 = true := by
  obtain ⟨n, hn, hle⟩ := h
  rw [lastSeen_eq] at hn
  have htouch : (c.touch key time).1 = ((c.shardAt key).touch key.tail time).1 := rfl
  rw [htouch, Shard.touch_fst, Shard.lastSeen_reach_of_le hn hle]; rfl

theorem shardAt_pruneShard (c : OrgCache) (i : Nat) (now : Bucket) (key : SeriesKey) :
    (c.pruneShard i now).shardAt key =
      if key.leading.toNat % c.shards.size = i then (c.shardAt key).prune now
      else c.shardAt key := by
  have hkey := Nat.mod_lt key.leading.toNat c.nonempty
  have hsize : (c.pruneShard i now).shards.size = c.shards.size := by simp [pruneShard]
  rw [shardAt_eq (c := c.pruneShard i now) (by rw [hsize]; exact hkey) (by rw [hsize]),
    shardAt_eq hkey rfl]
  simp only [pruneShard, Array.getElem_modify, eq_comm (a := i)]

/-- **Nor does a prune.** -/
theorem SeenSince.pruneShard {c : OrgCache} {key : SeriesKey} {now : Bucket}
    (h : c.SeenSince key now) (i : Nat) : (c.pruneShard i now).SeenSince key now := by
  obtain ⟨n, hn, hle⟩ := h
  refine ⟨n, ?_, hle⟩
  rw [lastSeen_eq, shardAt_pruneShard]
  split
  · rw [Shard.lastSeen_prune, ← lastSeen_eq, hn, Option.filter_some, if_pos]
    simp only [decide_eq_true_eq]; omega
  · exact hn

theorem SeenSince.isEmpty {c : OrgCache} {key : SeriesKey} {first : Bucket}
    (h : c.SeenSince key first) : c.isEmpty = false := by
  obtain ⟨n, hn, -⟩ := h
  refine Bool.eq_false_iff.mpr fun hempty => ?_
  rw [lastSeen_of_isEmpty hempty] at hn
  cases hn

end OrgCache

namespace Threads

/-- A series was seen at a time or later, as some shards of its organization say. -/
def World.Fresh (w : World) (now : Timestamp) (key : MetricKey) (number : Nat) : Prop :=
  ∃ cache, (w.caches key.org)[number]? = some cache ∧ cache.SeenSince key.key (.ofTimestamp now)

/-- **No step loses what was seen at its time.** -/
theorem fresh_step {now : Timestamp} {w w' : World} (h : Step now w w') {key : MetricKey}
    {number : Nat} (hfresh : w.Fresh now key number) : w'.Fresh now key number := by
  obtain ⟨cache, hcache, hseen⟩ := hfresh
  obtain ⟨cache', hcache', rfl | ⟨other, rfl⟩ | ⟨i, rfl⟩⟩ := caches_step h hcache
  · exact ⟨_, hcache', hseen⟩
  · exact ⟨_, hcache', hseen.touch other⟩
  · exact ⟨_, hcache', hseen.pruneShard i⟩

/-! ## The log -/

/-- What a log says about the touches and about which shards are in use. -/
structure Traced (log : List Event) (touches : List Touch) (list : OrgId → Option Nat) : Prop where
  /-- A touch that has begun has the shards that it has looked up. -/
  looked : ∀ {a i key number}, At log a (.looked i key number) →
    ∃ answer, touches[i]? = some (Touch.mk key number answer)
  /-- A touch that has returned has its answer. -/
  answered : ∀ {b i seen}, At log b (.answered i seen) →
    ∃ key number, touches[i]? = some (Touch.mk key number (some seen))
  /-- A touch begins before it returns. -/
  begins : ∀ {c d i key number seen}, At log c (.looked i key number) →
    At log d (.answered i seen) → c < d
  /-- Shards that were looked up are in use until they are removed. -/
  inUse : ∀ {a i key number}, At log a (.looked i key number) → list key.org = some number
    ∨ ∃ r empty, a < r ∧ At log r (.removed key.org empty number)
  /-- If a later touch looks up others, they have been removed. -/
  replaced : ∀ {a c i j key key' number number'}, At log a (.looked i key number) →
    At log c (.looked j key' number') → key'.org = key.org → a < c → number' = number
      ∨ ∃ r empty, a < r ∧ r < c ∧ At log r (.removed key.org empty number)
  /-- Shards in which a touch has recorded its sighting are not found empty. -/
  nonempty : ∀ {b r i key number gone seen answer}, At log b (.answered i seen) →
    touches[i]? = some (Touch.mk key number answer) → b < r →
    ¬ At log r (.removed key.org number gone)
  /-- A later touch that records its sighting in the same shards finds the series. -/
  found : ∀ {b d i j key number seen seen' answer answer'}, At log b (.answered i seen) →
    touches[i]? = some (Touch.mk key number answer) → At log d (.answered j seen') →
    touches[j]? = some (Touch.mk key number answer') → b < d → seen' = true

section Log

variable {log : List Event} {touches : List Touch} {list : OrgId → Option Nat}

theorem traced_nil : Traced [] [] list := by
  constructor <;> nofun

/-- A touch begins: it finds shards in use, or sets some up. -/
theorem Traced.look (h : Traced log touches list) {key : MetricKey} {number : Nat}
    (hlist : ∀ n, list key.org = some n → n = number) :
    Traced (log ++ [.looked touches.length key number]) (touches ++ [⟨key, number, none⟩])
      fun o => if o = key.org then some number else list o := by
  have hgrows : ∀ {i : Nat} {t : Touch}, touches[i]? = some t →
      (touches ++ [⟨key, number, none⟩])[i]? = some t := fun ht =>
    (List.getElem?_append_left (List.getElem?_eq_some_iff.mp ht).1).trans ht
  -- a touch that has returned was there before
  have hold : ∀ {b i : Nat} {seen : Bool} {t : Touch}, At log b (.answered i seen) →
      (touches ++ [⟨key, number, none⟩])[i]? = some t → touches[i]? = some t := by
    intro b i seen t hb ht
    obtain ⟨_, _, hi⟩ := h.answered hb
    rw [hgrows hi, ← hi] at ht
    exact ht
  constructor
  case looked =>
    intro a i k n ha
    rcases at_concat_iff.mp ha with ha | ⟨-, heq⟩
    · obtain ⟨answer, hi⟩ := h.looked ha
      exact ⟨answer, hgrows hi⟩
    · cases heq
      exact ⟨none, List.getElem?_concat_length⟩
  case answered =>
    intro b i seen hb
    rcases at_concat_iff.mp hb with hb | ⟨-, heq⟩
    · obtain ⟨k, n, hi⟩ := h.answered hb
      exact ⟨k, n, hgrows hi⟩
    · cases heq
  case begins =>
    intro c d i k n seen hc hd
    rcases at_concat_iff.mp hd with hd | ⟨-, heq⟩
    · rcases at_concat_iff.mp hc with hc | ⟨-, heq⟩
      · exact h.begins hc hd
      · cases heq
        obtain ⟨_, _, hi⟩ := h.answered hd
        exact absurd (List.getElem?_eq_some_iff.mp hi).1 (Nat.lt_irrefl _)
    · cases heq
  case inUse =>
    intro a i k n ha
    rcases at_concat_iff.mp ha with ha | ⟨-, heq⟩
    · rcases h.inUse ha with hn | ⟨r, empty, har, hr⟩
      · refine Or.inl ?_
        split
        case isTrue horg => rw [hlist n (horg ▸ hn)]
        case isFalse => exact hn
      · exact Or.inr ⟨r, empty, har, hr.concat _⟩
    · cases heq
      exact Or.inl (if_pos rfl)
  case replaced =>
    intro a c i j k k' n n' ha hc horg hac
    rcases at_concat_iff.mp ha with ha | ⟨rfl, -⟩
    · rcases at_concat_iff.mp hc with hc | ⟨rfl, heq⟩
      · rcases h.replaced ha hc horg hac with heq | ⟨r, empty, har, hrc, hr⟩
        · exact Or.inl heq
        · exact Or.inr ⟨r, empty, har, hrc, hr.concat _⟩
      · cases heq
        rcases h.inUse ha with hn | ⟨r, empty, har, hr⟩
        · exact Or.inl (hlist n (horg ▸ hn)).symm
        · exact Or.inr ⟨r, empty, har, hr.lt, hr.concat _⟩
    · have := hc.lt
      rw [List.length_append, List.length_singleton] at this
      omega
  case nonempty =>
    intro b r i k n gone seen answer hb hi hbr hr
    rcases at_concat_iff.mp hb with hb | ⟨-, heq⟩
    · rcases at_concat_iff.mp hr with hr | ⟨-, heq⟩
      · exact h.nonempty hb (hold hb hi) hbr hr
      · cases heq
    · cases heq
  case found =>
    intro b d i j k n seen seen' answer answer' hb hi hd hj hbd
    rcases at_concat_iff.mp hb with hb | ⟨-, heq⟩
    · rcases at_concat_iff.mp hd with hd | ⟨-, heq⟩
      · exact h.found hb (hold hb hi) hd (hold hd hj) hbd
      · cases heq
    · cases heq

/-- A touch returns: it finds the series if one that has returned has recorded it there. -/
theorem Traced.record (h : Traced log touches list) {i : Nat} {key : MetricKey} {number : Nat}
    (hi : touches[i]? = some ⟨key, number, none⟩) {seen : Bool}
    (hseen : ∀ (j : Nat) answer, touches[j]? = some ⟨key, number, some answer⟩ → seen = true) :
    Traced (log ++ [.answered i seen]) (touches.set i ⟨key, number, some seen⟩) list := by
  obtain ⟨hlt, -⟩ := List.getElem?_eq_some_iff.mp hi
  have hself : (touches.set i ⟨key, number, some seen⟩)[i]? = some ⟨key, number, some seen⟩ :=
    List.getElem?_set_self hlt
  have hother : ∀ {j : Nat}, i ≠ j →
      (touches.set i ⟨key, number, some seen⟩)[j]? = touches[j]? :=
    fun hij => List.getElem?_set_ne hij
  -- the touch has not returned before
  have hne : ∀ {b j : Nat} {answer : Bool}, At log b (.answered j answer) → i ≠ j := by
    rintro b j answer hb rfl
    obtain ⟨_, _, hj⟩ := h.answered hb
    rw [hi] at hj
    cases hj
  constructor
  case looked =>
    intro a j k n ha
    rcases at_concat_iff.mp ha with ha | ⟨-, heq⟩
    · obtain ⟨answer, hj⟩ := h.looked ha
      by_cases hij : i = j
      · subst hij
        rw [hi] at hj
        cases hj
        exact ⟨_, hself⟩
      · exact ⟨answer, (hother hij).trans hj⟩
    · cases heq
  case answered =>
    intro b j answer hb
    rcases at_concat_iff.mp hb with hb | ⟨-, heq⟩
    · obtain ⟨k, n, hj⟩ := h.answered hb
      exact ⟨k, n, (hother (hne hb)).trans hj⟩
    · cases heq
      exact ⟨key, number, hself⟩
  case begins =>
    intro c d j k n answer hc hd
    rcases at_concat_iff.mp hc with hc | ⟨-, heq⟩
    · rcases at_concat_iff.mp hd with hd | ⟨rfl, -⟩
      · exact h.begins hc hd
      · exact hc.lt
    · cases heq
  case inUse =>
    intro a j k n ha
    rcases at_concat_iff.mp ha with ha | ⟨-, heq⟩
    · exact (h.inUse ha).imp_right fun ⟨r, empty, har, hr⟩ => ⟨r, empty, har, hr.concat _⟩
    · cases heq
  case replaced =>
    intro a c j j' k k' n n' ha hc horg hac
    rcases at_concat_iff.mp ha with ha | ⟨-, heq⟩
    · rcases at_concat_iff.mp hc with hc | ⟨-, heq⟩
      · exact (h.replaced ha hc horg hac).imp_right
          fun ⟨r, empty, har, hrc, hr⟩ => ⟨r, empty, har, hrc, hr.concat _⟩
      · cases heq
    · cases heq
  case nonempty =>
    intro b r j k n gone answer answer' hb hj hbr hr
    rcases at_concat_iff.mp hr with hr | ⟨-, heq⟩
    · rcases at_concat_iff.mp hb with hb | ⟨rfl, -⟩
      · exact h.nonempty hb ((hother (hne hb)).symm.trans hj) hbr hr
      · exact absurd hr.lt (Nat.lt_asymm hbr)
    · cases heq
  case found =>
    intro b d j j' k n answer answer' t t' hb hj hd hj' hbd
    rcases at_concat_iff.mp hb with hb | ⟨rfl, -⟩
    · obtain ⟨_, _, hwas⟩ := h.answered hb
      have hwas' := (hother (hne hb)).trans hwas
      rw [hj] at hwas'
      cases hwas'
      rcases at_concat_iff.mp hd with hd | ⟨-, heq⟩
      · exact h.found hb hwas hd ((hother (hne hd)).symm.trans hj') hbd
      · cases heq
        rw [hself] at hj'
        cases hj'
        exact hseen j _ hwas
    · have := hd.lt
      rw [List.length_append, List.length_singleton] at this
      omega

/-- A prune removes an organization: no touch has recorded its sighting in the shards that it has
found empty. -/
theorem Traced.remove (h : Traced log touches list) {org : OrgId} (empty : Nat) {gone : Nat}
    (hempty : ∀ (i : Nat) key answer, touches[i]? = some ⟨key, empty, some answer⟩ → key.org ≠ org)
    (hgone : list org = some gone) :
    Traced (log ++ [.removed org empty gone]) touches
      fun o => if o = org then none else list o := by
  constructor
  case looked =>
    intro a i k n ha
    rcases at_concat_iff.mp ha with ha | ⟨-, heq⟩
    · exact h.looked ha
    · cases heq
  case answered =>
    intro b i answer hb
    rcases at_concat_iff.mp hb with hb | ⟨-, heq⟩
    · exact h.answered hb
    · cases heq
  case begins =>
    intro c d i k n answer hc hd
    rcases at_concat_iff.mp hc with hc | ⟨-, heq⟩
    · rcases at_concat_iff.mp hd with hd | ⟨-, heq⟩
      · exact h.begins hc hd
      · cases heq
    · cases heq
  case inUse =>
    intro a i k n ha
    rcases at_concat_iff.mp ha with ha | ⟨-, heq⟩
    · rcases h.inUse ha with hn | ⟨r, empty, har, hr⟩
      · by_cases horg : k.org = org
        · -- what is removed now was in use until now
          rw [horg, hgone] at hn
          cases hn
          exact Or.inr ⟨log.length, empty, ha.lt, at_concat_iff.mpr (Or.inr ⟨rfl, by rw [horg]⟩)⟩
        · exact Or.inl ((if_neg horg).trans hn)
      · exact Or.inr ⟨r, empty, har, hr.concat _⟩
    · cases heq
  case replaced =>
    intro a c i j k k' n n' ha hc horg hac
    rcases at_concat_iff.mp ha with ha | ⟨-, heq⟩
    · rcases at_concat_iff.mp hc with hc | ⟨-, heq⟩
      · exact (h.replaced ha hc horg hac).imp_right
          fun ⟨r, empty, har, hrc, hr⟩ => ⟨r, empty, har, hrc, hr.concat _⟩
      · cases heq
    · cases heq
  case nonempty =>
    intro b r i k n gone' answer answer' hb hi hbr hr
    rcases at_concat_iff.mp hb with hold | ⟨-, heq⟩
    · rcases at_concat_iff.mp hr with hr | ⟨-, heq⟩
      · exact h.nonempty hold hi hbr hr
      · obtain ⟨_, _, hwas⟩ := h.answered hold
        rw [hi] at hwas
        cases hwas
        cases heq
        exact hempty i k _ hi rfl
    · cases heq
  case found =>
    intro b d i j k n answer answer' t t' hb hi hd hj hbd
    rcases at_concat_iff.mp hb with hb | ⟨-, heq⟩
    · rcases at_concat_iff.mp hd with hd | ⟨-, heq⟩
      · exact h.found hb hi hd hj hbd
      · cases heq
    · cases heq

end Log

/-! ## Runs -/

/-- What is true in every state of the threads. -/
structure Consistent (now : Timestamp) (w : World) : Prop where
  sound : w.Sound
  /-- What a touch has recorded is still there. -/
  fresh : ∀ (i : Nat) key number seen, w.touches[i]? = some ⟨key, number, some seen⟩ →
    w.Fresh now key number
  traced : Traced w.log w.touches fun org => w.list[org]?

theorem consistent_start (now : Timestamp) (c : KeyCache) : Consistent now (World.start c) where
  sound := sound_start c
  fresh := nofun
  traced := traced_nil

/-- **Every step leaves the threads consistent.** -/
theorem consistent_step {now : Timestamp} {w w' : World} (h : Consistent now w)
    (hstep : Step now w w') : Consistent now w' := by
  have hsound := sound_step h.sound hstep
  have hkept : ∀ (i : Nat) key number seen, w.touches[i]? = some ⟨key, number, some seen⟩ →
      w'.Fresh now key number :=
    fun i key number seen hi => fresh_step hstep (h.fresh i key number seen hi)
  cases hstep with
  | look key =>
      obtain ⟨-, -, hlist⟩ := World.lookup_spec h.sound key.org (.ofTimestamp now)
      refine ⟨hsound, fun i k n seen hi => ?_, ?_⟩
      · -- the touch that begins has not recorded anything
        rcases Nat.lt_or_ge i w.touches.length with hlt | hge
        · exact hkept i k n seen ((List.getElem?_append_left hlt).symm.trans hi)
        · have hnew := (List.getElem?_append_right hge).symm.trans hi
          rw [List.getElem?_singleton] at hnew
          split at hnew <;> cases hnew
      · have hfound : ∀ n, w.list[key.org]? = some n →
            n = (w.lookup key.org (.ofTimestamp now)).1 := by
          intro n hn
          rcases World.lookup_cases w key.org (.ofTimestamp now) with ⟨m, hm, heq⟩ | ⟨hnone, -⟩
          · rw [heq]; rw [hn] at hm; exact Option.some.inj hm
          · rw [hn] at hnone; cases hnone
        have hlook := h.traced.look hfound
        rwa [← show (fun org => (w.look now key).list[org]?) = _ from funext hlist] at hlook
  | @record i t cache ht hpending hcache =>
      obtain ⟨key, number, answer⟩ := t
      cases hpending
      refine ⟨hsound, fun j k n seen hj => ?_, h.traced.record ht fun j answer hj => ?_⟩
      · by_cases hij : i = j
        · subst hij
          have hself := (List.getElem?_set_self (List.getElem?_eq_some_iff.mp ht).1).symm.trans hj
          cases hself
          have hset := World.getElem?_setCache hcache (cache.touch key.key (.ofTimestamp now)).2
            key.org number
          refine ⟨_, hset.trans (if_pos ⟨rfl, rfl⟩), ?_⟩
          exact OrgCache.seenSince_touch_self cache key.key _
        · exact hkept j k n seen ((List.getElem?_set_ne hij).symm.trans hj)
      · obtain ⟨cache', hcache', hseen⟩ := h.fresh j key number answer hj
        obtain rfl : cache' = cache := Option.some.inj (hcache'.symm.trans hcache)
        exact hseen.touch_fst
  | copy order horder => exact ⟨hsound, hkept, h.traced⟩
  | shard hp hrest hcache hshard => exact ⟨hsound, hkept, h.traced⟩
  | keep hp hrest => exact ⟨hsound, hkept, h.traced⟩
  | @remove j p org number gone rest cache hp hrest hcache _ _ hempty hgone =>
      refine ⟨hsound, hkept, ?_⟩
      have hremove := h.traced.remove number (fun i key answer hi horg => ?_) hgone
      · have hlist : (fun o => (w.remove j p org number gone rest).list[o]?) =
            fun o => if o = org then none else w.list[o]? := by
          funext o
          simp only [World.remove, World.setPrune, Std.ExtTreeMap.getElem?_erase,
            Std.LawfulEqCmp.compare_eq_iff_eq, eq_comm (a := org)]
        rw [hlist]; exact hremove
      · -- shards in which something was recorded are not empty
        obtain ⟨cache', hcache', hseen⟩ := h.fresh i key number answer hi
        rw [horg, hcache] at hcache'
        cases hcache'
        rw [hseen.isEmpty] at hempty
        cases hempty
  | finish hp hrest => exact ⟨hsound, hkept, h.traced⟩

theorem consistent_run {now : Timestamp} {w w' : World} (h : Consistent now w)
    (hrun : Run now w w') : Consistent now w' := by
  induction hrun with
  | refl => exact h
  | tail _ hstep ih => exact consistent_step ih hstep

/-- Nothing keeps a touch that has begun from returning. -/
theorem exists_record {now : Timestamp} {w : World} (h : Consistent now w) {i : Nat} {t : Touch}
    (ht : w.touches[i]? = some t) (hpending : t.answer = none) :
    ∃ cache, Step now w (w.record now i t cache) := by
  have hlt := h.sound.touches t (List.mem_of_getElem? ht)
  exact ⟨_, .record ht hpending (List.getElem?_eq_getElem hlt)⟩

/-- **A touch that has returned is lost to two races only.** Let any number of threads touch and
prune a cache at one time, interleaved in any way. Once a touch of a series has returned, a touch of
the same series that begins later finds it, unless

* a prune has removed the shards that the first touch had looked up before it recorded its sighting
  there, or
* a prune that has found other shards empty has removed those of the first touch. -/
theorem touch_lost_to_races (c : KeyCache) {now : Timestamp} {w : World}
    (hrun : Run now (.start c) w) {key : MetricKey} {a b x y i j number number' : Nat}
    {first seen : Bool} (hlooked : At w.log a (.looked i key number))
    (hanswered : At w.log b (.answered i first)) (hlater : b < x)
    (hlooked' : At w.log x (.looked j key number')) (hanswered' : At w.log y (.answered j seen)) :
    seen = true
      ∨ (∃ r, a < r ∧ r < b ∧ At w.log r (.removed key.org number number))
      ∨ ∃ r empty, a < r ∧ r < x ∧ empty ≠ number
        ∧ At w.log r (.removed key.org empty number) := by
  have h := (consistent_run (consistent_start now c) hrun).traced
  obtain ⟨answer, hi⟩ := h.looked hlooked
  obtain ⟨answer', hj⟩ := h.looked hlooked'
  have hab := h.begins hlooked hanswered
  have hxy := h.begins hlooked' hanswered'
  rcases h.replaced hlooked hlooked' rfl (by omega) with rfl | ⟨r, empty, har, hr, hremoved⟩
  · exact Or.inl (h.found hanswered hi hanswered' hj (by omega))
  · by_cases hempty : empty = number
    · -- they were found empty, which they are not once the first touch has returned
      subst hempty
      have hle : r ≤ b := Nat.le_of_not_lt fun hbr => h.nonempty hanswered hi hbr hremoved
      have hne : r ≠ b := by
        rintro rfl
        rw [At, hremoved] at hanswered
        cases hanswered
      exact Or.inr (Or.inl ⟨r, har, Nat.lt_of_le_of_ne hle hne, hremoved⟩)
    · exact Or.inr (Or.inr ⟨r, empty, har, hr, hempty, hremoved⟩)

set_option maxRecDepth 4000 in
/-- Both races happen, and in both the later touch answers that the series is new.

In the first run, a prune finds the shards of an organization empty that a touch has just set up. In
the second, two prunes have found them empty. One removes them, the next touch sets up others and
returns, and then the other prune removes these. -/
theorem touch_lost_to_races_of_removal :
    (∃ w, Run ⟨600⟩ (.start ⟨.clamp 36, .ofSeconds 3600, 1, ∅⟩) w
      ∧ w.log = [.looked 0 ⟨⟨7⟩, ⟨.replicate 16 1⟩⟩ 0, .removed ⟨7⟩ 0 0, .answered 0 false,
          .looked 1 ⟨⟨7⟩, ⟨.replicate 16 1⟩⟩ 1, .answered 1 false]
      ∧ ((∃ r, 0 < r ∧ r < 2 ∧ At w.log r (.removed ⟨7⟩ 0 0))
        ∨ ∃ r empty, 0 < r ∧ r < 3 ∧ empty ≠ 0 ∧ At w.log r (.removed ⟨7⟩ empty 0)))
    ∧ ∃ w, Run ⟨600⟩ (.start ⟨.clamp 36, .ofSeconds 3600, 1, ∅⟩) w
      ∧ w.log = [.looked 0 ⟨⟨7⟩, ⟨.replicate 16 1⟩⟩ 0, .removed ⟨7⟩ 0 0,
          .looked 1 ⟨⟨7⟩, ⟨.replicate 16 1⟩⟩ 1, .answered 1 false, .removed ⟨7⟩ 0 1,
          .looked 2 ⟨⟨7⟩, ⟨.replicate 16 1⟩⟩ 2, .answered 2 false]
      ∧ ((∃ r, 2 < r ∧ r < 3 ∧ At w.log r (.removed ⟨7⟩ 1 1))
        ∨ ∃ r empty, 2 < r ∧ r < 5 ∧ empty ≠ 1 ∧ At w.log r (.removed ⟨7⟩ empty 1)) := by
  constructor
  · obtain ⟨w, hrun, hlog⟩ : ∃ w, Run ⟨600⟩ (.start ⟨.clamp 36, .ofSeconds 3600, 1, ∅⟩) w
        ∧ w.log = [.looked 0 ⟨⟨7⟩, ⟨.replicate 16 1⟩⟩ 0, .removed ⟨7⟩ 0 0, .answered 0 false,
          .looked 1 ⟨⟨7⟩, ⟨.replicate 16 1⟩⟩ 1, .answered 1 false] := by
      refine ⟨_, Relation.ReflTransGen.refl
        |>.tail (.look _ ⟨⟨7⟩, ⟨.replicate 16 1⟩⟩)
        |>.tail (.copy [(⟨7⟩, 0)] (.of_eq rfl))
        |>.tail (.shard (j := 0) rfl rfl rfl rfl)
        |>.tail (.remove (j := 0) rfl rfl rfl rfl rfl (by cbv) rfl)
        |>.tail (.record (i := 0) rfl rfl rfl)
        |>.tail (.look _ ⟨⟨7⟩, ⟨.replicate 16 1⟩⟩)
        |>.tail (.record (i := 1) rfl rfl rfl), ?_⟩
      rfl
    have hlost := touch_lost_to_races _ hrun (a := 0) (b := 2) (x := 3) (y := 4)
      (by rw [hlog]; rfl) (by rw [hlog]; rfl) (by decide) (by rw [hlog]; rfl) (by rw [hlog]; rfl)
    exact ⟨w, hrun, hlog, hlost.resolve_left Bool.false_ne_true⟩
  · obtain ⟨w, hrun, hlog⟩ : ∃ w, Run ⟨600⟩ (.start ⟨.clamp 36, .ofSeconds 3600, 1, ∅⟩) w
        ∧ w.log = [.looked 0 ⟨⟨7⟩, ⟨.replicate 16 1⟩⟩ 0, .removed ⟨7⟩ 0 0,
          .looked 1 ⟨⟨7⟩, ⟨.replicate 16 1⟩⟩ 1, .answered 1 false, .removed ⟨7⟩ 0 1,
          .looked 2 ⟨⟨7⟩, ⟨.replicate 16 1⟩⟩ 2, .answered 2 false] := by
      refine ⟨_, Relation.ReflTransGen.refl
        |>.tail (.look _ ⟨⟨7⟩, ⟨.replicate 16 1⟩⟩)
        |>.tail (.copy [(⟨7⟩, 0)] (.of_eq rfl))
        |>.tail (.copy [(⟨7⟩, 0)] (.of_eq rfl))
        |>.tail (.shard (j := 0) rfl rfl rfl rfl)
        |>.tail (.shard (j := 1) rfl rfl rfl rfl)
        |>.tail (.remove (j := 1) rfl rfl rfl rfl rfl (by cbv) rfl)
        |>.tail (.look _ ⟨⟨7⟩, ⟨.replicate 16 1⟩⟩)
        |>.tail (.record (i := 1) rfl rfl rfl)
        |>.tail (.remove (j := 0) rfl rfl rfl rfl rfl (by cbv) rfl)
        |>.tail (.look _ ⟨⟨7⟩, ⟨.replicate 16 1⟩⟩)
        |>.tail (.record (i := 2) rfl rfl rfl), ?_⟩
      rfl
    have hlost := touch_lost_to_races _ hrun (a := 2) (b := 3) (x := 5) (y := 6)
      (by rw [hlog]; rfl) (by rw [hlog]; rfl) (by decide) (by rw [hlog]; rfl) (by rw [hlog]; rfl)
    exact ⟨w, hrun, hlog, hlost.resolve_left Bool.false_ne_true⟩

end Threads

end MetricGateway.Novelty
