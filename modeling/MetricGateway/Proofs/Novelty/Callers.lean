import Mathlib.Data.Nat.Find
import MetricGateway.Proofs.Novelty.Count
import MetricGateway.Proofs.Novelty.Threads

/-!
# First touches of many callers

Callers touch the cache one series after the other, many of them at the same time.
A touch takes the lock of the list twice if it has to: it looks for its
organization under the lock for readers, and only if that is not there it takes the
lock for writers, looks again, and sets the organization up if it is still not
there. It records its sighting under the lock of a shard. Between any two of these
steps, other callers may do theirs. The two looks are one step of the threads that
prune; here they are kept apart.

All times here lie in one bucket, and nobody prunes. Then it makes no difference
who sets up an organization, since its shards are the same, and no touch moves a
reference. So the sightings are those of the same touches one after the other, in
the order in which they have been recorded. That is the invariant, together with
this one: an organization is on the list with the only shards that were ever set up
for it, and these are the ones that callers have in their hands.
-/

namespace MetricGateway.Novelty

/-! ## Organizations -/

namespace Threads.World

/-- Every organization has been set up once at most, and its shards count from one bucket. -/
structure Single (time : Bucket) (w : World) : Prop where
  sound : w.Sound
  uniform : w.view.Uniform
  reference : w.view.AllShards fun shard => shard.reference = time
  once : ∀ org, (w.caches org).length ≤ 1
  unlisted : ∀ org : OrgId, w.list[org]? = none → w.caches org = []

namespace Single

variable {time : Bucket} {w : World}

theorem start {c : KeyCache} (h : c.orgs = ∅) (hpos : 0 < c.shardCount) (time : Bucket) :
    Single time (start c) where
  sound := sound_start c
  uniform := by rw [view_start]; exact KeyCache.uniform_of_orgs_empty h hpos
  reference := by rw [view_start]; exact KeyCache.allShards_of_orgs_empty h _
  once org := by rw [World.start]; dsimp only; rw [h]; exact Nat.zero_le 1
  unlisted org _ := by rw [World.start]; dsimp only; rw [h]; rfl

theorem reference_orgCache (hw : Single time w) (org : OrgId) :
    ∀ shard ∈ (w.view.orgCache org time).shards, shard.reference = time :=
  KeyCache.forall_mem_orgCache hw.reference rfl org

/-- **Looking up an organization sets it up at most once.** -/
theorem lookup (hw : Single time w) (org : OrgId) : Single time (w.lookup org time).2 where
  sound := sound_lookup hw.sound org time
  uniform := by
    rw [view_lookup hw.sound]
    exact KeyCache.uniform_setOrg hw.uniform (KeyCache.size_orgCache hw.uniform org time)
      (KeyCache.forall_mem_orgCache hw.uniform.stale rfl org)
  reference := by
    rw [view_lookup hw.sound]
    exact KeyCache.allShards_setOrg hw.reference (hw.reference_orgCache org)
  once o := by
    rw [caches_lookup]
    split
    case isTrue hnew => rw [hnew.1, hw.unlisted org hnew.2]; exact Nat.le_refl 1
    case isFalse => exact hw.once o
  unlisted o hnone := by
    rw [list_lookup] at hnone
    split at hnone
    case isTrue => cases hnone
    case isFalse ho => rw [caches_lookup, if_neg fun h => ho h.1]; exact hw.unlisted o hnone

/-- Recording a sighting sets up nothing. -/
theorem setCache_touch {now : Timestamp} (hw : Single (.ofTimestamp now) w) {key : MetricKey}
    {number : Nat} {cache : OrgCache} (hlist : w.list[key.org]? = some number)
    (hcache : (w.caches key.org)[number]? = some cache) :
    Single (.ofTimestamp now)
      (w.setCache key.org number (cache.touch key.key (.ofTimestamp now)).2) where
  sound := sound_setCache hw.sound ..
  uniform := by
    rw [(view_setCache_touch hlist hcache now).1]
    exact KeyCache.uniform_touch hw.uniform key now
  reference := by
    rw [(view_setCache_touch hlist hcache now).1]
    refine KeyCache.allShards_touch hw.reference rfl fun s hs => ?_
    rw [Shard.reference_touch, Shard.reach_of_le (by rw [hs]; omega), hs]
  once o := by rw [length_caches_setCache]; exact hw.once o
  unlisted o hnone :=
    List.length_eq_zero_iff.mp (by rw [length_caches_setCache, hw.unlisted o hnone]; rfl)

/-- A touch adds its key, if that is not there. -/
theorem size_touch {now : Timestamp} (hw : Single (.ofTimestamp now) w) (key : MetricKey) :
    (w.view.touch key now).2.size =
      if (w.view.touch key now).1 then w.view.size else w.view.size + 1 := by
  refine KeyCache.size_touch ?_
  rw [hw.reference_orgCache key.org _ (OrgCache.shardAt_mem ..)]
  exact Nat.le_add_right ..

end Single

end Threads.World

namespace Callers

open Threads (World)

/-! ## States -/

/-- A touch that a caller makes. -/
structure Request where
  key : MetricKey
  now : Timestamp
  deriving DecidableEq, Repr

/-- How far a caller has come with the first of its requests. -/
inductive Phase where
  | outside
  /-- It has not found the organization on the list. -/
  | missed
  /-- It has got shards of the organization, of all that this has had. -/
  | holding (cache : Nat)
  deriving DecidableEq, Repr

/-- A caller and the requests that it has not got an answer to, in the order in which it makes
them. -/
structure Caller where
  requests : List Request
  phase : Phase := .outside
  deriving DecidableEq, Repr

/-- A call that has returned. -/
structure Answer where
  /-- Which of the callers has made it. -/
  caller : Nat
  request : Request
  /-- Which shards of its organization it has used. -/
  cache : Nat
  /-- Whether the series was known. -/
  seen : Bool
  deriving DecidableEq, Repr

/-- Where the cache keeps the series of a call. -/
def Answer.slot (a : Answer) (shardCount : Nat) : Slot := slotOf shardCount a.request.key

/-- A cache, the callers at work on it, and the calls that have returned, in this order. No step
depends on the latter. -/
structure State where
  world : World
  callers : List Caller
  answers : List Answer := []

namespace State

/-- A cache before anything is called. -/
def start (c : KeyCache) (programs : List (List Request)) : State where
  world := .start c
  callers := programs.map ({ requests := · })

/-- All calls have returned. -/
def Finished (s : State) : Prop := ∀ caller ∈ s.callers, caller.requests = []

/-- Replaces a caller. -/
def setCaller (s : State) (i : Nat) (caller : Caller) : State :=
  { s with callers := s.callers.set i caller }

/-- A caller looks again for shards of an organization, and sets some up if there are none. -/
def enter (s : State) (i : Nat) (r : Request) (rest : List Request) : State :=
  let found := s.world.lookup r.key.org (.ofTimestamp r.now)
  { s.setCaller i ⟨r :: rest, .holding found.1⟩ with world := found.2 }

/-- A caller records its sighting in the shards that it holds, and its call returns. -/
def record (s : State) (i : Nat) (r : Request) (rest : List Request) (number : Nat)
    (cache : OrgCache) : State :=
  let found := cache.touch r.key.key (.ofTimestamp r.now)
  { s.setCaller i { requests := rest } with
    world := s.world.setCache r.key.org number found.2
    answers := s.answers ++ [⟨i, r, number, found.1⟩] }

end State

/-! ## Steps -/

/-- What a caller can do in one step. -/
inductive Step : State → State → Prop
  /-- It finds the organization on the list. -/
  | hit {s : State} {i : Nat} {r : Request} {rest : List Request} {number : Nat}
      (hcaller : s.callers[i]? = some ⟨r :: rest, .outside⟩)
      (hlist : s.world.list[r.key.org]? = some number) :
      Step s (s.setCaller i ⟨r :: rest, .holding number⟩)
  /-- It does not, and gives the lock back. -/
  | miss {s : State} {i : Nat} {r : Request} {rest : List Request}
      (hcaller : s.callers[i]? = some ⟨r :: rest, .outside⟩)
      (hlist : s.world.list[r.key.org]? = none) : Step s (s.setCaller i ⟨r :: rest, .missed⟩)
  | enter {s : State} {i : Nat} {r : Request} {rest : List Request}
      (hcaller : s.callers[i]? = some ⟨r :: rest, .missed⟩) : Step s (s.enter i r rest)
  | record {s : State} {i : Nat} {r : Request} {rest : List Request} {number : Nat}
      {cache : OrgCache} (hcaller : s.callers[i]? = some ⟨r :: rest, .holding number⟩)
      (hcache : (s.world.caches r.key.org)[number]? = some cache) :
      Step s (s.record i r rest number cache)

/-- Any number of steps, of whichever callers. -/
def Run : State → State → Prop := Relation.ReflTransGen Step

theorem getElem?_setCaller {s : State} {i : Nat} {caller : Caller}
    (h : s.callers[i]? = some caller) (caller' : Caller) :
    (s.setCaller i caller').callers[i]? = some caller' :=
  List.getElem?_set_self (List.getElem?_eq_some_iff.mp h).1

/-- **The steps of a call are a touch**, if nothing comes in between. -/
theorem call_uninterrupted {s : State} (hs : s.world.Sound) {i : Nat} {r : Request}
    {rest : List Request} (hcaller : s.callers[i]? = some ⟨r :: rest, .outside⟩) :
    ∃ s' number, Run s s' ∧ s'.world.view = (s.world.view.touch r.key r.now).2
      ∧ s'.answers = s.answers ++ [⟨i, r, number, (s.world.view.touch r.key r.now).1⟩] := by
  cases hlist : s.world.list[r.key.org]? with
  | some number =>
      have hcache := List.getElem?_eq_getElem (hs.list _ _ hlist)
      obtain ⟨hview, hseen⟩ := World.view_setCache_touch hlist hcache r.now
      have hhit := Relation.ReflTransGen.single (Step.hit hcaller hlist)
      refine ⟨_, number, hhit.tail (.record (getElem?_setCaller hcaller _) hcache), hview, ?_⟩
      rw [← hseen]; rfl
  | none =>
      obtain ⟨hcache, -⟩ := World.lookup_spec hs r.key.org (.ofTimestamp r.now)
      obtain ⟨hview, hseen⟩ :=
        World.view_setCache_touch ((World.list_lookup ..).trans (if_pos rfl)) hcache r.now
      rw [World.view_lookup hs, KeyCache.touch_setOrg_orgCache] at hview hseen
      have hmiss := Relation.ReflTransGen.single (Step.miss hcaller hlist)
      have hmissed := getElem?_setCaller hcaller ⟨r :: rest, .missed⟩
      have henter := hmiss.tail (.enter hmissed)
      refine ⟨_, (s.world.lookup r.key.org (.ofTimestamp r.now)).1,
        henter.tail (.record (getElem?_setCaller hmissed _) hcache), hview, ?_⟩
      rw [← hseen]; rfl

/-! ## Programs -/

/-- The requests of a caller that it has got answers to. -/
def State.madeBy (s : State) (i : Nat) : List Request :=
  (s.answers.filter (·.caller = i)).map (·.request)

/-- Every caller makes its requests in their order, and organizations are set up for requests
only. -/
structure Follows (programs : List (List Request)) (s : State) : Prop where
  requests : ∀ i : Nat,
    programs[i]? = (s.callers[i]?).map fun caller => s.madeBy i ++ caller.requests
  callers : ∀ a ∈ s.answers, a.caller < s.callers.length
  listed : ∀ (org : OrgId) (number : Nat), s.world.list[org]? = some number →
    ∃ r ∈ programs.flatten, r.key.org = org

namespace Follows

variable {programs : List (List Request)} {s : State}

/-- What a caller is at is in its program. -/
theorem mem_of_caller (h : Follows programs s) {i : Nat} {caller : Caller}
    (hcaller : s.callers[i]? = some caller) : ∀ r ∈ caller.requests, r ∈ programs.flatten := by
  intro r hr
  have hprogram := h.requests i
  rw [hcaller, Option.map_some] at hprogram
  exact List.mem_flatten_of_mem (List.mem_of_getElem? hprogram) (List.mem_append_right _ hr)

/-- What has been answered is in a program. -/
theorem mem_of_answer (h : Follows programs s) {a : Answer} (ha : a ∈ s.answers) :
    a.request ∈ programs.flatten := by
  have hprogram := h.requests a.caller
  rw [List.getElem?_eq_getElem (h.callers a ha), Option.map_some] at hprogram
  refine List.mem_flatten_of_mem (List.mem_of_getElem? hprogram) (List.mem_append_left _ ?_)
  exact List.mem_map_of_mem (List.mem_filter.mpr ⟨ha, by simp⟩)

/-- **In the end all programs have been followed.** -/
theorem madeBy_of_finished (h : Follows programs s) (hs : s.Finished) {i : Nat}
    {program : List Request} (hprogram : programs[i]? = some program) : s.madeBy i = program := by
  obtain ⟨caller, hcaller, heq⟩ := Option.map_eq_some_iff.mp ((h.requests i).symm.trans hprogram)
  rw [hs caller (List.mem_of_getElem? hcaller), List.append_nil] at heq
  exact heq

theorem exists_answer_of_finished (h : Follows programs s) (hs : s.Finished) {r : Request}
    (hr : r ∈ programs.flatten) : ∃ a ∈ s.answers, a.request = r := by
  obtain ⟨program, hprogram, hmem⟩ := List.mem_flatten.mp hr
  obtain ⟨i, hi⟩ := List.getElem?_of_mem hprogram
  rw [← h.madeBy_of_finished hs hi] at hmem
  obtain ⟨a, ha, heq⟩ := List.mem_map.mp hmem
  exact ⟨a, (List.mem_filter.mp ha).1, heq⟩

/-- A caller that goes on with the same requests follows its program. -/
theorem requests_setCaller (h : Follows programs s) {i : Nat} {caller caller' : Caller}
    (hcaller : s.callers[i]? = some caller) (hsame : caller'.requests = caller.requests) (j : Nat) :
    programs[j]? = ((s.callers.set i caller')[j]?).map fun caller =>
      s.madeBy j ++ caller.requests := by
  rw [h.requests j, List.getElem?_set]
  obtain ⟨hlt, -⟩ := List.getElem?_eq_some_iff.mp hcaller
  by_cases hij : i = j
  · subst hij
    rw [if_pos rfl, if_pos hlt, hcaller, Option.map_some, Option.map_some, hsame]
  · rw [if_neg hij]

end Follows

theorem follows_start {c : KeyCache} (h : c.orgs = ∅) (programs : List (List Request)) :
    Follows programs (.start c programs) where
  requests i := by
    rw [State.start, List.getElem?_map, Option.map_map]
    exact Option.map_id'.symm
  callers := nofun
  listed org number hlist := by
    have hnone : (World.start c).list[org]? = none := by
      rw [World.start, Std.ExtTreeMap.getElem?_map, h]; rfl
    rw [State.start, hnone] at hlist
    cases hlist

theorem follows_step {programs : List (List Request)} {s s' : State} (h : Follows programs s)
    (hstep : Step s s') : Follows programs s' := by
  have hcallers : ∀ {i : Nat} {caller : Caller}, ∀ a ∈ s.answers,
      a.caller < (s.callers.set i caller).length := fun {_ _} a ha => by
    rw [List.length_set]; exact h.callers a ha
  cases hstep with
  | hit hcaller => exact ⟨h.requests_setCaller hcaller rfl, hcallers, h.listed⟩
  | miss hcaller => exact ⟨h.requests_setCaller hcaller rfl, hcallers, h.listed⟩
  | @enter i r rest hcaller =>
      refine ⟨h.requests_setCaller hcaller rfl, hcallers, fun org number hlist => ?_⟩
      rw [State.enter, World.list_lookup] at hlist
      split at hlist
      case isTrue horg =>
        exact ⟨r, h.mem_of_caller hcaller r (List.mem_cons_self ..), horg.symm⟩
      case isFalse => exact h.listed org number hlist
  | @record i r rest number cache hcaller hcache =>
      obtain ⟨hlt, -⟩ := List.getElem?_eq_some_iff.mp hcaller
      refine ⟨fun j => ?_, fun a ha => ?_, h.listed⟩
      · have hmade : (s.record i r rest number cache).madeBy j =
            s.madeBy j ++ if i = j then [r] else [] := by
          rw [State.madeBy, State.record, List.filter_append, List.map_append]
          by_cases hij : i = j <;> simp [hij, State.madeBy]
        rw [h.requests j, hmade, State.record, State.setCaller]
        dsimp only
        rw [List.getElem?_set]
        by_cases hij : i = j
        · subst hij
          rw [if_pos rfl, if_pos rfl, if_pos hlt, hcaller, Option.map_some, Option.map_some,
            List.append_assoc]
          rfl
        · rw [if_neg hij, if_neg hij, List.append_nil]
      · rcases List.mem_append.mp ha with hold | hnew
        · exact hcallers a hold
        · rw [List.mem_singleton.mp hnew]
          exact (List.length_set ..).symm ▸ hlt

/-! ## Answers -/

/-- Answers as calls get them one after the other: a series is known if a call of its slot came
before. -/
def Sequential (n : Nat) (answers : List Answer) : Prop :=
  ∀ (i : Nat) (a : Answer), answers[i]? = some a →
    (a.seen = true ↔ ∃ j < i, ∃ b, answers[j]? = some b ∧ b.slot n = a.slot n)

namespace Sequential

variable {n : Nat} {answers : List Answer} {a : Answer}

theorem concat (h : Sequential n answers)
    (ha : a.seen = true ↔ ∃ b ∈ answers, b.slot n = a.slot n) : Sequential n (answers ++ [a]) := by
  have hearlier : ∀ k < answers.length, (answers ++ [a])[k]? = answers[k]? :=
    fun k hk => List.getElem?_append_left hk
  intro i a' hi
  rcases Nat.lt_or_ge i answers.length with hlt | hge
  · -- an answer from before
    rw [hearlier i hlt] at hi
    rw [h i a' hi]
    refine exists_congr fun k => and_congr_right fun hk => ?_
    rw [hearlier k (Nat.lt_trans hk hlt)]
  · -- the new one
    have hlt := (List.getElem?_eq_some_iff.mp hi).1
    rw [List.length_append, List.length_singleton] at hlt
    obtain rfl : i = answers.length := by omega
    rw [List.getElem?_concat_length] at hi
    cases hi
    rw [ha]
    constructor
    · rintro ⟨b, hb, hsame⟩
      obtain ⟨k, hk⟩ := List.getElem?_of_mem hb
      have hklt := (List.getElem?_eq_some_iff.mp hk).1
      exact ⟨k, hklt, b, (hearlier k hklt).trans hk, hsame⟩
    · rintro ⟨k, hk, b, hb, hsame⟩
      exact ⟨b, List.mem_of_getElem? ((hearlier k hk).symm.trans hb), hsame⟩

/-- **Each slot is new to one call**, the first. -/
theorem exists_unique_first (h : Sequential n answers) (ha : a ∈ answers) :
    ∃! i : Nat, ∃ first : Answer, answers[i]? = some first ∧ first.slot n = a.slot n
      ∧ first.seen = false := by
  have hexists : ∃ (i : Nat) (b : Answer), answers[i]? = some b ∧ b.slot n = a.slot n := by
    obtain ⟨i, hi⟩ := List.getElem?_of_mem ha
    exact ⟨i, a, hi, rfl⟩
  classical
  obtain ⟨first, hfirst, hslot⟩ := Nat.find_spec hexists
  refine ⟨Nat.find hexists, ⟨first, hfirst, hslot, ?_⟩, ?_⟩
  · refine Bool.eq_false_iff.mpr fun hseen => ?_
    obtain ⟨j, hj, b, hb, hsame⟩ := (h _ _ hfirst).mp hseen
    exact Nat.find_min hexists hj ⟨b, hb, hsame.trans hslot⟩
  · rintro i ⟨b, hb, hsame, hnew⟩
    refine (Nat.le_antisymm (Nat.find_min' hexists ⟨b, hb, hsame⟩) ?_).symm
    refine Nat.le_of_not_lt fun hlt => ?_
    -- the first one would have been seen by this one
    have hseen := (h i b hb).mpr ⟨_, hlt, first, hfirst, hslot.trans hsame.symm⟩
    rw [hnew] at hseen
    cases hseen

end Sequential

/-- The cache has the shards and the sightings that the calls have left there, and their answers are
those of the same calls one after the other. -/
structure Agrees (n : Nat) (now : Timestamp) (s : State) : Prop where
  world : World.Single (.ofTimestamp now) s.world
  shardCount : s.world.shardCount = n
  /-- Callers hold shards that are in use. -/
  holding : ∀ caller ∈ s.callers, ∀ r rest number, caller = ⟨r :: rest, .holding number⟩ →
    s.world.list[r.key.org]? = some number
  used : ∀ a ∈ s.answers, s.world.list[a.request.key.org]? = some a.cache
  /-- What a touch would find is what has been touched. -/
  finds : ∀ key, s.world.view.Finds now key ↔ ∃ a ∈ s.answers, a.slot n = slotOf n key
  sequential : Sequential n s.answers
  size : s.world.view.size = (s.answers.map (·.slot n)).toFinset.card

theorem agrees_start {c : KeyCache} (h : c.orgs = ∅) (hpos : 0 < c.shardCount) (now : Timestamp)
    (programs : List (List Request)) : Agrees c.shardCount now (.start c programs) where
  world := World.Single.start h hpos _
  shardCount := rfl
  holding := by
    rintro caller hmem r rest number rfl
    obtain ⟨program, -, heq⟩ := List.mem_map.mp hmem
    cases heq
  used := nofun
  finds key := by
    rw [State.start, Threads.view_start]
    refine iff_of_false (fun hfinds => ?_) (by simp)
    exact KeyCache.not_knows_of_orgs_empty h key (KeyCache.knows_of_finds hfinds)
  sequential := nofun
  size := by
    rw [State.start, Threads.view_start, KeyCache.size_eq_sum, h]; rfl

namespace Agrees

variable {n : Nat} {now : Timestamp} {s : State}

/-- A caller holds shards that are in use, and so do the others. -/
theorem holding_setCaller (h : Agrees n now s) {w : World} {i : Nat} {caller : Caller}
    (hkept : ∀ (org : OrgId) (number : Nat), s.world.list[org]? = some number →
      w.list[org]? = some number)
    (hown : ∀ r rest number, caller = ⟨r :: rest, .holding number⟩ →
      w.list[r.key.org]? = some number) :
    ∀ caller' ∈ s.callers.set i caller, ∀ r rest number, caller' = ⟨r :: rest, .holding number⟩ →
      w.list[r.key.org]? = some number := by
  intro caller' hmem r rest number heq
  rcases List.mem_or_eq_of_mem_set hmem with hold | rfl
  · exact hkept _ _ (h.holding caller' hold r rest number heq)
  · exact hown r rest number heq

/-- **A call that returns agrees with those before it.** -/
theorem record (h : Agrees n now s) {i : Nat} {r : Request} {rest : List Request} {number : Nat}
    {cache : OrgCache} (htime : Bucket.ofTimestamp r.now = .ofTimestamp now)
    (hlist : s.world.list[r.key.org]? = some number)
    (hcache : (s.world.caches r.key.org)[number]? = some cache) :
    Agrees n now (s.record i r rest number cache) := by
  obtain ⟨hview, hseen⟩ := World.view_setCache_touch hlist hcache now
  have hfinds := h.finds r.key
  rw [KeyCache.Finds, ← hseen] at hfinds
  rw [State.record, htime]
  generalize hfound : cache.touch r.key.key (.ofTimestamp now) = found at *
  have hslot : slotOf s.world.view.shardCount = slotOf n := congrArg slotOf h.shardCount
  refine {
    world := hfound ▸ h.world.setCache_touch hlist hcache
    shardCount := h.shardCount
    holding := h.holding_setCaller (fun _ _ => id) (by rintro _ _ _ ⟨⟩)
    used := fun a ha => ?_
    finds := fun key => ?_
    sequential := h.sequential.concat hfinds
    size := ?_ }
  · rcases List.mem_append.mp ha with hold | hnew
    · exact h.used a hold
    · rw [List.mem_singleton.mp hnew]; exact hlist
  · dsimp only
    rw [hview, KeyCache.finds_touch_iff h.world.uniform, h.finds, hslot]
    simp only [List.mem_append, List.mem_singleton, or_and_right, exists_or, exists_eq_left,
      Answer.slot]
    rw [or_comm, eq_comm (a := slotOf n key)]
  · dsimp only
    rw [hview, h.world.size_touch, ← hseen, h.size, List.map_append, List.toFinset_append,
      List.map_singleton, List.toFinset_cons, List.toFinset_nil, insert_empty_eq,
      Finset.union_singleton, Finset.card_insert_eq_ite]
    refine if_congr (hfinds.trans ?_) rfl rfl
    simp only [List.mem_toFinset, List.mem_map, Answer.slot]

end Agrees

theorem agrees_step {n : Nat} {now : Timestamp} {s s' : State} (h : Agrees n now s)
    (htimes : ∀ caller ∈ s.callers, ∀ r ∈ caller.requests,
      Bucket.ofTimestamp r.now = .ofTimestamp now) (hstep : Step s s') : Agrees n now s' := by
  cases hstep with
  | hit hcaller hlist =>
      refine { h with holding := h.holding_setCaller (fun _ _ => id) ?_ }
      rintro _ _ _ ⟨⟩
      exact hlist
  | miss hcaller hlist =>
      refine { h with holding := h.holding_setCaller (fun _ _ => id) ?_ }
      rintro _ _ _ ⟨⟩
  | @enter i r rest hcaller =>
      have htime := htimes _ (List.mem_of_getElem? hcaller) r (List.mem_cons_self ..)
      have hview := World.view_lookup h.world.sound r.key.org (.ofTimestamp now)
      have hcount : (s.world.lookup r.key.org (.ofTimestamp now)).2.shardCount =
          s.world.shardCount := congrArg KeyCache.shardCount hview
      rw [State.enter, htime]
      refine {
        world := h.world.lookup r.key.org
        shardCount := hcount.trans h.shardCount
        holding := h.holding_setCaller (fun _ _ => World.list_lookup_of_some) ?_
        used := fun a ha => World.list_lookup_of_some (h.used a ha)
        finds := fun key => ?_
        sequential := h.sequential
        size := ?_ }
      · rintro _ _ _ ⟨⟩
        rw [World.list_lookup, if_pos rfl]
      · dsimp only
        rw [hview, KeyCache.finds_setOrg_orgCache_iff]
        exact h.finds key
      · dsimp only
        rw [hview, KeyCache.size_setOrg_orgCache]
        exact h.size
  | @record i r rest number cache hcaller hcache =>
      have hmem := List.mem_of_getElem? hcaller
      exact h.record (htimes _ hmem r (List.mem_cons_self ..)) (h.holding _ hmem r rest number rfl)
        hcache

theorem follows_run {programs : List (List Request)} {s s' : State} (h : Follows programs s)
    (hrun : Run s s') : Follows programs s' := by
  induction hrun with
  | refl => exact h
  | tail _ hstep ih => exact follows_step ih hstep

theorem agrees_run {programs : List (List Request)} {n : Nat} {now : Timestamp} {s s' : State}
    (hfollows : Follows programs s)
    (htimes : ∀ r ∈ programs.flatten, Bucket.ofTimestamp r.now = .ofTimestamp now)
    (h : Agrees n now s) (hrun : Run s s') : Agrees n now s' := by
  induction hrun with
  | refl => exact h
  | tail hrun hstep ih =>
      refine agrees_step ih (fun caller hcaller r hr => ?_) hstep
      obtain ⟨i, hi⟩ := List.getElem?_of_mem hcaller
      exact htimes r ((follows_run hfollows hrun).mem_of_caller hi r hr)

/-! ## Progress -/

/-- How many steps a caller has left at most. -/
def Caller.left : Caller → Nat
  | ⟨[], _⟩ => 0
  | ⟨_ :: rest, .outside⟩ => 3 * rest.length + 3
  | ⟨_ :: rest, .missed⟩ => 3 * rest.length + 2
  | ⟨_ :: rest, .holding _⟩ => 3 * rest.length + 1

/-- How many steps all callers have left at most. -/
def State.left (s : State) : Nat := (s.callers.map Caller.left).sum

theorem left_setCaller_lt {s : State} {i : Nat} {caller caller' : Caller}
    (hcaller : s.callers[i]? = some caller) (h : caller'.left < caller.left) :
    (s.setCaller i caller').left < s.left := by
  obtain ⟨hlt, rfl⟩ := List.getElem?_eq_some_iff.mp hcaller
  have hsum := sum_set_add_getElem (l := s.callers.map Caller.left) (i := i)
    (by rwa [List.length_map]) caller'.left
  rw [List.getElem_map, ← List.map_set] at hsum
  rw [State.left, State.left, State.setCaller]
  dsimp only
  omega

/-- **No schedule goes on forever.** -/
theorem left_lt_of_step {s s' : State} (h : Step s s') : s'.left < s.left := by
  cases h with
  | hit hcaller => exact left_setCaller_lt hcaller (by simp only [Caller.left]; omega)
  | miss hcaller => exact left_setCaller_lt hcaller (by simp only [Caller.left]; omega)
  | enter hcaller => exact left_setCaller_lt hcaller (by simp only [Caller.left]; omega)
  | @record i r rest number cache hcaller =>
      have hlt : ({ requests := rest } : Caller).left < 3 * rest.length + 1 := by
        cases rest with
        | nil => exact Nat.zero_lt_one
        | cons => exact Nat.lt_succ_self _
      exact left_setCaller_lt hcaller hlt

/-- **Nor does it end before all calls have returned.** -/
theorem exists_step {n : Nat} {now : Timestamp} {s : State} (h : Agrees n now s)
    (hs : ¬ s.Finished) : ∃ s', Step s s' := by
  obtain ⟨caller, hmem, hne⟩ : ∃ caller ∈ s.callers, caller.requests ≠ [] := by
    simpa [State.Finished] using hs
  obtain ⟨i, hi⟩ := List.getElem?_of_mem hmem
  obtain ⟨requests, phase⟩ := caller
  cases requests with
  | nil => exact absurd rfl hne
  | cons r rest =>
      cases phase with
      | outside =>
          cases hlist : s.world.list[r.key.org]? with
          | some number => exact ⟨_, .hit hi hlist⟩
          | none => exact ⟨_, .miss hi hlist⟩
      | missed => exact ⟨_, .enter hi⟩
      | holding number =>
          have hlt := h.world.sound.list _ _ (h.holding _ hmem r rest number rfl)
          exact ⟨_, .record hi (List.getElem?_eq_getElem hlt)⟩

theorem exists_run_finished {programs : List (List Request)} {n : Nat} {now : Timestamp}
    {s : State} (hfollows : Follows programs s)
    (htimes : ∀ r ∈ programs.flatten, Bucket.ofTimestamp r.now = .ofTimestamp now)
    (h : Agrees n now s) : ∃ s', Run s s' ∧ s'.Finished := by
  by_cases hs : s.Finished
  · exact ⟨s, .refl, hs⟩
  · obtain ⟨s₁, hstep⟩ := exists_step h hs
    have hrun := Relation.ReflTransGen.single hstep
    have hlt := left_lt_of_step hstep
    obtain ⟨s₂, hrest, hfinished⟩ := exists_run_finished (follows_run hfollows hrun) htimes
      (agrees_run hfollows htimes h hrun)
    exact ⟨s₂, hrun.trans hrest, hfinished⟩
termination_by s.left

/-! ## First touches -/

/-- **First touches agree.** Let any number of callers touch series in a new cache, each of them any
number in turn, at times of one bucket, and let their steps come in any order.

* For no organization are shards set up twice, and all calls use the same.
* Of the calls that have returned and whose series share a slot, one says that it is new, and all
  others say that it is known.
* The calls can all return. When they have, every caller has made its requests in turn, and the
  cache has as many keys as slots have been touched and as many organizations as series had. -/
theorem first_touches_agree {config : CacheConfig} {c : KeyCache}
    (hc : KeyCache.ofConfig config = .ok c) {now : Timestamp} {programs : List (List Request)}
    (htimes : ∀ r ∈ programs.flatten, Bucket.ofTimestamp r.now = .ofTimestamp now) {s : State}
    (hrun : Run (.start c programs) s) :
    ((∀ org, (s.world.caches org).length ≤ 1)
      ∧ ∀ a ∈ s.answers, ∀ b ∈ s.answers, a.request.key.org = b.request.key.org →
        a.cache = b.cache)
      ∧ (∀ a ∈ s.answers, ∃! i : Nat, ∃ first : Answer, s.answers[i]? = some first
        ∧ first.slot config.shardCount = a.slot config.shardCount ∧ first.seen = false)
      ∧ (∃ s', Run s s' ∧ s'.Finished)
      ∧ (s.Finished →
        (∀ (i : Nat) (program : List Request), programs[i]? = some program →
          s.madeBy i = program)
        ∧ s.world.view.size =
          (programs.flatten.map fun r => slotOf config.shardCount r.key).toFinset.card
        ∧ s.world.view.orgCount = (programs.flatten.map (·.key.org)).toFinset.card) := by
  obtain ⟨horgs, hcount⟩ := KeyCache.orgs_of_ofConfig hc
  obtain ⟨hpos, -⟩ := KeyCache.limits_of_ofConfig hc
  rw [← hcount] at hpos ⊢
  have hstart := follows_start horgs programs
  have hfollows := follows_run hstart hrun
  have h := agrees_run hstart htimes (agrees_start horgs hpos now programs) hrun
  refine ⟨⟨h.world.once, fun a ha b hb horg => ?_⟩, fun a ha => h.sequential.exists_unique_first ha,
    exists_run_finished hfollows htimes h, fun hs => ⟨fun i program hprogram =>
      hfollows.madeBy_of_finished hs hprogram, ?_, ?_⟩⟩
  · have hlist := h.used a ha
    rw [horg, h.used b hb] at hlist
    exact (Option.some.inj hlist).symm
  · rw [h.size]
    congr 1
    ext slot
    simp only [List.mem_toFinset, List.mem_map]
    constructor
    · rintro ⟨a, ha, rfl⟩; exact ⟨a.request, hfollows.mem_of_answer ha, rfl⟩
    · rintro ⟨r, hr, rfl⟩
      obtain ⟨a, ha, rfl⟩ := hfollows.exists_answer_of_finished hs hr
      exact ⟨a, ha, rfl⟩
  · refine KeyCache.orgCount_eq_card fun org => ?_
    rw [List.mem_toFinset, List.mem_map, Std.ExtTreeMap.mem_iff_isSome_getElem?,
      World.getElem?_view]
    constructor
    · intro hsome
      cases hlist : s.world.list[org]? with
      | none => rw [hlist] at hsome; cases hsome
      | some number => exact hfollows.listed org number hlist
    · rintro ⟨r, hr, rfl⟩
      obtain ⟨a, ha, rfl⟩ := hfollows.exists_answer_of_finished hs hr
      have hlist := h.used a ha
      rw [hlist, Option.bind_some, List.getElem?_eq_getElem (h.world.sound.list _ _ hlist)]
      rfl

/-- Two callers miss the same organization. The second sets it up, but the first records its
sighting earlier. Their series differ in the first byte, so with one shard they share a slot. -/
theorem first_touches_agree_of_race :
    let config : CacheConfig :=
      { staleThreshold := .ofSeconds 21600, pruneInterval := .ofSeconds 3600, shardCount := 1 }
    let a : Request := ⟨⟨⟨7⟩, ⟨.replicate 16 1⟩⟩, ⟨600⟩⟩
    let b : Request := ⟨⟨⟨7⟩, ⟨(Vector.replicate 16 1).set 0 2 (Nat.succ_pos 15)⟩⟩, ⟨1199⟩⟩
    let other : Request := ⟨⟨⟨8⟩, ⟨.replicate 16 1⟩⟩, ⟨900⟩⟩
    ∃ c s, KeyCache.ofConfig config = .ok c
      ∧ (∀ r ∈ [[a, other], [b]].flatten, Bucket.ofTimestamp r.now = .ofTimestamp ⟨600⟩)
      ∧ Run (.start c [[a, other], [b]]) s
      ∧ s.answers = [⟨0, a, 0, false⟩, ⟨1, b, 0, true⟩, ⟨0, other, 0, false⟩]
      ∧ (∀ org, (s.world.caches org).length ≤ 1)
      ∧ (∃! i : Nat, ∃ first : Answer, s.answers[i]? = some first
        ∧ first.slot 1 = slotOf 1 b.key ∧ first.seen = false)
      ∧ s.Finished ∧ s.world.view.size = 2 ∧ s.world.view.orgCount = 2 := by
  intro config a b other
  have hc : KeyCache.ofConfig config = .ok ⟨.clamp 36, .ofSeconds 3600, 1, ∅⟩ := by
    have hvalid : config.validate = .ok () := by decide
    have hstale : Age.ofDuration? config.staleThreshold = some (.clamp 36) := by decide
    rw [KeyCache.ofConfig, hvalid, hstale]
  have htimes : ∀ r ∈ [[a, other], [b]].flatten, Bucket.ofTimestamp r.now = .ofTimestamp ⟨600⟩ := by
    decide
  obtain ⟨s, hrun, hanswers, hcallers⟩ : ∃ s,
      Run (.start ⟨.clamp 36, .ofSeconds 3600, 1, ∅⟩ [[a, other], [b]]) s
        ∧ s.answers = [⟨0, a, 0, false⟩, ⟨1, b, 0, true⟩, ⟨0, other, 0, false⟩]
        ∧ s.callers = [{ requests := [] }, { requests := [] }] := by
    refine ⟨_, Relation.ReflTransGen.refl
      |>.tail (.miss (i := 0) rfl rfl)
      |>.tail (.miss (i := 1) rfl rfl)
      |>.tail (.enter (i := 1) rfl)
      |>.tail (.enter (i := 0) rfl)
      |>.tail (.record (i := 0) rfl rfl)
      |>.tail (.record (i := 1) rfl rfl)
      |>.tail (.miss (i := 0) rfl rfl)
      |>.tail (.enter (i := 0) rfl)
      |>.tail (.record (i := 0) rfl rfl), ?_, ?_⟩
    · decide +kernel
    · decide +kernel
  have hfinished : s.Finished := by rw [State.Finished, hcallers]; decide
  obtain ⟨⟨honce, -⟩, hfirst, -, hend⟩ := first_touches_agree hc htimes hrun
  obtain ⟨-, hsize, horgs⟩ := hend hfinished
  refine ⟨_, s, hc, htimes, hrun, hanswers, honce, ?_, hfinished, hsize.trans ?_,
    horgs.trans ?_⟩
  · exact hfirst ⟨1, b, 0, true⟩ (by rw [hanswers]; decide)
  · decide
  · decide

end Callers

end MetricGateway.Novelty
