import Mathlib.Logic.Relation
import MetricGateway.Proofs.Novelty.Count

/-!
# Threads on one cache

Threads share the cache, and no call of it is a single step. A touch looks up the
shards of its organization under the lock of the list of organizations, and sets
them up if there are none; it records its sighting later, under the lock of one
shard. A prune copies the list, prunes one shard after the other, and locks the
list again to remove an organization without keys.

Shards live on for whoever has looked them up, whether or not their organization
is still on the list. So they are kept apart from it here: for every organization
there are all shards that were ever set up for it, numbered in that order, and
the list says which of them are in use.

If nothing comes in between, the steps of a touch are the touch of the whole cache
(`touch_uninterrupted`) and those of a prune its prune (`prune_uninterrupted`).
-/

namespace MetricGateway.Novelty

/-- Drops what is stale in one of the shards. -/
def OrgCache.pruneShard (c : OrgCache) (i : Nat) (now : Bucket) : OrgCache :=
  ⟨c.shards.modify i (·.prune now), by simpa using c.nonempty⟩

namespace Threads

/-! ## States -/

/-- A touch that has looked up the shards of its organization. -/
structure Touch where
  key : MetricKey
  /-- Which shards these are, of all that the organization has had. -/
  cache : Nat
  /-- Whether the series was known, once the touch has returned. -/
  answer : Option Bool := none
  deriving DecidableEq, Repr

/-- A prune that has copied the list of organizations. -/
structure Prune where
  /-- The organizations that are left, with their shards. The first is at hand. -/
  rest : List (OrgId × Nat)
  /-- How many shards of it have been pruned. -/
  shards : Nat := 0
  /-- How many keys are left in these. -/
  kept : Nat := 0
  report : PruneReport := ⟨0, 0, 0⟩
  returned : Bool := false
  deriving DecidableEq, Repr

/-- A prune goes on to the next of the shards at hand. -/
def Prune.nextShard (p : Prune) (kept : Nat) : Prune :=
  { p with shards := p.shards + 1, kept := p.kept + kept }

/-- A prune goes on to the next organization, and has removed so many with the one at hand. -/
def Prune.nextOrg (p : Prune) (rest : List (OrgId × Nat)) (removed : Nat) : Prune :=
  { rest
    report :=
      ⟨p.report.keys + p.kept, p.report.orgs, p.report.removedOrgs + removed⟩ }

/-- A prune returns. -/
def Prune.finish (p : Prune) (orgs : Nat) : Prune :=
  { p with report := { p.report with orgs }, returned := true }

/-- What can be seen of the work of threads. -/
inductive Event where
  /-- A touch has looked up the shards of its organization. -/
  | looked (touch : Nat) (key : MetricKey) (cache : Nat)
  /-- A touch has returned. -/
  | answered (touch : Nat) (seen : Bool)
  /-- A prune has found that some shards of an organization were empty, and has taken the
  organization off the list, where it stood with shards that may be others. -/
  | removed (org : OrgId) (empty gone : Nat)
  deriving DecidableEq, Repr

/-- A cache and the threads at work on it. -/
structure World where
  stale : Age
  pruneInterval : Duration
  shardCount : Nat
  /-- All shards that were ever set up for an organization. -/
  caches : OrgId → List OrgCache
  /-- Which of them are in use. -/
  list : Std.ExtTreeMap OrgId Nat
  touches : List Touch := []
  prunes : List Prune := []
  /-- What has happened so far. No step depends on it. -/
  log : List Event := []

namespace World

/-- A cache before any thread is at work. -/
def start (c : KeyCache) : World where
  stale := c.stale
  pruneInterval := c.pruneInterval
  shardCount := c.shardCount
  caches org := c.orgs[org]?.toList
  list := c.orgs.map fun _ _ => 0

/-- The cache as a thread would find it that is alone. -/
def view (w : World) : KeyCache :=
  ⟨w.stale, w.pruneInterval, w.shardCount, w.list.filterMap fun org number => (w.caches org)[number]?⟩

/-- Replaces shards of an organization. -/
def setCache (w : World) (org : OrgId) (number : Nat) (cache : OrgCache) : World :=
  { w with caches := fun o => if o = org then (w.caches o).set number cache else w.caches o }

/-- Replaces what a prune has come to. -/
def setPrune (w : World) (j : Nat) (p : Prune) : World := { w with prunes := w.prunes.set j p }

/-! ## Steps of touches -/

/-- Looks up which shards of an organization are in use, and sets some up if there are none. -/
def lookup (w : World) (org : OrgId) (time : Bucket) : Nat × World :=
  match w.list[org]? with
  | some number => (number, w)
  | none =>
    let number := (w.caches org).length
    (number, { w with
      caches := fun o =>
        if o = org then w.caches o ++ [.empty w.shardCount time w.stale] else w.caches o
      list := w.list.insert org number })

/-- A touch begins. -/
def look (w : World) (now : Timestamp) (key : MetricKey) : World :=
  let found := w.lookup key.org (.ofTimestamp now)
  { found.2 with
    touches := w.touches ++ [{ key, cache := found.1 }]
    log := w.log ++ [.looked w.touches.length key found.1] }

/-- A touch records its sighting in shards that it has looked up, and returns. -/
def record (w : World) (now : Timestamp) (i : Nat) (t : Touch) (cache : OrgCache) : World :=
  let found := cache.touch t.key.key (.ofTimestamp now)
  { w.setCache t.key.org t.cache found.2 with
    touches := w.touches.set i { t with answer := some found.1 }
    log := w.log ++ [.answered i found.1] }

/-! ## Steps of prunes -/

/-- A prune begins with a copy of the list. -/
def copy (w : World) (order : List (OrgId × Nat)) : World :=
  { w with prunes := w.prunes ++ [{ rest := order }] }

/-- A prune drops what is stale in the next shard of the organization at hand. -/
def pruneShard (w : World) (now : Timestamp) (j : Nat) (p : Prune) (org : OrgId) (number : Nat)
    (cache : OrgCache) (shard : Shard) : World :=
  (w.setCache org number (cache.pruneShard p.shards (.ofTimestamp now))).setPrune j
    (p.nextShard (shard.prune (.ofTimestamp now)).size)

/-- A prune leaves the organization at hand on the list. -/
def keep (w : World) (j : Nat) (p : Prune) (rest : List (OrgId × Nat)) : World :=
  w.setPrune j (p.nextOrg rest 0)

/-- A prune takes the organization at hand off the list. -/
def remove (w : World) (j : Nat) (p : Prune) (org : OrgId) (number gone : Nat)
    (rest : List (OrgId × Nat)) : World :=
  { w.setPrune j (p.nextOrg rest 1) with
    list := w.list.erase org
    log := w.log ++ [.removed org number gone] }

/-- A prune counts the organizations and returns. -/
def finish (w : World) (j : Nat) (p : Prune) : World :=
  w.setPrune j (p.finish w.list.size)

end World

/-! ## Steps -/

/-- What a thread can do in one step. All threads have the same time. -/
inductive Step (now : Timestamp) : World → World → Prop where
  | look (w : World) (key : MetricKey) : Step now w (w.look now key)
  | record {w : World} {i : Nat} {t : Touch} {cache : OrgCache} (ht : w.touches[i]? = some t)
      (hpending : t.answer = none) (hcache : (w.caches t.key.org)[t.cache]? = some cache) :
      Step now w (w.record now i t cache)
  /-- The list has no particular order. -/
  | copy {w : World} (order : List (OrgId × Nat)) (horder : order.Perm w.list.toList) :
      Step now w (w.copy order)
  | shard {w : World} {j : Nat} {p : Prune} {org : OrgId} {number : Nat}
      {rest : List (OrgId × Nat)} {cache : OrgCache} {shard : Shard} (hp : w.prunes[j]? = some p)
      (hrest : p.rest = (org, number) :: rest) (hcache : (w.caches org)[number]? = some cache)
      (hshard : cache.shards[p.shards]? = some shard) :
      Step now w (w.pruneShard now j p org number cache shard)
  /-- Behind the last shard, an organization stays on the list if it has kept keys, or has got some
  meanwhile, or is not on the list any more. -/
  | keep {w : World} {j : Nat} {p : Prune} {org : OrgId} {number : Nat}
      {rest : List (OrgId × Nat)} {cache : OrgCache} (hp : w.prunes[j]? = some p)
      (hrest : p.rest = (org, number) :: rest) (hcache : (w.caches org)[number]? = some cache)
      (hdone : p.shards = cache.shards.size)
      (hkept : p.kept ≠ 0 ∨ cache.isEmpty = false ∨ w.list[org]? = none) :
      Step now w (w.keep j p rest)
  | remove {w : World} {j : Nat} {p : Prune} {org : OrgId} {number gone : Nat}
      {rest : List (OrgId × Nat)} {cache : OrgCache} (hp : w.prunes[j]? = some p)
      (hrest : p.rest = (org, number) :: rest) (hcache : (w.caches org)[number]? = some cache)
      (hdone : p.shards = cache.shards.size) (hkept : p.kept = 0)
      (hempty : cache.isEmpty = true) (hgone : w.list[org]? = some gone) :
      Step now w (w.remove j p org number gone rest)
  | finish {w : World} {j : Nat} {p : Prune} (hp : w.prunes[j]? = some p) (hrest : p.rest = [])
      (hpending : p.returned = false) : Step now w (w.finish j p)

/-- Any number of steps. -/
def Run (now : Timestamp) : World → World → Prop := Relation.ReflTransGen (Step now)

namespace World

/-! ## Shards that are in use -/

/-- Whatever is on the list, or in the hands of a thread, has been set up. -/
structure Sound (w : World) : Prop where
  list : ∀ (org : OrgId) (number : Nat), w.list[org]? = some number →
    number < (w.caches org).length
  touches : ∀ t ∈ w.touches, t.cache < (w.caches t.key.org).length
  prunes : ∀ p ∈ w.prunes, ∀ h ∈ p.rest, h.2 < (w.caches h.1).length

theorem getElem?_view (w : World) (org : OrgId) :
    w.view.orgs[org]? = (w.list[org]?).bind fun number => (w.caches org)[number]? :=
  Std.ExtTreeMap.getElem?_filterMap'

theorem caches_setCache (w : World) (org o : OrgId) (number : Nat) (cache : OrgCache) :
    (w.setCache org number cache).caches o =
      if o = org then (w.caches o).set number cache else w.caches o := rfl

theorem getElem?_setCache {w : World} {org : OrgId} {number : Nat} {before : OrgCache}
    (h : (w.caches org)[number]? = some before) (cache : OrgCache) (o : OrgId) (n : Nat) :
    ((w.setCache org number cache).caches o)[n]? =
      if o = org ∧ n = number then some cache else (w.caches o)[n]? := by
  obtain ⟨hlt, -⟩ := List.getElem?_eq_some_iff.mp h
  rw [caches_setCache]
  by_cases ho : o = org
  · subst ho
    rw [if_pos rfl, List.getElem?_set]
    by_cases hn : n = number
    · rw [if_pos hn.symm, if_pos hlt, if_pos (And.intro rfl hn)]
    · rw [if_neg (Ne.symm hn), if_neg fun h => hn h.2]
  · rw [if_neg ho, if_neg fun h => ho h.1]

theorem setCache_self {w : World} {org : OrgId} {number : Nat} {cache : OrgCache}
    (h : (w.caches org)[number]? = some cache) : w.setCache org number cache = w := by
  have hcaches : (w.setCache org number cache).caches = w.caches := by
    funext o
    refine List.ext_getElem? fun n => ?_
    rw [getElem?_setCache h]
    split
    case isTrue hthis => rw [hthis.1, hthis.2, h]
    case isFalse => rfl
  exact congrArg (fun caches => { w with caches }) hcaches

theorem setCache_setCache (w : World) (org : OrgId) (number : Nat) (cache later : OrgCache) :
    (w.setCache org number cache).setCache org number later = w.setCache org number later := by
  have hcaches : ((w.setCache org number cache).setCache org number later).caches =
      (w.setCache org number later).caches := by
    funext o
    rw [caches_setCache, caches_setCache, caches_setCache]
    split
    · rw [List.set_set]
    · rfl
  exact congrArg (fun caches => { w with caches }) hcaches

theorem setPrune_self {w : World} {j : Nat} {p : Prune} (h : w.prunes[j]? = some p) :
    w.setPrune j p = w := by
  obtain ⟨hlt, rfl⟩ := List.getElem?_eq_some_iff.mp h
  rw [setPrune, List.set_getElem_self]

theorem setPrune_setPrune (w : World) (j : Nat) (p later : Prune) :
    (w.setPrune j p).setPrune j later = w.setPrune j later := by
  rw [setPrune, setPrune, List.set_set]; rfl

/-- Of two replacements in the same places the later one counts. -/
theorem set_set (w : World) (org : OrgId) (number j : Nat) (cache later : OrgCache) (p q : Prune) :
    (((w.setCache org number cache).setPrune j p).setCache org number later).setPrune j q =
      (w.setCache org number later).setPrune j q := by
  have hcomm : ((w.setCache org number cache).setPrune j p).setCache org number later =
      ((w.setCache org number cache).setCache org number later).setPrune j p := rfl
  rw [hcomm, setCache_setCache, setPrune_setPrune]

theorem getElem?_setPrune {w : World} {j : Nat} {p : Prune} (h : w.prunes[j]? = some p)
    (later : Prune) : (w.setPrune j later).prunes[j]? = some later := by
  obtain ⟨hlt, -⟩ := List.getElem?_eq_some_iff.mp h
  exact List.getElem?_set_self hlt

/-- A lookup finds shards that are in use, or sets up the next ones. -/
theorem lookup_cases (w : World) (org : OrgId) (time : Bucket) :
    (∃ number, w.list[org]? = some number ∧ w.lookup org time = (number, w))
      ∨ w.list[org]? = none ∧ w.lookup org time = ((w.caches org).length, { w with
          caches := fun o =>
            if o = org then w.caches o ++ [.empty w.shardCount time w.stale] else w.caches o
          list := w.list.insert org (w.caches org).length }) := by
  rw [lookup]
  cases w.list[org]? with
  | some number => exact Or.inl ⟨number, rfl, rfl⟩
  | none => exact Or.inr ⟨rfl, rfl⟩

/-- The organization is on the list then. -/
theorem list_lookup (w : World) (org o : OrgId) (time : Bucket) :
    (w.lookup org time).2.list[o]? =
      if o = org then some (w.lookup org time).1 else w.list[o]? := by
  rcases lookup_cases w org time with ⟨number, hlist, heq⟩ | ⟨-, heq⟩
  · rw [heq]
    split
    case isTrue ho => rw [ho]; exact hlist
    case isFalse => rfl
  · rw [heq]
    simp only [Std.ExtTreeMap.getElem?_insert, Std.LawfulEqCmp.compare_eq_iff_eq,
      eq_comm (a := org)]

/-- **What a lookup comes to.** The shards that it finds are those that a touch would work on, they
are on the list now, and all others are as before. -/
theorem lookup_spec {w : World} (hw : w.Sound) (org : OrgId) (time : Bucket) :
    ((w.lookup org time).2.caches org)[(w.lookup org time).1]? = some (w.view.orgCache org time)
      ∧ (∀ o n, ¬ (o = org ∧ n = (w.lookup org time).1) →
          ((w.lookup org time).2.caches o)[n]? = (w.caches o)[n]?)
      ∧ ∀ o : OrgId, (w.lookup org time).2.list[o]? =
          if o = org then some (w.lookup org time).1 else w.list[o]? := by
  refine ⟨?_, ?_, fun o => list_lookup w org o time⟩
  · rcases lookup_cases w org time with ⟨number, hlist, heq⟩ | ⟨hlist, heq⟩
    · have hin := List.getElem?_eq_getElem (hw.list _ _ hlist)
      rw [heq, hin, KeyCache.orgCache_of_some]
      rw [getElem?_view, hlist, Option.bind_some, hin]
    · rw [heq, KeyCache.orgCache_of_none (by rw [getElem?_view, hlist]; rfl)]
      simp [view]
  · rcases lookup_cases w org time with ⟨number, hlist, heq⟩ | ⟨hlist, heq⟩
    · rw [heq]; exact fun _ _ _ => rfl
    · rw [heq]
      intro o n hne
      dsimp only at hne ⊢
      split
      case isTrue ho =>
        subst ho
        -- neither the last number nor one behind it
        have hne' : n ≠ (w.caches o).length := fun hn => hne ⟨rfl, hn⟩
        rw [List.getElem?_append]
        split
        · rfl
        · rw [List.getElem?_eq_none (by simp; omega), List.getElem?_eq_none (by omega)]
      case isFalse => rfl

theorem touches_lookup (w : World) (org : OrgId) (time : Bucket) :
    (w.lookup org time).2.touches = w.touches := by
  rw [lookup]; split <;> rfl

theorem prunes_lookup (w : World) (org : OrgId) (time : Bucket) :
    (w.lookup org time).2.prunes = w.prunes := by
  rw [lookup]; split <;> rfl

/-- A lookup adds shards for an organization that is not on the list. -/
theorem caches_lookup (w : World) (org o : OrgId) (time : Bucket) :
    (w.lookup org time).2.caches o =
      if o = org ∧ w.list[org]? = none then w.caches o ++ [.empty w.shardCount time w.stale]
      else w.caches o := by
  rcases lookup_cases w org time with ⟨number, hlist, heq⟩ | ⟨hnone, heq⟩
  · rw [heq, if_neg]
    rintro ⟨-, hnone⟩
    rw [hlist] at hnone
    cases hnone
  · rw [heq]
    simp only [hnone, and_true]

theorem sound_lookup {w : World} (hw : w.Sound) (org : OrgId) (time : Bucket) :
    (w.lookup org time).2.Sound := by
  obtain ⟨hcache, -⟩ := lookup_spec hw org time
  have hlength : ∀ o, (w.caches o).length ≤ ((w.lookup org time).2.caches o).length := by
    intro o
    rw [caches_lookup]
    split
    · rw [List.length_append]; exact Nat.le_add_right ..
    · exact Nat.le_refl _
  refine ⟨fun o number hnumber => ?_, ?_, ?_⟩
  · rw [list_lookup] at hnumber
    split at hnumber
    case isTrue ho => cases hnumber; exact ho ▸ (List.getElem?_eq_some_iff.mp hcache).1
    case isFalse => exact Nat.lt_of_lt_of_le (hw.list o number hnumber) (hlength o)
  · rw [touches_lookup]
    exact fun t ht => Nat.lt_of_lt_of_le (hw.touches t ht) (hlength _)
  · rw [prunes_lookup]
    exact fun p hp h hh => Nat.lt_of_lt_of_le (hw.prunes p hp h hh) (hlength _)

theorem length_caches_setCache (w : World) (org o : OrgId) (number : Nat) (cache : OrgCache) :
    ((w.setCache org number cache).caches o).length = (w.caches o).length := by
  rw [caches_setCache]
  split
  · rw [List.length_set]
  · rfl

theorem sound_setCache {w : World} (hw : w.Sound) (org : OrgId) (number : Nat)
    (cache : OrgCache) : (w.setCache org number cache).Sound := by
  refine ⟨fun o n hn => ?_, fun t ht => ?_, fun p hp h hh => ?_⟩
  · rw [length_caches_setCache]; exact hw.list o n hn
  · rw [length_caches_setCache]; exact hw.touches t ht
  · rw [length_caches_setCache]; exact hw.prunes p hp h hh

/-- A lookup sets up the organization. -/
theorem view_lookup {w : World} (hw : w.Sound) (org : OrgId) (time : Bucket) :
    (w.lookup org time).2.view = w.view.setOrg org (w.view.orgCache org time) := by
  obtain ⟨hcache, hothers, hlist⟩ := lookup_spec hw org time
  have hlimits : (w.lookup org time).2.view.stale = w.view.stale
      ∧ (w.lookup org time).2.view.pruneInterval = w.view.pruneInterval
      ∧ (w.lookup org time).2.view.shardCount = w.view.shardCount := by
    rcases lookup_cases w org time with ⟨_, -, heq⟩ | ⟨-, heq⟩
    · rw [heq]; exact ⟨rfl, rfl, rfl⟩
    · rw [heq]; exact ⟨rfl, rfl, rfl⟩
  refine KeyCache.ext_orgs hlimits.1 hlimits.2.1 hlimits.2.2 fun o => ?_
  rw [KeyCache.orgs_setOrg, getElem?_view, getElem?_view, hlist]
  by_cases ho : o = org
  · subst ho
    rw [if_pos rfl, if_pos rfl, Option.bind_some, hcache]
  · rw [if_neg ho, if_neg ho]
    exact Option.bind_congr fun n _ => hothers o n fun h => ho h.1

/-- What is on the list stays there. -/
theorem list_lookup_of_some {w : World} {org o : OrgId} {time : Bucket} {number : Nat}
    (h : w.list[o]? = some number) : (w.lookup org time).2.list[o]? = some number := by
  by_cases ho : o = org
  · rw [← ho, lookup, h]; exact h
  · rw [list_lookup, if_neg ho, h]

end World

/-! ## Steps keep what is in use -/

/-- **What a step can do to shards**: leave them as they are, touch them, or prune one of them. -/
theorem caches_step {now : Timestamp} {w w' : World} (h : Step now w w') {org : OrgId}
    {number : Nat} {cache : OrgCache} (hcache : (w.caches org)[number]? = some cache) :
    ∃ cache', (w'.caches org)[number]? = some cache'
      ∧ (cache' = cache ∨ (∃ key, cache' = (cache.touch key (.ofTimestamp now)).2)
        ∨ ∃ i, cache' = cache.pruneShard i (.ofTimestamp now)) := by
  -- an operation on some shards of an organization leaves all others
  have hset : ∀ {o : OrgId} {n : Nat} {before after : OrgCache},
      (w.caches o)[n]? = some before → ∃ cache',
        ((w.setCache o n after).caches org)[number]? = some cache'
          ∧ (cache' = cache ∨ before = cache ∧ cache' = after) := by
    intro o n before after hbefore
    rw [World.getElem?_setCache hbefore]
    split
    case isTrue hsame =>
      rw [hsame.1, hsame.2, hbefore] at hcache
      cases hcache
      exact ⟨after, rfl, Or.inr ⟨rfl, rfl⟩⟩
    case isFalse => exact ⟨cache, hcache, Or.inl rfl⟩
  cases h with
  | look key =>
      refine ⟨cache, ?_, Or.inl rfl⟩
      rw [World.look, World.caches_lookup]
      split
      · exact List.getElem?_append_left (List.getElem?_eq_some_iff.mp hcache).1 ▸ hcache
      · exact hcache
  | @record i t _ _ _ hbefore =>
      obtain ⟨cache', hcache', heq | ⟨rfl, heq⟩⟩ := hset hbefore
      · exact ⟨cache', hcache', Or.inl heq⟩
      · exact ⟨cache', hcache', Or.inr (Or.inl ⟨t.key.key, heq⟩)⟩
  | @shard j p _ _ _ _ _ _ _ hbefore =>
      obtain ⟨cache', hcache', heq | ⟨rfl, heq⟩⟩ := hset hbefore
      · exact ⟨cache', hcache', Or.inl heq⟩
      · exact ⟨cache', hcache', Or.inr (Or.inr ⟨p.shards, heq⟩)⟩
  | copy | keep | remove | finish => exact ⟨cache, hcache, Or.inl rfl⟩

theorem length_caches_step {now : Timestamp} {w w' : World} (h : Step now w w') (org : OrgId) :
    (w.caches org).length ≤ (w'.caches org).length := by
  refine Nat.le_of_not_lt fun hlt => ?_
  obtain ⟨_, hcache, -⟩ := caches_step h (List.getElem?_eq_getElem hlt)
  exact Nat.lt_irrefl _ (List.getElem?_eq_some_iff.mp hcache).1

@[simp] theorem World.prunes_look (w : World) (now : Timestamp) (key : MetricKey) :
    (w.look now key).prunes = w.prunes := prunes_lookup ..

/-- The shards on the list and in the hands of threads stay sound. -/
theorem sound_step {now : Timestamp} {w w' : World} (hw : w.Sound) (h : Step now w w') :
    w'.Sound := by
  have hgrow := length_caches_step h
  have hlist : ∀ (org : OrgId) (number : Nat), w.list[org]? = some number →
      number < (w'.caches org).length :=
    fun org number hn => Nat.lt_of_lt_of_le (hw.list org number hn) (hgrow org)
  have htouches : ∀ t ∈ w.touches, t.cache < (w'.caches t.key.org).length :=
    fun t ht => Nat.lt_of_lt_of_le (hw.touches t ht) (hgrow _)
  have hprunes : ∀ p ∈ w.prunes, ∀ h ∈ p.rest, h.2 < (w'.caches h.1).length :=
    fun p hp h hh => Nat.lt_of_lt_of_le (hw.prunes p hp h hh) (hgrow _)
  -- a prune that goes on has no shards in its hands that it has not had before
  have hset : ∀ {j : Nat} {p p' : Prune}, w.prunes[j]? = some p → (∀ h ∈ p'.rest, h ∈ p.rest) →
      ∀ q ∈ w.prunes.set j p', ∀ h ∈ q.rest, h.2 < (w'.caches h.1).length := by
    intro j p p' hp hsub q hq h hh
    rcases List.mem_or_eq_of_mem_set hq with hold | rfl
    · exact hprunes q hold h hh
    · exact hprunes p (List.mem_of_getElem? hp) h (hsub h hh)
  cases h with
  | look key =>
      obtain ⟨hcache, -, -⟩ := World.lookup_spec hw key.org (.ofTimestamp now)
      refine ⟨(World.sound_lookup hw ..).list, fun t ht => ?_, ?_⟩
      · rcases List.mem_append.mp ht with hold | hnew
        · exact htouches t hold
        · rw [List.mem_singleton.mp hnew]; exact (List.getElem?_eq_some_iff.mp hcache).1
      · rw [World.prunes_look]; exact hprunes
  | @record i t cache ht hpending hcache =>
      refine ⟨hlist, fun q hq => ?_, hprunes⟩
      rcases List.mem_or_eq_of_mem_set hq with hold | rfl
      · exact htouches q hold
      · exact htouches t (List.mem_of_getElem? ht)
  | copy order horder =>
      refine ⟨hlist, htouches, fun q hq h hh => ?_⟩
      rcases List.mem_append.mp hq with hold | hnew
      · exact hprunes q hold h hh
      · rw [List.mem_singleton.mp hnew] at hh
        exact hlist _ _ (Std.ExtTreeMap.mem_toList_iff_getElem?_eq_some.mp (horder.mem_iff.mp hh))
  | shard hp hrest hcache hshard => exact ⟨hlist, htouches, hset hp fun _ => id⟩
  | keep hp hrest =>
      exact ⟨hlist, htouches, hset hp fun h hh => hrest ▸ List.mem_cons_of_mem _ hh⟩
  | @remove j p org number gone rest cache hp hrest =>
      refine ⟨fun o n hn => ?_, htouches, hset hp fun h hh => hrest ▸ List.mem_cons_of_mem _ hh⟩
      simp only [World.remove, Std.ExtTreeMap.getElem?_erase] at hn
      split at hn
      · cases hn
      · exact hlist o n hn
  | finish hp hrest => exact ⟨hlist, htouches, hset hp fun _ => id⟩

/-- Shards are in use from the start. -/
theorem sound_start (c : KeyCache) : (World.start c).Sound where
  list := by
    intro org number h
    simp only [World.start, Std.ExtTreeMap.getElem?_map, Option.map_eq_some_iff] at h
    obtain ⟨cache, hcache, rfl⟩ := h
    rw [World.start]
    dsimp only
    rw [hcache]
    exact Nat.zero_lt_one
  touches := nofun
  prunes := nofun

theorem view_start (c : KeyCache) : (World.start c).view = c := by
  refine KeyCache.ext_orgs rfl rfl rfl fun org => ?_
  rw [World.getElem?_view]
  simp only [World.start, Std.ExtTreeMap.getElem?_map]
  cases c.orgs[org]? <;> rfl

theorem sound_run {now : Timestamp} {w w' : World} (hw : w.Sound) (h : Run now w w') :
    w'.Sound := by
  induction h with
  | refl => exact hw
  | tail _ hstep ih => exact sound_step ih hstep

/-! ## Without interruption -/

/-- Replacing shards that are in use replaces the organization. -/
theorem World.orgs_setCache {w : World} {org : OrgId} {number : Nat} {before cache : OrgCache}
    (hlist : w.list[org]? = some number) (hbefore : (w.caches org)[number]? = some before)
    (o : OrgId) : (w.setCache org number cache).view.orgs[o]? =
      if o = org then some cache else w.view.orgs[o]? := by
  rw [getElem?_view, getElem?_view, show (w.setCache org number cache).list = w.list from rfl]
  by_cases ho : o = org
  · subst ho
    rw [hlist, Option.bind_some, getElem?_setCache hbefore, if_pos ⟨rfl, rfl⟩, if_pos rfl]
  · rw [if_neg ho]
    refine Option.bind_congr fun n _ => ?_
    rw [getElem?_setCache hbefore, if_neg fun h => ho h.1]

/-- Recording a sighting in the shards that are in use is a touch. -/
theorem World.view_setCache_touch {w : World} {key : MetricKey} {number : Nat} {cache : OrgCache}
    (hlist : w.list[key.org]? = some number) (hcache : (w.caches key.org)[number]? = some cache)
    (now : Timestamp) :
    (w.setCache key.org number (cache.touch key.key (.ofTimestamp now)).2).view =
        (w.view.touch key now).2
      ∧ (cache.touch key.key (.ofTimestamp now)).1 = (w.view.touch key now).1 := by
  have hown : w.view.orgCache key.org (.ofTimestamp now) = cache :=
    KeyCache.orgCache_of_some (by rw [getElem?_view, hlist, Option.bind_some, hcache])
  rw [KeyCache.touch_eq, hown]
  refine ⟨KeyCache.ext_orgs rfl rfl rfl fun o => ?_, rfl⟩
  rw [orgs_setCache hlist hcache, KeyCache.orgs_setOrg]

/-- **The steps of a touch are a touch**, if nothing comes in between. -/
theorem touch_uninterrupted {w : World} (hw : w.Sound) (now : Timestamp) (key : MetricKey) :
    ∃ w' number, Run now w w' ∧ w'.view = (w.view.touch key now).2
      ∧ w'.touches = w.touches ++ [⟨key, number, some (w.view.touch key now).1⟩]
      ∧ w'.prunes = w.prunes := by
  obtain ⟨hcache, -, hlist⟩ := World.lookup_spec hw key.org (.ofTimestamp now)
  obtain ⟨hview, hseen⟩ :=
    World.view_setCache_touch ((hlist key.org).trans (if_pos rfl)) hcache now
  rw [World.view_lookup hw, KeyCache.touch_setOrg_orgCache] at hview hseen
  have ht : (w.look now key).touches[w.touches.length]? =
      some { key, cache := (w.lookup key.org (.ofTimestamp now)).1 } := List.getElem?_concat_length
  refine ⟨_, (w.lookup key.org (.ofTimestamp now)).1,
    (Relation.ReflTransGen.single (.look w key)).tail (.record ht rfl hcache), hview, ?_,
    World.prunes_look w now key⟩
  rw [← hseen]
  refine (List.set_append_right _ _ (Nat.le_refl _)).trans ?_
  rw [Nat.sub_self]; rfl

/-! ### Prunes -/

/-- Shards of which the first have been pruned. -/
def prunedTo (c : OrgCache) (k : Nat) (now : Bucket) : OrgCache :=
  ⟨c.shards.mapIdx fun i s => if i < k then s.prune now else s, by simpa using c.nonempty⟩

/-- How many keys are left in those. -/
def keptTo (c : OrgCache) (k : Nat) (now : Bucket) : Nat :=
  (c.shards.toList.take k).foldl (fun n shard => n + (shard.prune now).size) 0

theorem getElem?_prunedTo (c : OrgCache) (k i : Nat) (now : Bucket) :
    (prunedTo c k now).shards[i]? = c.shards[i]?.map fun s => if i < k then s.prune now else s :=
  Array.getElem?_mapIdx

theorem prunedTo_zero (c : OrgCache) (now : Bucket) : prunedTo c 0 now = c := by
  refine OrgCache.ext_getElem? fun i => ?_
  rw [getElem?_prunedTo]
  simp

theorem prunedTo_size (c : OrgCache) (now : Bucket) :
    prunedTo c c.shards.size now = c.prune now := by
  refine OrgCache.ext_getElem? fun i => ?_
  rw [getElem?_prunedTo, OrgCache.prune, Array.getElem?_map]
  refine Option.map_congr fun s hs => ?_
  rw [if_pos (Array.getElem?_eq_some_iff.mp hs).1]

theorem pruneShard_prunedTo (c : OrgCache) (k : Nat) (now : Bucket) :
    (prunedTo c k now).pruneShard k now = prunedTo c (k + 1) now := by
  refine OrgCache.ext_getElem? fun i => ?_
  rw [OrgCache.pruneShard, Array.getElem?_modify, getElem?_prunedTo, getElem?_prunedTo]
  by_cases hi : k = i
  · subst hi
    rw [if_pos rfl, Option.map_map]
    simp [Function.comp_def]
  · rw [if_neg hi]
    refine Option.map_congr fun s _ => ?_
    simp only [Nat.lt_succ_iff_lt_or_eq, Ne.symm hi, or_false]

theorem keptTo_succ {c : OrgCache} {k : Nat} {shard : Shard} (h : c.shards[k]? = some shard)
    (now : Bucket) : keptTo c (k + 1) now = keptTo c k now + (shard.prune now).size := by
  rw [← Array.getElem?_toList] at h
  rw [keptTo, keptTo, List.take_add_one, h]
  simp

theorem keptTo_size (c : OrgCache) (now : Bucket) :
    keptTo c c.shards.size now = (c.prune now).size := by
  rw [keptTo, OrgCache.size, OrgCache.prune, List.take_of_length_le (by simp), Array.foldl_toList,
    Array.foldl_map]

/-- A prune goes through the shards of the organization at hand. -/
theorem run_shards (now : Timestamp) {w : World} {j : Nat} {org : OrgId} {number : Nat}
    {rest : List (OrgId × Nat)} {cache : OrgCache} {report : PruneReport}
    (hp : w.prunes[j]? = some { rest := (org, number) :: rest, report })
    (hcache : (w.caches org)[number]? = some cache) {k : Nat} (hk : k ≤ cache.shards.size) :
    Run now w ((w.setCache org number (prunedTo cache k (.ofTimestamp now))).setPrune j
      { rest := (org, number) :: rest, shards := k, kept := keptTo cache k (.ofTimestamp now),
        report }) := by
  induction k with
  | zero =>
      rw [prunedTo_zero, World.setCache_self hcache]
      exact (World.setPrune_self hp).symm ▸ .refl
  | succ k ih =>
      have hshard : cache.shards[k]? = some cache.shards[k] := Array.getElem?_eq_getElem (by omega)
      have hpruned : (prunedTo cache k (.ofTimestamp now)).shards[k]? = some cache.shards[k] := by
        rw [getElem?_prunedTo, hshard]; simp
      have hbefore := World.getElem?_setCache hcache (prunedTo cache k (.ofTimestamp now)) org number
      rw [if_pos ⟨rfl, rfl⟩] at hbefore
      have hstep := (ih (by omega)).tail
        (.shard (j := j) (World.getElem?_setPrune hp _) rfl hbefore hpruned)
      rw [World.pruneShard, pruneShard_prunedTo, World.set_set] at hstep
      rw [keptTo_succ hshard]
      exact hstep

/-- What a prune reports of an organization that it has gone through. -/
def count (report : PruneReport) (cache : OrgCache) : PruneReport :=
  ⟨report.keys + cache.size, report.orgs,
    if cache.isEmpty then report.removedOrgs + 1 else report.removedOrgs⟩

/-- What no step of a prune changes. -/
structure Frame (w w' : World) : Prop where
  touches : w'.touches = w.touches
  stale : w'.stale = w.stale
  pruneInterval : w'.pruneInterval = w.pruneInterval
  shardCount : w'.shardCount = w.shardCount

theorem Frame.trans {w w' w'' : World} (h : Frame w w') (h' : Frame w' w'') : Frame w w'' :=
  ⟨h'.touches.trans h.touches, h'.stale.trans h.stale, h'.pruneInterval.trans h.pruneInterval,
    h'.shardCount.trans h.shardCount⟩

/-- A prune is done with the organization at hand: it has pruned its shards, and has taken it off
the list if they are empty. -/
theorem run_org (now : Timestamp) {w : World} {j : Nat} {org : OrgId} {number : Nat}
    {rest : List (OrgId × Nat)} {cache : OrgCache} {report : PruneReport}
    (hp : w.prunes[j]? = some { rest := (org, number) :: rest, report })
    (hcache : (w.caches org)[number]? = some cache) (hlist : w.list[org]? = some number) :
    ∃ w', Run now w w' ∧ Frame w w'
      ∧ w'.prunes = w.prunes.set j
          { rest, report := count report (cache.prune (.ofTimestamp now)) }
      ∧ w'.caches = (w.setCache org number (cache.prune (.ofTimestamp now))).caches
      ∧ ∀ o : OrgId, w'.list[o]? =
          if o = org ∧ (cache.prune (.ofTimestamp now)).isEmpty = true then none else w.list[o]? := by
  generalize hpruned : cache.prune (.ofTimestamp now) = pruned
  have hrun := run_shards now hp hcache (Nat.le_refl _)
  rw [prunedTo_size, keptTo_size, hpruned] at hrun
  have hp' := World.getElem?_setPrune (w := w.setCache org number pruned) hp
    { rest := (org, number) :: rest, shards := cache.shards.size, kept := pruned.size, report }
  have hcache' := World.getElem?_setCache hcache pruned org number
  rw [if_pos ⟨rfl, rfl⟩] at hcache'
  have hsize : cache.shards.size = pruned.shards.size := by
    rw [← hpruned, OrgCache.prune, Array.size_map]
  by_cases hempty : pruned.isEmpty = true
  · have hzero := (OrgCache.size_eq_zero_iff pruned).mpr hempty
    refine ⟨_, hrun.tail (.remove hp' rfl hcache' hsize hzero hempty hlist), ⟨rfl, rfl, rfl, rfl⟩,
      ?_, rfl, fun o => ?_⟩
    · rw [count, if_pos hempty]; exact List.set_set ..
    · refine Std.ExtTreeMap.getElem?_erase.trans ?_
      simp only [Std.LawfulEqCmp.compare_eq_iff_eq, hempty, and_true, eq_comm (a := org)]
      rfl
  · refine ⟨_, hrun.tail (.keep hp' rfl hcache' hsize (Or.inr (Or.inl (by simpa using hempty)))),
      ⟨rfl, rfl, rfl, rfl⟩, ?_, rfl, fun o => ?_⟩
    · rw [count, if_neg hempty]; exact List.set_set ..
    · rw [if_neg fun h => hempty h.2]; rfl

/-- An organization on the list with the shards that are in use. -/
structure Entry where
  org : OrgId
  number : Nat
  cache : OrgCache

/-- **A prune goes through the rest of its copy**, whatever the order. -/
theorem run_rest (now : Timestamp) {j : Nat} {entries : List Entry} {w : World}
    {report : PruneReport}
    (hp : w.prunes[j]? = some { rest := entries.map fun e => (e.org, e.number), report })
    (hdistinct : entries.Pairwise fun e f => e.org ≠ f.org)
    (hlist : ∀ e ∈ entries, w.list[e.org]? = some e.number)
    (hcache : ∀ e ∈ entries, (w.caches e.org)[e.number]? = some e.cache) :
    ∃ w', Run now w w' ∧ Frame w w'
      ∧ w'.prunes = w.prunes.set j
          { rest := [], report := entries.foldl
              (fun r e => count r (e.cache.prune (.ofTimestamp now))) report }
      ∧ (∀ e ∈ entries, w'.view.orgs[e.org]? =
          (some (e.cache.prune (.ofTimestamp now))).filter fun cache => !cache.isEmpty)
      ∧ ∀ o : OrgId, (∀ e ∈ entries, e.org ≠ o) → w'.view.orgs[o]? = w.view.orgs[o]? := by
  induction entries generalizing w report with
  | nil =>
      refine ⟨w, .refl, ⟨rfl, rfl, rfl, rfl⟩, ?_, nofun, fun _ _ => rfl⟩
      exact (congrArg World.prunes (World.setPrune_self hp)).symm
  | cons e rest ih =>
      obtain ⟨hne, hrest⟩ := List.pairwise_cons.mp hdistinct
      have hown := hcache e (List.mem_cons_self ..)
      obtain ⟨w₁, hrun, hframe, hprunes, hcaches, hlist₁⟩ :=
        run_org now hp hown (hlist e (List.mem_cons_self ..))
      -- other organizations are as before
      have hothers : ∀ o, o ≠ e.org → w₁.list[o]? = w.list[o]?
          ∧ ∀ n : Nat, (w₁.caches o)[n]? = (w.caches o)[n]? := by
        intro o ho
        refine ⟨by rw [hlist₁, if_neg fun h => ho h.1], fun n => ?_⟩
        rw [hcaches, World.getElem?_setCache hown, if_neg fun h => ho h.1]
      have hview : ∀ o, o ≠ e.org → w₁.view.orgs[o]? = w.view.orgs[o]? := by
        intro o ho
        rw [World.getElem?_view, World.getElem?_view, (hothers o ho).1]
        exact Option.bind_congr fun n _ => (hothers o ho).2 n
      have hself : w₁.view.orgs[e.org]? =
          (some (e.cache.prune (.ofTimestamp now))).filter fun cache => !cache.isEmpty := by
        rw [World.getElem?_view, hlist₁, hlist e (List.mem_cons_self ..)]
        by_cases hempty : (e.cache.prune (.ofTimestamp now)).isEmpty = true
        · rw [if_pos ⟨rfl, hempty⟩, Option.filter_some, if_neg (by simp [hempty])]; rfl
        · rw [if_neg fun h => hempty h.2, Option.filter_some, if_pos (by simpa using hempty),
            Option.bind_some, hcaches, World.getElem?_setCache hown, if_pos ⟨rfl, rfl⟩]
      obtain ⟨hlt, -⟩ := List.getElem?_eq_some_iff.mp hp
      obtain ⟨w₂, hrun₂, hframe₂, hprunes₂, hdone, hkept⟩ := ih
        (by rw [hprunes]; exact List.getElem?_set_self hlt) hrest
        (fun f hf => (hothers f.org (hne f hf).symm).1.trans (hlist f (List.mem_cons_of_mem _ hf)))
        (fun f hf => ((hothers f.org (hne f hf).symm).2 _).trans
          (hcache f (List.mem_cons_of_mem _ hf)))
      refine ⟨w₂, hrun.trans hrun₂, hframe.trans hframe₂, ?_, fun f hf => ?_, fun o ho => ?_⟩
      · rw [hprunes₂, hprunes, List.set_set]; rfl
      · rcases List.mem_cons.mp hf with rfl | hf
        · rw [hkept f.org fun g hg => (hne g hg).symm]; exact hself
        · exact hdone f hf
      · rw [hkept o fun g hg => ho g (List.mem_cons_of_mem _ hg)]
        exact hview o (ho e (List.mem_cons_self ..)).symm

/-- The entries of a copy of the list. -/
def entriesOf (w : World) (order : List (OrgId × Nat)) : List Entry :=
  order.filterMap fun h => ((w.caches h.1)[h.2]?).map fun cache => ⟨h.1, h.2, cache⟩

theorem mem_entriesOf {w : World} {order : List (OrgId × Nat)} {e : Entry} :
    e ∈ entriesOf w order ↔
      (e.org, e.number) ∈ order ∧ (w.caches e.org)[e.number]? = some e.cache := by
  simp only [entriesOf, List.mem_filterMap, Option.map_eq_some_iff]
  constructor
  · rintro ⟨h, hmem, cache, hcache, rfl⟩; exact ⟨hmem, hcache⟩
  · rintro ⟨hmem, hcache⟩; exact ⟨_, hmem, e.cache, hcache, rfl⟩

theorem map_entriesOf {w : World} {order : List (OrgId × Nat)}
    (h : ∀ h ∈ order, h.2 < (w.caches h.1).length) :
    (entriesOf w order).map (fun e => (e.org, e.number)) = order := by
  induction order with
  | nil => rfl
  | cons first rest ih =>
      have hin := List.getElem?_eq_getElem (h first (List.mem_cons_self ..))
      have hrest := ih fun h' hmem => h h' (List.mem_cons_of_mem _ hmem)
      rw [entriesOf, List.filterMap_cons_some (by rw [hin]; rfl), List.map_cons]
      exact congrArg _ hrest

/-- The shards in use are what the organizations have, in some order. -/
theorem caches_entriesOf {w : World} {order : List (OrgId × Nat)}
    (horder : order.Perm w.list.toList) :
    ((entriesOf w order).map (·.cache)).Perm (w.view.orgs.toList.map (·.2)) := by
  have hview : w.view.orgs.toList.map (·.2) = (entriesOf w w.list.toList).map (·.cache) := by
    rw [World.view, Std.ExtTreeMap.toList_filterMap, entriesOf, List.map_filterMap,
      List.map_filterMap]
    simp [Function.comp_def]
  rw [hview]
  exact (horder.filterMap _).map _

theorem foldl_count (caches : List OrgCache) (report : PruneReport) :
    caches.foldl count report = ⟨caches.foldl (fun n cache => n + cache.size) report.keys,
      report.orgs,
      caches.foldl (fun n cache => if cache.isEmpty then n + 1 else n) report.removedOrgs⟩ := by
  induction caches generalizing report with
  | nil => rfl
  | cons cache rest ih => exact ih _

/-- As many organizations as are on the list. -/
theorem size_view {w : World} (hw : w.Sound) : w.view.orgs.size = w.list.size := by
  rw [← Std.ExtTreeMap.length_toList, ← Std.ExtTreeMap.length_toList, World.view,
    Std.ExtTreeMap.toList_filterMap, List.filterMap_length_eq_length]
  rintro ⟨org, number⟩ hmem
  have hlt := hw.list org number (Std.ExtTreeMap.mem_toList_iff_getElem?_eq_some.mp hmem)
  simp [List.getElem?_eq_getElem hlt]

/-- Counting the shards in use, pruned, gives the report of a prune. -/
theorem foldl_count_entriesOf {w : World} {order : List (OrgId × Nat)}
    (horder : order.Perm w.list.toList) (now : Timestamp) :
    (entriesOf w order).foldl (fun r e => count r (e.cache.prune (.ofTimestamp now))) ⟨0, 0, 0⟩ =
      ⟨(w.view.prune now).1.keys, 0, (w.view.prune now).1.removedOrgs⟩ := by
  generalize htime : Bucket.ofTimestamp now = time
  have hperm := (caches_entriesOf horder).map fun cache => cache.prune time
  have hfold : (entriesOf w order).foldl (fun r e => count r (e.cache.prune time)) ⟨0, 0, 0⟩ =
      (((entriesOf w order).map (·.cache)).map fun cache => cache.prune time).foldl count
        ⟨0, 0, 0⟩ := by
    rw [List.foldl_map, List.foldl_map]
  have hkeys := hperm.foldl_eq' (f := fun n cache => n + cache.size)
    (fun x _ y _ n => Nat.add_right_comm n x.size y.size) 0
  have hremoved := hperm.foldl_eq' (f := fun (n : Nat) (cache : OrgCache) =>
    if cache.isEmpty then n + 1 else n) (fun x _ y _ n => by split <;> split <;> rfl) 0
  rw [hfold, foldl_count, hkeys, hremoved]
  simp only [KeyCache.prune, Std.ExtTreeMap.foldl_eq_foldl_toList, Std.ExtTreeMap.toList_map,
    List.foldl_map, htime]

/-- **The steps of a prune are a prune**, if nothing comes in between, in whatever order it goes
through its copy of the list. -/
theorem prune_uninterrupted {w : World} (hw : w.Sound) (now : Timestamp)
    {order : List (OrgId × Nat)} (horder : order.Perm w.list.toList) :
    ∃ w', Run now (w.copy order) w' ∧ w'.view = (w.view.prune now).2
      ∧ w'.prunes = w.prunes ++
          [{ rest := [], report := (w.view.prune now).1, returned := true }]
      ∧ w'.touches = w.touches := by
  have hlist : ∀ h ∈ order, w.list[h.1]? = some h.2 := fun h hmem =>
    Std.ExtTreeMap.mem_toList_iff_getElem?_eq_some.mp (horder.mem_iff.mp hmem)
  have hmap := map_entriesOf (w := w) fun h hmem => hw.list _ _ (hlist h hmem)
  have hdistinct : (entriesOf w order).Pairwise fun e f => e.org ≠ f.org := by
    have hpairs : order.Pairwise fun h h' => h.1 ≠ h'.1 := by
      refine (horder.pairwise_iff Ne.symm).mpr ?_
      exact w.list.distinct_keys_toList.imp fun hne heq => hne (by simp [heq])
    rw [← hmap, List.pairwise_map] at hpairs
    exact hpairs
  have hp : (w.copy order).prunes[w.prunes.length]? =
      some { rest := (entriesOf w order).map fun e => (e.org, e.number), report := ⟨0, 0, 0⟩ } := by
    rw [hmap]; exact List.getElem?_concat_length
  obtain ⟨w₁, hrun, hframe, hprunes, hdone, hkept⟩ := run_rest now hp hdistinct
    (fun e he => hlist _ (mem_entriesOf.mp he).1) (fun e he => (mem_entriesOf.mp he).2)
  have hview : w₁.view = (w.view.prune now).2 := by
    refine KeyCache.ext_orgs hframe.stale hframe.pruneInterval hframe.shardCount fun o => ?_
    rw [KeyCache.orgs_prune, World.getElem?_view w]
    cases ho : w.list[o]? with
    | none =>
        rw [hkept o fun e he heq => ?_, World.getElem?_view]
        · show (w.list[o]?).bind _ = _; rw [ho]; rfl
        · rw [← heq, hlist _ (mem_entriesOf.mp he).1] at ho; cases ho
    | some number =>
        have hin := List.getElem?_eq_getElem (hw.list o number ho)
        have hmem : (o, number) ∈ order :=
          horder.mem_iff.mpr (Std.ExtTreeMap.mem_toList_iff_getElem?_eq_some.mpr ho)
        rw [Option.bind_some, hin]
        exact hdone ⟨o, number, _⟩ (mem_entriesOf.mpr ⟨hmem, hin⟩)
  have hp₁ : w₁.prunes[w.prunes.length]? = some
      { rest := [], report := ⟨(w.view.prune now).1.keys, 0, (w.view.prune now).1.removedOrgs⟩ } := by
    rw [hprunes, foldl_count_entriesOf horder]
    exact List.getElem?_set_self (by rw [World.copy, List.length_append]; exact Nat.lt_succ_self _)
  refine ⟨_, hrun.tail (.finish hp₁ rfl rfl), hview, ?_, hframe.touches⟩
  -- the number of organizations is counted last
  have hcopied : Step now w (w.copy order) := .copy order horder
  have hsound : w₁.Sound := sound_run (sound_step hw hcopied) hrun
  have horgs : w₁.list.size = (w.view.prune now).1.orgs := by
    rw [← size_view hsound, hview]; rfl
  rw [World.finish, World.setPrune, Prune.finish, horgs, hprunes, List.set_set]
  refine (List.set_append_right _ _ (Nat.le_refl _)).trans ?_
  rw [Nat.sub_self]; rfl

end Threads

end MetricGateway.Novelty
