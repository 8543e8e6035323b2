import MetricGateway.Proofs.Novelty.Freshness
import MetricGateway.Proofs.Publish.Retry

/-!
# Points within the window, descriptions beyond it

For the cache, a batch is a run of touches at its time. If it fails there follow
forgets, but only of series that a touch at that time would not have found. A
series that was seen within the threshold would have been found, so no failing
batch can take it away, and as long as batches and prunes keep within the
threshold it stays known.

A prune beyond the threshold drops it, and only a batch that brings it brings it
back.
-/

namespace MetricGateway.Publish

open Novelty (Bucket CacheConfig Call KeyCache slotOf slotOf_maxShards_inj touches)
open Routing (Broker Record)

variable {σ : Type}

/-! ## What an action does to the cache -/

/-- A batch brings samples of a series to the cache. An invalid one is refused before. -/
def Brings (p : Publisher) (batch : List Metric) (key : MetricKey) : Prop :=
  ∃ metrics keys, normalize p.schemas batch = (metrics, .ok keys) ∧ key ∈ keys

namespace Action

/-- The time of an action. Forgetting takes none. -/
def time? : Action → Option Timestamp
  | publish now _ => some now
  | prune now => some now
  | forget _ => none

/-- An action is about a series. -/
def Names (p : Publisher) (key : MetricKey) : Action → Prop
  | publish _ batch => Brings p batch key
  | prune _ => False
  | forget other => other = key

/-- Calls of the cache are those of an action: they are made at its time and for its series, and
what a batch forgets was not to be found before it. -/
structure Makes (p : Publisher) (action : Action) (c : KeyCache) (calls : List Call) : Prop where
  time : ∀ call ∈ calls, ∀ now, call.time? = some now → action.time? = some now
  names : ∀ call ∈ calls, ∀ key, call.key? = some key → action.Names p key
  prune : ∀ now, action = .prune now → .prune now ∈ calls
  forgets : ∀ key, .forget key ∈ calls →
    action = .forget key ∨ ∃ now, action.time? = some now ∧ ¬ c.Finds now key

end Action

/-- The touches of a batch, and the forgets if it fails. -/
theorem makes_publish {p : Publisher} {now : Timestamp} {batch metrics : List Metric}
    {keys : List MetricKey} {c : KeyCache}
    (hnormal : normalize p.schemas batch = (metrics, .ok keys)) (gone : List MetricKey)
    (hgone : ∀ k ∈ gone, k ∈ keys ∧ ¬ c.Finds now k) :
    (Action.publish now batch).Makes p c (touches now keys ++ gone.map .forget) where
  time := by
    intro call hmem other htime
    rcases List.mem_append.mp hmem with htouch | hforget
    · obtain ⟨k, -, rfl⟩ := List.mem_map.mp htouch; exact htime
    · obtain ⟨k, -, rfl⟩ := List.mem_map.mp hforget; cases htime
  names := by
    intro call hmem key hnamed
    refine ⟨metrics, keys, hnormal, ?_⟩
    rcases List.mem_append.mp hmem with htouch | hforget
    · obtain ⟨k, hk, rfl⟩ := List.mem_map.mp htouch; cases hnamed; exact hk
    · obtain ⟨k, hk, rfl⟩ := List.mem_map.mp hforget; cases hnamed; exact (hgone _ hk).1
  prune := nofun
  forgets := by
    intro key hmem
    rcases List.mem_append.mp hmem with htouch | hforget
    · obtain ⟨k, -, hne⟩ := List.mem_map.mp htouch; cases hne
    · obtain ⟨k, hk, heq⟩ := List.mem_map.mp hforget
      cases heq
      exact Or.inr ⟨now, rfl, (hgone key hk).2⟩

/-- **Every action is a run of calls**, as far as the cache is concerned. -/
theorem exists_makes {p : Publisher} (b : Broker σ) {s : State σ} {c : KeyCache}
    (hcache : s.cache = some c) (hc : c.Uniform) (action : Action) :
    ∃ calls, (s.act p b action).cache = some (c.run calls) ∧ action.Makes p c calls := by
  cases action with
  | publish now batch =>
      rcases publishAt_cases p b now batch s with ⟨_, _, heq⟩ | ⟨metrics, keys, hnormal, heq⟩
      · refine ⟨[], ?_, nofun, nofun, nofun, nofun⟩
        rw [State.act, heq, hcache]; rfl
      · have htouched := touched_encodeBatch hnormal hcache hc now
        by_cases hok : (send p b now metrics keys s).1.result = .ok ()
        · refine ⟨_, ?_, makes_publish hnormal [] nofun⟩
          rw [State.act, heq, cache_send_of_ok hok, htouched.cache, List.map_nil, List.append_nil]
        · -- what is on the list was not found at first
          refine ⟨_, ?_, makes_publish hnormal _ htouched.unseen⟩
          rw [State.act, heq, cache_send_of_failed hok, htouched.cache, forgetAll_eq_run,
            KeyCache.run_append]
  | prune now =>
      refine ⟨[.prune now], by rw [State.act, hcache]; rfl, ?_, ?_, ?_, ?_⟩
      · simp [Call.time?, Action.time?]
      · simp [Call.key?]
      · simp
      · simp
  | forget key =>
      refine ⟨[.forget key], by rw [State.act, hcache]; rfl, ?_, ?_, ?_, ?_⟩
      · simp [Call.time?]
      · simp [Call.key?, Action.Names]
      · simp
      · simp

/-! ## Many actions -/

/-- What a sequence of actions leaves. -/
def State.after (p : Publisher) (b : Broker σ) (s : State σ) (actions : List Action) : State σ :=
  actions.foldl (State.act p b) s

theorem Reachable.act {p : Publisher} {s : State σ} (h : Reachable p s) (b : Broker σ)
    (action : Action) : Reachable p (s.act p b action) := by
  cases action with
  | publish now batch => exact .publish b now batch h
  | prune now => exact .call (.prune now) h
  | forget key => exact .call (.forget key) h

theorem Reachable.after {p : Publisher} {s : State σ} (h : Reachable p s) (b : Broker σ)
    (actions : List Action) : Reachable p (s.after p b actions) := by
  induction actions generalizing s with
  | nil => exact h
  | cons action rest ih => exact ih (h.act b action)

/-- The calls of a sequence of actions. -/
theorem exists_run_after {p : Publisher} (b : Broker σ) {s : State σ} {c : KeyCache}
    (hcache : s.cache = some c) (hc : c.Uniform) (actions : List Action) :
    ∃ calls, (s.after p b actions).cache = some (c.run calls)
      ∧ (∀ call ∈ calls, ∀ now, call.time? = some now → ∃ a ∈ actions, a.time? = some now)
      ∧ (∀ call ∈ calls, ∀ key, call.key? = some key → ∃ a ∈ actions, a.Names p key)
      ∧ ∀ now, .prune now ∈ actions → .prune now ∈ calls := by
  induction actions generalizing s c with
  | nil => exact ⟨[], hcache, nofun, nofun, nofun⟩
  | cons action rest ih =>
      obtain ⟨first, hfirst, hmakes⟩ := exists_makes b hcache hc action
      obtain ⟨calls, hcalls, htime, hnames, hprune⟩ := ih hfirst (KeyCache.uniform_run hc first)
      refine ⟨first ++ calls, by rw [KeyCache.run_append]; exact hcalls, ?_, ?_, ?_⟩
      · intro call hmem now hnow
        rcases List.mem_append.mp hmem with hfst | hrest
        · exact ⟨action, List.mem_cons_self .., hmakes.time call hfst now hnow⟩
        · obtain ⟨a, ha, h⟩ := htime call hrest now hnow
          exact ⟨a, List.mem_cons_of_mem _ ha, h⟩
      · intro call hmem key hkey
        rcases List.mem_append.mp hmem with hfst | hrest
        · exact ⟨action, List.mem_cons_self .., hmakes.names call hfst key hkey⟩
        · obtain ⟨a, ha, h⟩ := hnames call hrest key hkey
          exact ⟨a, List.mem_cons_of_mem _ ha, h⟩
      · intro now hmem
        rcases List.mem_cons.mp hmem with rfl | hrest
        · exact List.mem_append_left _ (hmakes.prune now rfl)
        · exact List.mem_append_right _ (hprune now hrest)

/-- **No action within the threshold loses a series that is fresh**, not even a batch that fails
with it, unless it forgets the series. -/
theorem seenSince_act {p : Publisher} (b : Broker σ) {s : State σ} {c : KeyCache}
    (hcache : s.cache = some c) (hc : c.Uniform) {action : Action} {key : MetricKey} {first : Nat}
    (h : c.SeenSince key first)
    (htime : ∀ now, action.time? = some now → first ≤ (Bucket.ofTimestamp now).toNat
      ∧ (Bucket.ofTimestamp now).toNat ≤ first + c.stale.toNat)
    (hforget : ∀ k, action ≠ .forget k) :
    ∃ calls, (s.act p b action).cache = some (c.run calls) ∧ (c.run calls).SeenSince key first := by
  obtain ⟨calls, hcalls, hmakes⟩ := exists_makes b hcache hc action
  refine ⟨calls, hcalls, KeyCache.seenSince_run hc h ?_ ?_⟩
  · exact fun call hmem now hnow => htime now (hmakes.time call hmem now hnow)
  · intro k hmem hslot
    rcases hmakes.forgets k hmem with heq | ⟨now, hnow, hnew⟩
    · exact hforget k heq
    · -- the series would have been found by the batch
      have hfinds := KeyCache.finds_of_seenSince hc h (htime now hnow).2
      exact hnew ((KeyCache.finds_congr hc hslot).mp hfinds)

theorem seenSince_after {p : Publisher} (b : Broker σ) {s : State σ} {c : KeyCache}
    (hcache : s.cache = some c) (hc : c.Uniform) {actions : List Action} {key : MetricKey}
    {first : Nat} (h : c.SeenSince key first)
    (htime : ∀ a ∈ actions, ∀ now, a.time? = some now → first ≤ (Bucket.ofTimestamp now).toNat
      ∧ (Bucket.ofTimestamp now).toNat ≤ first + c.stale.toNat)
    (hforget : ∀ k, .forget k ∉ actions) :
    ∃ calls, (s.after p b actions).cache = some (c.run calls)
      ∧ (c.run calls).SeenSince key first := by
  induction actions generalizing s c with
  | nil => exact ⟨[], hcache, h⟩
  | cons action rest ih =>
      obtain ⟨calls, hcalls, hseen⟩ := seenSince_act (p := p) b hcache hc h
        (htime action (List.mem_cons_self ..)) fun k heq => hforget k (heq ▸ List.mem_cons_self ..)
      obtain ⟨later, hlater, hstill⟩ := ih hcalls (KeyCache.uniform_run hc calls) hseen
        (by rw [KeyCache.stale_run]; exact fun a ha => htime a (List.mem_cons_of_mem _ ha))
        fun k hk => hforget k (List.mem_cons_of_mem _ hk)
      exact ⟨calls ++ later, by rw [KeyCache.run_append]; exact hlater,
        by rw [KeyCache.run_append]; exact hstill⟩

/-- A batch that succeeds has seen what it brings. -/
theorem seenSince_of_ok {p : Publisher} {b : Broker σ} {s : State σ} {c : KeyCache}
    (hcache : s.cache = some c) (hc : c.Uniform) {now : Timestamp} {batch : List Metric}
    {key : MetricKey} (hkey : Brings p batch key)
    (hok : (publishAt p b now batch s).1.result = .ok ()) :
    ∃ calls, (publishAt p b now batch s).2.cache = some (c.run calls)
      ∧ (c.run calls).SeenSince key (Bucket.ofTimestamp now).toNat := by
  obtain ⟨metrics, keys, hnormal, hmem⟩ := hkey
  have hbatch : batch ≠ [] := by
    obtain ⟨-, hkeys⟩ := length_normalize hnormal
    have := List.length_pos_of_mem hmem
    exact List.length_pos_iff.mp (by omega)
  rw [publishAt_of_normalize hbatch hnormal] at hok ⊢
  refine ⟨touches now keys, ?_, KeyCache.seenSince_run_touches hc hmem⟩
  rw [cache_send_of_ok hok, (touched_encodeBatch hnormal hcache hc now).cache]

/-! ## The next batch -/

/-- The sample at a place of a batch was encoded so, and if a record was submitted for it then with
this message. -/
structure Outcome.EncodedAt (o : Outcome) (key : MetricKey) (i : Nat) (encoding : Encoding) :
    Prop where
  chosen : o.encodings[i]? = some encoding
  payload : ∀ m r, o.Sent key i m r → r.payload = writeMessage encoding m key []

/-- **What a batch makes of a sample** is decided by whether a touch would find its series, if all
slots are distinct. -/
theorem encodedAt_publishAt {p : Publisher} (b : Broker σ) {now : Timestamp}
    {batch metrics : List Metric} {keys : List MetricKey}
    (hnormal : normalize p.schemas batch = (metrics, .ok keys)) {s : State σ} (hs : Reachable p s)
    {c : KeyCache} (hcache : s.cache = some c) (hcount : c.shardCount = Novelty.maxShards)
    {i : Nat} {key : MetricKey} (hkey : keys[i]? = some key) :
    (c.Finds now key → (publishAt p b now batch s).1.EncodedAt key i (.compact p.format))
      ∧ (¬ c.Finds now key → (publishAt p b now batch s).1.EncodedAt key i .full) := by
  obtain ⟨hclean, n, hsharded⟩ := hs.sound
  obtain ⟨hc, -⟩ := hsharded c hcache
  obtain ⟨hmetrics, hkeys⟩ := length_normalize hnormal
  obtain ⟨hi, -⟩ := List.getElem?_eq_some_iff.mp hkey
  have hbatch : batch ≠ [] := List.length_pos_iff.mp (by omega)
  have hm : metrics[i]? = some metrics[i] := List.getElem?_eq_getElem (by omega)
  have hpair : (metrics.zip keys)[i]? = some (metrics[i], key) :=
    List.getElem?_zip_eq_some.mpr ⟨hm, hkey⟩
  -- there is a message at this place
  obtain ⟨⟨encoding, message⟩, hmessage⟩ :
      ∃ message, (encodeBatch p now metrics keys s).1[i]? = some message := by
    refine ⟨_, List.getElem?_eq_getElem ?_⟩
    rw [encodeBatch, length_encode, List.length_zip]; omega
  have hencoded : (publishAt p b now batch s).1.EncodedAt key i encoding := by
    rw [publishAt_of_normalize hbatch hnormal]
    refine ⟨?_, fun m r hsent => ?_⟩
    · show ((encodeBatch p now metrics keys s).1.map (·.1))[i]? = some encoding
      rw [List.getElem?_map, hmessage]; rfl
    · obtain ⟨encoding', message', hpair', hmessage', rfl⟩ := sent_send hnormal hsent
      rw [hmessage] at hmessage'
      cases hmessage'
      exact (written_encode (tracks_start hclean hsharded) hpair' hmessage).1
  obtain ⟨hpoint, hfull⟩ :=
    encoding_encode (touched_start hcache rfl) hc hpair hmessage
  refine ⟨fun hfinds => hpoint hfinds ▸ hencoded, fun hnew => hfull hnew ?_ ▸ hencoded⟩
  rw [hcount]
  exact fun k _ hslot => (slotOf_maxShards_inj hslot).symm

/-! ## The window -/

section Later

variable {p : Publisher} {b : Broker σ} {s : State σ} {c : KeyCache} {between : List Action}
  {t₁ t₂ : Timestamp} {batch₁ batch₂ metrics : List Metric} {keys : List MetricKey}
  {key : MetricKey} {i : Nat}

/-- Behind a batch that has succeeded, a later batch within the threshold sends points. -/
theorem compact_of_fresh (hs : Reachable p s) (hcache : s.cache = some c)
    (hcount : c.shardCount = Novelty.maxShards) (hkey : Brings p batch₁ key)
    (hok : (publishAt p b t₁ batch₁ s).1.result = .ok ())
    (hbetween : ∀ a ∈ between, ∀ now, a.time? = some now →
      (Bucket.ofTimestamp t₁).toNat ≤ (Bucket.ofTimestamp now).toNat
        ∧ (Bucket.ofTimestamp now).toNat ≤ (Bucket.ofTimestamp t₁).toNat + c.stale.toNat)
    (hforget : ∀ k, .forget k ∉ between)
    (hnear : (Bucket.ofTimestamp t₂).toNat ≤ (Bucket.ofTimestamp t₁).toNat + c.stale.toNat)
    (hnormal : normalize p.schemas batch₂ = (metrics, .ok keys)) (hi : keys[i]? = some key) :
    (publishAt p b t₂ batch₂ ((publishAt p b t₁ batch₁ s).2.after p b between)).1.EncodedAt key i
      (.compact p.format) := by
  obtain ⟨-, n, hsharded⟩ := hs.sound
  obtain ⟨hc, -⟩ := hsharded c hcache
  -- the series is seen by the first batch, and stays fresh until the second
  obtain ⟨calls, hcalls, hseen⟩ := seenSince_of_ok hcache hc hkey hok
  have hrun := KeyCache.uniform_run hc calls
  obtain ⟨later, hlater, hstill⟩ := seenSince_after (p := p) b hcalls hrun hseen
    (by rw [KeyCache.stale_run]; exact hbetween) hforget
  have hs₂ := (hs.publish b t₁ batch₁).after b between
  refine (encodedAt_publishAt b hnormal hs₂ hlater ?_ hi).1
    (KeyCache.finds_of_seenSince (KeyCache.uniform_run hrun later) hstill ?_)
  · rw [KeyCache.shardCount_run, KeyCache.shardCount_run, hcount]
  · rw [KeyCache.stale_run, KeyCache.stale_run]; exact hnear

/-- Behind a prune beyond the threshold of all sightings of a series, a batch describes it. -/
theorem full_of_stale (hs : Reachable p s) (hcache : s.cache = some c)
    (hcount : c.shardCount = Novelty.maxShards) {last : Nat} {t : Timestamp}
    (hlast : ∀ n, c.lastSeen key = some n → n ≤ last)
    (hnames : ∀ a ∈ between, ¬ a.Names p key) (hprune : .prune t ∈ between)
    (hfar : last + c.stale.toNat < (Bucket.ofTimestamp t).toNat)
    (hnormal : normalize p.schemas batch₂ = (metrics, .ok keys)) (hi : keys[i]? = some key) :
    (publishAt p b t₂ batch₂ (s.after p b between)).1.EncodedAt key i .full := by
  obtain ⟨-, n, hsharded⟩ := hs.sound
  obtain ⟨hc, -⟩ := hsharded c hcache
  obtain ⟨calls, hcalls, -, hnamed, hprunes⟩ := exists_run_after (p := p) b hcache hc between
  have hgone : ¬ (c.run calls).Knows key := by
    refine KeyCache.not_knows_run_of_prune hc hlast (fun call hmem k hk hslot => ?_)
      (hprunes t hprune) hfar
    -- all slots are distinct, so a call on this one names the series
    obtain ⟨a, ha, hname⟩ := hnamed call hmem k hk
    rw [hcount] at hslot
    exact hnames a ha (slotOf_maxShards_inj hslot ▸ hname)
  refine (encodedAt_publishAt b hnormal (hs.after b between) hcalls ?_ hi).2
    fun hfinds => hgone (KeyCache.knows_of_finds hfinds)
  rw [KeyCache.shardCount_run, hcount]

end Later

/-- The times of actions, in seconds. -/
def timesOf (actions : List Action) : List Nat :=
  actions.filterMap fun a => a.time?.map (·.seconds.toNat)

theorem mem_timesOf {actions : List Action} {a : Action} {now : Timestamp} (h : a ∈ actions)
    (htime : a.time? = some now) : now.seconds.toNat ∈ timesOf actions :=
  List.mem_filterMap.mpr ⟨a, h, by rw [htime]; rfl⟩

/-- On a clock that does not go back, the actions before a batch are not later, and those between
two batches lie between their times. -/
theorem le_of_clock {before between : List Action} {t₁ t₂ : Timestamp} {batch₁ batch₂ : List Metric}
    (h : (timesOf (before ++ .publish t₁ batch₁ :: between ++ [.publish t₂ batch₂])).Pairwise
      (· ≤ ·)) :
    (∀ a ∈ before, ∀ now, a.time? = some now → now.seconds.toNat ≤ t₁.seconds.toNat)
      ∧ ∀ a ∈ between, ∀ now, a.time? = some now → t₁.seconds.toNat ≤ now.seconds.toNat
        ∧ now.seconds.toNat ≤ t₂.seconds.toNat := by
  have hfirst : t₁.seconds.toNat ∈ timesOf (.publish t₁ batch₁ :: between) :=
    mem_timesOf (a := .publish t₁ batch₁) (List.mem_cons_self ..) rfl
  have hsecond : t₂.seconds.toNat ∈ timesOf [.publish t₂ batch₂] :=
    mem_timesOf (a := .publish t₂ batch₂) (List.mem_singleton_self _) rfl
  rw [timesOf, List.filterMap_append, List.filterMap_append] at h
  obtain ⟨hinner, -, hlate⟩ := List.pairwise_append.mp h
  obtain ⟨-, hrest, hearly⟩ := List.pairwise_append.mp hinner
  refine ⟨fun a ha now hnow => hearly _ (mem_timesOf ha hnow) _ hfirst, fun a ha now hnow => ?_⟩
  have hmem : now.seconds.toNat ∈ timesOf (.publish t₁ batch₁ :: between) :=
    mem_timesOf (List.mem_cons_of_mem _ ha) hnow
  exact ⟨List.rel_of_pairwise_cons hrest (mem_timesOf ha hnow),
    hlate _ (List.mem_append_right _ hmem) _ hsecond⟩

/-- **Compact within the window, full again after it.** Start a publisher with an empty cache of 256
shards, publish any batches and prune at any times that do not go back, whether the batches succeed
or fail. Let a batch bring a series, and look at a later one.

* If the first has succeeded and the later one is within the stale threshold of it, counted in
  buckets, all samples of the series in it are encoded as points.
* If there was a prune in between that was further away, and no batch in between has brought the
  series, all its samples are encoded in full. -/
theorem encoding_follows_window (p : Publisher) (b : Broker σ) (config : CacheConfig)
    (hshards : config.shardCount = 256) {c : KeyCache} (hcache : KeyCache.ofConfig config = .ok c)
    (maxIdle : Nat) (broker : σ) (before between : List Action) (t₁ t₂ : Timestamp)
    (batch₁ batch₂ : List Metric)
    (hclock : (timesOf (before ++ .publish t₁ batch₁ :: between ++ [.publish t₂ batch₂])).Pairwise
      (· ≤ ·))
    (hrange : ∀ t ∈ timesOf (before ++ .publish t₁ batch₁ :: between ++ [.publish t₂ batch₂]),
      t < 600 * 2 ^ 32)
    (hforget : ∀ k, .forget k ∉ between) {key : MetricKey} (hkey : Brings p batch₁ key)
    {metrics : List Metric} {keys : List MetricKey}
    (hnormal : normalize p.schemas batch₂ = (metrics, .ok keys)) :
    let s₁ := State.after p b ⟨some c, .ofMaxIdle maxIdle, broker⟩ before
    let first := publishAt p b t₁ batch₁ s₁
    let second := publishAt p b t₂ batch₂ (first.2.after p b between)
    let window := config.staleThreshold.seconds / 600
    (first.1.result = .ok () →
        t₂.seconds.toNat / 600 ≤ t₁.seconds.toNat / 600 + window →
        ∀ i : Nat, keys[i]? = some key → second.1.EncodedAt key i (.compact p.format))
      ∧ ((∃ t, .prune t ∈ between
            ∧ t₁.seconds.toNat / 600 + window < t.seconds.toNat / 600) →
        (∀ t batch, .publish t batch ∈ between → ¬ Brings p batch key) →
        ∀ i : Nat, keys[i]? = some key → second.1.EncodedAt key i .full) := by
  intro s₁ first second window
  obtain ⟨horgs, hcount⟩ := KeyCache.orgs_of_ofConfig hcache
  obtain ⟨hpos, hstale⟩ := KeyCache.limits_of_ofConfig hcache
  have hc : c.Uniform := KeyCache.uniform_of_orgs_empty horgs (hcount ▸ hpos)
  obtain ⟨hbefore, hbetween⟩ := le_of_clock hclock
  have hbucket : ∀ a ∈ before ++ .publish t₁ batch₁ :: between ++ [.publish t₂ batch₂], ∀ now,
      a.time? = some now → (Bucket.ofTimestamp now).toNat = now.seconds.toNat / 600 :=
    fun a ha now hnow => Novelty.toNat_ofTimestamp (hrange _ (mem_timesOf ha hnow))
  have hb₁ := hbucket (.publish t₁ batch₁) (by simp) t₁ rfl
  have hb₂ := hbucket (.publish t₂ batch₂) (by simp) t₂ rfl
  have hwindow : ∀ calls, (c.run calls).shardCount = Novelty.maxShards
      ∧ (c.run calls).stale.toNat = window := fun calls =>
    ⟨by rw [KeyCache.shardCount_run, hcount, hshards]; rfl, by rw [KeyCache.stale_run, hstale]; rfl⟩
  have hs₁ : Reachable p s₁ := (Reachable.start hcache maxIdle broker).after b before
  refine ⟨fun hok hnear i hi => ?_, fun ⟨t, hprune, hfar⟩ hnone i hi => ?_⟩
  · obtain ⟨calls, hcalls, -⟩ := exists_run_after (p := p) b
      (s := ⟨some c, .ofMaxIdle maxIdle, broker⟩) rfl hc before
    obtain ⟨hcount₁, hstale₁⟩ := hwindow calls
    refine compact_of_fresh hs₁ hcalls hcount₁ hkey hok (fun a ha now hnow => ?_) hforget ?_
      hnormal hi
    · have := hbetween a ha now hnow
      have := hbucket a (by simp [ha]) now hnow
      omega
    · omega
  · -- no sighting is later than the first batch
    obtain ⟨calls, hcalls, htimes, -⟩ := exists_run_after (p := p) b
      (s := ⟨some c, .ofMaxIdle maxIdle, broker⟩) rfl hc (before ++ [.publish t₁ batch₁])
    have hafter : State.after p b ⟨some c, .ofMaxIdle maxIdle, broker⟩
        (before ++ [.publish t₁ batch₁]) = first.2 := List.foldl_append
    rw [hafter] at hcalls
    obtain ⟨hcount₁, hstale₁⟩ := hwindow calls
    have hlast : ∀ n, (c.run calls).lastSeen key = some n → n ≤ t₁.seconds.toNat / 600 := by
      refine KeyCache.lastSeen_run_le hc (KeyCache.allShards_of_orgs_empty horgs _)
        (fun n hn => ?_) fun call hmem now hnow => ?_
      · rw [KeyCache.lastSeen_of_orgs_empty horgs] at hn; cases hn
      · obtain ⟨a, ha, htime⟩ := htimes call hmem now hnow
        have hbehind : now.seconds.toNat ≤ t₁.seconds.toNat := by
          rcases List.mem_append.mp ha with hold | hself
          · exact hbefore a hold now htime
          · rw [List.mem_singleton.mp hself] at htime; cases htime; exact Nat.le_refl _
        exact Nat.le_trans (Novelty.toNat_ofTimestamp_le now) (Nat.div_le_div_right hbehind)
    refine full_of_stale (hs₁.publish b t₁ batch₁) hcalls hcount₁ hlast (fun a ha hname => ?_)
      hprune ?_ hnormal hi
    · cases a with
      | publish t batch => exact hnone t batch ha hname
      | prune t => exact hname
      | forget k => exact hforget k ha
    · have := hbucket (.prune t) (by simp [hprune]) t rfl
      omega

/-- A series is described at the start of 1970. Six hours later it is sent as a point, although a
batch with it has been refused meanwhile and the cache was pruned. Had the prune been ten minutes
later, the series would be described again. -/
theorem encoding_follows_window_of_refusal :
    let key : MetricKey := ⟨⟨1⟩, ⟨.ofFn fun i => i.toNat.toUInt8⟩⟩
    let m : Metric := { id := "1.000102030405060708090a0b0c0d0e0f", org := ⟨1⟩, interval := 10 }
    let p : Publisher :=
      { partitioner := ⟨.byOrg, 1, by decide⟩
        schemas := ⟨[], ⟨"default", default, ⟨60, 3600, by decide, by decide⟩, []⟩⟩ }
    -- the second batch is refused
    let b : Broker Nat :=
      { openBatch := fun _ n => n + 1
        produce := fun _ n => (if n = 2 then .error ⟨"queue is full"⟩ else .ok (), n)
        closeBatch := fun _ n => (⟨[.delivered], .disconnected⟩, n) }
    let s₁ := (publishAt p b ⟨0⟩ [m] ⟨some ⟨.clamp 36, .ofSeconds 3600, 256, ∅⟩, .ofMaxIdle 8, 0⟩).2
    let refused := publishAt p b ⟨6000⟩ [m, m] s₁
    refused.1.result = .error (.producer ⟨"queue is full"⟩)
      ∧ (publishAt p b ⟨21600⟩ [m] (refused.2.act p b (.prune ⟨21600⟩))).1.EncodedAt key 0
        (.compact .withOrg)
      ∧ (publishAt p b ⟨22200⟩ [m] (s₁.act p b (.prune ⟨22200⟩))).1.EncodedAt key 0 .full := by
  intro key m p b s₁ refused
  have hcache : KeyCache.ofConfig {} = .ok ⟨.clamp 36, .ofSeconds 3600, 256, ∅⟩ := by cbv
  have hnormal : normalize p.schemas [m] = ([m], .ok [key]) := by cbv
  have hkey : Brings p [m] key := ⟨[m], [key], hnormal, List.mem_singleton_self key⟩
  have hagain : normalize p.schemas [m, m] = ([m, m], .ok [key, key]) := by cbv
  have hfirst : publishAt p b ⟨0⟩ [m] ⟨some ⟨.clamp 36, .ofSeconds 3600, 256, ∅⟩, .ofMaxIdle 8, 0⟩ =
      send p b ⟨0⟩ [m] [key] ⟨some ⟨.clamp 36, .ofSeconds 3600, 256, ∅⟩, .ofMaxIdle 8, 0⟩ :=
    publishAt_of_normalize (by simp) hnormal
  have hok : (publishAt p b ⟨0⟩ [m]
      ⟨some ⟨.clamp 36, .ofSeconds 3600, 256, ∅⟩, .ofMaxIdle 8, 0⟩).1.result = .ok () := by
    rw [hfirst]; rfl
  have hsend : refused = send p b ⟨6000⟩ [m, m] [key, key] s₁ :=
    publishAt_of_normalize (by simp) hagain
  refine ⟨?_, ?_, ?_⟩
  · rw [hsend, show s₁ = _ from congrArg Prod.snd hfirst]; rfl
  · exact (encoding_follows_window p b {} rfl hcache 8 0 [] [.publish ⟨6000⟩ [m, m], .prune ⟨21600⟩]
      ⟨0⟩ ⟨21600⟩ [m] [m] (by decide) (by decide) (by simp) hkey hnormal).1 hok (by decide) 0 rfl
  · exact (encoding_follows_window p b {} rfl hcache 8 0 [] [.prune ⟨22200⟩] ⟨0⟩ ⟨22200⟩ [m] [m]
      (by decide) (by decide) (by simp) hkey hnormal).2 ⟨⟨22200⟩, by simp, by decide⟩ (by simp)
      0 rfl

end MetricGateway.Publish
