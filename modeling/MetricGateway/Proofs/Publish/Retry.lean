import MetricGateway.Proofs.Publish.Choices
import MetricGateway.Proofs.Publish.Description

/-!
# Batches that fail

A batch that fails after it was encoded forgets the series on its list. These are
the series that its touches did not find, one for each slot, so that to a touch
at that time the cache answers as it did before. Publishing the batch again makes
the same choices and writes the same messages.

What is lost are sightings that a touch of the batch has found too old when it
moved the reference of their shard. No touch at that time would have found them
anyway.
-/

namespace MetricGateway.Publish

open Novelty (Bucket CacheConfig KeyCache SameShard slotOf sameShard_of_slotOf_eq touches)
open Routing (Broker Record)

variable {σ τ : Type}

/-! ## States of a publisher -/

/-- The states in which a publisher can be between two of its batches. Its cache has been set up
within the limits, if there is one, and others may use it too: they touch, forget and prune. What
goes on at the broker is not known. -/
inductive Reachable (p : Publisher) : State σ → Prop where
  | start {config : CacheConfig} {c : KeyCache} (hcache : KeyCache.ofConfig config = .ok c)
      (maxIdle : Nat) (broker : σ) : Reachable p ⟨some c, .ofMaxIdle maxIdle, broker⟩
  | startWithoutCache (maxIdle : Nat) (broker : σ) :
      Reachable p ⟨none, .ofMaxIdle maxIdle, broker⟩
  | publish {s : State σ} (b : Broker σ) (now : Timestamp) (batch : List Metric)
      (hs : Reachable p s) : Reachable p (publishAt p b now batch s).2
  | call {s : State σ} (call : Novelty.Call) (hs : Reachable p s) :
      Reachable p { s with cache := s.cache.map call.apply }
  | broker {s : State σ} (broker : σ) (hs : Reachable p s) : Reachable p { s with broker }

/-- Buffers are empty between batches, and all organizations have the same number of shards. -/
theorem Reachable.sound {p : Publisher} {s : State σ} (h : Reachable p s) :
    s.pools.Clean ∧ ∃ n, Sharded n s.cache := by
  induction h with
  | @start config c hcache maxIdle broker =>
      refine ⟨BufferPools.clean_ofMaxIdle maxIdle, c.shardCount, ?_⟩
      rintro _ ⟨⟩
      obtain ⟨horgs, hcount⟩ := KeyCache.orgs_of_ofConfig hcache
      exact ⟨KeyCache.uniform_of_orgs_empty horgs (hcount ▸ (KeyCache.limits_of_ofConfig hcache).1),
        rfl⟩
  | startWithoutCache maxIdle broker => exact ⟨BufferPools.clean_ofMaxIdle maxIdle, 0, nofun⟩
  | @publish s b now batch hs ih =>
      obtain ⟨hclean, n, hsharded⟩ := ih
      rcases publishAt_cases p b now batch s with ⟨_, _, heq⟩ | ⟨metrics, keys, -, heq⟩
      · rw [heq]; exact ⟨hclean, n, hsharded⟩
      · rw [heq]; exact ⟨clean_send hclean hsharded, n, sharded_send hclean hsharded⟩
  | call call hs ih =>
      obtain ⟨hclean, n, hsharded⟩ := ih
      refine ⟨hclean, n, ?_⟩
      intro _ hc
      obtain ⟨c, hcache, rfl⟩ := Option.map_eq_some_iff.mp hc
      obtain ⟨huniform, hcount⟩ := hsharded c hcache
      exact ⟨KeyCache.uniform_apply huniform call, by rw [KeyCache.shardCount_apply, hcount]⟩
  | broker broker hs ih => exact ih

/-! ## What a failed batch leaves -/

theorem forgetAll_eq_run (c : KeyCache) (keys : List MetricKey) :
    forgetAll (some c) keys = some (c.run (keys.map .forget)) := by
  rw [forgetAll, Option.map_some, KeyCache.run, List.foldl_map]; rfl

section Rollback

variable {c : KeyCache} {now : Timestamp} {keys : List MetricKey} {s : EncodingState}

/-- **To touches of its own time, a batch that is taken back was never there.** -/
theorem Touched.finds_forgotten_iff (h : Touched c now keys s) (hc : c.Uniform) (key : MetricKey) :
    ((c.run (touches now keys)).run (s.described.map .forget)).Finds now key ↔
      c.Finds now key := by
  rw [KeyCache.finds_run_forgets_iff (KeyCache.uniform_run hc _), KeyCache.shardCount_run]
  constructor
  · rintro ⟨hspared, hfinds⟩
    by_contra hnew
    obtain ⟨d, hd, hslot⟩ := h.exists_listed hc hfinds hnew
    exact hspared d hd hslot
  · intro hfinds
    refine ⟨fun k hk hslot => ?_, (KeyCache.finds_run_touches_iff hc).mpr (Or.inr hfinds)⟩
    exact (h.unseen k hk).2 ((KeyCache.finds_congr hc hslot).mp hfinds)

/-- What is known after a batch is taken back: what was known before, but in the shards that the
batch has come to only as far as a touch would have found it. -/
theorem Touched.knows_forgotten_iff (h : Touched c now keys s) (hc : c.Uniform) (key : MetricKey) :
    Known (forgetAll s.cache s.described) key ↔
      c.Knows key ∧ ((∃ k ∈ keys, SameShard c.shardCount key k) → c.Finds now key) := by
  have hsharded : Sharded c.shardCount s.cache := by
    rw [h.cache]
    rintro _ ⟨⟩
    exact ⟨KeyCache.uniform_run hc _, KeyCache.shardCount_run ..⟩
  rw [(forgetAll_spec hsharded s.described).2 key, h.cache, known_some,
    KeyCache.knows_run_touches_iff hc]
  constructor
  · rintro ⟨⟨k, hk, hslot⟩ | hkept, hspared⟩
    · -- a slot of the batch is left only if it was found at first
      have hfinds : c.Finds now key := by
        by_contra hnew
        have hnew' : ¬ c.Finds now k := fun hk => hnew ((KeyCache.finds_congr hc hslot).mpr hk)
        obtain ⟨d, hd, hslot'⟩ := h.listed k hk hnew'
        exact hspared d hd (hslot.trans hslot')
      exact ⟨KeyCache.knows_of_finds hfinds, fun _ => hfinds⟩
    · exact hkept
  · rintro ⟨hknows, hfinds⟩
    refine ⟨Or.inr ⟨hknows, hfinds⟩, fun d hd hslot => ?_⟩
    obtain ⟨hmem, hnew⟩ := h.unseen d hd
    have hfound := hfinds ⟨d, hmem, sameShard_of_slotOf_eq hslot⟩
    exact hnew ((KeyCache.finds_congr hc hslot).mp hfound)

end Rollback

/-- A batch leaves the sighting of a series behind: one of its touches lies more than 255 buckets
behind the reference of the shard of the series, and the series was last seen before the stale
threshold of that time. -/
def LeavesBehind (c : KeyCache) (now : Timestamp) (keys : List MetricKey) (key : MetricKey) :
    Prop :=
  (∃ k ∈ keys, SameShard c.shardCount key k)
    ∧ (∃ r, c.reference? key = some r ∧ r + 255 < (Bucket.ofTimestamp now).toNat)
    ∧ ∃ n, c.lastSeen key = some n ∧ n < (Bucket.ofTimestamp now).toNat - c.stale.toNat

/-- Of what is known in the shards that a batch comes to, it does not find what it leaves behind. -/
theorem not_leavesBehind_iff {c : KeyCache} (hc : c.Uniform) {now : Timestamp}
    {keys : List MetricKey} {key : MetricKey} :
    (c.Knows key ∧ ((∃ k ∈ keys, SameShard c.shardCount key k) → c.Finds now key)) ↔
      c.Knows key ∧ ¬ LeavesBehind c now keys key := by
  refine and_congr_right fun hknows => ?_
  rw [KeyCache.finds_iff_of_knows hc hknows]
  exact not_and.symm

/-- Without a cache, encoding has none to change. -/
theorem cache_encode_of_none (format : Wire.PointFormat) (now : Timestamp)
    (pairs : List (Metric × MetricKey)) {s : EncodingState} (h : s.cache = none) :
    (encode format now pairs s).2.cache = none := by
  induction pairs generalizing s with
  | nil => exact h
  | cons pair rest ih =>
      refine ih (s := (encodeOne format now pair.1 pair.2 s).2) ?_
      rw [encodeOne, chooseEncoding_of_none format now pair.2 h]
      exact h

section Failed

variable {p : Publisher} {b : Broker σ} {now : Timestamp} {batch metrics : List Metric}
  {keys : List MetricKey} {s : State σ} {n : Nat}

theorem touched_encodeBatch (hnormal : normalize p.schemas batch = (metrics, .ok keys))
    {c : KeyCache} (hcache : s.cache = some c) (hc : c.Uniform) (now : Timestamp) :
    Touched c now keys (encodeBatch p now metrics keys s).2 := by
  obtain ⟨hmetrics, hkeys⟩ := length_normalize hnormal
  have hstart : Touched c now [] ⟨s.cache, [], s.pools⟩ := touched_start hcache rfl
  have h := touched_encode hstart hc p.format (metrics.zip keys)
  rwa [List.nil_append, List.map_snd_zip (by omega)] at h

/-- After a batch that fails, the cache answers to touches of its time as it did before. -/
theorem answerAlike_of_failed (hsharded : Sharded n s.cache)
    (hnormal : normalize p.schemas batch = (metrics, .ok keys))
    (hfailed : (send p b now metrics keys s).1.result ≠ .ok ()) :
    Option.Rel (AnswerAlike now) s.cache (send p b now metrics keys s).2.cache := by
  rw [cache_send_of_failed hfailed]
  cases hcache : s.cache with
  | none =>
      have hnone : (encodeBatch p now metrics keys s).2.cache = none :=
        cache_encode_of_none _ _ _ hcache
      rw [hnone]
      exact .none
  | some c =>
      obtain ⟨hc, -⟩ := hsharded c hcache
      have htouched := touched_encodeBatch hnormal hcache hc now
      rw [htouched.cache, forgetAll_eq_run]
      have hrun := KeyCache.uniform_run hc (touches now keys)
      refine .some ⟨hc, KeyCache.uniform_run hrun _, ?_, fun key => ?_⟩
      · rw [KeyCache.shardCount_run, KeyCache.shardCount_run]
      · exact (htouched.finds_forgotten_iff hc key).symm

theorem known_of_failed_iff (hsharded : Sharded n s.cache)
    (hnormal : normalize p.schemas batch = (metrics, .ok keys))
    (hfailed : (send p b now metrics keys s).1.result ≠ .ok ()) (key : MetricKey) :
    Known (send p b now metrics keys s).2.cache key ↔
      Known s.cache key ∧ ∀ c, s.cache = some c → ¬ LeavesBehind c now keys key := by
  rw [cache_send_of_failed hfailed]
  cases hcache : s.cache with
  | none =>
      have hnone : (encodeBatch p now metrics keys s).2.cache = none :=
        cache_encode_of_none _ _ _ hcache
      rw [hnone]
      simp [forgetAll, Known]
  | some c =>
      obtain ⟨hc, -⟩ := hsharded c hcache
      have htouched := touched_encodeBatch hnormal hcache hc now
      rw [htouched.knows_forgotten_iff hc, not_leavesBehind_iff hc, known_some]
      simp only [Option.some.injEq, forall_eq']

/-- A broker that takes all records has all of them submitted to it. -/
theorem records_send_of_accepted
    (h : ∀ answer ∈ answersOf b metrics.length (batchRecords p now metrics keys s) s.broker,
      answer = .ok ()) :
    (send p b now metrics keys s).1.submission.records = batchRecords p now metrics keys s := by
  rw [records_send, acceptedCount_of_forall_ok h, length_answersOf,
    List.take_of_length_le (Nat.le_succ _)]

end Failed

/-- **A batch that fails leaves no trace**, and publishing it again repeats it.

Of any batch that has been encoded and then fails, in any state of a publisher, no series is known
that was not known before, and no series is lost but those left behind by a touch of the batch. If
the batch is published again at the same time, and the broker takes its records, these are the
records that were encoded at first. What was submitted at first is where they begin. -/
theorem failed_batch_leaves_no_trace (p : Publisher) (b : Broker σ) (now : Timestamp)
    (batch : List Metric) {s : State σ} (hs : Reachable p s) {metrics : List Metric}
    {keys : List MetricKey} (hnormal : normalize p.schemas batch = (metrics, .ok keys))
    {failure : PublishError} (hfailed : (publishAt p b now batch s).1.result = .error failure) :
    let failed := publishAt p b now batch s
    (∀ key, Known failed.2.cache key ↔
        Known s.cache key ∧ ∀ c, s.cache = some c → ¬ LeavesBehind c now keys key)
      ∧ ∀ (b' : Broker τ) (broker : τ),
        (∀ answer ∈ answersOf b' metrics.length (batchRecords p now metrics keys s) broker,
          answer = .ok ()) →
        let retry := publishAt p b' now failed.1.metrics ⟨failed.2.cache, failed.2.pools, broker⟩
        retry.1.submission.records = batchRecords p now metrics keys s
          ∧ failed.1.submission.records <+: retry.1.submission.records := by
  intro failed
  obtain ⟨hclean, n, hsharded⟩ := hs.sound
  have hbatch : batch ≠ [] := by rintro rfl; cases hfailed
  have hsend : failed = send p b now metrics keys s := publishAt_of_normalize hbatch hnormal
  have hnok : (send p b now metrics keys s).1.result ≠ .ok () := by
    rw [← hsend, hfailed]; nofun
  refine ⟨fun key => ?_, fun b' broker haccepted => ?_⟩
  · rw [hsend]
    exact known_of_failed_iff hsharded hnormal hnok key
  · intro retry
    have hmetrics : failed.1.metrics = metrics := by rw [hsend]; rfl
    have hnonempty : metrics ≠ [] := by
      rw [metrics_of_normalize hnormal]
      exact fun h => hbatch (List.map_eq_nil_iff.mp h)
    -- the retry begins with a cache that answers alike, so it encodes the same messages
    have hsame : batchRecords p now metrics keys
        (⟨failed.2.cache, failed.2.pools, broker⟩ : State τ) =
        batchRecords p now metrics keys s := by
      have halike : EncodeAlike now ⟨s.cache, [], s.pools⟩
          ⟨failed.2.cache, [], failed.2.pools⟩ := by
        rw [hsend]
        exact ⟨hclean, clean_send (b := b) hclean hsharded, rfl,
          answerAlike_of_failed hsharded hnormal hnok⟩
      rw [batchRecords, batchRecords, encodeBatch, encodeBatch, encode_congr halike]
    have hretry : retry.1.submission.records = batchRecords p now metrics keys s := by
      have heq : retry = send p b' now metrics keys ⟨failed.2.cache, failed.2.pools, broker⟩ := by
        show publishAt p b' now failed.1.metrics _ = _
        rw [hmetrics]
        exact publishAt_of_normalize hnonempty (normalize_normalized hnormal)
      rw [heq, records_send_of_accepted (by rw [hsame]; exact haccepted), hsame]
    refine ⟨hretry, ?_⟩
    rw [hretry, hsend, records_send]
    exact List.take_prefix _ _

/-- A broker that refuses the second of three records, of which the first and the third are of a
series that is known already: that series stays known and the other one is unknown again, and the
batch is repeated from its beginning. -/
theorem failed_batch_leaves_no_trace_of_refusal :
    let known : MetricKey := ⟨⟨1⟩, ⟨.ofFn fun i => i.toNat.toUInt8⟩⟩
    let new : MetricKey := ⟨⟨1⟩, ⟨.replicate 16 1⟩⟩
    let m : Metric := { id := "1.000102030405060708090a0b0c0d0e0f", org := ⟨1⟩, interval := 10 }
    let n : Metric := { id := "1.01010101010101010101010101010101", org := ⟨1⟩, interval := 10 }
    let p : Publisher :=
      { partitioner := ⟨.byOrg, 1, by decide⟩
        schemas := ⟨[], ⟨"default", default, ⟨60, 3600, by decide, by decide⟩, []⟩⟩ }
    let b : Broker Nat :=
      { openBatch := fun _ _ => 0
        produce := fun _ k => (if k = 0 then .ok () else .error ⟨"queue is full"⟩, k + 1)
        closeBatch := fun _ k => (⟨[.delivered], .disconnected⟩, k) }
    let b' : Broker Unit :=
      { openBatch := fun _ _ => ()
        produce := fun _ _ => (.ok (), ())
        closeBatch := fun _ _ => (⟨[], .disconnected⟩, ()) }
    let c : KeyCache := ⟨.clamp 36, .ofSeconds 3600, 1, ∅⟩
    let s : State Nat := ⟨some (c.touch known ⟨0⟩).2, .ofMaxIdle 8, 0⟩
    let failed := publishAt p b ⟨600⟩ [m, n, m] s
    let retry := publishAt p b' ⟨600⟩ failed.1.metrics ⟨failed.2.cache, failed.2.pools, ()⟩
    Reachable p s ∧ failed.1.result = .error (.producer ⟨"queue is full"⟩)
      ∧ Known failed.2.cache known ∧ ¬ Known failed.2.cache new
      ∧ failed.1.submission.records.length = 2 ∧ retry.1.submission.records.length = 3
      ∧ failed.1.submission.records <+: retry.1.submission.records := by
  intro known new m n p b b' c s failed retry
  have hconfig : KeyCache.ofConfig { shardCount := 1 } = .ok c := by cbv
  have hs : Reachable p s := .call (.touch known ⟨0⟩) (.start hconfig 8 0)
  have hc : c.Uniform := KeyCache.uniform_of_orgs_empty rfl (by decide)
  have hnormal : normalize p.schemas [m, n, m] = ([m, n, m], .ok [known, new, known]) := by cbv
  have hsend : failed = send p b ⟨600⟩ [m, n, m] [known, new, known] s :=
    publishAt_of_normalize (by simp) hnormal
  have hfailed : failed.1.result = .error (.producer ⟨"queue is full"⟩) := by rw [hsend]; rfl
  obtain ⟨htrace, hretry⟩ :=
    failed_batch_leaves_no_trace p b ⟨600⟩ [m, n, m] hs hnormal hfailed
  have hanswers : answersOf b' 3 (batchRecords p ⟨600⟩ [m, n, m] [known, new, known] s) () =
      List.replicate 3 (.ok ()) := rfl
  obtain ⟨hrecords, hprefix⟩ := hretry b' () fun answer hmem =>
    List.eq_of_mem_replicate (hanswers ▸ hmem)
  refine ⟨hs, hfailed, (htrace known).mpr ⟨?_, ?_⟩, fun hnew => ?_, ?_, ?_, hprefix⟩
  · exact known_some.mpr ((KeyCache.knows_touch_iff hc).mpr (Or.inl rfl))
  · -- one bucket is not too far
    rintro _ - ⟨-, ⟨r, -, hfar⟩, -⟩
    have hbucket : (Bucket.ofTimestamp ⟨600⟩).toNat = 1 := by decide
    omega
  · obtain ⟨hbefore, -⟩ := (htrace new).mp hnew
    rcases (KeyCache.knows_touch_iff hc).mp (known_some.mp hbefore) with hslot | ⟨hold, -⟩
    · exact absurd hslot (by decide)
    · exact KeyCache.not_knows_of_orgs_empty rfl new hold
  · rw [hsend]; rfl
  · rw [hrecords]; rfl

end MetricGateway.Publish
