import Mathlib.Data.List.FinRange
import Mathlib.Data.List.Perm.Basic
import Mathlib.Data.Set.List
import MetricGateway.Proofs.Novelty.Order
import MetricGateway.Proofs.Publish.Attribution

/-!
# Batches in any order

A batch changes the cache and its list with every metric, and a later sample of a
series sees another cache than the first. What becomes of a sample is decided all
the same by the cache before the batch: a series that a touch would have found
there gets points only, and any other series gets full messages only. With one
slot per series no series can take the place of another on the way.

So each record is a function of its metric, and a batch in another order has the
same records in that order. It leaves the same cache too, since touches of one
time may change places.
-/

namespace MetricGateway.Publish

open Novelty (Bucket KeyCache maxShards slotOf_maxShards_inj touches)
open Routing (Broker Record)
open Wire (Point PointFormat)

variable {σ τ : Type}

/-! ## Samples -/

/-- What a metric of a batch becomes when it is resolved and its id is read. -/
def sample? (schemas : Storage.Schemas) (raw : Metric) : Option (Metric × MetricKey) :=
  (resolve schemas raw).key.toOption.map (resolve schemas raw, ·)

theorem sample?_eq_some_iff {schemas : Storage.Schemas} {raw : Metric}
    {sample : Metric × MetricKey} :
    sample? schemas raw = some sample ↔
      sample.1 = resolve schemas raw ∧ (resolve schemas raw).key = .ok sample.2 := by
  obtain ⟨m, key⟩ := sample
  rw [sample?]
  cases (resolve schemas raw).key with
  | error e => simp [Except.toOption]
  | ok key' =>
      simp only [Except.toOption, Option.map_some, Option.some.injEq, Prod.mk.injEq,
        Except.ok.injEq]
      exact and_congr_left' eq_comm

/-- A batch is normalized if every metric becomes a sample. -/
theorem normalize_of_samples {schemas : Storage.Schemas} {batch : List Metric}
    {samples : List (Metric × MetricKey)} (h : batch.map (sample? schemas) = samples.map some) :
    normalize schemas batch = (samples.map (·.1), .ok (samples.map (·.2))) := by
  induction batch generalizing samples with
  | nil =>
      obtain rfl := List.map_eq_nil_iff.mp h.symm
      rfl
  | cons raw rest ih =>
      obtain ⟨⟨m, key⟩, others, rfl, hsample, hrest⟩ := List.map_eq_cons_iff.mp h.symm
      obtain ⟨rfl, hkey⟩ := sample?_eq_some_iff.mp hsample.symm
      rw [normalize]
      dsimp only
      rw [hkey, ih hrest.symm]
      rfl

theorem exists_samples {schemas : Storage.Schemas} {batch metrics : List Metric}
    {keys : List MetricKey} (h : normalize schemas batch = (metrics, .ok keys)) :
    ∃ samples : List (Metric × MetricKey), batch.map (sample? schemas) = samples.map some
      ∧ metrics = samples.map (·.1) ∧ keys = samples.map (·.2) := by
  induction batch generalizing metrics keys with
  | nil => cases h; exact ⟨[], rfl, rfl, rfl⟩
  | cons raw rest ih =>
      obtain ⟨key, others, keys', hkey, hrest, rfl, rfl⟩ := normalize_cons_ok h
      obtain ⟨samples, hsamples, rfl, rfl⟩ := ih hrest
      have hsample : sample? schemas raw = some (resolve schemas raw, key) :=
        sample?_eq_some_iff.mpr ⟨rfl, hkey⟩
      exact ⟨(resolve schemas raw, key) :: samples,
        by rw [List.map_cons, List.map_cons, hsample, hsamples], rfl, rfl⟩

/-- Samples are the metrics of a batch, resolved, with the keys in their ids. -/
theorem samples_spec {schemas : Storage.Schemas} {batch : List Metric}
    {samples : List (Metric × MetricKey)} (h : batch.map (sample? schemas) = samples.map some) :
    samples.map (·.1) = batch.map (resolve schemas)
      ∧ (samples.map (·.1)).map Metric.key = (samples.map (·.2)).map .ok := by
  refine ⟨metrics_of_normalize (normalize_of_samples h), ?_⟩
  rw [List.map_map, List.map_map]
  refine List.map_congr_left fun sample hmem => ?_
  obtain ⟨raw, -, hsample⟩ := List.mem_map.mp (h ▸ List.mem_map_of_mem hmem)
  obtain ⟨hm, hkey⟩ := sample?_eq_some_iff.mp hsample
  exact (congrArg Metric.key hm).trans hkey

/-- A batch in another order becomes the same samples in that order. -/
theorem exists_samples_of_perm {schemas : Storage.Schemas} {batch others : List Metric}
    {samples : List (Metric × MetricKey)} (h : batch.map (sample? schemas) = samples.map some)
    (hperm : others.Perm batch) :
    ∃ samples' : List (Metric × MetricKey),
      others.map (sample? schemas) = samples'.map some ∧ samples'.Perm samples := by
  have hmapped : (others.map (sample? schemas)).Perm (samples.map some) :=
    h ▸ hperm.map (sample? schemas)
  obtain ⟨samples', hsamples'⟩ :
      others.map (sample? schemas) ∈ Set.range (List.map (some : Metric × MetricKey → _)) := by
    rw [Set.range_list_map]
    intro sample hmem
    obtain ⟨known, -, rfl⟩ := List.mem_map.mp (hmapped.mem_iff.mp hmem)
    exact ⟨known, rfl⟩
  refine ⟨samples', hsamples'.symm, ?_⟩
  rw [← hsamples'] at hmapped
  exact (List.map_perm_map_iff (Option.some_injective _)).mp hmapped

/-! ## What a sample becomes -/

/-- A series is known before a batch, and the batch does not leave it behind. -/
def Described (cache : Option KeyCache) (now : Timestamp) (keys : List MetricKey)
    (key : MetricKey) : Prop :=
  ∃ c, cache = some c ∧ c.Knows key ∧ ¬ LeavesBehind c now keys key

/-- The encoding of the samples of a series, seen from the cache before the batch. -/
def encodingFor (format : PointFormat) (now : Timestamp) (cache : Option KeyCache)
    (key : MetricKey) : Encoding :=
  match cache with
  | none => .full
  | some c => if c.Finds now key then .compact format else .full

/-- The record of a sample, seen from the cache before the batch. -/
def recordFor (p : Publisher) (now : Timestamp) (cache : Option KeyCache)
    (sample : Metric × MetricKey) : Record :=
  let encoding := encodingFor p.format now cache sample.2
  recordOf p sample.1 ⟨encoding.bufferKind, writeMessage encoding sample.1 sample.2 []⟩

/-- Of the series of a batch, a touch finds those that are described. -/
theorem finds_iff_not_leavesBehind {c : KeyCache} (hc : c.Uniform) (now : Timestamp)
    {keys : List MetricKey} {key : MetricKey} (hkey : key ∈ keys) :
    c.Finds now key ↔ c.Knows key ∧ ¬ LeavesBehind c now keys key := by
  rw [← not_leavesBehind_iff hc]
  constructor
  · exact fun hfinds => ⟨KeyCache.knows_of_finds hfinds, fun _ => hfinds⟩
  · rintro ⟨-, hfinds⟩
    exact hfinds ⟨key, hkey, rfl, rfl⟩

theorem encodingFor_eq_compact_iff {n : Nat} {cache : Option KeyCache} (h : Sharded n cache)
    (format : PointFormat) (now : Timestamp) {keys : List MetricKey} {key : MetricKey}
    (hkey : key ∈ keys) :
    encodingFor format now cache key = .compact format ↔ Described cache now keys key := by
  cases cache with
  | none => simp [encodingFor, Described]
  | some c =>
      have hfinds := finds_iff_not_leavesBehind (h c rfl).1 now hkey
      simp only [encodingFor, Described, Option.some.injEq, exists_eq_left', ← hfinds]
      split
      case isTrue hfound => exact iff_of_true rfl hfound
      case isFalse hnew => exact iff_of_false nofun hnew

theorem encodingFor_eq_full_or (format : PointFormat) (now : Timestamp) (cache : Option KeyCache)
    (key : MetricKey) :
    encodingFor format now cache key = .full
      ∨ encodingFor format now cache key = .compact format := by
  cases cache with
  | none => exact Or.inl rfl
  | some c =>
      rw [encodingFor]
      split
      · exact Or.inr rfl
      · exact Or.inl rfl

/-! ## What a batch becomes -/

/-- The cache of a publisher tells all series apart. -/
def AllApart (cache : Option KeyCache) : Prop := ∀ c, cache = some c → c.shardCount = maxShards

section Batch

variable {p : Publisher} {now : Timestamp} {batch metrics : List Metric} {keys : List MetricKey}
  {s : State σ} {n : Nat}

/-- The encoding that a batch chooses does not depend on what stands before it in the batch. -/
theorem encoding_encodeBatch (hsharded : Sharded n s.cache) (hapart : AllApart s.cache) {i : Nat}
    {m : Metric} {key : MetricKey} {encoding : Encoding} {message : Message}
    (hpair : (metrics.zip keys)[i]? = some (m, key))
    (hmessage : (encodeBatch p now metrics keys s).1[i]? = some (encoding, message)) :
    encoding = encodingFor p.format now s.cache key := by
  rw [encodeBatch] at hmessage
  cases hcache : s.cache with
  | none => exact encoding_of_cache_none hcache hmessage
  | some c =>
      obtain ⟨hc, -⟩ := hsharded c hcache
      obtain ⟨hpoint, hfull⟩ := encoding_encode (touched_start hcache rfl) hc hpair hmessage
      rw [encodingFor]
      split
      case isTrue hfinds => exact hpoint hfinds
      case isFalse hnew =>
        refine hfull hnew fun k _ hslot => ?_
        rw [hapart c hcache] at hslot
        exact (slotOf_maxShards_inj hslot).symm

theorem encodings_encodeBatch (hsharded : Sharded n s.cache) (hapart : AllApart s.cache) :
    (encodeBatch p now metrics keys s).1.map (·.1) =
      (metrics.zip keys).map fun sample => encodingFor p.format now s.cache sample.2 := by
  refine List.ext_getElem? fun i => ?_
  rw [List.getElem?_map, List.getElem?_map]
  have hlength : (encodeBatch p now metrics keys s).1.length = (metrics.zip keys).length :=
    length_encode ..
  cases hpair : (metrics.zip keys)[i]? with
  | none =>
      rw [List.getElem?_eq_none (by rw [hlength]; exact List.getElem?_eq_none_iff.mp hpair)]
      rfl
  | some sample =>
      obtain ⟨m, key⟩ := sample
      obtain ⟨hi, -⟩ := List.getElem?_eq_some_iff.mp hpair
      obtain ⟨⟨encoding, message⟩, hmessage⟩ :
          ∃ message, (encodeBatch p now metrics keys s).1[i]? = some message :=
        ⟨_, List.getElem?_eq_getElem (hlength ▸ hi)⟩
      rw [hmessage, Option.map_some, Option.map_some,
        encoding_encodeBatch hsharded hapart hpair hmessage]

/-- **Every record is a function of its metric**, given the cache before the batch. -/
theorem batchRecords_eq_map (hclean : s.pools.Clean) (hsharded : Sharded n s.cache)
    (hapart : AllApart s.cache) (hkeys : keys.length = metrics.length) :
    batchRecords p now metrics keys s = (metrics.zip keys).map (recordFor p now s.cache) := by
  refine List.ext_getElem? fun i => ?_
  rw [List.getElem?_map]
  cases hpair : (metrics.zip keys)[i]? with
  | none =>
      have hi := List.getElem?_eq_none_iff.mp hpair
      rw [List.length_zip, hkeys, Nat.min_self] at hi
      exact List.getElem?_eq_none (by rw [length_batchRecords p now s hkeys]; exact hi)
  | some sample =>
      obtain ⟨m, key⟩ := sample
      obtain ⟨hi, -⟩ := List.getElem?_eq_some_iff.mp hpair
      obtain ⟨hm, -⟩ := List.getElem?_zip_eq_some.mp hpair
      obtain ⟨⟨encoding, message⟩, hmessage⟩ :
          ∃ message, (encodeBatch p now metrics keys s).1[i]? = some message :=
        ⟨_, List.getElem?_eq_getElem (by rw [encodeBatch, length_encode]; exact hi)⟩
      obtain ⟨hpayload, -⟩ := written_encode (tracks_start hclean hsharded) hpair hmessage
      refine getElem?_batchRecords.mpr ⟨m, encoding, message, hm, hmessage, ?_⟩
      -- of the message, the record takes the bytes only
      rw [recordOf, hpayload, encoding_encodeBatch hsharded hapart hpair hmessage]
      rfl

/-- What a batch that succeeds leaves in the cache. -/
theorem cache_send_of_ok_eq_map {b : Broker σ} (hsharded : Sharded n s.cache)
    (hnormal : normalize p.schemas batch = (metrics, .ok keys))
    (hok : (send p b now metrics keys s).1.result = .ok ()) :
    (send p b now metrics keys s).2.cache = s.cache.map (·.run (touches now keys)) := by
  rw [cache_send_of_ok hok]
  cases hcache : s.cache with
  | none => exact cache_encode_of_none _ _ _ hcache
  | some c => exact (touched_encodeBatch hnormal hcache (hsharded c hcache).1 now).cache

end Batch

/-! ## Counters -/

/-- How many messages of an encoding are reported as published. -/
def publishedCount (encoding : Encoding) (events : List Event) : Nat :=
  (events.map fun
    | .publishedAs other count => if other = encoding then count else 0
    | _ => 0).sum

theorem publishedCount_append (encoding : Encoding) (events others : List Event) :
    publishedCount encoding (events ++ others) =
      publishedCount encoding events + publishedCount encoding others := by
  rw [publishedCount, List.map_append, List.sum_append]; rfl

theorem publishedCount_sizes (encoding : Encoding) (submission : Submission) :
    publishedCount encoding submission.sizes = 0 := by
  rw [publishedCount, Submission.sizes, List.map_map]
  exact List.sum_eq_zero fun count hmem => by
    obtain ⟨r, -, rfl⟩ := List.mem_map.mp hmem; rfl

/-- There is one counter per encoding. -/
theorem publishedCount_publishedEvents (encoding : Encoding) (encodings : List Encoding) :
    publishedCount encoding (publishedEvents encodings) = encodings.count encoding := by
  rcases encoding with - | ⟨- | -⟩ <;>
    simp [publishedCount, publishedEvents, countOf]

/-! ## Batches that succeed -/

/-- A broker takes whatever records a publisher has, and reports that all of them were delivered. -/
def Accepting (p : Publisher) (b : Broker τ) (broker : τ) : Prop :=
  ∀ records, (∀ answer ∈ answersOf b records.length records broker, answer = .ok ())
    ∧ (reportsOf p b records.length records broker).received =
      List.replicate records.length .delivered

/-- A broker that takes every record is accepting if it reports them all. -/
theorem accepting_of_produce {p : Publisher} {b : Broker τ} {broker : τ}
    (hproduce : ∀ r broker, (b.produce r broker).1 = .ok ())
    (hclose : ∀ records,
      (b.closeBatch p.ackTimeout (b.feed records (b.openBatch records.length broker))).1.received =
        List.replicate records.length .delivered) : Accepting p b broker := by
  have hanswers : ∀ (records : List Record) (broker : τ),
      ∀ answer ∈ b.answers records broker, answer = .ok () := by
    intro records
    induction records with
    | nil => intro broker answer hmem; cases hmem
    | cons r rest ih =>
        intro broker answer hmem
        rcases List.mem_cons.mp hmem with rfl | hrest
        · exact hproduce r broker
        · exact ih _ answer hrest
  intro records
  have hall : ∀ answer ∈ answersOf b records.length records broker, answer = .ok () :=
    hanswers records _
  refine ⟨hall, ?_⟩
  rw [reportsOf, acceptedCount_of_forall_ok hall, length_answersOf,
    List.take_of_length_le (Nat.le_succ _), hclose]

/-- What a batch that succeeds comes to, given the cache before it and its samples. -/
structure Accomplished (p : Publisher) (now : Timestamp) (cache : Option KeyCache)
    (samples : List (Metric × MetricKey)) (o : Outcome) (after : Option KeyCache) : Prop where
  metrics : o.metrics = samples.map (·.1)
  records : o.submission.records = samples.map (recordFor p now cache)
  counted : ∀ encoding, publishedCount encoding o.events =
    (samples.map fun sample => encodingFor p.format now cache sample.2).count encoding
  cache : after = cache.map (·.run (touches now (samples.map (·.2))))

section Success

variable {p : Publisher} {b : Broker σ} {now : Timestamp} {batch : List Metric} {s : State σ}
  {n : Nat} {samples : List (Metric × MetricKey)}

/-- A batch that succeeds has had all its records taken. -/
theorem records_send_of_ok {metrics : List Metric} {keys : List MetricKey}
    (hok : (send p b now metrics keys s).1.result = .ok ()) :
    (send p b now metrics keys s).1.submission.records = batchRecords p now metrics keys s := by
  obtain ⟨hall, -⟩ := (settlement_send p b now metrics keys s).ok_iff.mp hok
  rw [records_send, hall, List.take_of_length_le (Nat.le_succ _)]

/-- A batch that succeeds has its messages counted. -/
theorem events_send_of_ok {metrics : List Metric} {keys : List MetricKey}
    (hok : (send p b now metrics keys s).1.result = .ok ()) :
    (send p b now metrics keys s).1.events =
      (send p b now metrics keys s).1.submission.sizes
        ++ publishedEvents ((encodeBatch p now metrics keys s).1.map (·.1)) := by
  have herrors : (exchange p b metrics.length (batchRecords p now metrics keys s) s.broker).1.errors
      = [] := resultOf_eq_ok_iff.mp hok
  show _ ++ closingEvents _
    (exchange p b metrics.length (batchRecords p now metrics keys s) s.broker).1.errors = _
  rw [herrors]
  rfl

theorem accomplished_send (hclean : s.pools.Clean) (hsharded : Sharded n s.cache)
    (hapart : AllApart s.cache)
    (hnormal : normalize p.schemas batch = (samples.map (·.1), .ok (samples.map (·.2))))
    (hok : (send p b now (samples.map (·.1)) (samples.map (·.2)) s).1.result = .ok ()) :
    Accomplished p now s.cache samples
      (send p b now (samples.map (·.1)) (samples.map (·.2)) s).1
      (send p b now (samples.map (·.1)) (samples.map (·.2)) s).2.cache := by
  have hzip : (samples.map (·.1)).zip (samples.map (·.2)) = samples := by
    rw [List.zip_map', List.map_id']
  refine ⟨rfl, ?_, fun encoding => ?_, cache_send_of_ok_eq_map hsharded hnormal hok⟩
  · rw [records_send_of_ok hok, batchRecords_eq_map hclean hsharded hapart (by simp), hzip]
  · rw [events_send_of_ok hok, publishedCount_append, publishedCount_sizes, publishedCount_publishedEvents,
      encodings_encodeBatch hsharded hapart, hzip, Nat.zero_add]

/-- Only a batch whose ids can be read succeeds. -/
theorem exists_samples_of_ok (hok : (publishAt p b now batch s).1.result = .ok ()) :
    ∃ samples : List (Metric × MetricKey), batch.map (sample? p.schemas) = samples.map some := by
  rcases hnormal : normalize p.schemas batch with ⟨metrics, result⟩
  cases result with
  | error e =>
      rw [publishAt_of_invalid b now s hnormal] at hok
      cases hok
  | ok keys =>
      obtain ⟨samples, hsamples, -⟩ := exists_samples hnormal
      exact ⟨samples, hsamples⟩

/-- **What a batch that succeeds comes to** is decided by its samples and by the cache before it. -/
theorem accomplished_of_ok (hclean : s.pools.Clean) (hsharded : Sharded n s.cache)
    (hapart : AllApart s.cache) (hsamples : batch.map (sample? p.schemas) = samples.map some)
    (hok : (publishAt p b now batch s).1.result = .ok ()) :
    Accomplished p now s.cache samples (publishAt p b now batch s).1
      (publishAt p b now batch s).2.cache := by
  by_cases hbatch : batch = []
  · subst hbatch
    obtain rfl := List.map_eq_nil_iff.mp hsamples.symm
    refine ⟨rfl, rfl, fun encoding => rfl, ?_⟩
    cases hcache : s.cache with
    | none => exact hcache
    | some c => exact hcache
  · have hnormal := normalize_of_samples hsamples
    rw [publishAt_of_normalize hbatch hnormal] at hok ⊢
    exact accomplished_send hclean hsharded hapart hnormal hok

/-- A batch whose ids can be read succeeds with an accepting broker. -/
theorem publishAt_ok_of_accepting (haccepts : Accepting p b s.broker)
    (hsamples : batch.map (sample? p.schemas) = samples.map some) :
    (publishAt p b now batch s).1.result = .ok () := by
  by_cases hbatch : batch = []
  · subst hbatch; rfl
  · rw [publishAt_of_normalize hbatch (normalize_of_samples hsamples)]
    have hlength : (batchRecords p now (samples.map (·.1)) (samples.map (·.2)) s).length =
        (samples.map (·.1)).length := length_batchRecords p now s (by simp)
    obtain ⟨hanswers, hreports⟩ := haccepts
      (batchRecords p now (samples.map (·.1)) (samples.map (·.2)) s)
    rw [hlength] at hanswers hreports
    refine (settlement_send p b now _ _ s).ok_iff.mpr ⟨?_, ?_, fun report hmem => ?_⟩
    · rw [acceptedCount_of_forall_ok hanswers, length_answersOf]
    · rw [hreports, List.length_replicate, hlength]
    · rw [hreports] at hmem
      exact List.eq_of_mem_replicate (List.mem_of_mem_take hmem)

end Success

/-- The record of a sample: a point if its series is described before the batch, and else the full
message, routed by the metric alone. -/
structure IsRecordOf (p : Publisher) (now : Timestamp) (cache : Option KeyCache)
    (keys : List MetricKey) (m : Metric) (key : MetricKey) (r : Record) : Prop where
  topic : r.topic = p.topic
  routed : (r.partition, r.key) = p.partitioner.partition m
  point : Described cache now keys key → ∃ time : UInt32, (time.toNat : Int) = m.time.toInt % 2 ^ 32
    ∧ r.payload = Point.encode p.format ⟨key, m.value, time⟩
  full : ¬ Described cache now keys key → r.payload = Wire.encodeFull m

theorem isRecordOf_recordFor {n : Nat} {cache : Option KeyCache} (h : Sharded n cache)
    (p : Publisher) (now : Timestamp) {keys : List MetricKey} (m : Metric) {key : MetricKey}
    (hkey : key ∈ keys) : IsRecordOf p now cache keys m key (recordFor p now cache (m, key)) where
  topic := rfl
  routed := rfl
  point := by
    intro hdescribed
    have hchosen := (encodingFor_eq_compact_iff h p.format now hkey).mpr hdescribed
    refine ⟨m.shortTime, toNat_shortTime m, ?_⟩
    rw [recordFor]
    dsimp only
    rw [hchosen]
    rfl
  full := by
    intro hnew
    rcases encodingFor_eq_full_or p.format now cache key with hchosen | hpoint
    · rw [recordFor]
      dsimp only
      rw [hchosen]
      rfl
    · exact absurd ((encodingFor_eq_compact_iff h p.format now hkey).mp hpoint) hnew

/-- A record shows the encoding that was chosen for its series. -/
theorem detect_recordFor (p : Publisher) (now : Timestamp) (cache : Option KeyCache)
    (sample : Metric × MetricKey) :
    PointFormat.detect (recordFor p now cache sample).payload =
      (encodingFor p.format now cache sample.2).format? :=
  detect_writeMessage ..

theorem format?_injective : Function.Injective Encoding.format? := by
  intro encoding other h
  cases encoding <;> cases other <;> cases h <;> rfl

/-- **One record per metric, in an encoding that does not depend on the order of the batch.**

Take any batch that succeeds, in any state of a publisher whose cache has 256 shards, if it has one.
There is one record per metric, and what it is follows from the metric and from the cache before the
batch: a point if the series was known and no touch of the batch leaves it behind, and else the full
message. Samples of one series are encoded alike, and what is counted for each encoding are the
payloads that show it.

Publish the same metrics in another order to a broker that accepts them. The records are the same in
that order, and the cache is left the same. -/
theorem records_in_any_order (p : Publisher) (b : Broker σ) (now : Timestamp) (batch : List Metric)
    {s : State σ} (hs : Reachable p s) (hshards : ∀ c, s.cache = some c → c.shardCount = 256)
    (hok : (publishAt p b now batch s).1.result = .ok ()) :
    let first := publishAt p b now batch s
    let records := first.1.submission.records
    first.1.metrics = batch.map (resolve p.schemas)
      ∧ records.length = batch.length
      ∧ (∃ keys : List MetricKey, first.1.metrics.map Metric.key = keys.map .ok
        ∧ (∀ (i : Nat) m key r, first.1.metrics[i]? = some m → keys[i]? = some key →
            records[i]? = some r → IsRecordOf p now s.cache keys m key r)
        ∧ ∀ (i j : Nat) r r', keys[i]? = keys[j]? → records[i]? = some r → records[j]? = some r' →
            PointFormat.detect r.payload = PointFormat.detect r'.payload)
      ∧ (∀ encoding, publishedCount encoding first.1.events =
          records.countP fun r => PointFormat.detect r.payload = encoding.format?)
      ∧ ∀ (π : Equiv.Perm (Fin batch.length)) (b' : Broker τ) (broker : τ), Accepting p b' broker →
          let second := publishAt p b' now (List.ofFn fun i => batch[π i]) ⟨s.cache, s.pools, broker⟩
          second.1.result = .ok ()
            ∧ second.1.submission.records.length = batch.length
            ∧ (∀ i : Fin batch.length,
                second.1.submission.records[i.val]? = records[(π i).val]?)
            ∧ second.2.cache = first.2.cache := by
  intro first records
  obtain ⟨hclean, n, hsharded⟩ := hs.sound
  obtain ⟨samples, hsamples⟩ := exists_samples_of_ok hok
  obtain ⟨hresolved, hkeys⟩ := samples_spec hsamples
  obtain ⟨hmetrics, hrecords, hcounted, hcache⟩ :=
    accomplished_of_ok hclean hsharded hshards hsamples hok
  have hplace : ∀ i : Nat, records[i]? = samples[i]?.map (recordFor p now s.cache) := fun i => by
    rw [show records = _ from hrecords, List.getElem?_map]
  refine ⟨hmetrics.trans hresolved, ?_, ⟨samples.map (·.2), by rw [hmetrics, hkeys], ?_, ?_⟩,
    fun encoding => ?_, fun π b' broker haccepts => ?_⟩
  · have hlength := congrArg List.length hresolved
    rw [show records = _ from hrecords, List.length_map]
    rwa [List.length_map, List.length_map] at hlength
  · intro i m key r hm hkey hr
    rw [hmetrics, List.getElem?_map] at hm
    rw [List.getElem?_map] at hkey
    rw [hplace] at hr
    obtain ⟨sample, hsample, rfl⟩ := Option.map_eq_some_iff.mp hm
    rw [hsample] at hkey hr
    cases hkey
    cases hr
    exact isRecordOf_recordFor hsharded p now _
      (List.mem_map_of_mem (List.mem_of_getElem? hsample))
  · intro i j r r' hij hr hr'
    rw [hplace] at hr hr'
    obtain ⟨sample, hsample, rfl⟩ := Option.map_eq_some_iff.mp hr
    obtain ⟨sample', hsample', rfl⟩ := Option.map_eq_some_iff.mp hr'
    rw [List.getElem?_map, List.getElem?_map, hsample, hsample'] at hij
    have hkey : sample.2 = sample'.2 := Option.some.inj hij
    rw [detect_recordFor, detect_recordFor, hkey]
  · rw [hcounted, show records = _ from hrecords, List.countP_map, List.count, List.countP_map]
    refine List.countP_congr fun sample _ => ?_
    simp only [Function.comp_apply, detect_recordFor, beq_iff_eq, decide_eq_true_eq]
    exact format?_injective.eq_iff.symm
  · intro second
    have hperm : (List.ofFn fun i => batch[π i]).Perm batch := by
      have hshuffled := Equiv.Perm.ofFn_comp_perm π batch.get
      rwa [List.ofFn_get] at hshuffled
    -- the same samples come in another order
    obtain ⟨samples', hsamples', hperm'⟩ := exists_samples_of_perm hsamples hperm
    have hok' : second.1.result = .ok () := publishAt_ok_of_accepting haccepts hsamples'
    obtain ⟨-, hrecords', -, hcache'⟩ :=
      accomplished_of_ok (s := ⟨s.cache, s.pools, broker⟩) hclean hsharded hshards hsamples' hok'
    refine ⟨hok', ?_, fun i => ?_, ?_⟩
    · rw [hrecords', List.length_map, hperm'.length_eq, ← List.length_map (f := some), ← hsamples,
        List.length_map]
    · have hsample : samples'[i.val]? = samples[(π i).val]? := by
        refine Option.map_injective (Option.some_injective _) ?_
        rw [← List.getElem?_map, ← List.getElem?_map, ← hsamples', ← hsamples, List.getElem?_map,
          List.getElem?_map]
        simp
      rw [hplace, hrecords', List.getElem?_map, hsample]
    · rw [hcache', show first.2.cache = _ from hcache]
      cases s.cache with
      | none => rfl
      | some c =>
          exact congrArg some
            (KeyCache.run_touches_perm c now (hperm'.map (·.2)))

/-- A batch has two samples of a new series and between them one of a known series. Two messages are
full and one is a point. With the first two metrics in the other order the point comes first. -/
theorem records_in_any_order_of_swap :
    let known : MetricKey := ⟨⟨1⟩, ⟨.ofFn fun i => i.toNat.toUInt8⟩⟩
    let m : Metric := { id := "1.000102030405060708090a0b0c0d0e0f", org := ⟨1⟩, interval := 10 }
    let n : Metric := { id := "1.01010101010101010101010101010101", org := ⟨1⟩, interval := 10 }
    let p : Publisher :=
      { partitioner := ⟨.byOrg, 1, by decide⟩
        schemas := ⟨[], ⟨"default", default, ⟨60, 3600, by decide, by decide⟩, []⟩⟩ }
    let b : Broker Nat :=
      { openBatch := fun _ _ => 0
        produce := fun _ k => (.ok (), k + 1)
        closeBatch := fun _ k => (⟨.replicate k .delivered, .disconnected⟩, k) }
    let c : KeyCache := ⟨.clamp 36, .ofSeconds 3600, 256, ∅⟩
    let s : State Nat := ⟨some (c.touch known ⟨0⟩).2, .ofMaxIdle 8, 0⟩
    let first := publishAt p b ⟨600⟩ [n, m, n] s
    let second := publishAt p b ⟨600⟩ [m, n, n] s
    first.1.result = .ok ()
      ∧ publishedCount .full first.1.events = 2
      ∧ publishedCount (.compact .withOrg) first.1.events = 1
      ∧ (∃ r, first.1.submission.records[1]? = some r
        ∧ r.payload = Point.encode .withOrg ⟨known, .zero, 0⟩)
      ∧ second.1.submission.records[0]? = first.1.submission.records[1]?
      ∧ second.1.submission.records[1]? = first.1.submission.records[0]?
      ∧ second.2.cache = first.2.cache := by
  intro known m n p b c s first second
  let new : MetricKey := ⟨⟨1⟩, ⟨.replicate 16 1⟩⟩
  have hconfig : KeyCache.ofConfig {} = .ok c := by cbv
  have hs : Reachable p s := .call (.touch known ⟨0⟩) (.start hconfig 8 0)
  have hnormal : normalize p.schemas [n, m, n] = ([n, m, n], .ok [new, known, new]) := by cbv
  have hsend : first = send p b ⟨600⟩ [n, m, n] [new, known, new] s :=
    publishAt_of_normalize (by simp) hnormal
  have hok : first.1.result = .ok () := by rw [hsend]; rfl
  have hfeed : ∀ (records : List Record) (k : Nat), b.feed records k = k + records.length := by
    intro records
    induction records with
    | nil => exact fun k => rfl
    | cons r rest ih => exact fun k => (ih (k + 1)).trans (Nat.add_right_comm k 1 _)
  have haccepts : Accepting p b s.broker :=
    accepting_of_produce (fun _ _ => rfl) fun records => by
      rw [hfeed, Nat.zero_add]
  obtain ⟨hmetrics, hlength, ⟨keys, hkeys, hrecord, -⟩, hcounted, horder⟩ :=
    records_in_any_order p b ⟨600⟩ [n, m, n] hs (by rintro _ ⟨⟩; rfl) hok
  obtain ⟨-, -, hplaces, hcache⟩ := horder (Equiv.swap 0 1) b 0 haccepts
  -- one of the series is known, and ten minutes are not too far
  have hc : c.Uniform := KeyCache.uniform_of_orgs_empty rfl (by decide)
  have hknown : Described s.cache ⟨600⟩ keys known := by
    refine ⟨_, rfl, (KeyCache.knows_touch_iff hc).mpr (Or.inl rfl), ?_⟩
    rintro ⟨-, ⟨r, -, hfar⟩, -⟩
    have hbucket : (Bucket.ofTimestamp ⟨600⟩).toNat = 1 := by decide
    omega
  have hnew : ¬ Described s.cache ⟨600⟩ keys new := by
    rintro ⟨_, ⟨⟩, hknows, -⟩
    rcases (KeyCache.knows_touch_iff hc).mp hknows with hslot | ⟨hold, -⟩
    · exact absurd hslot (by decide)
    · exact KeyCache.not_knows_of_orgs_empty rfl new hold
  have hbatch : first.1.metrics = [n, m, n] := by rw [hsend]; rfl
  obtain rfl : keys = [new, known, new] := by
    have hread : [n, m, n].map Metric.key = [new, known, new].map .ok := by cbv
    rw [hbatch, hread] at hkeys
    exact (List.map_injective_iff.mpr (fun _ _ => Except.ok.inj) hkeys).symm
  obtain ⟨r₀, r₁, r₂, hrecords⟩ := List.length_eq_three.mp hlength
  rw [hrecords, hbatch] at hrecord
  have h₀ := (hrecord 0 n new r₀ rfl rfl rfl).full hnew
  have h₂ := (hrecord 2 n new r₂ rfl rfl rfl).full hnew
  obtain ⟨time, htime, h₁⟩ := (hrecord 1 m known r₁ rfl rfl rfl).point hknown
  obtain rfl : time = 0 := UInt32.toNat_inj.mp (Int.ofNat_inj.mp htime)
  have hshown : PointFormat.detect r₀.payload = none
      ∧ PointFormat.detect r₁.payload = some .withOrg
      ∧ PointFormat.detect r₂.payload = none := by
    rw [h₀, h₁, h₂, detect_encodeFull, Point.detect_encode]
    exact ⟨rfl, rfl, rfl⟩
  refine ⟨hok, ?_, ?_, ⟨r₁, by rw [hrecords]; rfl, h₁⟩, hplaces 0, hplaces 1, hcache⟩
  · rw [hcounted, hrecords]
    simp [Encoding.format?, hshown]
  · rw [hcounted, hrecords]
    simp [Encoding.format?, hshown]

end MetricGateway.Publish
