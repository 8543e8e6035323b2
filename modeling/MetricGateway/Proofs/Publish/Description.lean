import Mathlib
import MetricGateway.Proofs.Publish.Encoding
import MetricGateway.Proofs.Publish.Settlement

/-!
# No point without a description

A compact point says nothing about its series but the key, so whoever reads it
must have been told the rest before. A publisher sends points for the series that
its cache knows, and the cache is told of a series when a message is *encoded*,
long before anyone knows whether it will be delivered.

What makes this safe is a property of every state between two batches:

> Each series that the cache knows has been described in full by a batch that
> succeeded.

A batch that succeeds has described whatever it has added. A batch that fails
forgets what it has added, wherever it has failed. Prunes and forgets only take
away. With a shard for each leading byte, the series that is known is the series
that was described.
-/

namespace MetricGateway.Publish

open Novelty (CacheConfig KeyCache maxShards slotOf slotOf_maxShards_inj)
open Routing (Broker DeliveryReport Record)
open Wire (PointFormat)

variable {σ : Type}

/-! ## What a batch has sent -/

namespace Outcome

/-- At a place of the batch a compact point of a series was submitted. Consumers know it by its
first byte. -/
def PointAt (o : Outcome) (key : MetricKey) (i : Nat) : Prop :=
  ∃ m r, o.Sent key i m r ∧ (PointFormat.detect r.payload).isSome

/-- At a place of the batch the full message of a metric of a series was submitted. -/
def DescribedAt (o : Outcome) (key : MetricKey) (i : Nat) : Prop :=
  ∃ m r, o.Sent key i m r ∧ r.payload = Wire.encodeFull m

/-- The batch has succeeded, and has described a series. -/
def Describes (o : Outcome) (key : MetricKey) : Prop :=
  o.result = .ok () ∧ ∃ i, o.DescribedAt key i

/-- The broker reports once on every record that it has taken. The list says what became of these
records, in their order; the reports arrive in an order of their own, and those that were received
have arrived first. -/
def ReportedOnce (o : Outcome) (fates : List DeliveryReport) : Prop :=
  fates.length = o.submission.accepted.length
    ∧ ∃ arrivals : List DeliveryReport, arrivals.Perm fates ∧ o.received <+: arrivals

end Outcome

/-! ## One batch -/

section Send

variable {p : Publisher} {b : Broker σ} {now : Timestamp} {batch metrics : List Metric}
  {keys : List MetricKey} {s : State σ} {n : Nat}

/-- All messages of a batch that succeeds are sent. -/
theorem send_sent (hnormal : normalize p.schemas batch = (metrics, .ok keys))
    (hok : (send p b now metrics keys s).1.result = .ok ()) {key : MetricKey} {i : Nat} {m : Metric}
    {encoding : Encoding} {message : Message} (hpair : (metrics.zip keys)[i]? = some (m, key))
    (hmessage : (encodeBatch p now metrics keys s).1[i]? = some (encoding, message)) :
    (send p b now metrics keys s).1.Sent key i m (recordOf p m message) := by
  obtain ⟨hm, hkey⟩ := List.getElem?_zip_eq_some.mp hpair
  have hsettled := settlement_send p b now metrics keys s
  obtain ⟨hall, -⟩ := hsettled.ok_iff.mp hok
  refine ⟨hm, (key_of_normalize hnormal hm).mp hkey, ?_⟩
  rw [hsettled.submitted, List.take_of_length_le (by omega)]
  exact getElem?_batchRecords.mpr ⟨m, encoding, message, hm, hmessage, rfl⟩

/-- Encoding a batch is tracked from its start. -/
theorem tracks_start (hclean : s.pools.Clean) (hsharded : Sharded n s.cache) :
    Tracks n s.cache { cache := s.cache, pools := s.pools } :=
  ⟨hclean, hsharded, fun _ => Or.inl⟩

/-- **A batch sends points for series only that were known before**, or that share the slot of
another. -/
theorem known_of_pointAt (hclean : s.pools.Clean) (hsharded : Sharded n s.cache)
    (hnormal : normalize p.schemas batch = (metrics, .ok keys)) {key : MetricKey} {i : Nat}
    (h : (send p b now metrics keys s).1.PointAt key i) :
    Known s.cache key ∨ ∃ k, k ≠ key ∧ slotOf n key = slotOf n k := by
  obtain ⟨m, r, hsent, hpoint⟩ := h
  obtain ⟨encoding, message, hpair, hmessage, rfl⟩ := sent_send hnormal hsent
  obtain ⟨hwritten, hencoding⟩ := written_encode (tracks_start hclean hsharded) hpair hmessage
  rcases hencoding with rfl | ⟨-, hknown⟩
  · have hpayload : (recordOf p m message).payload = message.payload := rfl
    rw [hpayload, hwritten, detect_writeMessage] at hpoint
    cases hpoint
  · exact hknown

/-- A batch that succeeds keeps what encoding it has made of the cache. -/
theorem cache_send_of_ok (h : (send p b now metrics keys s).1.result = .ok ()) :
    (send p b now metrics keys s).2.cache = (encodeBatch p now metrics keys s).2.cache :=
  if_pos (List.isEmpty_iff.mpr (resultOf_eq_ok_iff.mp h))

/-- A batch that fails takes back what it was the first to describe. -/
theorem cache_send_of_failed (h : (send p b now metrics keys s).1.result ≠ .ok ()) :
    (send p b now metrics keys s).2.cache =
      forgetAll (encodeBatch p now metrics keys s).2.cache
        (encodeBatch p now metrics keys s).2.described :=
  if_neg fun hempty => h (resultOf_eq_ok_iff.mpr (List.isEmpty_iff.mp hempty))

theorem clean_send (hclean : s.pools.Clean) (hsharded : Sharded n s.cache) :
    (send p b now metrics keys s).2.pools.Clean :=
  BufferPools.clean_releaseAll (tracks_encode (tracks_start hclean hsharded) ..).clean _

theorem sharded_send (hclean : s.pools.Clean) (hsharded : Sharded n s.cache) :
    Sharded n (send p b now metrics keys s).2.cache := by
  have htracks : Sharded n (encodeBatch p now metrics keys s).2.cache :=
    (tracks_encode (tracks_start hclean hsharded) ..).sharded
  by_cases hok : (send p b now metrics keys s).1.result = .ok ()
  · rw [cache_send_of_ok hok]; exact htracks
  · rw [cache_send_of_failed hok]; exact (forgetAll_spec htracks _).1

/-- **What a batch adds to the cache, it has described.** Series that are known afterwards were
known before, or the batch has succeeded and described one with the same slot. -/
theorem described_of_known_send (hclean : s.pools.Clean) (hsharded : Sharded n s.cache)
    (hnormal : normalize p.schemas batch = (metrics, .ok keys)) {key : MetricKey}
    (h : Known (send p b now metrics keys s).2.cache key) :
    Known s.cache key
      ∨ ∃ k, slotOf n key = slotOf n k ∧ (send p b now metrics keys s).1.Describes k := by
  have hstart := tracks_start hclean hsharded
  have htracks : Tracks n s.cache (encodeBatch p now metrics keys s).2 := tracks_encode hstart ..
  by_cases hok : (send p b now metrics keys s).1.result = .ok ()
  · -- what is new is on the list, and was written in full
    rw [cache_send_of_ok hok] at h
    rcases htracks.known key h with hknown | ⟨k, hk, hslot⟩
    · exact Or.inl hknown
    · refine Or.inr ⟨k, hslot, hok, ?_⟩
      rcases described_encode hstart hk with hnone | ⟨i, m, message, hpair, hmessage⟩
      · cases hnone
      · obtain ⟨hwritten, -⟩ := written_encode hstart hpair hmessage
        exact ⟨i, m, _, send_sent hnormal hok hpair hmessage, hwritten⟩
  · -- what is on the list is forgotten, and nothing else has been added
    rw [cache_send_of_failed hok] at h
    obtain ⟨hknown, hforgotten⟩ := ((forgetAll_spec htracks.sharded _).2 key).mp h
    rcases htracks.known key hknown with hbefore | ⟨k, hk, hslot⟩
    · exact Or.inl hbefore
    · exact absurd hslot (hforgotten k hk)

end Send

/-! ## Many batches -/

/-- What is done to a publisher and to its cache. -/
inductive Action where
  | publish (now : Timestamp) (batch : List Metric)
  | prune (now : Timestamp)
  | forget (key : MetricKey)
  deriving DecidableEq, Repr

/-- What an action changes. -/
def State.act (p : Publisher) (b : Broker σ) (s : State σ) : Action → State σ
  | .publish now batch => (publishAt p b now batch s).2
  | .prune now => { s with cache := s.cache.map fun c => (c.prune now).2 }
  | .forget key => { s with cache := s.cache.map fun c => (c.forget key).2 }

/-- What comes of the batches among a sequence of actions. -/
def outcomes (p : Publisher) (b : Broker σ) : List Action → State σ → List Outcome
  | [], _ => []
  | .publish now batch :: rest, s =>
    (publishAt p b now batch s).1 :: outcomes p b rest (publishAt p b now batch s).2
  | action :: rest, s => outcomes p b rest (s.act p b action)

/-- All that a publisher knows has been described by a batch of its history that has succeeded. -/
structure Grounded (history : List Outcome) (s : State σ) : Prop where
  clean : s.pools.Clean
  sharded : Sharded maxShards s.cache
  described : ∀ key, Known s.cache key → ∃ first ∈ history, first.Describes key

/-- A publisher starts without knowledge. -/
theorem grounded_start {c : KeyCache} (horgs : c.orgs = ∅) (hcount : c.shardCount = maxShards)
    (maxIdle : Nat) (broker : σ) : Grounded [] ⟨some c, .ofMaxIdle maxIdle, broker⟩ where
  clean := BufferPools.clean_ofMaxIdle maxIdle
  sharded := by
    rintro _ ⟨⟩
    exact ⟨KeyCache.uniform_of_orgs_empty horgs (by rw [hcount]; decide), hcount⟩
  described key h := absurd (known_some.mp h) (KeyCache.not_knows_of_orgs_empty horgs key)

section Steps

variable {p : Publisher} {b : Broker σ} {history : List Outcome} {s : State σ}

/-- Taking sightings away leaves what is known grounded. -/
theorem Grounded.weaken {cache : Option KeyCache} (h : Grounded history s)
    (hsharded : Sharded maxShards cache) (hknown : ∀ key, Known cache key → Known s.cache key) :
    Grounded history { s with cache } :=
  ⟨h.clean, hsharded, fun key hkey => h.described key (hknown key hkey)⟩

theorem grounded_prune (h : Grounded history s) (now : Timestamp) :
    Grounded history (s.act p b (.prune now)) := by
  refine h.weaken ?_ ?_
  · intro _ hc
    obtain ⟨c, hcache, rfl⟩ := Option.map_eq_some_iff.mp hc
    obtain ⟨huniform, hcount⟩ := h.sharded c hcache
    exact ⟨KeyCache.uniform_prune huniform now, hcount⟩
  · rintro key ⟨_, hc, hkey⟩
    obtain ⟨c, hcache, rfl⟩ := Option.map_eq_some_iff.mp hc
    exact ⟨c, hcache, KeyCache.knows_of_knows_prune (h.sharded c hcache).1 hkey⟩

theorem grounded_forget (h : Grounded history s) (key : MetricKey) :
    Grounded history (s.act p b (.forget key)) := by
  refine h.weaken ?_ ?_
  · exact (forgetAll_spec h.sharded [key]).1
  · intro other hother
    exact (((forgetAll_spec h.sharded [key]).2 other).mp hother).1

/-- **A batch sends points only for series that its history has described.** -/
theorem describes_of_pointAt (h : Grounded history s) {now : Timestamp} {batch : List Metric}
    {key : MetricKey} {i : Nat} (hpoint : (publishAt p b now batch s).1.PointAt key i) :
    ∃ first ∈ history, first.Describes key := by
  have ⟨_, _, hsent, _⟩ := hpoint
  obtain ⟨metrics, keys, hnormal, heq⟩ := exists_send_of_sent hsent
  rw [heq] at hpoint
  rcases known_of_pointAt h.clean h.sharded hnormal hpoint with hknown | ⟨k, hne, hslot⟩
  · exact h.described key hknown
  · exact absurd (slotOf_maxShards_inj hslot).symm hne

/-- **A batch leaves what is known grounded**, in the history with its own outcome. -/
theorem grounded_publish (h : Grounded history s) (now : Timestamp) (batch : List Metric) :
    Grounded (history ++ [(publishAt p b now batch s).1]) (publishAt p b now batch s).2 := by
  have hold : ∀ key, Known s.cache key →
      ∃ first ∈ history ++ [(publishAt p b now batch s).1], first.Describes key := by
    intro key hkey
    obtain ⟨first, hmem, hfirst⟩ := h.described key hkey
    exact ⟨first, List.mem_append_left _ hmem, hfirst⟩
  rcases publishAt_cases p b now batch s with ⟨_, _, heq⟩ | ⟨metrics, keys, hnormal, heq⟩
  · rw [heq] at hold ⊢
    exact ⟨h.clean, h.sharded, hold⟩
  · rw [heq] at hold ⊢
    refine ⟨clean_send h.clean h.sharded, sharded_send h.clean h.sharded, fun key hkey => ?_⟩
    rcases described_of_known_send h.clean h.sharded hnormal hkey with hknown | ⟨k, hslot, hdes⟩
    · exact hold key hknown
    · rw [slotOf_maxShards_inj hslot]
      exact ⟨_, List.mem_append_right _ (List.mem_singleton_self _), hdes⟩

/-- **Every point is preceded by a description.** -/
theorem describes_before_point (h : Grounded history s) {actions : List Action} {j : Nat}
    {o : Outcome} (ho : (outcomes p b actions s)[j]? = some o) {key : MetricKey} {i : Nat}
    (hpoint : o.PointAt key i) :
    ∃ first ∈ history ++ (outcomes p b actions s).take j, first.Describes key := by
  induction actions generalizing history s j with
  | nil => cases ho
  | cons action rest ih =>
      cases action with
      | publish now batch =>
          cases j with
          | zero =>
              cases ho
              rw [List.take_zero, List.append_nil]
              exact describes_of_pointAt h hpoint
          | succ j =>
              have := ih (grounded_publish h now batch) ho
              rwa [List.append_assoc] at this
      | prune now => exact ih (grounded_prune h now) ho
      | forget other => exact ih (grounded_forget h other) ho

end Steps

/-! ## Delivery -/

/-- A batch that succeeds has received as many good reports as it has records, so if the broker
reports once on every record, all of them were delivered. -/
theorem delivered_of_ok {p : Publisher} {b : Broker σ} {now : Timestamp} {batch : List Metric}
    {s : State σ} {fates : List DeliveryReport}
    (hok : (publishAt p b now batch s).1.result = .ok ())
    (honce : (publishAt p b now batch s).1.ReportedOnce fates) {i : Nat} {r : Record}
    (hr : (publishAt p b now batch s).1.submission.records[i]? = some r) :
    fates[i]? = some .delivered := by
  rcases publishAt_cases p b now batch s with ⟨_, _, heq⟩ | ⟨metrics, keys, -, heq⟩
  · rw [heq] at hr
    cases hr
  · rw [heq] at hok honce hr
    obtain ⟨hlength, arrivals, hperm, hprefix⟩ := honce
    have hsettled := settlement_send p b now metrics keys s
    obtain ⟨hall, henough, hgood⟩ := hsettled.ok_iff.mp hok
    rw [hsettled.accepted, List.length_take, Nat.min_eq_left (Nat.le_of_eq hall)] at hlength
    rw [hsettled.received, hall] at hprefix
    -- the reports that were received are all that arrive
    have harrivals := hprefix.eq_of_length (by
      rw [List.length_take, Nat.min_eq_left henough, hperm.length_eq, hlength, hall])
    obtain ⟨hi, -⟩ := List.getElem?_eq_some_iff.mp hr
    rw [hsettled.submitted, List.length_take, hall] at hi
    have hi' : i < fates.length := by omega
    rw [List.getElem?_eq_getElem hi', hgood fates[i]]
    rw [harrivals, hperm.mem_iff]
    exact List.getElem_mem hi'

/-- What comes of a sequence of actions comes of its batches. -/
theorem exists_publishAt_of_mem {p : Publisher} {b : Broker σ} {actions : List Action}
    {s : State σ} {o : Outcome} (h : o ∈ outcomes p b actions s) :
    ∃ now batch s', o = (publishAt p b now batch s').1 := by
  induction actions generalizing s with
  | nil => cases h
  | cons action rest ih =>
      cases action with
      | publish now batch =>
          rcases List.mem_cons.mp h with rfl | hrest
          · exact ⟨now, batch, s, rfl⟩
          · exact ih hrest
      | prune now => exact ih h
      | forget key => exact ih h

/-- **No compact point without a delivered description.** Start a publisher with an empty cache of
256 shards, publish any batches at any times, succeeding or not, and prune and forget in between.
If the broker reports once on every record, then wherever a batch sends a compact point of a series,
an earlier batch has succeeded that sent the full message of a sample of that series, and this
message was delivered. The first such batch has sent no point of the series. -/
theorem point_follows_description (p : Publisher) (b : Broker σ) (config : CacheConfig)
    (hshards : config.shardCount = 256) {c : KeyCache} (hcache : KeyCache.ofConfig config = .ok c)
    (maxIdle : Nat) (broker : σ) (actions : List Action) (fates : Nat → List DeliveryReport)
    (honce : ∀ (i : Nat) o,
      (outcomes p b actions ⟨some c, .ofMaxIdle maxIdle, broker⟩)[i]? = some o →
      o.ReportedOnce (fates i))
    {j k : Nat} {o : Outcome} {key : MetricKey}
    (ho : (outcomes p b actions ⟨some c, .ofMaxIdle maxIdle, broker⟩)[j]? = some o)
    (hpoint : o.PointAt key k) :
    ∃ i first, i < j
      ∧ (outcomes p b actions ⟨some c, .ofMaxIdle maxIdle, broker⟩)[i]? = some first
      ∧ first.result = .ok ()
      ∧ (∃ l, first.DescribedAt key l ∧ (fates i)[l]? = some .delivered)
      ∧ (∀ l, ¬ first.PointAt key l)
      ∧ ∀ i' < i, ∀ o', (outcomes p b actions ⟨some c, .ofMaxIdle maxIdle, broker⟩)[i']? = some o' →
          ¬ o'.Describes key := by
  obtain ⟨horgs, hcount⟩ := KeyCache.orgs_of_ofConfig hcache
  -- the publisher starts with an empty history, so what comes before is in the list of outcomes
  have hstart := grounded_start horgs (hcount.trans hshards) maxIdle broker
  generalize (⟨some c, .ofMaxIdle maxIdle, broker⟩ : State σ) = start at *
  have hearlier : ∀ {j k : Nat} {o : Outcome}, (outcomes p b actions start)[j]? = some o →
      o.PointAt key k →
      ∃ i < j, ∃ first, (outcomes p b actions start)[i]? = some first ∧ first.Describes key := by
    intro j k o ho hpoint
    obtain ⟨first, hmem, hdescribes⟩ := describes_before_point hstart ho hpoint
    rw [List.nil_append] at hmem
    obtain ⟨i, hi⟩ := List.mem_iff_getElem?.mp hmem
    rw [List.getElem?_take] at hi
    split at hi
    case isTrue hlt => exact ⟨i, hlt, first, hi, hdescribes⟩
    case isFalse => cases hi
  obtain ⟨i₀, hlt, first₀, hfirst₀, hdescribes₀⟩ := hearlier ho hpoint
  -- of all batches that have described the series, take the first
  have hsome : ∃ (i : Nat) (first : Outcome),
      (outcomes p b actions start)[i]? = some first ∧ first.Describes key :=
    ⟨i₀, first₀, hfirst₀, hdescribes₀⟩
  classical
  obtain ⟨first, hfirst, hok, l, hdescribed⟩ := Nat.find_spec hsome
  refine ⟨Nat.find hsome, first, ?_, hfirst, hok, ⟨l, hdescribed, ?_⟩, ?_, ?_⟩
  · exact Nat.lt_of_le_of_lt (Nat.find_min' hsome ⟨first₀, hfirst₀, hdescribes₀⟩) hlt
  · obtain ⟨m, r, hsent, -⟩ := hdescribed
    obtain ⟨now, batch, s, rfl⟩ := exists_publishAt_of_mem (List.mem_of_getElem? hfirst)
    exact delivered_of_ok hok (honce _ _ hfirst) hsent.record
  · -- a point in the first batch would be preceded by a description in one before it
    intro l' hpoint'
    obtain ⟨i', hlt', hdescribed'⟩ := hearlier hfirst hpoint'
    exact Nat.find_min hsome hlt' hdescribed'
  · intro i' hlt' o' ho' hdescribed'
    exact Nat.find_min hsome hlt' ⟨o', ho', hdescribed'⟩

set_option maxRecDepth 10000 in
/-- The second of two batches sends a point: the first has described the series. -/
theorem point_follows_description_of_two_batches :
    let key : MetricKey := ⟨⟨1⟩, ⟨.ofFn fun i => i.toNat.toUInt8⟩⟩
    let m : Metric := { id := "1.000102030405060708090a0b0c0d0e0f", org := ⟨1⟩, interval := 10 }
    let p : Publisher :=
      { partitioner := ⟨.byOrg, 1, by decide⟩
        schemas := ⟨[], ⟨"default", default, ⟨60, 3600, by decide, by decide⟩, []⟩⟩ }
    let b : Broker Unit :=
      { openBatch := fun _ _ => ()
        produce := fun _ _ => (.ok (), ())
        closeBatch := fun _ _ => (⟨[.delivered], .disconnected⟩, ()) }
    let c : KeyCache := ⟨.clamp 36, .ofSeconds 3600, 256, ∅⟩
    let batches : List Action := [.publish ⟨0⟩ [m], .publish ⟨600⟩ [m]]
    KeyCache.ofConfig {} = .ok c
      ∧ (∃ second, (outcomes p b batches ⟨some c, .ofMaxIdle 0, ()⟩)[1]? = some second
        ∧ second.PointAt key 0)
      ∧ ∃ first, (outcomes p b batches ⟨some c, .ofMaxIdle 0, ()⟩)[0]? = some first
        ∧ first.result = .ok () ∧ (∃ l, first.DescribedAt key l) ∧ ∀ l, ¬ first.PointAt key l := by
  intro key m p b c batches
  have hcache : KeyCache.ofConfig {} = .ok c := by cbv
  have hreports : (outcomes p b batches ⟨some c, .ofMaxIdle 0, ()⟩).map
      (fun o => (o.submission.accepted.length, o.received)) =
      [(1, [.delivered]), (1, [.delivered])] := by cbv
  obtain ⟨second, hsecond, hmetric, hrecord⟩ :
      ∃ second, (outcomes p b batches ⟨some c, .ofMaxIdle 0, ()⟩)[1]? = some second
        ∧ second.metrics[0]? = some m
        ∧ second.submission.records[0]? =
          some ⟨"mdm", 0, [1, 0, 0, 0], (m.pointOf key).encode .withOrg⟩ :=
    ⟨_, rfl, by cbv, by cbv⟩
  have hpoint : second.PointAt key 0 := ⟨m, _, ⟨hmetric, by cbv, hrecord⟩, by decide⟩
  obtain ⟨i, first, hlt, hfirst, hok, ⟨l, hdescribed, -⟩, hpoints, -⟩ :=
    point_follows_description p b {} rfl hcache 0 () batches (fun _ => [.delivered])
      (fun i o ho => by
        have hmem := List.mem_map_of_mem (f := fun o => (o.submission.accepted.length, o.received))
          (List.mem_of_getElem? ho)
        rw [hreports] at hmem
        obtain ⟨hlength, hreceived⟩ : o.submission.accepted.length = 1
            ∧ o.received = [.delivered] := by simpa using hmem
        exact ⟨hlength.symm, [.delivered], .refl _, [], by rw [hreceived]; rfl⟩)
      hsecond hpoint
  obtain rfl : i = 0 := Nat.lt_one_iff.mp hlt
  exact ⟨hcache, ⟨second, hsecond, hpoint⟩, first, hfirst, hok, ⟨l, hdescribed⟩, hpoints⟩

end MetricGateway.Publish
