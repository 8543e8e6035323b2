import MetricGateway.Proofs.Publish.Retry
import MetricGateway.Proofs.Series
import MetricGateway.Proofs.Wire.Message
import MetricGateway.Proofs.Wire.Point

/-!
# Whose samples they are

A metric names its organization twice, in a field and in its id. Everything that is
written in full says what the field says, and so does the key of a record under a
scheme by organization. The novelty cache and the points that carry an organization
go by the id.

When the gateway computes the id, both are the same. A metric that comes with its
interval keeps the id it came with, and nobody compares the two. Then it is of one
organization as long as its series is described, and of another one from the first
point on.
-/

namespace MetricGateway.Publish

open Novelty (KeyCache touches)
open Routing (Broker PartitionScheme Record)
open Wire (Point PointFormat)

variable {σ : Type}

/-! ## Consumers -/

/-- What a consumer reads from a record. -/
structure Reading where
  /-- The organization, if the record tells. -/
  org : Option OrgId
  key : SeriesKey
  value : Number.Binary64
  /-- Seconds since the start of 1970. -/
  time : Int
  deriving DecidableEq, Repr

/-- What a full message says, if the id in it is one. -/
def Reading.ofMetric? (m : Metric) : Option Reading :=
  match m.key with
  | .ok key => some ⟨some m.org, key.key, m.value, m.time.toInt⟩
  | .error _ => none

/-- Reads a record as consumers do, who know the scheme of its topic. Where a point does not say its
organization, the key of the record does, if partitions go by organization. -/
def read? (scheme : PartitionScheme) (r : Record) : Option Reading :=
  match Point.decode r.payload with
  | .ok (.withOrg, p) => some ⟨some p.key.org, p.key.key, p.value, p.time.toNat⟩
  | .ok (.withoutOrg, p) =>
    let org := if scheme = .byOrg then some (OrgId.ofBytes r.key) else none
    some ⟨org, p.key.key, p.value, p.time.toNat⟩
  | .error _ => do Reading.ofMetric? (← Wire.decodeFull? r.payload)

/-- The organization that a record tells for a metric with a key, in each encoding. -/
def toldOrg (scheme : PartitionScheme) (m : Metric) (key : MetricKey) : Encoding → Option OrgId
  | .full => some m.org
  | .compact .withOrg => some key.org
  | .compact .withoutOrg => if scheme = .byOrg then some m.org else none

/-- A point has the time modulo `2 ^ 32`. -/
theorem toNat_shortTime (m : Metric) : (m.shortTime.toNat : Int) = m.time.toInt % 2 ^ 32 := by
  have hbits : m.time.toInt = if 2 * m.time.toUInt64.toNat < 2 ^ 64 then
      (m.time.toUInt64.toNat : Int) else m.time.toUInt64.toNat - (2 ^ 64 : Nat) :=
    BitVec.toInt_eq_toNat_cond m.time.toBitVec
  have hbound := m.time.toUInt64.toNat_lt
  rw [Metric.shortTime, UInt64.toNat_toUInt32]
  split at hbits <;> omega

theorem read?_full {m : Metric} {key : MetricKey} (hkey : m.key = .ok key) (hfits : m.Fits)
    (scheme : PartitionScheme) {r : Record} (hpayload : r.payload = Wire.encodeFull m) :
    read? scheme r = some ⟨some m.org, key.key, m.value, m.time.toInt⟩ := by
  have hpoint : Point.decode r.payload = .error .unknownFormat := by
    rw [hpayload, Point.decode, detect_encodeFull]
  have hfull : Wire.decodeFull? r.payload = some m := by
    rw [hpayload, ← List.append_nil (Wire.encodeFull m)]
    exact Wire.decodeFull?_encodeFull hfits []
  rw [read?, hpoint]
  dsimp only
  rw [hfull, Option.bind_eq_bind, Option.bind_some, Reading.ofMetric?, hkey]

/-- **What is read from the record of a metric**, in each encoding. -/
theorem read?_record {m : Metric} {key : MetricKey} (hkey : m.key = .ok key) (hfits : m.Fits)
    (hpos : 0 ≤ m.time.toInt) (hlt : m.time.toInt < 2 ^ 32) (scheme : PartitionScheme) {r : Record}
    (hrecord : r.key = scheme.key m) {encoding : Encoding}
    (hpayload : r.payload = writeMessage encoding m key []) :
    read? scheme r =
      some ⟨toldOrg scheme m key encoding, key.key, m.value, m.time.toInt⟩ := by
  cases encoding with
  | full => exact read?_full hkey hfits scheme hpayload
  | compact format =>
      have hpoint : Point.decode r.payload = .ok (format, (m.pointOf key).asRead format) := by
        rw [hpayload]
        exact Point.decode_encode format (m.pointOf key)
      have htime : ((m.pointOf key).time.toNat : Int) = m.time.toInt :=
        (toNat_shortTime m).trans (Int.emod_eq_of_lt hpos hlt)
      rw [read?, hpoint]
      cases format with
      | withOrg => rw [← htime]; rfl
      | withoutOrg =>
          have horg : scheme = .byOrg → OrgId.ofBytes r.key = m.org := by
            rintro rfl
            rw [hrecord]
            exact OrgId.ofBytes_toBytes m.org
          rw [← htime]
          dsimp only [toldOrg]
          by_cases hscheme : scheme = .byOrg
          · rw [if_pos hscheme, if_pos hscheme, horg hscheme]
            rfl
          · rw [if_neg hscheme, if_neg hscheme]
            rfl

/-! ## The publisher -/

/-- Without a cache all metrics are written in full. -/
theorem encoding_of_cache_none {format : PointFormat} {now : Timestamp}
    {pairs : List (Metric × MetricKey)} {s : EncodingState} (hcache : s.cache = none) {i : Nat}
    {encoding : Encoding} {message : Message}
    (hmessage : (encode format now pairs s).1[i]? = some (encoding, message)) :
    encoding = .full := by
  induction pairs generalizing s i with
  | nil => cases hmessage
  | cons pair rest ih =>
      have heq := chooseEncoding_of_none format now pair.2 hcache
      cases i with
      | zero =>
          have hfirst : (encodeOne format now pair.1 pair.2 s).1 = (encoding, message) :=
            Option.some.inj hmessage
          rw [encodeOne, heq] at hfirst
          exact (congrArg Prod.fst hfirst).symm
      | succ i =>
          refine ih (s := (encodeOne format now pair.1 pair.2 s).2) ?_ hmessage
          rw [encodeOne, heq]
          exact hcache

/-- If the gateway resolves a metric, it computes the id of the organization of the metric. -/
theorem org_of_resolved {schemas : Storage.Schemas} {m : Metric} {key : MetricKey}
    (hinterval : m.interval = 0) (hkey : (resolve schemas m).key = .ok key) :
    key.org = (resolve schemas m).org := by
  rw [resolve, if_pos hinterval] at hkey ⊢
  rw [Metric.key_setId] at hkey
  cases hkey
  rfl

/-- What a record tells is the organization of the metric, unless it is a point that carries the one
of the id. -/
theorem eq_of_toldOrg {scheme : PartitionScheme} {m : Metric} {key : MetricKey}
    {encoding : Encoding} {org : OrgId} (h : toldOrg scheme m key encoding = some org) :
    org = m.org ∨ encoding = .compact .withOrg ∧ org = key.org := by
  cases encoding with
  | full => cases h; exact Or.inl rfl
  | compact format =>
      cases format with
      | withOrg => cases h; exact Or.inr ⟨rfl, rfl⟩
      | withoutOrg =>
          rw [toldOrg] at h
          split at h
          · cases h; exact Or.inl rfl
          · cases h

/-- Consumers take a sample to be of the organization of its metric, if its record tells them any,
and so does the novelty cache, if there is one. -/
def AttributedAlike (p : Publisher) (s : State σ) (key : MetricKey) (m : Metric) (r : Record) :
    Prop :=
  (∀ reading org, read? p.partitioner.scheme r = some reading → reading.org = some org →
      org = m.org)
    ∧ (s.cache ≠ none → key.org = m.org)

/-- **Whose sample a record is.** Take any record that a batch submits, in any state of a publisher,
for a metric whose time has 32 bits and whose lengths can be written. What is read from it and what
would be read from the full message of the metric are the same series, value and time. They are of
the organization of the metric, except that a point with an organization is of the one in the id;
and this is the one that the batch has touched the cache for.

So the sample is attributed alike everywhere if and only if the id names the organization of the
metric, or there is no cache. The id does so whenever the gateway has computed it. -/
theorem attributed_alike_iff {p : Publisher} {b : Broker σ} {now : Timestamp} {batch : List Metric}
    {s : State σ} (hs : Reachable p s) {key : MetricKey} {i : Nat} {m : Metric} {r : Record}
    (h : (publishAt p b now batch s).1.Sent key i m r) (hfits : m.Fits)
    (hpos : 0 ≤ m.time.toInt) (hlt : m.time.toInt < 2 ^ 32) :
    (∃ encoding, r.payload = writeMessage encoding m key []
        ∧ read? p.partitioner.scheme r =
          some ⟨toldOrg p.partitioner.scheme m key encoding, key.key, m.value, m.time.toInt⟩)
      ∧ read? p.partitioner.scheme { r with payload := Wire.encodeFull m } =
        some ⟨some m.org, key.key, m.value, m.time.toInt⟩
      ∧ (∃ metrics keys, normalize p.schemas batch = (metrics, .ok keys) ∧ keys[i]? = some key
        ∧ ∀ c, s.cache = some c →
          (encodeBatch p now metrics keys s).2.cache = some (c.run (touches now keys)))
      ∧ (AttributedAlike p s key m r ↔ s.cache = none ∨ key.org = m.org)
      ∧ ∀ m₀, batch[i]? = some m₀ → m₀.interval = 0 → key.org = m.org := by
  obtain ⟨hclean, n, hsharded⟩ := hs.sound
  obtain ⟨metrics, keys, hnormal, heq⟩ := exists_send_of_sent h
  rw [heq] at h
  have hkey := h.key
  obtain ⟨encoding, message, hpair, hmessage, rfl⟩ := sent_send hnormal h
  obtain ⟨hm, hkeyAt⟩ := List.getElem?_zip_eq_some.mp hpair
  obtain ⟨hpayload, -⟩ := written_encode (tracks_start hclean hsharded) hpair hmessage
  have hrecord : (recordOf p m message).key = p.partitioner.scheme.key m := rfl
  have hread := read?_record hkey hfits hpos hlt p.partitioner.scheme hrecord hpayload
  refine ⟨⟨encoding, hpayload, hread⟩, read?_full hkey hfits _ rfl,
    ⟨metrics, keys, hnormal, hkeyAt, fun c hcache => ?_⟩, ⟨fun halike => ?_, fun horg => ?_⟩,
    fun m₀ hm₀ hinterval => ?_⟩
  · obtain ⟨hc, -⟩ := hsharded c hcache
    exact (touched_encodeBatch hnormal hcache hc now).cache
  · exact or_iff_not_imp_left.mpr halike.2
  · refine ⟨fun reading org hreading htold => ?_, fun hcache => horg.resolve_left hcache⟩
    rw [hread] at hreading
    cases hreading
    rcases eq_of_toldOrg htold with hown | ⟨hpoint, hid⟩
    · exact hown
    · -- there are points only if there is a cache
      rcases horg with hnone | hsame
      · rw [encoding_of_cache_none hnone hmessage] at hpoint
        cases hpoint
      · rw [hid, hsame]
  · -- the metric at this place is the one that was resolved
    rw [metrics_of_normalize hnormal, List.getElem?_map, hm₀] at hm
    obtain rfl : resolve p.schemas m₀ = m := Option.some.inj hm
    exact org_of_resolved hinterval hkey

set_option maxRecDepth 10000 in
/-- A metric of organization 7 comes with an interval and an id of organization 8. In the full
message and in the key of its record it is of organization 7. Ten minutes later the point of the
same series is of organization 8, in a record whose key says 7. -/
theorem attributed_apart_of_foreign_id :
    let key : MetricKey := ⟨⟨8⟩, ⟨.ofFn fun i => i.toNat.toUInt8⟩⟩
    let m : Metric :=
      { id := "8.000102030405060708090a0b0c0d0e0f", org := ⟨7⟩, interval := 10, time := 60 }
    let p : Publisher :=
      { partitioner := ⟨.byOrg, 1, by decide⟩
        schemas := ⟨[], ⟨"default", default, ⟨60, 3600, by decide, by decide⟩, []⟩⟩ }
    let b : Broker Unit :=
      { openBatch := fun _ _ => ()
        produce := fun _ _ => (.ok (), ())
        closeBatch := fun _ _ => (⟨[.delivered], .disconnected⟩, ()) }
    let start : State Unit := ⟨some ⟨.clamp 36, .ofSeconds 3600, 1, ∅⟩, .ofMaxIdle 0, ()⟩
    let s : State Unit := (publishAt p b ⟨0⟩ [m] start).2
    let r : Record := ⟨"mdm", 0, OrgId.toBytes ⟨7⟩, (m.pointOf key).encode .withOrg⟩
    (publishAt p b ⟨600⟩ [m] s).1.Sent key 0 m r
      ∧ read? .byOrg r = some ⟨some ⟨8⟩, key.key, m.value, 60⟩
      ∧ read? .byOrg { r with payload := Wire.encodeFull m } =
        some ⟨some ⟨7⟩, key.key, m.value, 60⟩
      ∧ ¬ AttributedAlike p s key m r := by
  intro key m p b start s r
  have hconfig : KeyCache.ofConfig { shardCount := 1 } =
      .ok ⟨.clamp 36, .ofSeconds 3600, 1, ∅⟩ := by cbv
  have hs : Reachable p s := .publish b ⟨0⟩ [m] (.start hconfig 0 ())
  have hfits : m.Fits := ⟨by decide, by decide, by decide, by decide, by decide, by decide⟩
  have hnormal : normalize p.schemas [m] = ([m], .ok [key]) := by cbv
  have hfirst : publishAt p b ⟨0⟩ [m] start = send p b ⟨0⟩ [m] [key] start :=
    publishAt_of_normalize (by simp) hnormal
  have hsecond : publishAt p b ⟨600⟩ [m] s = send p b ⟨600⟩ [m] [key] s :=
    publishAt_of_normalize (by simp) hnormal
  have hstate : s = (send p b ⟨0⟩ [m] [key] start).2 := congrArg Prod.snd hfirst
  have hrecord : (send p b ⟨600⟩ [m] [key]
      (send p b ⟨0⟩ [m] [key] start).2).1.submission.records[0]? =
        some ⟨"mdm", 0, OrgId.toBytes ⟨7⟩, (m.pointOf key).encode .withOrg⟩ := by cbv
  have hsent : (publishAt p b ⟨600⟩ [m] s).1.Sent key 0 m r := by
    rw [hsecond, hstate]
    exact ⟨rfl, by cbv, hrecord⟩
  obtain ⟨⟨encoding, hpayload, hread⟩, hfull, -, halike, -⟩ :=
    attributed_alike_iff hs hsent hfits (by decide) (by decide)
  have hformat : encoding.format? = some .withOrg := by
    rw [← detect_writeMessage encoding m key, ← hpayload]
    rfl
  obtain rfl : encoding = .compact .withOrg := by
    cases encoding with
    | full => cases hformat
    | compact format => cases hformat; rfl
  refine ⟨hsent, hread, hfull, fun hsame => ?_⟩
  rcases halike.mp hsame with hnone | horg
  · rw [hstate] at hnone
    cases hnone
  · exact absurd horg (by decide)

end MetricGateway.Publish
