import MetricGateway.Pattern.Regular
import MetricGateway.Proofs.Identity
import MetricGateway.Proofs.Publish.Validity
import MetricGateway.Proofs.Storage.Matching

/-!
# Normalized batches

A batch that fails may be published again, and its metrics are no longer what they
were: the first attempt has resolved them in place. So the second attempt finds an
interval in every metric and takes the other branch for those that had none. It
lands on the same keys because of two things. A schema never gives zero for an
interval, and the id that was computed is read as the organization and the digest
that it was written from.
-/

namespace MetricGateway.Publish

open Storage (Schema SchemaConfig Schemas)

/-! ## Metrics -/

/-- A metric that came without an interval is complete now, and this is its key. -/
structure Completed (schemas : Schemas) (m m' : Metric) (key : MetricKey) : Prop where
  /-- Organization, name, unit, type, value and time are as they were. -/
  unchanged : m' = { m with id := m'.id, interval := m'.interval, tags := m'.tags }
  interval : m'.interval = (schemas.find m.name).interval
  /-- The tags are in the order of their bytes, and there are no repetitions. -/
  sorted : m'.tags.Pairwise fun s t => Bytes.ofString s < Bytes.ofString t
  tags : ∀ tag, tag ∈ m'.tags ↔ tag ∈ m.tags
  digest : key = ⟨m.org, ⟨Digest.md5 m'.identity⟩⟩
  id : m'.id = key.display

/-- What a metric of a batch has become when the batch is normalized, and the key that is returned
for it. -/
structure Normalized (schemas : Schemas) (m m' : Metric) (key : MetricKey) : Prop where
  interval_pos : 1 ≤ m'.interval.toNat
  /-- The key is the one in the id. -/
  parsed : m'.key = .ok key
  kept : m.interval ≠ 0 → m' = m
  completed : m.interval = 0 → Completed schemas m m' key

theorem interval_pos_resolve (schemas : Schemas) (m : Metric) :
    1 ≤ (resolve schemas m).interval.toNat := by
  by_cases h : m.interval = 0
  · rw [(resolved_resolve schemas m).computed h]
    exact UInt32.lt_iff_toNat_lt.mp (schemas.find m.name).interval_pos
  · rw [(resolved_resolve schemas m).kept h]
    refine Nat.one_le_iff_ne_zero.mpr fun hzero => h ?_
    exact UInt32.toNat_inj.mp hzero

/-- The id that is computed for a metric is read as what it was written from. -/
theorem completed_resolve {schemas : Schemas} {m : Metric} {key : MetricKey}
    (h : m.interval = 0) (hkey : (resolve schemas m).key = .ok key) :
    Completed schemas m (resolve schemas m) key := by
  have hresolve : resolve schemas m =
      { m with interval := (schemas.find m.name).interval : Metric }.setId := if_pos h
  have hread := Metric.key_setId { m with interval := (schemas.find m.name).interval : Metric }
  rw [← hresolve, hkey, Except.ok.injEq] at hread
  subst hread
  rw [hresolve]
  exact ⟨rfl, rfl, Metric.pairwise_tags_setId _, fun tag => mem_sortedTags, rfl, rfl⟩

theorem normalized_resolve {schemas : Schemas} {m : Metric} {key : MetricKey}
    (hkey : (resolve schemas m).key = .ok key) : Normalized schemas m (resolve schemas m) key where
  interval_pos := interval_pos_resolve schemas m
  parsed := hkey
  kept := (resolved_resolve schemas m).kept
  completed h := completed_resolve h hkey

/-! ## Batches -/

/-- Metric by metric, a batch is normalized. -/
theorem exists_normalized {schemas : Schemas} {batch metrics : List Metric}
    {keys : List MetricKey} (h : normalize schemas batch = (metrics, .ok keys)) {i : Nat}
    {m : Metric} (hm : batch[i]? = some m) :
    ∃ m' key, metrics[i]? = some m' ∧ keys[i]? = some key ∧ Normalized schemas m m' key := by
  have hresolved : metrics[i]? = some (resolve schemas m) := by
    rw [metrics_of_normalize h, List.getElem?_map, hm, Option.map_some]
  -- there are as many keys as metrics
  obtain ⟨key, hkey⟩ : ∃ key, keys[i]? = some key := by
    obtain ⟨hlt, -⟩ := List.getElem?_eq_some_iff.mp hm
    have hlength := (length_normalize h).2
    exact ⟨_, List.getElem?_eq_getElem (by omega)⟩
  exact ⟨_, key, hresolved, hkey, normalized_resolve ((key_of_normalize h hresolved).mp hkey)⟩

/-- **A normalized batch stays as it is when it is normalized again.**

Take any schemas, and any batch that is normalized under them. Metrics and keys stand in the order
of the batch. Every metric has an interval by then and an id whose key is the one that is returned.
A metric that came with an interval is as it was. Any other has the interval of the schema for its
name, an id made of its organization and its digest, and strictly sorted tags, which are those that
it came with; nothing else of it has changed. If the schemas were made ready from a configuration,
in whatever language of patterns, that schema is one of the configured ones. Normalizing the outcome
gives the same metrics and the same keys. -/
theorem normalization_idempotent {schemas : Schemas} {batch metrics : List Metric}
    {keys : List MetricKey} (h : normalize schemas batch = (metrics, .ok keys)) :
    (metrics.length = batch.length ∧ keys.length = batch.length)
      ∧ (∀ (i : Nat) (m : Metric), batch[i]? = some m → ∃ m' key,
        metrics[i]? = some m' ∧ keys[i]? = some key ∧ Normalized schemas m m' key)
      ∧ (∀ (language : PatternLanguage) (configs : List SchemaConfig),
        Schemas.ofConfigs language configs = .ok schemas →
        ∀ m ∈ batch, ∃ c ∈ configs, Schema.ofConfig language c = .ok (schemas.find m.name))
      ∧ normalize schemas metrics = (metrics, .ok keys) := by
  refine ⟨length_normalize h, fun i m => exists_normalized h,
    fun language configs hschemas m _ => ?_, normalize_normalized h⟩
  obtain ⟨before, c, behind, rfl, -, -, hc⟩ := Schemas.find_of_ofConfigs hschemas m.name
  exact ⟨c, by simp, hc⟩

/-- A metric without an interval, whose tags are neither sorted nor different, and one with an
interval, an id of another organization and the same tags: the first is completed, the second is not
touched, and once more nothing changes. -/
theorem normalization_idempotent_of_mixed_batch :
    let configs : List SchemaConfig := [⟨"fast", "^fast\\.", "1s:1h,10s:1d"⟩, .default]
    let m : Metric := { org := ⟨7⟩, name := "fast.load", tags := ["b=2", "a=1", "b=2"] }
    let n : Metric :=
      { m with id := "8.1025A6b4b78657dbaaf919b51b544336", interval := 10 }
    ∃ schemas m' key key', Schemas.ofConfigs .regular configs = .ok schemas
      ∧ normalize schemas [m, n] = ([m', n], .ok [key, key'])
      ∧ Completed schemas m m' key ∧ key'.org = ⟨8⟩
      ∧ (∃ c ∈ configs, Schema.ofConfig .regular c = .ok (schemas.find m.name))
      ∧ normalize schemas [m', n] = ([m', n], .ok [key, key']) := by
  intro configs m n
  obtain ⟨schemas, hschemas⟩ : ∃ schemas, Schemas.ofConfigs .regular configs = .ok schemas :=
    ⟨_, by cbv⟩
  obtain ⟨key', hkey', horg⟩ : ∃ key', n.key = .ok key' ∧ key'.org = ⟨8⟩ := ⟨_, by cbv, rfl⟩
  have hvalid : ∀ x ∈ [m, n], ¬ x.Invalid := by
    intro x hx hinvalid
    rcases List.mem_pair.mp hx with rfl | rfl
    · exact hinvalid.1 rfl
    · exact hinvalid.2 key' hkey'
  obtain ⟨metrics, keys, h⟩ := normalize_of_valid schemas hvalid
  obtain ⟨⟨hmetrics, hkeys⟩, hbatch, hconfigured, hagain⟩ := normalization_idempotent h
  obtain ⟨m', n', rfl⟩ := List.length_eq_two.mp hmetrics
  obtain ⟨key, other, rfl⟩ := List.length_eq_two.mp hkeys
  obtain ⟨_, _, ⟨⟩, ⟨⟩, hm⟩ := hbatch 0 m rfl
  obtain ⟨_, _, ⟨⟩, ⟨⟩, hn⟩ := hbatch 1 n rfl
  obtain rfl : n' = n := hn.kept (by decide)
  obtain rfl : other = key' := Except.ok.inj (hn.parsed.symm.trans hkey')
  have hschema := hconfigured .regular configs hschemas m (List.mem_cons_self ..)
  exact ⟨schemas, m', key, other, hschemas, h, hm.completed rfl, horg, hschema, hagain⟩

end MetricGateway.Publish
