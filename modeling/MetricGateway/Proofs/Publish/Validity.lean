import Mathlib.Data.List.Forall2
import MetricGateway.Proofs.Publish.Settlement
import MetricGateway.Proofs.Series
import MetricGateway.Proofs.Tags

/-!
# Batches with an invalid metric

A metric without an interval gets its id from the gateway, and such an id can
always be read. One that comes with an interval keeps the id that it came with,
which may be no id at all. So a batch can be normalized if and only if the second
kind are all valid.

Metrics are normalized one after the other, and the first that is invalid ends
it. Those before it have been resolved by then, in place, but nothing has been
asked of the cache, the pools or the broker yet.
-/

namespace MetricGateway

/-- A metric comes with an interval, so that it keeps its id, and the id cannot be read. -/
def Metric.Invalid (m : Metric) : Prop := m.interval ≠ 0 ∧ ∀ key, m.key ≠ .ok key

theorem Metric.Invalid.key {m : Metric} (h : m.Invalid) : m.key = .error ⟨m.id⟩ := by
  rcases MetricKey.parse_cases m.id with ⟨key, hkey⟩ | herror
  · exact absurd hkey (h.2 key)
  · exact herror

namespace Publish

open Routing (Broker)

variable {σ : Type}

/-! ## Metrics -/

/-- What has become of a metric when it is resolved. -/
structure Resolved (schemas : Storage.Schemas) (m m' : Metric) : Prop where
  /-- A metric that comes with an interval stays as it is. -/
  kept : m.interval ≠ 0 → m' = m
  /-- One without gets the interval of its schema, its tags in order and without repetition, and an
  id that is computed from all this. Nothing else changes. -/
  computed : m.interval = 0 → m' =
    { m with
      interval := (schemas.find m.name).interval
      tags := sortedTags m.tags
      id := MetricKey.display ⟨m.org, m'.seriesKey⟩ }

theorem resolved_resolve (schemas : Storage.Schemas) (m : Metric) :
    Resolved schemas m (resolve schemas m) where
  kept h := by rw [resolve, if_neg h]
  computed h := by
    rw [resolve, if_pos h]
    rfl

theorem resolve_of_invalid (schemas : Storage.Schemas) {m : Metric} (h : m.Invalid) :
    resolve schemas m = m := (resolved_resolve schemas m).kept h.1

/-- The id of a metric that is not invalid can be read when it is resolved. -/
theorem exists_key_resolve (schemas : Storage.Schemas) {m : Metric} (h : ¬ m.Invalid) :
    ∃ key, (resolve schemas m).key = .ok key := by
  by_cases hinterval : m.interval = 0
  · rw [resolve, if_pos hinterval]
    exact ⟨_, Metric.key_setId _⟩
  · rw [resolve, if_neg hinterval]
    by_contra hnone
    exact h ⟨hinterval, fun key hkey => hnone ⟨key, hkey⟩⟩

/-! ## Normalization -/

/-- Behind a metric whose id can be read, normalization goes on. -/
theorem normalize_cons_of_key {schemas : Storage.Schemas} {m : Metric} {key : MetricKey}
    (h : (resolve schemas m).key = .ok key) (rest : List Metric) :
    normalize schemas (m :: rest) =
      (resolve schemas m :: (normalize schemas rest).1,
        (normalize schemas rest).2.map (key :: ·)) := by
  rw [normalize]
  dsimp only
  rw [h]

/-- **The first invalid metric ends it.** -/
theorem normalize_of_invalid (schemas : Storage.Schemas) {before : List Metric} {bad : Metric}
    (hbefore : ∀ m ∈ before, ¬ m.Invalid) (hbad : bad.Invalid) (after : List Metric) :
    normalize schemas (before ++ bad :: after) =
      (before.map (resolve schemas) ++ bad :: after, .error ⟨bad.id⟩) := by
  induction before with
  | nil =>
      rw [List.nil_append, normalize, resolve_of_invalid schemas hbad]
      dsimp only
      rw [hbad.key]
      rfl
  | cons m rest ih =>
      obtain ⟨key, hkey⟩ := exists_key_resolve schemas (hbefore m (List.mem_cons_self ..))
      have hrest := ih fun m hm => hbefore m (List.mem_cons_of_mem _ hm)
      rw [List.cons_append, normalize_cons_of_key hkey, hrest]
      rfl

/-- **A batch without invalid metrics is normalized.** -/
theorem normalize_of_valid (schemas : Storage.Schemas) {batch : List Metric}
    (h : ∀ m ∈ batch, ¬ m.Invalid) : ∃ metrics keys, normalize schemas batch = (metrics, .ok keys) := by
  induction batch with
  | nil => exact ⟨[], [], rfl⟩
  | cons m rest ih =>
      obtain ⟨key, hkey⟩ := exists_key_resolve schemas (h m (List.mem_cons_self ..))
      obtain ⟨metrics, keys, hrest⟩ := ih fun m hm => h m (List.mem_cons_of_mem _ hm)
      refine ⟨resolve schemas m :: metrics, key :: keys, ?_⟩
      rw [normalize_cons_of_key hkey, hrest]
      rfl

theorem exists_first_invalid {batch : List Metric} (h : ∃ m ∈ batch, m.Invalid) :
    ∃ before bad after, batch = before ++ bad :: after ∧ (∀ m ∈ before, ¬ m.Invalid)
      ∧ bad.Invalid := by
  induction batch with
  | nil =>
      obtain ⟨m, hm, -⟩ := h
      cases hm
  | cons m rest ih =>
      by_cases hm : m.Invalid
      · exact ⟨[], m, rest, rfl, nofun, hm⟩
      · obtain ⟨bad, hmem, hbad⟩ := h
        have hrest : bad ∈ rest := by
          rcases List.mem_cons.mp hmem with rfl | hrest
          · exact absurd hbad hm
          · exact hrest
        obtain ⟨before, first, after, rfl, hbefore, hfirst⟩ := ih ⟨bad, hrest, hbad⟩
        refine ⟨m :: before, first, after, rfl, fun m' hm' => ?_, hfirst⟩
        rcases List.mem_cons.mp hm' with rfl | hbehind
        · exact hm
        · exact hbefore m' hbehind

/-! ## Batches -/

/-- What goes wrong between a batch and the broker is never that a metric is invalid. -/
theorem category_of_mem_errors {p : Publisher} {b : Broker σ} {room : Nat}
    {records : List Routing.Record} {s : σ} {e : PublishError}
    (h : e ∈ (exchange p b room records s).1.errors) : e.category ≠ none := by
  rw [errors_exchange] at h
  rcases List.mem_append.mp h with hrefused | hreports
  · obtain ⟨refused, -, rfl⟩ := Option.map_eq_some_iff.mp (Option.mem_toList.mp hrefused)
    exact nofun
  · rcases List.mem_append.mp hreports with hfailed | hmissing
    · obtain ⟨report, -, hreport⟩ := List.mem_filterMap.mp hfailed
      cases report with
      | delivered => cases hreport
      | failed partition error => cases hreport; exact nofun
    · split at hmissing
      · obtain rfl := List.mem_singleton.mp hmissing
        rw [category_missingError]
        exact nofun
      · cases hmissing

/-- A batch that is sent does not complain about its metrics. -/
theorem result_send_ne_invalidMetric (p : Publisher) (b : Broker σ) (now : Timestamp)
    (metrics : List Metric) (keys : List MetricKey) (s : State σ) (e : InvalidId) :
    (send p b now metrics keys s).1.result ≠ .error (.invalidMetric e) := by
  intro h
  have hresult : resultOf (exchange p b metrics.length (batchRecords p now metrics keys s)
      s.broker).1.errors = .error (.invalidMetric e) := h
  cases herrors : (exchange p b metrics.length (batchRecords p now metrics keys s)
      s.broker).1.errors with
  | nil => rw [herrors] at hresult; cases hresult
  | cons first rest =>
      rw [herrors] at hresult
      cases hresult
      have hmem : PublishError.invalidMetric e ∈ (exchange p b metrics.length
          (batchRecords p now metrics keys s) s.broker).1.errors := by
        rw [herrors]; exact List.mem_cons_self ..
      exact category_of_mem_errors hmem rfl

/-- **An invalid metric aborts its batch before anything else happens.**

Take any batch with an invalid metric, in any state. The first such metric is what the batch fails
with. Nothing has been submitted, received, encoded or reported, and the whole state is as it was:
the cache, both pools, and the broker, who has not even been told that there is a batch. The metrics
before that one are resolved, and it and all behind it are as they were.

A batch without invalid metrics never fails with one. -/
theorem invalid_metric_aborts (p : Publisher) (b : Broker σ) (now : Timestamp)
    (batch : List Metric) (s : State σ) :
    ((∃ m ∈ batch, m.Invalid) → ∃ before bad after resolved,
        batch = before ++ bad :: after ∧ (∀ m ∈ before, ¬ m.Invalid) ∧ bad.Invalid
          ∧ List.Forall₂ (Resolved p.schemas) before resolved
          ∧ publishAt p b now batch s =
            ({ result := .error (.invalidMetric ⟨bad.id⟩)
               metrics := resolved ++ bad :: after
               submission := { accepted := [], refused := none }
               received := [], encodings := [], events := [] }, s))
      ∧ ((∀ m ∈ batch, ¬ m.Invalid) → ∀ e,
        (publishAt p b now batch s).1.result ≠ .error (.invalidMetric e)) := by
  constructor
  · intro hinvalid
    obtain ⟨before, bad, after, rfl, hbefore, hbad⟩ := exists_first_invalid hinvalid
    refine ⟨before, bad, after, before.map (resolve p.schemas), rfl, hbefore, hbad, ?_, ?_⟩
    · rw [List.forall₂_map_right_iff, List.forall₂_same]
      exact fun m _ => resolved_resolve p.schemas m
    · exact publishAt_of_invalid b now s (normalize_of_invalid p.schemas hbefore hbad after)
  · intro hvalid e
    by_cases hbatch : batch = []
    · subst hbatch
      intro h
      cases h
    · obtain ⟨metrics, keys, hnormal⟩ := normalize_of_valid p.schemas hvalid
      rw [publishAt_of_normalize hbatch hnormal]
      exact result_send_ne_invalidMetric p b now metrics keys s e

/-- The second of three metrics has an interval and an id without a key. The first, which came without
an interval, has its interval and its tags by then, and the third, which would have been resolved
too, is as it was. Without the second, the batch does not complain about its metrics. -/
theorem invalid_metric_aborts_of_second :
    let m : Metric := { org := ⟨7⟩, name := "m", tags := ["b=2", "a=1", "b=2"] }
    let bad : Metric := { id := "7.", org := ⟨7⟩, name := "m", interval := 10 }
    let p : Publisher :=
      { partitioner := ⟨.byOrg, 1, by decide⟩
        schemas := ⟨[], ⟨"default", default, ⟨60, 3600, by decide, by decide⟩, []⟩⟩ }
    let b : Broker Nat :=
      { openBatch := fun _ k => k + 1
        produce := fun _ k => (.ok (), k + 1)
        closeBatch := fun _ k => (⟨[], .disconnected⟩, k + 1) }
    let s : State Nat := ⟨some ⟨.clamp 36, .ofSeconds 3600, 1, ∅⟩, .ofMaxIdle 8, 0⟩
    let o := publishAt p b ⟨600⟩ [m, bad, m] s
    o.1.result = .error (.invalidMetric ⟨"7."⟩) ∧ o.2 = s ∧ o.1.events = []
      ∧ (∃ first, o.1.metrics = [first, bad, m] ∧ first.interval = 60
        ∧ first.tags = ["a=1", "b=2"] ∧ first.id = MetricKey.display ⟨⟨7⟩, first.seriesKey⟩)
      ∧ ∀ e, (publishAt p b ⟨600⟩ [m, m] s).1.result ≠ .error (.invalidMetric e) := by
  intro m bad p b s o
  have hm : ¬ m.Invalid := fun h => h.1 rfl
  have hbad : bad.Invalid := ⟨by decide, fun key h => by
    have hkey : bad.key = .error ⟨"7."⟩ := by cbv
    rw [hkey] at h
    cases h⟩
  have hinterval : (p.schemas.find m.name).interval = 60 := by cbv
  have htags : sortedTags ["b=2", "a=1", "b=2"] = ["a=1", "b=2"] := by
    have hset : sortedTags ["b=2", "a=1", "b=2"] = sortedTags ["a=1", "b=2"] :=
      sortedTags_congr (by simp [or_comm])
    rw [hset, sortedTags_eq_self_iff]
    decide +kernel
  obtain ⟨before, bad', after, resolved, hbatch, hbefore, hbad', hresolved, ho⟩ :=
    (invalid_metric_aborts p b ⟨600⟩ [m, bad, m] s).1 ⟨bad, by simp, hbad⟩
  -- the first metric is not invalid, and the second is
  rcases before with _ | ⟨x, _ | ⟨y, rest⟩⟩
  · rw [List.nil_append, List.cons.injEq] at hbatch
    exact absurd (hbatch.1 ▸ hbad') hm
  · simp only [List.cons_append, List.nil_append, List.cons.injEq] at hbatch
    obtain ⟨rfl, rfl, rfl⟩ := hbatch
    obtain ⟨first, rfl, hfirst⟩ : ∃ first, resolved = [first] ∧ Resolved p.schemas m first := by
      rcases hresolved with _ | ⟨hfirst, _ | _⟩
      exact ⟨_, rfl, hfirst⟩
    have ho : o = _ := ho
    rw [ho]
    exact ⟨rfl, rfl, rfl,
      ⟨first, rfl, (congrArg Metric.interval (hfirst.computed rfl)).trans hinterval,
        (congrArg Metric.tags (hfirst.computed rfl)).trans htags,
        congrArg Metric.id (hfirst.computed rfl)⟩,
      (invalid_metric_aborts p b ⟨600⟩ [m, m] s).2 (by simpa using hm)⟩
  · simp only [List.cons_append, List.cons.injEq] at hbatch
    exact absurd (hbatch.2.1 ▸ hbad) (hbefore y (by simp))

end Publish

end MetricGateway
