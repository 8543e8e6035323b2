import MetricGateway.Proofs.Novelty.Order
import MetricGateway.Proofs.Publish.Retry

/-!
# Reports in any order

Records are submitted before the first report is awaited, so what is submitted
does not depend on reports at all. If there is one report for each record that
was taken, all of them are received, and no report is missing. What a batch then
notices are the refusal, if there was one, and the failures among the reports, in
the order of their arrival.

Only which failure comes first depends on that order. Whether there is any, how
many there are and of which category, does not; and this is all that the cache,
the pools and the counts learn of the reports.
-/

namespace MetricGateway.Publish

open Novelty (KeyCache)
open Routing (Broker DeliveryReport Record)

variable {σ τ : Type}

/-! ## Errors -/

section Errors

variable {refusal : List PublishError} {reports reports' : List DeliveryReport}

theorem length_failures (reports : List DeliveryReport) :
    (reports.filterMap reportError?).length = reports.countP (· ≠ .delivered) := by
  rw [List.length_filterMap_eq_countP]
  refine List.countP_congr fun report _ => ?_
  cases report <;> simp [reportError?]

theorem errors_eq_nil_iff_of_perm (h : reports.Perm reports') :
    refusal ++ reports.filterMap reportError? = [] ↔
      refusal ++ reports'.filterMap reportError? = [] := by
  simp only [List.append_eq_nil_iff, failures_eq_nil_iff, h.mem_iff]

theorem categories_of_perm (h : reports.Perm reports') :
    (refusal ++ reports.filterMap reportError?).filterMap PublishError.category =
      (refusal ++ reports'.filterMap reportError?).filterMap PublishError.category := by
  rw [List.filterMap_append, List.filterMap_append, categories_failures, categories_failures,
    h.countP_eq]

/-- The first error is the same if it is a refusal, or if there is no other. -/
theorem resultOf_of_perm (h : reports.Perm reports')
    (hfirst : refusal ≠ [] ∨ reports.countP (· ≠ .delivered) ≤ 1) :
    resultOf (refusal ++ reports.filterMap reportError?) =
      resultOf (refusal ++ reports'.filterMap reportError?) := by
  cases refusal with
  | cons first rest => rfl
  | nil =>
      have hone : reports.countP (· ≠ .delivered) ≤ 1 := by
        rcases hfirst with hrefused | hone
        · exact absurd rfl hrefused
        · exact hone
      have hfailures := h.filterMap reportError?
      rw [← length_failures] at hone
      rw [List.nil_append, List.nil_append]
      -- a list of at most one failure is the only one of its members
      cases hlist : reports.filterMap reportError? with
      | nil =>
          rw [hlist] at hfailures
          rw [hfailures.nil_eq]
      | cons failure rest =>
          rw [hlist] at hfailures hone
          obtain rfl : rest = [] := List.length_eq_zero_iff.mp (by simpa using hone)
          rw [List.perm_singleton.mp hfailures.symm]

/-- What is reported about a batch depends on the categories of its errors only. -/
theorem closingEvents_congr (encodings : List Encoding) {errors errors' : List PublishError}
    (hnil : errors = [] ↔ errors' = [])
    (h : errors.filterMap PublishError.category = errors'.filterMap PublishError.category) :
    closingEvents encodings errors = closingEvents encodings errors' := by
  have hcategories : ∀ list : List PublishError, list ≠ [] →
      closingEvents encodings list = (list.filterMap PublishError.category).map .sendError := by
    intro list hlist
    rw [List.map_filterMap]
    cases list with
    | nil => exact absurd rfl hlist
    | cons first rest => rfl
  by_cases hempty : errors = []
  · rw [hempty, hnil.mp hempty]
  · rw [hcategories errors hempty, hcategories errors' (mt hnil.mpr hempty), h]

end Errors

/-! ## Brokers -/

/-- Two brokers do the same with the records of a publisher, but for the order of their reports. They
take the same records and refuse the same one, and there is exactly one report for each record that
was taken. -/
structure SameUpToOrder (p : Publisher) (b : Broker σ) (b' : Broker τ) (room : Nat)
    (records : List Record) (s : σ) (s' : τ) : Prop where
  submission : (submit b records (b.openBatch room s)).1 =
    (submit b' records (b'.openBatch room s')).1
  once : (reportsOf p b room records s).received.length =
    (submit b records (b.openBatch room s)).1.accepted.length
  reordered : (reportsOf p b room records s).received.Perm (reportsOf p b' room records s').received

/-- If there is one report for each record that was taken, all of them are received and no report is
missing. -/
theorem exchange_of_once (p : Publisher) (b : Broker σ) (room : Nat) (records : List Record) (s : σ)
    (h : (reportsOf p b room records s).received.length =
      (submit b records (b.openBatch room s)).1.accepted.length) :
    (exchange p b room records s).1.received = (reportsOf p b room records s).received
      ∧ (exchange p b room records s).1.errors =
        (submit b records (b.openBatch room s)).1.errors
          ++ (reportsOf p b room records s).received.filterMap reportError? := by
  have hcount : (submit b records (b.openBatch room s)).1.accepted.length =
      acceptedCount (answersOf b room records s) := length_accepted_exchange p b room records s
  have hreceived : (exchange p b room records s).1.received =
      (reportsOf p b room records s).received := by
    rw [received_exchange, List.take_of_length_le (by omega)]
  refine ⟨hreceived, ?_⟩
  rw [errors_exchange, if_neg (by omega), List.append_nil, hreceived]
  rfl

/-- What two exchanges have in common although reports have come in another order. -/
structure ExchangedAlike (e e' : Exchange) : Prop where
  submission : e.submission = e'.submission
  nil_iff : e.errors = [] ↔ e'.errors = []
  categories : e.errors.filterMap PublishError.category =
    e'.errors.filterMap PublishError.category
  result : e.submission.refused ≠ none ∨ e.received.countP (· ≠ .delivered) ≤ 1 →
    resultOf e.errors = resultOf e'.errors

theorem exchangedAlike (p : Publisher) {b : Broker σ} {b' : Broker τ} {room : Nat}
    {records : List Record} {s : σ} {s' : τ} (h : SameUpToOrder p b b' room records s s') :
    ExchangedAlike (exchange p b room records s).1 (exchange p b' room records s').1 := by
  have honce' : (reportsOf p b' room records s').received.length =
      (submit b' records (b'.openBatch room s')).1.accepted.length := by
    rw [← h.submission, ← h.once, h.reordered.length_eq]
  obtain ⟨hreceived, herrors⟩ := exchange_of_once p b room records s h.once
  obtain ⟨-, herrors'⟩ := exchange_of_once p b' room records s' honce'
  rw [← h.submission] at herrors'
  refine ⟨h.submission, ?_, ?_, fun hfirst => ?_⟩
  · rw [herrors, herrors']
    exact errors_eq_nil_iff_of_perm h.reordered
  · rw [herrors, herrors']
    exact categories_of_perm h.reordered
  · rw [herrors, herrors']
    refine resultOf_of_perm h.reordered ?_
    rcases hfirst with hrefused | hone
    · left
      obtain ⟨refusal, hrefusal⟩ := Option.ne_none_iff_exists.mp hrefused
      have hsubmit : (submit b records (b.openBatch room s)).1.refused = some refusal :=
        hrefusal.symm
      rw [Submission.errors, hsubmit]
      exact List.cons_ne_nil _ _
    · right
      rw [← hreceived]
      exact hone

/-! ## Batches -/

/-- What two runs of a batch have in common although reports have come in another order. -/
structure SettledAlike (o : Outcome × State σ) (o' : Outcome × State τ) : Prop where
  ok_iff : o.1.result = .ok () ↔ o'.1.result = .ok ()
  /-- The same is measured, and every category of errors counted as often. -/
  events : o.1.events = o'.1.events
  cache : o.2.cache = o'.2.cache
  pools : o.2.pools = o'.2.pools
  /-- The error is the same if the broker has refused a record, or if at most one report is a
  failure. -/
  result : o.1.submission.refused ≠ none ∨ o.1.received.countP (· ≠ .delivered) ≤ 1 →
    o.1.result = o'.1.result

theorem settledAlike_send (p : Publisher) {b : Broker σ} {b' : Broker τ} (now : Timestamp)
    {metrics : List Metric} {keys : List MetricKey} {cache : Option KeyCache} {pools : BufferPools}
    {s : σ} {s' : τ}
    (h : SameUpToOrder p b b' metrics.length (batchRecords p now metrics keys ⟨cache, pools, s⟩)
      s s') :
    SettledAlike (send p b now metrics keys ⟨cache, pools, s⟩)
      (send p b' now metrics keys ⟨cache, pools, s'⟩) := by
  obtain ⟨hsubmission, hnil, hcategories, hresult⟩ := exchangedAlike p h
  have hok : (send p b now metrics keys ⟨cache, pools, s⟩).1.result = .ok () ↔
      (send p b' now metrics keys ⟨cache, pools, s'⟩).1.result = .ok () :=
    resultOf_eq_ok_iff.trans (hnil.trans resultOf_eq_ok_iff.symm)
  refine ⟨hok, ?_, ?_, rfl, hresult⟩
  · exact congrArg₂ (· ++ ·) (congrArg Submission.sizes hsubmission)
      (closingEvents_congr _ hnil hcategories)
  · -- the cache learns of the errors only whether there are any
    by_cases hsucceeds : (send p b now metrics keys ⟨cache, pools, s⟩).1.result = .ok ()
    · rw [cache_send_of_ok hsucceeds, cache_send_of_ok (hok.mp hsucceeds)]
      rfl
    · rw [cache_send_of_failed hsucceeds, cache_send_of_failed (mt hok.mpr hsucceeds)]
      rfl

/-- A batch that has failed leaves the same cache in whatever order it forgets its series. -/
theorem forgetAll_perm (cache : Option KeyCache) {keys others : List MetricKey}
    (h : keys.Perm others) : forgetAll cache keys = forgetAll cache others := by
  cases cache with
  | none => rfl
  | some c => rw [forgetAll_eq_run, forgetAll_eq_run, KeyCache.run_forgets_perm c h]

/-- **The order in which delivery reports arrive does not matter.**

Take any batch in any state of a publisher, and two brokers that do the same with its records but for
the order of their reports, of which there is exactly one for each record that was taken. Either both
runs succeed or both fail. The same is measured, so that errors of every category are counted as
often, and the caches and the pools are the same afterwards. The error that is returned is the same
too if a record was refused or at most one report is a failure.

This holds in whatever order a failed batch forgets the series that it was the first to describe. -/
theorem report_order_immaterial (p : Publisher) (b : Broker σ) (b' : Broker τ) (now : Timestamp)
    (batch : List Metric) (cache : Option KeyCache) (pools : BufferPools) (s : σ) (s' : τ)
    (h : ∀ metrics keys, normalize p.schemas batch = (metrics, .ok keys) →
      SameUpToOrder p b b' batch.length (batchRecords p now metrics keys ⟨cache, pools, s⟩) s s') :
    SettledAlike (publishAt p b now batch ⟨cache, pools, s⟩)
        (publishAt p b' now batch ⟨cache, pools, s'⟩)
      ∧ ∀ metrics keys, normalize p.schemas batch = (metrics, .ok keys) →
        (publishAt p b now batch ⟨cache, pools, s⟩).1.result ≠ .ok () → ∀ order : List MetricKey,
        order.Perm (encodeBatch p now metrics keys ⟨cache, pools, s⟩).2.described →
        (publishAt p b' now batch ⟨cache, pools, s'⟩).2.cache =
          forgetAll (encodeBatch p now metrics keys ⟨cache, pools, s⟩).2.cache order := by
  by_cases hbatch : batch = []
  · subst hbatch
    refine ⟨⟨Iff.rfl, rfl, rfl, rfl, fun _ => rfl⟩, fun metrics keys _ hfailed => ?_⟩
    exact absurd rfl hfailed
  · rcases hnormal : normalize p.schemas batch with ⟨metrics, result⟩
    cases result with
    | error e =>
        refine ⟨?_, fun metrics keys hkeys => ?_⟩
        · rw [publishAt_of_invalid b now _ hnormal, publishAt_of_invalid b' now _ hnormal]
          exact ⟨Iff.rfl, rfl, rfl, rfl, fun _ => rfl⟩
        · cases hkeys
    | ok keys =>
        obtain ⟨hlength, -⟩ := length_normalize hnormal
        have hsame := h metrics keys hnormal
        rw [← hlength] at hsame
        have halike := settledAlike_send p now hsame
        rw [publishAt_of_normalize hbatch hnormal, publishAt_of_normalize hbatch hnormal]
        refine ⟨halike, fun metrics keys hkeys hfailed order horder => ?_⟩
        cases hkeys
        rw [← halike.cache, cache_send_of_failed hfailed]
        exact forgetAll_perm _ horder.symm

/-- One of two records fails, and its report comes first or last. -/
theorem report_order_immaterial_of_failure :
    let m : Metric := { id := "1.000102030405060708090a0b0c0d0e0f", interval := 10 }
    let p : Publisher :=
      { partitioner := ⟨.byOrg, 1, by decide⟩
        schemas := ⟨[], ⟨"default", default, ⟨60, 3600, by decide, by decide⟩, []⟩⟩ }
    let b : List DeliveryReport → Broker Nat := fun reports =>
      { openBatch := fun _ _ => 0
        produce := fun _ k => (.ok (), k + 1)
        closeBatch := fun _ k => (⟨reports, .disconnected⟩, k) }
    let cache : KeyCache := ⟨.clamp 36, .ofSeconds 3600, 1, ∅⟩
    let s : State Nat := ⟨some cache, .ofMaxIdle 8, 0⟩
    let o := publishAt p (b [.failed 0 "gone", .delivered]) ⟨600⟩ [m, m] s
    let o' := publishAt p (b [.delivered, .failed 0 "gone"]) ⟨600⟩ [m, m] s
    o.1.events = o'.1.events ∧ o.2.cache = o'.2.cache
      ∧ o.1.result = .error (.delivery 0 "gone") ∧ o'.1.result = .error (.delivery 0 "gone") := by
  intro m p b cache s o o'
  have hnormal : normalize p.schemas [m, m] =
      ([m, m], .ok (List.replicate 2 ⟨⟨1⟩, ⟨.ofFn fun i => i.toNat.toUInt8⟩⟩)) := by cbv
  obtain ⟨halike, -⟩ := report_order_immaterial p (b [.failed 0 "gone", .delivered])
    (b [.delivered, .failed 0 "gone"]) ⟨600⟩ [m, m] (some cache) (.ofMaxIdle 8) 0 0
    (by
      intro metrics keys hkeys
      rw [hnormal] at hkeys
      cases hkeys
      exact ⟨rfl, rfl, .swap ..⟩)
  have hresult : o.1.result = .error (.delivery 0 "gone") := by
    rw [show o = _ from publishAt_of_normalize (by simp) hnormal]
    rfl
  refine ⟨halike.events, halike.cache, hresult, ?_⟩
  rw [← halike.result (Or.inr (by decide)), ← hresult]

end MetricGateway.Publish
