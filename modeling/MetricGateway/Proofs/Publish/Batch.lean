import MetricGateway.Proofs.Publish.Exchange

/-!
# Batches and their records

A batch is normalized as a whole or not at all. If it is, every metric is encoded
and becomes a record, and the records that are submitted are the first of these.
So the record at a place of the submission can be traced back to the metric at
the same place of the batch, to its key and to its message.
-/

namespace MetricGateway.Publish

open Routing (Broker Record)

variable {σ : Type}

/-! ## Normalization -/

/-- A batch is normalized one metric after the other. -/
theorem normalize_cons_ok {schemas : Storage.Schemas} {m : Metric} {rest metrics : List Metric}
    {keys : List MetricKey} (h : normalize schemas (m :: rest) = (metrics, .ok keys)) :
    ∃ key others keys', (resolve schemas m).key = .ok key
      ∧ normalize schemas rest = (others, .ok keys')
      ∧ metrics = resolve schemas m :: others ∧ keys = key :: keys' := by
  rw [normalize] at h
  dsimp only at h
  cases hkey : (resolve schemas m).key with
  | error e => rw [hkey] at h; cases h
  | ok key =>
      rw [hkey] at h
      rcases hrest : normalize schemas rest with ⟨others, result⟩
      rw [hrest] at h
      cases result with
      | error e => cases h
      | ok keys' => cases h; exact ⟨key, others, keys', rfl, rfl, rfl, rfl⟩

theorem length_normalize {schemas : Storage.Schemas} {batch metrics : List Metric}
    {keys : List MetricKey} (h : normalize schemas batch = (metrics, .ok keys)) :
    metrics.length = batch.length ∧ keys.length = batch.length := by
  induction batch generalizing metrics keys with
  | nil => cases h; exact ⟨rfl, rfl⟩
  | cons m rest ih =>
      obtain ⟨key, others, keys', -, hrest, rfl, rfl⟩ := normalize_cons_ok h
      obtain ⟨hmetrics, hkeys⟩ := ih hrest
      exact ⟨congrArg (· + 1) hmetrics, congrArg (· + 1) hkeys⟩

/-- Every metric of a normalized batch has been resolved. -/
theorem metrics_of_normalize {schemas : Storage.Schemas} {batch metrics : List Metric}
    {keys : List MetricKey} (h : normalize schemas batch = (metrics, .ok keys)) :
    metrics = batch.map (resolve schemas) := by
  induction batch generalizing metrics keys with
  | nil => cases h; rfl
  | cons m rest ih =>
      obtain ⟨key, others, keys', -, hrest, rfl, rfl⟩ := normalize_cons_ok h
      rw [ih hrest, List.map_cons]

/-- The key of a normalized metric is the one that was read. -/
theorem key_of_normalize {schemas : Storage.Schemas} {batch metrics : List Metric}
    {keys : List MetricKey} (h : normalize schemas batch = (metrics, .ok keys)) {i : Nat}
    {m : Metric} {key : MetricKey} (hm : metrics[i]? = some m) :
    keys[i]? = some key ↔ m.key = .ok key := by
  induction batch generalizing metrics keys i with
  | nil => cases h; cases hm
  | cons first rest ih =>
      obtain ⟨key', others, keys', hkey, hrest, rfl, rfl⟩ := normalize_cons_ok h
      cases i with
      | zero =>
          cases hm
          rw [hkey, List.getElem?_cons_zero, Option.some.injEq, Except.ok.injEq]
      | succ i => exact ih hrest hm

/-- A schema always has an interval, so there is nothing left to resolve. -/
theorem resolve_resolve (schemas : Storage.Schemas) (m : Metric) :
    resolve schemas (resolve schemas m) = resolve schemas m := by
  by_cases h : m.interval = 0
  · have hpos := (schemas.find m.name).interval_pos
    have hkept : (resolve schemas m).interval = (schemas.find m.name).interval := by
      rw [resolve, if_pos h]; rfl
    rw [resolve, if_neg]
    rw [hkept]
    exact (UInt32.ne_of_lt hpos).symm
  · rw [resolve, if_neg]
    rw [resolve, if_neg h]
    exact h

/-- **Normalizing a batch again changes nothing.** -/
theorem normalize_normalized {schemas : Storage.Schemas} {batch metrics : List Metric}
    {keys : List MetricKey} (h : normalize schemas batch = (metrics, .ok keys)) :
    normalize schemas metrics = (metrics, .ok keys) := by
  induction batch generalizing metrics keys with
  | nil => cases h; rfl
  | cons m rest ih =>
      obtain ⟨key, others, keys', hkey, hrest, rfl, rfl⟩ := normalize_cons_ok h
      rw [normalize, resolve_resolve]
      dsimp only
      rw [hkey, ih hrest]
      rfl

/-! ## Records -/

/-- The records of a batch whose metrics have been normalized. -/
def batchRecords (p : Publisher) (now : Timestamp) (metrics : List Metric) (keys : List MetricKey)
    (s : State σ) : List Record :=
  recordsOf p metrics (encodeBatch p now metrics keys s).1

theorem length_encode (format : Wire.PointFormat) (now : Timestamp)
    (pairs : List (Metric × MetricKey)) (s : EncodingState) :
    (encode format now pairs s).1.length = pairs.length := by
  induction pairs generalizing s with
  | nil => rfl
  | cons pair rest ih => exact congrArg (· + 1) (ih _)

theorem length_batchRecords (p : Publisher) (now : Timestamp) {metrics : List Metric}
    {keys : List MetricKey} (s : State σ) (h : keys.length = metrics.length) :
    (batchRecords p now metrics keys s).length = metrics.length := by
  rw [batchRecords, recordsOf, List.length_map, List.length_zip, encodeBatch, length_encode,
    List.length_zip]
  omega

/-- The record at a place is that of the metric and the message at this place. -/
theorem getElem?_batchRecords {p : Publisher} {now : Timestamp} {metrics : List Metric}
    {keys : List MetricKey} {s : State σ} {i : Nat} {r : Record} :
    (batchRecords p now metrics keys s)[i]? = some r ↔ ∃ m encoding message,
      metrics[i]? = some m ∧ (encodeBatch p now metrics keys s).1[i]? = some (encoding, message)
        ∧ r = recordOf p m message := by
  rw [batchRecords, recordsOf, List.getElem?_map, Option.map_eq_some_iff]
  constructor
  · rintro ⟨⟨m, encoding, message⟩, hzip, rfl⟩
    obtain ⟨hm, hmessage⟩ := List.getElem?_zip_eq_some.mp hzip
    exact ⟨m, encoding, message, hm, hmessage, rfl⟩
  · rintro ⟨m, encoding, message, hm, hmessage, rfl⟩
    exact ⟨(m, encoding, message), List.getElem?_zip_eq_some.mpr ⟨hm, hmessage⟩, rfl⟩

/-! ## Publishing -/

/-- A batch that is normalized is sent. -/
theorem publishAt_of_normalize {p : Publisher} {b : Broker σ} {now : Timestamp}
    {batch metrics : List Metric} {keys : List MetricKey} {s : State σ} (hbatch : batch ≠ [])
    (h : normalize p.schemas batch = (metrics, .ok keys)) :
    publishAt p b now batch s = send p b now metrics keys s := by
  rw [publishAt, if_neg (by simpa using hbatch), h]

/-- A batch that cannot be normalized is given up. -/
theorem publishAt_of_invalid {p : Publisher} (b : Broker σ) (now : Timestamp)
    {batch metrics : List Metric} {e : InvalidId} (s : State σ)
    (h : normalize p.schemas batch = (metrics, .error e)) :
    publishAt p b now batch s = ({ result := .error (.invalidMetric e), metrics }, s) := by
  have hbatch : batch ≠ [] := by
    intro hbatch
    rw [hbatch] at h
    cases h
  rw [publishAt, if_neg (by simpa using hbatch), h]

/-- Publishing a batch does nothing, because there is nothing to do or a metric is invalid, or sends
it. -/
theorem publishAt_cases (p : Publisher) (b : Broker σ) (now : Timestamp) (batch : List Metric)
    (s : State σ) :
    (∃ result metrics, publishAt p b now batch s = ({ result, metrics }, s))
      ∨ ∃ metrics keys, normalize p.schemas batch = (metrics, .ok keys)
        ∧ publishAt p b now batch s = send p b now metrics keys s := by
  by_cases hbatch : batch = []
  · subst hbatch
    exact Or.inl ⟨_, _, rfl⟩
  · rcases hnormal : normalize p.schemas batch with ⟨metrics, result⟩
    cases result with
    | error e =>
        exact Or.inl ⟨.error (.invalidMetric e), metrics, publishAt_of_invalid b now s hnormal⟩
    | ok keys => exact Or.inr ⟨metrics, keys, rfl, publishAt_of_normalize hbatch hnormal⟩

/-- A record was submitted for a metric at some place of the batch, and the metric is a sample of
the given series. -/
structure Outcome.Sent (o : Outcome) (key : MetricKey) (i : Nat) (m : Metric) (r : Record) :
    Prop where
  metric : o.metrics[i]? = some m
  key : m.key = .ok key
  record : o.submission.records[i]? = some r

/-- Only a batch that is sent has submitted records. -/
theorem exists_send_of_sent {p : Publisher} {b : Broker σ} {now : Timestamp} {batch : List Metric}
    {s : State σ} {key : MetricKey} {i : Nat} {m : Metric} {r : Record}
    (h : (publishAt p b now batch s).1.Sent key i m r) :
    ∃ metrics keys, normalize p.schemas batch = (metrics, .ok keys)
      ∧ publishAt p b now batch s = send p b now metrics keys s := by
  rcases publishAt_cases p b now batch s with ⟨result, metrics, heq⟩ | hsend
  · -- nothing is submitted
    have hrecord := h.record
    rw [heq] at hrecord
    cases hrecord
  · exact hsend

/-- The records that a batch has submitted are the first of its records. -/
theorem records_send (p : Publisher) (b : Broker σ) (now : Timestamp) (metrics : List Metric)
    (keys : List MetricKey) (s : State σ) :
    (send p b now metrics keys s).1.submission.records =
      (batchRecords p now metrics keys s).take (acceptedCount (answersOf b metrics.length
        (batchRecords p now metrics keys s) s.broker) + 1) :=
  records_exchange p b metrics.length (batchRecords p now metrics keys s) s.broker

/-- What is sent for a series is the message that was encoded for it. -/
theorem sent_send {p : Publisher} {b : Broker σ} {now : Timestamp} {batch metrics : List Metric}
    {keys : List MetricKey} {s : State σ}
    (hnormal : normalize p.schemas batch = (metrics, .ok keys)) {key : MetricKey} {i : Nat}
    {m : Metric} {r : Record} (h : (send p b now metrics keys s).1.Sent key i m r) :
    ∃ encoding message, (metrics.zip keys)[i]? = some (m, key)
      ∧ (encodeBatch p now metrics keys s).1[i]? = some (encoding, message)
      ∧ r = recordOf p m message := by
  have hrecord := h.record
  -- the place is the same in all lists, since only the last records are cut off
  have htaken : (batchRecords p now metrics keys s)[i]? = some r := by
    rw [records_send, List.getElem?_take] at hrecord
    split at hrecord
    · exact hrecord
    · cases hrecord
  obtain ⟨m', encoding, message, hm', hmessage, rfl⟩ := getElem?_batchRecords.mp htaken
  have hm : metrics[i]? = some m := h.metric
  obtain rfl : m' = m := Option.some.inj (hm'.symm.trans hm)
  exact ⟨encoding, message,
    List.getElem?_zip_eq_some.mpr ⟨hm, (key_of_normalize hnormal hm).mpr h.key⟩, hmessage, rfl⟩

end MetricGateway.Publish
