import MetricGateway.Proofs.Publish.Batch

/-!
# What comes of a batch

A batch of metrics that has been normalized becomes one record per metric. What
comes of it is settled by the answers of the broker to these records and by the
reports on the channel of the batch, and by nothing else: which records are
submitted, which reports are received, what the batch returns and what it counts.

Three kinds of errors compete for being returned. A refusal is noticed first,
then the failures among the reports in the order of their arrival, then that
reports are missing. All of them are counted, the first is returned.
-/

namespace MetricGateway.Publish

open Routing (Broker DeliveryReport Record Reports SendFailed)

variable {σ : Type}

/-- The category that an event counts, if it counts an error. -/
def Event.sendError? : Event → Option SendErrorCategory
  | .sendError category => some category
  | _ => none

/-- How the outcome of a batch follows from the answers of the broker to its records and from the
reports that the broker has for it. -/
structure Settlement (p : Publisher) (records : List Record)
    (answers : List (Except SendFailed Unit)) (reports : Reports p.ackTimeout) (o : Outcome) :
    Prop where
  /-- Records are submitted in order, up to and including the first refusal. -/
  submitted : o.submission.records = records.take (acceptedCount answers + 1)
  /-- Those before it have been taken. -/
  accepted : o.submission.accepted = records.take (acceptedCount answers)
  /-- Either all are taken or there is a first refusal. -/
  stopped : acceptedCount answers = records.length
    ∨ ∃ e, answers[acceptedCount answers]? = some (.error e)
  /-- At most one report is received for each record that was taken. -/
  received : o.received = reports.received.take (acceptedCount answers)
  /-- The batch succeeds if all records are taken and as many reports come, all of them good. -/
  ok_iff : o.result = .ok () ↔ acceptedCount answers = records.length
    ∧ records.length ≤ reports.received.length
    ∧ ∀ report ∈ reports.received.take records.length, report = .delivered
  /-- A refusal is returned before anything else. -/
  refused : ∀ e, answers[acceptedCount answers]? = some (.error e) →
    o.result = .error (.producer e)
  /-- Without a refusal, the first failure that arrived is returned. -/
  failed : acceptedCount answers = records.length → ∀ before partition error after,
    o.received = before ++ .failed partition error :: after →
    (∀ report ∈ before, report = .delivered) → o.result = .error (.delivery partition error)
  /-- Without either, the error says how many reports are missing. -/
  missing : acceptedCount answers = records.length →
    (∀ report ∈ o.received, report = .delivered) →
    reports.received.length < acceptedCount answers →
    (reports.ending = .disconnected →
      o.result = .error (.missingReports (acceptedCount answers - o.received.length)))
    ∧ ∀ timeout waits, reports.ending = .silent timeout waits →
      o.result = .error (.ackTimeout timeout (acceptedCount answers - o.received.length))
  /-- Every error is counted once: a refusal, each failure received, and an early end. -/
  counted : o.events.filterMap Event.sendError? =
    (if acceptedCount answers < records.length then [.producer] else [])
      ++ List.replicate (o.received.countP (· ≠ .delivered)) .broker
      ++ if reports.received.length < acceptedCount answers then [.unexpected] else []

/-! ## Results -/

theorem resultOf_eq_ok_iff {errors : List PublishError} :
    resultOf errors = .ok () ↔ errors = [] := by
  cases errors <;> simp [resultOf]

theorem sendErrors_sizes (submission : Submission) :
    submission.sizes.filterMap Event.sendError? = [] := by
  rw [Submission.sizes, List.filterMap_eq_nil_iff]
  intro event hmem
  obtain ⟨r, _, rfl⟩ := List.mem_map.mp hmem
  rfl

theorem sendErrors_closingEvents (encodings : List Encoding) (errors : List PublishError) :
    (closingEvents encodings errors).filterMap Event.sendError? =
      errors.filterMap PublishError.category := by
  cases errors with
  | nil => rfl
  | cons first rest =>
      show ((first :: rest).filterMap fun e => e.category.map Event.sendError).filterMap
        Event.sendError? = _
      rw [List.filterMap_filterMap]
      congr 1
      funext e
      cases e.category <;> rfl

/-! ## The errors of an exchange -/

section Errors

variable (p : Publisher) (b : Broker σ) (room : Nat) (records : List Record) (s : σ)

/-- Either all records are taken and there is no refusal, or the first refusal is noticed. -/
theorem submission_errors_exchange :
    (acceptedCount (answersOf b room records s) = records.length
        ∧ (exchange p b room records s).1.submission.errors = [])
      ∨ ∃ e, acceptedCount (answersOf b room records s) < records.length
        ∧ (answersOf b room records s)[acceptedCount (answersOf b room records s)]? =
          some (.error e)
        ∧ (exchange p b room records s).1.submission.errors = [.producer e] :=
  errors_submit b records (b.openBatch room s)

/-- A refusal comes first among the errors. -/
theorem errors_exchange_of_refused {e : SendFailed}
    (h : (answersOf b room records s)[acceptedCount (answersOf b room records s)]? =
      some (.error e)) :
    ∃ rest, (exchange p b room records s).1.errors = .producer e :: rest := by
  rcases submission_errors_exchange p b room records s with ⟨hall, -⟩ | ⟨e', -, hanswer, herrors⟩
  · -- No answer stands behind that to the last record.
    obtain ⟨hlt, -⟩ := List.getElem?_eq_some_iff.mp h
    rw [length_answersOf, hall] at hlt
    exact absurd hlt (Nat.lt_irrefl _)
  · rw [h] at hanswer
    cases hanswer
    rw [errors_exchange, herrors]
    exact ⟨_, rfl⟩

/-- If all records are taken, the errors are those of the reports. -/
theorem errors_exchange_of_taken
    (h : acceptedCount (answersOf b room records s) = records.length) :
    (exchange p b room records s).1.errors =
      (exchange p b room records s).1.received.filterMap reportError?
        ++ if (reportsOf p b room records s).received.length < records.length
           then [missingError (reportsOf p b room records s).ending
              (records.length - (reportsOf p b room records s).received.length)]
           else [] := by
  rcases submission_errors_exchange p b room records s with ⟨-, hnone⟩ | ⟨e, hlt, -, -⟩
  · rw [errors_exchange, hnone, h, List.nil_append]
  · omega

/-- There is no error if and only if all records are taken, as many reports come, and all of them
are good. -/
theorem errors_exchange_eq_nil_iff :
    (exchange p b room records s).1.errors = [] ↔
      acceptedCount (answersOf b room records s) = records.length
        ∧ records.length ≤ (reportsOf p b room records s).received.length
        ∧ ∀ report ∈ (reportsOf p b room records s).received.take records.length,
          report = .delivered := by
  rcases submission_errors_exchange p b room records s with ⟨hall, -⟩ | ⟨e, hlt, hanswer, -⟩
  · rw [errors_exchange_of_taken p b room records s hall, List.append_eq_nil_iff,
      failures_eq_nil_iff, received_exchange, hall]
    constructor
    · rintro ⟨hgood, hend⟩
      refine ⟨rfl, Nat.le_of_not_lt fun hlt => ?_, hgood⟩
      rw [if_pos hlt] at hend
      cases hend
    · rintro ⟨-, henough, hgood⟩
      exact ⟨hgood, if_neg (Nat.not_lt.mpr henough)⟩
  · obtain ⟨rest, herrors⟩ := errors_exchange_of_refused p b room records s hanswer
    rw [herrors]
    constructor
    · intro hnil; cases hnil
    · rintro ⟨hall, -⟩; omega

/-- Every error falls into one category: a refusal, a failure, or an early end. -/
theorem categories_exchange :
    (exchange p b room records s).1.errors.filterMap PublishError.category =
      (if acceptedCount (answersOf b room records s) < records.length then [.producer] else [])
        ++ List.replicate
          ((exchange p b room records s).1.received.countP (· ≠ .delivered)) .broker
        ++ if (reportsOf p b room records s).received.length
              < acceptedCount (answersOf b room records s)
           then [.unexpected] else [] := by
  rw [errors_exchange, List.filterMap_append, List.filterMap_append, categories_failures,
    List.append_assoc]
  congr 1
  · -- the refusal
    rcases submission_errors_exchange p b room records s with ⟨hall, hnone⟩ | ⟨e, hlt, -, hsome⟩
    · rw [hnone, if_neg (by omega)]; rfl
    · rw [hsome, if_pos hlt]; rfl
  · -- the early end
    congr 1
    split
    · rw [List.filterMap_cons_some (category_missingError ..)]; rfl
    · rfl

/-- **Settlement of an exchange.** An outcome that takes its submission and its reports from an
exchange, returns the first of its errors and counts them all is settled by it. -/
theorem settlement_of_exchange {o : Outcome}
    (hsubmission : o.submission = (exchange p b room records s).1.submission)
    (hreceived : o.received = (exchange p b room records s).1.received)
    (hresult : o.result = resultOf (exchange p b room records s).1.errors)
    (hevents : o.events.filterMap Event.sendError? =
      (exchange p b room records s).1.errors.filterMap PublishError.category) :
    Settlement p records (answersOf b room records s) (reportsOf p b room records s) o := by
  refine
    { submitted := by rw [hsubmission, records_exchange]
      accepted := by rw [hsubmission, accepted_exchange]
      stopped := ?_
      received := by rw [hreceived, received_exchange]
      ok_iff := by rw [hresult, resultOf_eq_ok_iff, errors_exchange_eq_nil_iff]
      refused := ?_
      failed := ?_
      missing := ?_
      counted := by rw [hevents, categories_exchange, hreceived] }
  · rcases submission_errors_exchange p b room records s with ⟨hall, -⟩ | ⟨e, -, hanswer, -⟩
    · exact Or.inl hall
    · exact Or.inr ⟨e, hanswer⟩
  · intro e hanswer
    obtain ⟨rest, herrors⟩ := errors_exchange_of_refused p b room records s hanswer
    rw [hresult, herrors]; rfl
  · intro hall before partition error after heq hgood
    have hfailure : reportError? (.failed partition error) =
        some (.delivery partition error) := rfl
    rw [hresult, errors_exchange_of_taken p b room records s hall, ← hreceived, heq,
      List.filterMap_append, failures_eq_nil_iff.mpr hgood, List.nil_append,
      List.filterMap_cons_some hfailure]
    rfl
  · intro hall hgood hlt
    -- All reports that the broker has are received, and none of them is an error.
    have hmany : o.received.length = (reportsOf p b room records s).received.length := by
      rw [hreceived, received_exchange, List.length_take]; omega
    rw [hall] at hlt
    rw [hresult, errors_exchange_of_taken p b room records s hall, ← hreceived,
      failures_eq_nil_iff.mpr hgood, List.nil_append, if_pos hlt, hmany, hall]
    refine ⟨?_, ?_⟩
    · intro hend
      rw [hend]; rfl
    · intro timeout waits hend
      rw [hend]; rfl

end Errors

/-! ## Batches -/

theorem settlement_send (p : Publisher) (b : Broker σ) (now : Timestamp) (metrics : List Metric)
    (keys : List MetricKey) (s : State σ) :
    Settlement p (batchRecords p now metrics keys s)
      (answersOf b metrics.length (batchRecords p now metrics keys s) s.broker)
      (reportsOf p b metrics.length (batchRecords p now metrics keys s) s.broker)
      (send p b now metrics keys s).1 := by
  refine settlement_of_exchange p b metrics.length _ s.broker rfl rfl rfl ?_
  rw [send]
  dsimp only
  rw [List.filterMap_append, sendErrors_sizes, sendErrors_closingEvents, List.nil_append]
  rfl

/-- **What comes of a batch, against an arbitrary broker.** A batch that is normalized becomes one
record per metric, in order. The broker has seen these records up to the first that it refuses, and
then the end of the batch, when the batch is over; and its answers and reports settle what the batch
returns and counts. -/
theorem publishAt_settled (p : Publisher) (b : Broker σ) (now : Timestamp) (batch : List Metric)
    (s : State σ) (hbatch : batch ≠ []) {metrics : List Metric} {keys : List MetricKey}
    (hnormal : normalize p.schemas batch = (metrics, .ok keys)) :
    ∃ records, records = batchRecords p now metrics keys s
      ∧ records.length = batch.length
      ∧ (∀ (i : Nat) r, records[i]? = some r → ∃ m encoding message, metrics[i]? = some m
          ∧ (encodeBatch p now metrics keys s).1[i]? = some (encoding, message)
          ∧ r = recordOf p m message)
      ∧ (publishAt p b now batch s).2.broker =
          (b.closeBatch p.ackTimeout (b.feed (records.take
            (acceptedCount (answersOf b batch.length records s.broker) + 1))
            (b.openBatch batch.length s.broker))).2
      ∧ Settlement p records (answersOf b batch.length records s.broker)
          (reportsOf p b batch.length records s.broker) (publishAt p b now batch s).1 := by
  obtain ⟨hmetrics, hkeys⟩ := length_normalize hnormal
  rw [publishAt_of_normalize hbatch hnormal, ← hmetrics]
  refine ⟨_, rfl, ?_, fun i r => getElem?_batchRecords.mp, ?_,
    settlement_send p b now metrics keys s⟩
  · rw [length_batchRecords p now s (by omega)]
  · exact broker_exchange p b metrics.length (batchRecords p now metrics keys s) s.broker

/-- A broker that refuses the third of four records, has failed the first and is silent about the
second: the refusal is returned, and all three errors are counted. -/
theorem publishAt_settled_of_refusal :
    let m : Metric := { id := "1.000102030405060708090a0b0c0d0e0f", interval := 10 }
    let p : Publisher :=
      { partitioner := ⟨.byOrg, 1, by decide⟩
        schemas := ⟨[], ⟨"default", default, ⟨60, 3600, by decide, by decide⟩, []⟩⟩
        ackTimeout := some (.ofSeconds 5) }
    let b : Broker Nat :=
      { openBatch := fun _ _ => 0
        produce := fun _ n => (if n < 2 then .ok () else .error ⟨"queue is full"⟩, n + 1)
        closeBatch := fun patience n => (⟨[.failed 0 "gone"], match patience with
          | some timeout => .silent timeout rfl
          | none => .disconnected⟩, n) }
    let o := (publishAt p b ⟨0⟩ [m, m, m, m] ⟨none, .ofMaxIdle 0, 0⟩).1
    o.result = .error (.producer ⟨"queue is full"⟩) ∧ o.submission.records.length = 3
      ∧ o.events.filterMap Event.sendError? = [.producer, .broker, .unexpected] := by
  intro m p b o
  have hnormal : normalize p.schemas [m, m, m, m] =
      ([m, m, m, m], .ok (List.replicate 4 ⟨⟨1⟩, ⟨.ofFn fun i => i.toNat.toUInt8⟩⟩)) := by cbv
  obtain ⟨_, rfl, -, -, -, h⟩ := publishAt_settled p b ⟨0⟩ [m, m, m, m] ⟨none, .ofMaxIdle 0, 0⟩
    (by simp) hnormal
  refine ⟨h.refused ⟨"queue is full"⟩ rfl, ?_, ?_⟩
  · rw [h.submitted]; rfl
  · rw [h.counted, h.received]; rfl

end MetricGateway.Publish
