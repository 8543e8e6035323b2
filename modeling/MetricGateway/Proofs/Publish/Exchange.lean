import Mathlib.Data.List.TakeWhile
import MetricGateway.Publish.Publisher

/-!
# The exchange of a batch with a broker

Submitting and awaiting are two loops that both may end early: submission stops
at the first record that the broker refuses, and waiting stops when no more
reports come. The broker is an arbitrary state machine here. What it does to a
batch comes down to its answers, one per record as if all were submitted, and to
the reports on the channel of the batch.

Out of these two the whole outcome is read off: the records that were submitted,
the reports that were received, the error that is returned and the errors that
are counted.
-/

namespace MetricGateway.Routing.Broker

variable {σ : Type}

/-- What a broker would answer to records that are submitted one after the other. -/
def answers (b : Broker σ) : List Record → σ → List (Except SendFailed Unit)
  | [], _ => []
  | r :: rest, s => (b.produce r s).1 :: b.answers rest (b.produce r s).2

/-- The state of a broker after records have been submitted to it. -/
def feed (b : Broker σ) (records : List Record) (s : σ) : σ :=
  records.foldl (fun s r => (b.produce r s).2) s

@[simp] theorem length_answers (b : Broker σ) (records : List Record) (s : σ) :
    (b.answers records s).length = records.length := by
  induction records generalizing s with
  | nil => rfl
  | cons r rest ih => rw [answers, List.length_cons, ih, List.length_cons]

end MetricGateway.Routing.Broker

namespace MetricGateway.Publish

open Routing (Broker DeliveryReport Record Reports ReportsEnd SendFailed)

variable {σ : Type}

/-- How many records are taken before the first refusal. -/
def acceptedCount (answers : List (Except SendFailed Unit)) : Nat :=
  (answers.takeWhile (·.isOk)).length

@[simp] theorem acceptedCount_error (e : SendFailed) (answers : List (Except SendFailed Unit)) :
    acceptedCount (.error e :: answers) = 0 := rfl

@[simp] theorem acceptedCount_ok (answers : List (Except SendFailed Unit)) :
    acceptedCount (.ok () :: answers) = acceptedCount answers + 1 := rfl

theorem acceptedCount_le (answers : List (Except SendFailed Unit)) :
    acceptedCount answers ≤ answers.length := (List.takeWhile_sublist _).length_le

theorem acceptedCount_of_forall_ok {answers : List (Except SendFailed Unit)}
    (h : ∀ answer ∈ answers, answer = .ok ()) : acceptedCount answers = answers.length := by
  rw [acceptedCount, List.takeWhile_eq_self_iff.mpr]
  intro answer hmem
  rw [h answer hmem]; rfl

/-! ## Submission -/

theorem submit_of_error {b : Broker σ} {r : Record} {rest : List Record} {s s' : σ}
    {e : SendFailed} (h : b.produce r s = (.error e, s')) :
    submit b (r :: rest) s = ({ refused := some (r, e) }, s') := by
  rw [submit, h]

theorem submit_of_ok {b : Broker σ} {r : Record} {rest : List Record} {s s' : σ}
    (h : b.produce r s = (.ok (), s')) :
    submit b (r :: rest) s =
      ({ (submit b rest s').1 with accepted := r :: (submit b rest s').1.accepted },
        (submit b rest s').2) := by
  rw [submit, h]

/-- **What is submitted.** All records up to the first refusal are taken, nothing is submitted
behind the one that is refused, and the broker has seen exactly these records in this order. -/
theorem submit_spec (b : Broker σ) (records : List Record) (s : σ) :
    (submit b records s).1.accepted = records.take (acceptedCount (b.answers records s))
      ∧ (submit b records s).1.records = records.take (acceptedCount (b.answers records s) + 1)
      ∧ (submit b records s).2 =
          b.feed (records.take (acceptedCount (b.answers records s) + 1)) s := by
  induction records generalizing s with
  | nil => exact ⟨rfl, rfl, rfl⟩
  | cons r rest ih =>
      rcases h : b.produce r s with ⟨answer, s'⟩
      cases answer with
      | error e =>
          -- the refused record is the last that the broker sees
          have hcount : acceptedCount (b.answers (r :: rest) s) = 0 := by
            rw [Broker.answers, h, acceptedCount_error]
          rw [submit_of_error h, hcount]
          exact ⟨rfl, rfl, by simp [Broker.feed, h]⟩
      | ok =>
          have hcount : acceptedCount (b.answers (r :: rest) s) =
              acceptedCount (b.answers rest s') + 1 := by
            rw [Broker.answers, h, acceptedCount_ok]
          obtain ⟨haccepted, hrecords, hfeed⟩ := ih s'
          rw [submit_of_ok h, hcount]
          refine ⟨?_, ?_, ?_⟩
          · rw [List.take_succ_cons, ← haccepted]
          · rw [List.take_succ_cons, ← hrecords]; rfl
          · rw [List.take_succ_cons, Broker.feed, List.foldl_cons, h]
            exact hfeed

/-- The error of a submission is that of the first refusal. -/
theorem errors_submit (b : Broker σ) (records : List Record) (s : σ) :
    (acceptedCount (b.answers records s) = records.length
        ∧ (submit b records s).1.errors = [])
      ∨ ∃ e, acceptedCount (b.answers records s) < records.length
        ∧ (b.answers records s)[acceptedCount (b.answers records s)]? = some (.error e)
        ∧ (submit b records s).1.errors = [.producer e] := by
  induction records generalizing s with
  | nil => exact Or.inl ⟨rfl, rfl⟩
  | cons r rest ih =>
      rcases h : b.produce r s with ⟨answer, s'⟩
      cases answer with
      | error e =>
          have hcount : acceptedCount (b.answers (r :: rest) s) = 0 := by
            rw [Broker.answers, h, acceptedCount_error]
          refine Or.inr ⟨e, by rw [hcount]; simp, ?_, by rw [submit_of_error h]; rfl⟩
          rw [hcount, Broker.answers, h]; rfl
      | ok =>
          have hcount : acceptedCount (b.answers (r :: rest) s) =
              acceptedCount (b.answers rest s') + 1 := by
            rw [Broker.answers, h, acceptedCount_ok]
          rw [submit_of_ok h, hcount, List.length_cons]
          rcases ih s' with ⟨hall, herrors⟩ | ⟨e, hlt, hanswer, herrors⟩
          · exact Or.inl ⟨by rw [hall], herrors⟩
          · refine Or.inr ⟨e, by omega, ?_, herrors⟩
            rw [Broker.answers, h, List.getElem?_cons_succ]
            exact hanswer

/-! ## Waiting for reports -/

variable {patience : Option Duration}

/-- Never more reports are received than are expected. -/
theorem await_fst (ending : ReportsEnd patience) (expected : Nat) (reports : List DeliveryReport) :
    (await ending expected reports).1 = reports.take expected := by
  induction reports generalizing expected with
  | nil => cases expected <;> rfl
  | cons report rest ih =>
      cases expected with
      | zero => rfl
      | succ expected => rw [await, List.take_succ_cons, ← ih]

/-- Every failure that is received is noticed, and then that reports are missing, if they are. -/
theorem await_snd (ending : ReportsEnd patience) (expected : Nat) (reports : List DeliveryReport) :
    (await ending expected reports).2 =
      (reports.take expected).filterMap reportError?
        ++ if reports.length < expected
           then [missingError ending (expected - reports.length)] else [] := by
  induction reports generalizing expected with
  | nil => cases expected <;> rfl
  | cons report rest ih =>
      cases expected with
      | zero => rfl
      | succ expected =>
          -- the report at hand counts for the list and for the expectation alike
          rw [await, List.take_succ_cons, List.length_cons]
          dsimp only
          rw [ih, ← List.append_assoc, Nat.add_sub_add_right]
          simp only [Nat.add_lt_add_iff_right]
          cases report <;> rfl

theorem reportError?_eq_none_iff {report : DeliveryReport} :
    reportError? report = none ↔ report = .delivered := by
  cases report <;> simp [reportError?]

theorem failures_eq_nil_iff {reports : List DeliveryReport} :
    reports.filterMap reportError? = [] ↔ ∀ report ∈ reports, report = .delivered := by
  simp only [List.filterMap_eq_nil_iff, reportError?_eq_none_iff]

/-- All failures are of the category of the broker. -/
theorem categories_failures (reports : List DeliveryReport) :
    (reports.filterMap reportError?).filterMap PublishError.category =
      List.replicate (reports.countP (· ≠ .delivered)) .broker := by
  induction reports with
  | nil => rfl
  | cons report rest ih =>
      cases report with
      | delivered =>
          rw [List.filterMap_cons_none rfl, ih, List.countP_cons_of_neg (by simp)]
      | failed partition error =>
          have hfailed : reportError? (.failed partition error) =
              some (.delivery partition error) := rfl
          have hcategory : (PublishError.delivery partition error).category = some .broker := rfl
          rw [List.filterMap_cons_some hfailed, List.filterMap_cons_some hcategory, ih,
            List.countP_cons_of_pos (by simp), List.replicate_succ]

theorem category_missingError (ending : ReportsEnd patience) (missing : Nat) :
    (missingError ending missing).category = some .unexpected := by
  cases ending <;> rfl

/-! ## The exchange as a whole -/

section Exchange

variable (p : Publisher) (b : Broker σ) (room : Nat) (records : List Record) (s : σ)

/-- The answers of a broker to the records of a batch, as if all were submitted. -/
def answersOf : List (Except SendFailed Unit) := b.answers records (b.openBatch room s)

/-- The reports that a broker has for a batch. -/
def reportsOf : Reports p.ackTimeout :=
  (b.closeBatch p.ackTimeout (b.feed (records.take (acceptedCount (answersOf b room records s) + 1))
    (b.openBatch room s))).1

@[simp] theorem length_answersOf : (answersOf b room records s).length = records.length :=
  Broker.length_answers ..

theorem accepted_exchange :
    (exchange p b room records s).1.submission.accepted =
      records.take (acceptedCount (answersOf b room records s)) :=
  (submit_spec b records (b.openBatch room s)).1

theorem records_exchange :
    (exchange p b room records s).1.submission.records =
      records.take (acceptedCount (answersOf b room records s) + 1) :=
  (submit_spec b records (b.openBatch room s)).2.1

/-- The broker has seen the records that were submitted, and then the end of the batch. -/
theorem broker_exchange :
    (exchange p b room records s).2 =
      (b.closeBatch p.ackTimeout
        (b.feed (records.take (acceptedCount (answersOf b room records s) + 1))
          (b.openBatch room s))).2 := by
  rw [answersOf, ← (submit_spec b records (b.openBatch room s)).2.2]
  rfl

theorem length_accepted_exchange :
    (exchange p b room records s).1.submission.accepted.length =
      acceptedCount (answersOf b room records s) := by
  have hle := acceptedCount_le (answersOf b room records s)
  rw [length_answersOf] at hle
  rw [accepted_exchange, List.length_take, Nat.min_eq_left hle]

/-- What is awaited are the reports of the records that were taken. -/
theorem await_exchange :
    (exchange p b room records s).1.received = (await
        (reportsOf p b room records s).ending (acceptedCount (answersOf b room records s))
        (reportsOf p b room records s).received).1
      ∧ (exchange p b room records s).1.errors =
        (exchange p b room records s).1.submission.errors ++ (await
          (reportsOf p b room records s).ending (acceptedCount (answersOf b room records s))
          (reportsOf p b room records s).received).2 := by
  rw [← length_accepted_exchange p, reportsOf, answersOf,
    ← (submit_spec b records (b.openBatch room s)).2.2]
  exact ⟨rfl, rfl⟩

theorem received_exchange :
    (exchange p b room records s).1.received =
      (reportsOf p b room records s).received.take
        (acceptedCount (answersOf b room records s)) := by
  rw [(await_exchange p b room records s).1, await_fst]

/-- All errors of an exchange: a refusal, the failures among the reports, and an early end. -/
theorem errors_exchange :
    (exchange p b room records s).1.errors =
      (exchange p b room records s).1.submission.errors
        ++ ((exchange p b room records s).1.received.filterMap reportError?
          ++ if (reportsOf p b room records s).received.length
                < acceptedCount (answersOf b room records s)
             then [missingError (reportsOf p b room records s).ending
                (acceptedCount (answersOf b room records s)
                  - (reportsOf p b room records s).received.length)]
             else []) := by
  rw [(await_exchange p b room records s).2, await_snd, received_exchange]

end Exchange

end MetricGateway.Publish
