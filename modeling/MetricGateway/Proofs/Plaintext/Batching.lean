import Mathlib.Data.List.Forall2
import MetricGateway.Plaintext.Intake
import MetricGateway.Proofs.Text.Blank

/-!
# What lines are handed on as

The intake turns lines into batches, and nobody but the publisher sees these. To
speak of them, a publisher is made to keep a record: the batches it was handed,
as they were when it got them, and what came of each. Recording has no influence
on anything else (`takeLines_recording`). This compares two runs, as do other
results about the intake, and a relation between two runs only has to be looked at
where a line is skipped, a metric is added or a batch is handed on (`Simulation`).

While lines can be read, the record and the batch under way hold exactly the
metrics of the lines so far (`Kept`): a line adds its metric to the batch, and a
batch that has reached its size goes to the record whatever the publisher says of
it. When the input ends, what is left goes there too. When a line cannot be read,
it does not, and is lost.
-/

namespace MetricGateway.Plaintext

open Publish (PublishError)

/-! ## Lines and their metrics -/

/-- The metrics of those lines that are metrics, in order. -/
def metricsOf (org : OrgId) (lines : List String) : List Metric :=
  lines.filterMap fun line => (parseLine org line).toOption

/-- The lines that hold more than white space. -/
def written (lines : List String) : List String :=
  lines.filter fun line => !Text.isBlankText line.toList

/-- The lines that hold more than white space and are no metrics. -/
def refused (org : OrgId) (lines : List String) : List String :=
  (written lines).filter fun line => (parseLine org line).toOption.isNone

theorem parseLine_of_isBlankText (org : OrgId) {line : String}
    (h : Text.isBlankText line.toList = true) : parseLine org line = .error (.fieldCount 0) := by
  rw [parseLine, (Text.Spaced.blank (Text.isBlankText_iff.mp h)).fields_eq]
  rfl

theorem metricsOf_append (org : OrgId) (lines later : List String) :
    metricsOf org (lines ++ later) = metricsOf org lines ++ metricsOf org later :=
  List.filterMap_append

theorem written_append (lines later : List String) :
    written (lines ++ later) = written lines ++ written later := List.filter_append ..

theorem refused_append (org : OrgId) (lines later : List String) :
    refused org (lines ++ later) = refused org lines ++ refused org later := by
  rw [refused, written_append, List.filter_append]
  rfl

/-- A line is blank, or it counts and is refused, or it counts and is a metric. -/
theorem line_cases (org : OrgId) (line : String) :
    (Text.isBlankText line.toList = true
      ∧ metricsOf org [line] = [] ∧ written [line] = [] ∧ refused org [line] = [])
    ∨ (Text.isBlankText line.toList = false ∧ ∃ e, parseLine org line = .error e
      ∧ metricsOf org [line] = [] ∧ written [line] = [line] ∧ refused org [line] = [line])
    ∨ (Text.isBlankText line.toList = false ∧ ∃ m, parseLine org line = .ok m
      ∧ metricsOf org [line] = [m] ∧ written [line] = [line] ∧ refused org [line] = []) := by
  cases hblank : Text.isBlankText line.toList with
  | true =>
      have hparse := parseLine_of_isBlankText org hblank
      exact Or.inl (by simp [metricsOf, refused, written, hblank, hparse, Except.toOption])
  | false =>
      cases hparse : parseLine org line with
      | error e =>
          exact Or.inr (Or.inl (by
            simp [metricsOf, refused, written, hblank, hparse, Except.toOption]))
      | ok m =>
          exact Or.inr (Or.inr (by
            simp [metricsOf, refused, written, hblank, hparse, Except.toOption]))

/-- Every line that counts is a metric or refused. -/
theorem length_metricsOf (org : OrgId) (lines : List String) :
    (metricsOf org lines).length + (refused org lines).length = (written lines).length := by
  induction lines with
  | nil => rfl
  | cons line rest ih =>
      rw [← List.singleton_append, metricsOf_append, written_append, refused_append,
        List.length_append, List.length_append, List.length_append]
      rcases line_cases org line with ⟨-, hm, hw, hr⟩ | ⟨-, e, -, hm, hw, hr⟩ | ⟨-, m, -, hm, hw, hr⟩ <;>
        simp only [hm, hw, hr, List.length_nil, List.length_singleton] <;> omega

/-! ## Publishers that keep a record -/

/-- What batches are handed to, with a record of them. -/
structure Recorded (σ : Type) where
  sink : σ
  /-- The batches in the order of the calls, each with what came of it. -/
  calls : List (List Metric × Except PublishError Unit) := []

namespace Recorded

/-- The batches that were handed over. -/
def batches {σ : Type} (r : Recorded σ) : List (List Metric) := r.calls.map (·.1)

/-- The number of batches that failed. -/
def failures {σ : Type} (r : Recorded σ) : Nat := r.calls.countP fun call => !call.2.isOk

end Recorded

namespace Intake

variable {σ : Type}

/-- A publisher that keeps a record of what it is handed. -/
def recording (publish : Publish σ) : Publish (Recorded σ) := fun batch r =>
  let (result, sink) := publish batch r.sink
  (result, { sink, calls := r.calls ++ [(batch, result)] })

/-- An intake without the record. -/
def forgetRecord (s : Intake (Recorded σ)) : Intake σ :=
  { sink := s.sink.sink, stats := s.stats, batch := s.batch, events := s.events }

/-! ## One line -/

/-- A line that is refused. -/
def skip (s : Intake σ) (line : String) (e : LineError) : Intake σ :=
  { s with
    stats := { s.stats with lines := s.stats.lines + 1, invalid := s.stats.invalid + 1 },
    events := .lineSkipped line e :: s.events }

/-- A line whose metric joins the batch. -/
def push (s : Intake σ) (m : Metric) : Intake σ :=
  { s with stats := { s.stats with lines := s.stats.lines + 1 }, batch := s.batch ++ [m] }

variable {publish : Publish σ} {org : OrgId} {batchSize : Nat} {line : String}

theorem takeLine_of_blank {s : Intake σ} (h : Text.isBlankText line.toList = true) :
    s.takeLine publish org batchSize line = s := if_pos h

theorem takeLine_of_error {s : Intake σ} {e : LineError} (hline : Text.isBlankText line.toList = false)
    (h : parseLine org line = .error e) :
    s.takeLine publish org batchSize line = s.skip line e := by
  rw [takeLine, if_neg (by simp [hline]), h]
  rfl

theorem takeLine_of_ok {s : Intake σ} {m : Metric} (hline : Text.isBlankText line.toList = false)
    (h : parseLine org line = .ok m) :
    s.takeLine publish org batchSize line =
      if batchSize ≤ (s.push m).batch.length then (s.push m).flush publish else s.push m := by
  rw [takeLine, if_neg (by simp [hline]), h]
  rfl

theorem finish_of_nil {s : Intake σ} (h : s.batch = []) : s.finish publish = s :=
  if_pos (by rw [h]; rfl)

theorem finish_of_ne_nil {s : Intake σ} (h : s.batch ≠ []) :
    s.finish publish = s.flush publish :=
  if_neg (by simpa using h)

/-- What a batch leaves when it is handed on. -/
theorem flush_recording (publish : Publish σ) (s : Intake (Recorded σ)) :
    let result := (publish s.batch s.sink.sink).1
    (s.flush (recording publish)).sink.calls = s.sink.calls ++ [(s.batch, result)]
      ∧ (s.flush (recording publish)).batch = []
      ∧ (s.flush (recording publish)).stats =
          { s.stats with
            failedBatches := s.stats.failedBatches + if result.isOk then 0 else 1 } := by
  rcases hresult : publish s.batch s.sink.sink with ⟨result | result, sink⟩ <;>
    simp [flush, recording, hresult, Except.isOk, Except.toBool]

/-- The lines of an input, one after the other. -/
def takeAll (publish : Publish σ) (org : OrgId) (batchSize : Nat) (lines : List String)
    (s : Intake σ) : Intake σ :=
  lines.foldl (fun s line => s.takeLine publish org batchSize line) s

theorem takeLines_append (publish : Publish σ) (org : OrgId) (batchSize : Nat)
    (lines : List String) (rest : List (Option String)) (s : Intake σ) :
    takeLines publish org batchSize (lines.map some ++ rest) s =
      takeLines publish org batchSize rest (s.takeAll publish org batchSize lines) := by
  induction lines generalizing s with
  | nil => rfl
  | cons line later ih => exact ih _

/-! ## Two intakes in step -/

/-- A relation between two intakes that is kept while they take in lines that are related in some way.
Such lines are both blank, both refused, or both metrics. -/
structure Simulation {τ : Type} (publish : Publish σ) (other : Publish τ) (org : OrgId)
    (SameLine : String → String → Prop) (InStep : Intake σ → Intake τ → Prop) : Prop where
  blank {line line' : String} : SameLine line line' →
    Text.isBlankText line.toList = Text.isBlankText line'.toList
  skip {s : Intake σ} {t : Intake τ} {line line' : String} {e : LineError} :
    InStep s t → SameLine line line' → parseLine org line = .error e →
      ∃ e', parseLine org line' = .error e' ∧ InStep (s.skip line e) (t.skip line' e')
  push {s : Intake σ} {t : Intake τ} {line line' : String} {m : Metric} :
    InStep s t → SameLine line line' → parseLine org line = .ok m →
      ∃ m', parseLine org line' = .ok m' ∧ InStep (s.push m) (t.push m')
  length {s : Intake σ} {t : Intake τ} : InStep s t → s.batch.length = t.batch.length
  flush {s : Intake σ} {t : Intake τ} : InStep s t → InStep (s.flush publish) (t.flush other)

namespace Simulation

variable {τ : Type} {other : Publish τ} {SameLine : String → String → Prop}
  {InStep : Intake σ → Intake τ → Prop} {s : Intake σ} {t : Intake τ} {line' : String}

/-- **Lines that are related keep two intakes in step.** -/
theorem takeLine (h : Simulation publish other org SameLine InStep) (hst : InStep s t)
    (hline : SameLine line line') :
    InStep (s.takeLine publish org batchSize line) (t.takeLine other org batchSize line') := by
  have hsame := h.blank hline
  cases hblank : Text.isBlankText line.toList with
  | true =>
      rw [takeLine_of_blank hblank, takeLine_of_blank (hsame ▸ hblank)]
      exact hst
  | false =>
      rw [hblank] at hsame
      cases hparse : parseLine org line with
      | error e =>
          obtain ⟨e', hparse', hskip⟩ := h.skip hst hline hparse
          rw [takeLine_of_error hblank hparse, takeLine_of_error hsame.symm hparse']
          exact hskip
      | ok m =>
          obtain ⟨m', hparse', hpush⟩ := h.push hst hline hparse
          rw [takeLine_of_ok hblank hparse, takeLine_of_ok hsame.symm hparse', ← h.length hpush]
          split
          · exact h.flush hpush
          · exact hpush

theorem finish (h : Simulation publish other org SameLine InStep) (hst : InStep s t) :
    InStep (s.finish publish) (t.finish other) := by
  have hempty : s.batch = [] ↔ t.batch = [] := by
    rw [← List.length_eq_zero_iff, h.length hst, List.length_eq_zero_iff]
  by_cases hs : s.batch = []
  · rw [finish_of_nil hs, finish_of_nil (hempty.mp hs)]
    exact hst
  · rw [finish_of_ne_nil hs, finish_of_ne_nil (mt hempty.mpr hs)]
    exact h.flush hst

/-- **Inputs whose lines are related, one by one, are read equally far and keep two intakes in
step.** -/
theorem takeLines (h : Simulation publish other org SameLine InStep) (batchSize : Nat)
    {reads reads' : List (Option String)} (hreads : List.Forall₂ (Option.Rel SameLine) reads reads')
    (hst : InStep s t) :
    (takeLines publish org batchSize reads s).1 = (takeLines other org batchSize reads' t).1
      ∧ InStep (takeLines publish org batchSize reads s).2
        (takeLines other org batchSize reads' t).2 := by
  induction hreads generalizing s t with
  | nil => exact ⟨rfl, h.finish hst⟩
  | cons hread _ ih =>
      cases hread with
      | none => exact ⟨rfl, hst⟩
      | some hline => exact ih (h.takeLine hst hline)

/-- The same input is taken in by both. -/
theorem takeLines_same (h : Simulation publish other org Eq InStep) (batchSize : Nat)
    (reads : List (Option String)) (hst : InStep s t) :
    (Intake.takeLines publish org batchSize reads s).1 =
        (Intake.takeLines other org batchSize reads t).1
      ∧ InStep (Intake.takeLines publish org batchSize reads s).2
        (Intake.takeLines other org batchSize reads t).2 := by
  refine h.takeLines batchSize (List.forall₂_same.mpr fun read _ => ?_) hst
  cases read with
  | none => exact .none
  | some line => exact .some rfl

end Simulation

/-! ## Recording has no influence -/

theorem forgetRecord_flush (publish : Publish σ) (s : Intake (Recorded σ)) :
    (s.flush (recording publish)).forgetRecord = s.forgetRecord.flush publish := by
  rcases hresult : publish s.batch s.sink.sink with ⟨result | result, sink⟩ <;>
    simp [flush, recording, forgetRecord, hresult]

theorem simulation_forgetRecord (publish : Publish σ) (org : OrgId) :
    Simulation (recording publish) publish org Eq fun s t => s.forgetRecord = t where
  blank hline := hline ▸ rfl
  skip := by
    rintro s _ line _ e rfl rfl hparse
    exact ⟨e, hparse, rfl⟩
  push := by
    rintro s _ line _ m rfl rfl hparse
    exact ⟨m, hparse, rfl⟩
  length := by
    rintro s _ rfl
    rfl
  flush := by
    rintro s _ rfl
    exact forgetRecord_flush publish s

/-- **An input is taken in alike with and without a record.** -/
theorem takeLines_recording (publish : Publish σ) (org : OrgId) (batchSize : Nat)
    (reads : List (Option String)) (s : Intake (Recorded σ)) :
    takeLines publish org batchSize reads s.forgetRecord =
      ((takeLines (recording publish) org batchSize reads s).1,
        (takeLines (recording publish) org batchSize reads s).2.forgetRecord) := by
  obtain ⟨hread, htaken⟩ := (simulation_forgetRecord publish org).takeLines_same batchSize reads rfl
  exact Prod.ext hread.symm htaken.symm

/-! ## What the record holds -/

/-- The record and the batch under way hold the metrics of all lines so far. -/
structure Kept (org : OrgId) (batchSize : Nat) (lines : List String)
    (s : Intake (Recorded σ)) : Prop where
  metrics : s.sink.batches.flatten ++ s.batch = metricsOf org lines
  /-- What is in the record has the size of a batch. -/
  full : ∀ batch ∈ s.sink.batches, batch.length = batchSize
  counted : s.stats.lines = (written lines).length
  invalid : s.stats.invalid = (refused org lines).length
  failed : s.stats.failedBatches = s.sink.failures

theorem batches_flush (publish : Publish σ) (s : Intake (Recorded σ)) :
    (s.flush (recording publish)).sink.batches = s.sink.batches ++ [s.batch] := by
  rw [Recorded.batches, (flush_recording publish s).1, List.map_append]
  rfl

theorem failures_flush {publish : Publish σ} {s : Intake (Recorded σ)}
    (h : s.stats.failedBatches = s.sink.failures) :
    (s.flush (recording publish)).stats.failedBatches =
      (s.flush (recording publish)).sink.failures := by
  obtain ⟨hcalls, -, hstats⟩ := flush_recording publish s
  rw [hstats, Recorded.failures, hcalls, List.countP_append, List.countP_singleton, h]
  cases (publish s.batch s.sink.sink).1 <;> rfl

theorem kept_start (org : OrgId) (batchSize : Nat) (sink : σ) :
    Kept org batchSize [] { sink := ({ sink } : Recorded σ) } where
  metrics := rfl
  full := by simp [Recorded.batches]
  counted := rfl
  invalid := rfl
  failed := rfl

namespace Kept

variable {lines : List String} {s : Intake (Recorded σ)}

theorem skip (h : Kept org batchSize lines s) {e : LineError} (hm : metricsOf org [line] = [])
    (hw : written [line] = [line]) (hr : refused org [line] = [line]) :
    Kept org batchSize (lines ++ [line]) (s.skip line e) where
  metrics := by rw [metricsOf_append, hm, List.append_nil, ← h.metrics]; rfl
  full := h.full
  counted := by rw [written_append, hw, List.length_append, ← h.counted]; rfl
  invalid := by rw [refused_append, hr, List.length_append, ← h.invalid]; rfl
  failed := h.failed

theorem push (h : Kept org batchSize lines s) {m : Metric} (hm : metricsOf org [line] = [m])
    (hw : written [line] = [line]) (hr : refused org [line] = []) :
    Kept org batchSize (lines ++ [line]) (s.push m) where
  metrics := by rw [metricsOf_append, hm, ← h.metrics, List.append_assoc]; rfl
  full := h.full
  counted := by rw [written_append, hw, List.length_append, ← h.counted]; rfl
  invalid := by rw [refused_append, hr, List.append_nil, ← h.invalid]; rfl
  failed := h.failed

theorem flush (h : Kept org batchSize lines s) (hsize : s.batch.length = batchSize) :
    Kept org batchSize lines (s.flush (recording publish)) where
  metrics := by
    rw [batches_flush, (flush_recording publish s).2.1, List.flatten_append,
      List.flatten_singleton, List.append_nil, h.metrics]
  full := by
    intro batch hmem
    rw [batches_flush, List.mem_append, List.mem_singleton] at hmem
    rcases hmem with hmem | rfl
    · exact h.full batch hmem
    · exact hsize
  counted := by rw [(flush_recording publish s).2.2, ← h.counted]
  invalid := by rw [(flush_recording publish s).2.2, ← h.invalid]
  failed := failures_flush h.failed

/-- **A line keeps the record**, and leaves room in the batch under way. -/
theorem takeLine (publish : Publish σ) (h : Kept org batchSize lines s)
    (hroom : s.batch.length < batchSize) (line : String) :
    Kept org batchSize (lines ++ [line]) (s.takeLine (recording publish) org batchSize line)
      ∧ (s.takeLine (recording publish) org batchSize line).batch.length < batchSize := by
  rcases line_cases org line with ⟨hblank, hm, hw, hr⟩ | ⟨hblank, e, hparse, hm, hw, hr⟩ |
    ⟨hblank, m, hparse, hm, hw, hr⟩
  · rw [takeLine_of_blank hblank]
    refine ⟨⟨?_, h.full, ?_, ?_, h.failed⟩, hroom⟩
    · rw [metricsOf_append, hm, List.append_nil, h.metrics]
    · rw [written_append, hw, List.append_nil, h.counted]
    · rw [refused_append, hr, List.append_nil, h.invalid]
  · rw [takeLine_of_error hblank hparse]
    exact ⟨h.skip hm hw hr, hroom⟩
  · have hpush := h.push hm hw hr
    have hlength : (s.push m).batch.length = s.batch.length + 1 := List.length_append
    rw [takeLine_of_ok hblank hparse]
    by_cases hfull : batchSize ≤ (s.push m).batch.length
    · rw [if_pos hfull, (flush_recording publish (s.push m)).2.1]
      exact ⟨hpush.flush (by omega), Nat.zero_lt_of_lt hroom⟩
    · rw [if_neg hfull]
      exact ⟨hpush, by omega⟩

theorem takeAll (publish : Publish σ) (h : Kept org batchSize lines s)
    (hroom : s.batch.length < batchSize) (later : List String) :
    Kept org batchSize (lines ++ later) (s.takeAll (recording publish) org batchSize later)
      ∧ (s.takeAll (recording publish) org batchSize later).batch.length < batchSize := by
  induction later generalizing lines s with
  | nil => exact ⟨by rw [List.append_nil]; exact h, hroom⟩
  | cons line rest ih =>
      obtain ⟨hline, hleft⟩ := h.takeLine publish hroom line
      obtain ⟨hrest, hend⟩ := ih hline hleft
      rw [List.append_assoc] at hrest
      exact ⟨hrest, hend⟩

end Kept

/-- What a publisher has been handed when an input ends. -/
structure HandedOn (org : OrgId) (batchSize : Nat) (lines : List String)
    (s : Intake (Recorded σ)) : Prop where
  /-- The batches hold the metrics of all lines, in order. -/
  metrics : s.sink.batches.flatten = metricsOf org lines
  /-- All but the last have the size of a batch. -/
  full : ∀ batch ∈ s.sink.batches.dropLast, batch.length = batchSize
  /-- The last is not empty, and no larger. -/
  last : ∀ batch ∈ s.sink.batches.getLast?, 1 ≤ batch.length ∧ batch.length ≤ batchSize
  counted : s.stats.lines = (written lines).length
  invalid : s.stats.invalid = (refused org lines).length
  /-- What was taken in and not refused is the number of metrics in the batches. -/
  handed : s.stats.lines - s.stats.invalid = s.sink.batches.flatten.length
  failed : s.stats.failedBatches = s.sink.failures

/-- Batches of one size hold a multiple of it. -/
theorem Kept.length_flatten {lines : List String} {s : Intake (Recorded σ)}
    (h : Kept org batchSize lines s) :
    s.sink.batches.flatten.length = batchSize * s.sink.batches.length := by
  have hfull := h.full
  generalize s.sink.batches = batches at hfull
  induction batches with
  | nil => rfl
  | cons batch rest ih =>
      have hbatch := hfull batch (List.mem_cons_self ..)
      have hrest := ih fun other hmem => hfull other (List.mem_cons_of_mem _ hmem)
      rw [List.flatten_cons, List.length_append, List.length_cons, hbatch, hrest, Nat.mul_succ,
        Nat.add_comm]

theorem Kept.handed {lines : List String} {s : Intake (Recorded σ)}
    (h : Kept org batchSize lines s) :
    s.stats.lines - s.stats.invalid = s.sink.batches.flatten.length + s.batch.length := by
  have htotal := length_metricsOf org lines
  rw [h.counted, h.invalid, ← List.length_append, h.metrics]
  omega

/-- **When the input ends, the batch under way is handed on too.** -/
theorem Kept.finish {lines : List String} {s : Intake (Recorded σ)}
    (h : Kept org batchSize lines s) (hroom : s.batch.length < batchSize) :
    HandedOn org batchSize lines (s.finish (recording publish)) := by
  have htotal := h.handed
  by_cases hempty : s.batch = []
  · rw [hempty] at hroom
    rw [finish_of_nil hempty]
    refine ⟨?_, fun batch hmem => ?_, fun batch hmem => ?_, h.counted, h.invalid, ?_, h.failed⟩
    · rw [← h.metrics, hempty, List.append_nil]
    · exact h.full batch (List.dropLast_subset _ hmem)
    · rw [h.full batch (List.mem_of_getLast? hmem)]
      exact ⟨hroom, Nat.le_refl _⟩
    · rw [htotal, hempty, List.length_nil, Nat.add_zero]
  · obtain ⟨-, -, hstats⟩ := flush_recording publish s
    rw [finish_of_ne_nil hempty]
    refine ⟨?_, fun batch hmem => ?_, fun batch hmem => ?_, ?_, ?_, ?_, failures_flush h.failed⟩
    · rw [batches_flush, List.flatten_append, List.flatten_singleton, h.metrics]
    · rw [batches_flush, List.dropLast_concat] at hmem
      exact h.full batch hmem
    · rw [batches_flush, List.getLast?_concat, Option.mem_some_iff] at hmem
      subst hmem
      exact ⟨List.length_pos_iff.mpr hempty, Nat.le_of_lt hroom⟩
    · rw [hstats, h.counted]
    · rw [hstats, h.invalid]
    · rw [hstats, batches_flush, List.flatten_append, List.flatten_singleton, List.length_append,
        htotal]

/-! ## Batches do not depend on the publisher -/

/-- Two intakes have handed on the same batches and have the same batch under way. -/
structure SameBatches {τ : Type} (s : Intake (Recorded σ)) (t : Intake (Recorded τ)) : Prop where
  handed : s.sink.batches = t.sink.batches
  pending : s.batch = t.batch

namespace SameBatches

variable {τ : Type} {other : Publish τ} {s : Intake (Recorded σ)} {t : Intake (Recorded τ)}

theorem flush (h : SameBatches s t) :
    SameBatches (s.flush (recording publish)) (t.flush (recording other)) where
  handed := by rw [batches_flush, batches_flush, h.handed, h.pending]
  pending := by rw [(flush_recording publish s).2.1, (flush_recording other t).2.1]

theorem simulation (publish : Publish σ) (other : Publish τ) (org : OrgId) :
    Simulation (recording publish) (recording other) org Eq SameBatches where
  blank hline := hline ▸ rfl
  skip := by
    rintro s t line _ e hst rfl hparse
    exact ⟨e, hparse, hst.handed, hst.pending⟩
  push := by
    rintro s t line _ m hst rfl hparse
    exact ⟨m, hparse, hst.handed, congrArg (· ++ [m]) hst.pending⟩
  length hst := congrArg List.length hst.pending
  flush := flush

theorem takeLines (publish : Publish σ) (other : Publish τ) (org : OrgId) (batchSize : Nat)
    (h : SameBatches s t) (reads : List (Option String)) :
    SameBatches (takeLines (recording publish) org batchSize reads s).2
      (takeLines (recording other) org batchSize reads t).2 :=
  ((simulation publish other org).takeLines_same batchSize reads h).2

end SameBatches

end Intake

open Intake

/--
**Every accepted line is handed on once, in order, in batches of the given size.**

Take any input that can be read to its end, any size of batches and any publisher,
whatever it answers to each batch. Kept on record, the publisher is handed the
metrics of all lines that are metrics, in the order of the lines, in batches of
which all but the last have that size, and the counts of the intake are those of
the lines, of the refused ones and of the batches that failed. Keeping the record
changes nothing, and any other publisher, such as one that never fails, is handed
the same batches.
-/
theorem lines_handed_on {σ : Type} (publish : Publish σ) (sink : σ) (org : OrgId)
    (batchSize : Nat) (hsize : 1 ≤ batchSize) (input : Bytes) (lines : List String)
    (hread : readLines input = lines.map some) :
    ∃ taken, publishLines (recording publish) org batchSize input { sink } = (true, taken)
      ∧ publishLines publish org batchSize input sink = (true, taken.forgetRecord)
      ∧ HandedOn org batchSize lines taken
      ∧ ∀ (τ : Type) (other : Publish τ) (start : τ),
          (publishLines (recording other) org batchSize input { sink := start }).2.sink.batches =
            taken.sink.batches := by
  have hkept : Kept org batchSize [] { sink := ({ sink } : Recorded σ) } :=
    kept_start org batchSize sink
  obtain ⟨hall, hroom⟩ := hkept.takeAll publish hsize lines
  have hrun : publishLines (recording publish) org batchSize input { sink } =
      (true, (takeAll (recording publish) org batchSize lines { sink := { sink } }).finish
        (recording publish)) := by
    rw [publishLines, hread, ← List.append_nil (lines.map some), takeLines_append]
    rfl
  refine ⟨_, hrun, ?_, hall.finish hroom, fun τ other start => ?_⟩
  · have hforget := takeLines_recording publish org batchSize (readLines input)
      { sink := ({ sink } : Recorded σ) }
    rw [← publishLines, hrun] at hforget
    exact hforget
  · have hstart : SameBatches ({ sink := { sink := start } } : Intake (Recorded τ))
        ({ sink := { sink } } : Intake (Recorded σ)) := ⟨rfl, rfl⟩
    have hsame := (hstart.takeLines other publish org batchSize (readLines input)).handed
    rw [← publishLines, ← publishLines, hrun] at hsame
    exact hsame

/-- A blank line, a refused one and a publisher that fails every time: three metrics go to it in two
batches. -/
theorem lines_handed_on_of_failures :
    ∃ taken, publishLines (recording fun _ calls => (.error (.missingReports 1), calls + 1)) ⟨7⟩ 2
        (Bytes.ofString "a 1 1\n \nb;k=v 2 2\ngarbage\nc 3 3\n") { sink := 0 } = (true, taken)
      ∧ (taken.sink.batches.flatten.map Metric.name) = ["a", "b", "c"]
      ∧ taken.stats.lines = 4 ∧ taken.stats.invalid = 1 := by
  obtain ⟨taken, hrun, -, hon, -⟩ := lines_handed_on
    (fun _ calls => (.error (.missingReports 1), calls + 1)) 0 ⟨7⟩ 2 (by decide)
    (Bytes.ofString "a 1 1\n \nb;k=v 2 2\ngarbage\nc 3 3\n")
    ["a 1 1", " ", "b;k=v 2 2", "garbage", "c 3 3"] (by decide)
  refine ⟨taken, hrun, ?_, ?_, ?_⟩
  · rw [hon.metrics]; decide
  · rw [hon.counted]; decide
  · rw [hon.invalid]; decide

/--
**A line that cannot be read costs the batch under way.**

Whatever keeps a line from being read, the intake ends there. What was handed to
the publisher by then are full batches only: the metrics of the lines before, as
far as they fill batches. All of them were handed on exactly if their number is a
multiple of the size.
-/
theorem handed_on_before_failure {σ : Type} (publish : Publish σ) (sink : σ) (org : OrgId)
    (batchSize : Nat) (hsize : 1 ≤ batchSize) (before : List String)
    (rest : List (Option String)) :
    ∃ taken, takeLines (recording publish) org batchSize (before.map some ++ none :: rest)
        { sink := { sink } } = (false, taken)
      ∧ takeLines publish org batchSize (before.map some ++ none :: rest) { sink } =
          (false, taken.forgetRecord)
      ∧ (∀ batch ∈ taken.sink.batches, batch.length = batchSize)
      ∧ taken.sink.batches.flatten =
          (metricsOf org before).take (batchSize * ((metricsOf org before).length / batchSize))
      ∧ (taken.sink.batches.flatten = metricsOf org before ↔
          batchSize ∣ (metricsOf org before).length) := by
  have hkept : Kept org batchSize [] { sink := ({ sink } : Recorded σ) } :=
    kept_start org batchSize sink
  obtain ⟨hall, hroom⟩ := hkept.takeAll publish hsize before
  have hrun : takeLines (recording publish) org batchSize (before.map some ++ none :: rest)
      { sink := ({ sink } : Recorded σ) } =
      (false, takeAll (recording publish) org batchSize before { sink := { sink } }) := by
    rw [takeLines_append]
    rfl
  have hforget := takeLines_recording publish org batchSize (before.map some ++ none :: rest)
    { sink := ({ sink } : Recorded σ) }
  rw [hrun] at hforget
  generalize takeAll (recording publish) org batchSize before
    ({ sink := { sink } } : Intake (Recorded σ)) = taken at hall hroom hrun hforget
  -- the metrics are those of full batches, and fewer than one more batch takes
  have hfull := hall.length_flatten
  have htotal : (metricsOf org before).length =
      batchSize * taken.sink.batches.length + taken.batch.length := by
    rw [← hfull, ← List.length_append, hall.metrics]
    rfl
  refine ⟨taken, hrun, hforget, hall.full, ?_, ?_⟩
  · have hcount : (metricsOf org before).length / batchSize = taken.sink.batches.length := by
      rw [htotal, Nat.mul_add_div hsize, Nat.div_eq_of_lt hroom, Nat.add_zero]
    have hsplit : metricsOf org before = taken.sink.batches.flatten ++ taken.batch :=
      hall.metrics.symm
    rw [hcount, ← hfull, hsplit, List.take_left]
  · have hpending : batchSize ∣ (metricsOf org before).length ↔ taken.batch = [] := by
      rw [htotal, Nat.dvd_add_right (Nat.dvd_mul_right ..), ← List.length_eq_zero_iff]
      exact ⟨fun h => Nat.eq_zero_of_dvd_of_lt h hroom, fun h => h ▸ Nat.dvd_zero _⟩
    have hsplit : taken.sink.batches.flatten ++ taken.batch = metricsOf org before := hall.metrics
    rw [hpending, ← hsplit, List.self_eq_append_right]

/-- One metric and a line that is not UTF-8 behind it: with batches of two, nothing is handed on. -/
theorem handed_on_before_failure_of_short_batch :
    ∃ taken, publishLines (recording fun _ s => (.ok (), s)) ⟨7⟩ 2
        (Bytes.ofString "a 1 1\n" ++ [0xff, 0x0a]) { sink := () } = (false, taken)
      ∧ taken.sink.batches.flatten = [] ∧ (metricsOf ⟨7⟩ ["a 1 1"]).map Metric.name = ["a"] := by
  obtain ⟨taken, hrun, -, -, hmetrics, -⟩ := handed_on_before_failure
    (fun _ s => (.ok (), s)) () ⟨7⟩ 2 (by decide) ["a 1 1"] []
  have hread : readLines (Bytes.ofString "a 1 1\n" ++ [0xff, 0x0a]) =
      ["a 1 1"].map some ++ [none] := by decide
  refine ⟨taken, by rw [publishLines, hread]; exact hrun, ?_, by decide⟩
  rw [hmetrics]
  decide

end MetricGateway.Plaintext
