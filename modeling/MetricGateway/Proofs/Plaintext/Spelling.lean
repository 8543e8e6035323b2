import MetricGateway.Proofs.Identity
import MetricGateway.Proofs.Plaintext.Batching
import MetricGateway.Proofs.Plaintext.Line
import MetricGateway.Proofs.Publish.Validity

/-!
# Spellings of an input

The same samples can be written in many ways: with other white space, with blank
lines in between, with the tags in another order and some of them twice. The metrics
that are read are not quite the same then. Reading a line sorts its tags and keeps
repetitions, which are dropped no earlier than the publisher resolves the interval.
But nothing is derived from the tags before that: not the id, not the bytes that
decide about the partition, and not the message. So two batches that hold the same
samples become the same batch when they are normalized, and go the same way from
there.

This keeps two runs in step (`Alike`): after every line the same batches have been
handed on with the same outcome, the same has been counted, and the batches under
way hold the same samples. These have no interval yet, so none of them is invalid.
-/

namespace MetricGateway.Plaintext

open Publish (Outcome Publisher State ingest normalize publishAt resolve)
open Routing (Broker)
open Text (Blank Spaced)

/-! ## Lines -/

/-- Two ways to write the first field of a line: the name is the same, and so is the set of tags,
which may stand in any order and any number of times. -/
inductive SamePath : List Char → List Char → Prop
  | intro {name : List Char} {tags others : List (List Char)} :
      (∀ piece ∈ name :: tags, ';' ∉ piece) → (∀ piece ∈ name :: others, ';' ∉ piece) →
      (∀ tag, tag ∈ tags ↔ tag ∈ others) → SamePath (path name tags) (path name others)

/-- Two ways to write a line that is not blank: white space may be put around and between the fields
in any way, the first field may be written in another way, and the other fields are the same. -/
inductive Respelled (line other : String) : Prop
  | intro {first second : List Char} {rest : List (List Char)} :
      Spaced line.toList (first :: rest) → Spaced other.toList (second :: rest) →
      SamePath first second → Respelled line other

theorem SamePath.symm {p q : List Char} (h : SamePath p q) : SamePath q p := by
  obtain ⟨hfree, hfree', htags⟩ := h
  exact .intro hfree' hfree fun tag => (htags tag).symm

/-- A path is cut at its semicolons in one way only. -/
theorem SamePath.exists_path {name : List Char} {tags : List (List Char)} {q : List Char}
    (h : SamePath (path name tags) q) (hfree : ∀ piece ∈ name :: tags, ';' ∉ piece) :
    ∃ others, q = path name others ∧ (∀ piece ∈ name :: others, ';' ∉ piece)
      ∧ ∀ tag, tag ∈ tags ↔ tag ∈ others := by
  generalize hp : path name tags = p at h
  cases h with
  | @intro first cut others hcut hothers hsame =>
      have hpieces : Text.split ';' (path first cut) = name :: tags :=
        Text.split_eq_cons_iff.mpr ⟨hp.symm, hfree⟩
      have hown : Text.split ';' (path first cut) = first :: cut :=
        Text.split_eq_cons_iff.mpr ⟨rfl, hcut⟩
      rw [hown] at hpieces
      obtain ⟨rfl, rfl⟩ := List.cons.inj hpieces
      exact ⟨others, rfl, hothers, hsame⟩

variable {org : OrgId} {line other : String}

namespace Respelled

theorem symm (h : Respelled line other) : Respelled other line := by
  obtain ⟨hline, hother, hpath⟩ := h
  exact .intro hother hline hpath.symm

/-- There is a field, so there is more than white space. -/
theorem not_blank (h : Respelled line other) : Text.isBlankText line.toList = false := by
  obtain ⟨hline, -, -⟩ := h
  refine Bool.eq_false_iff.mpr fun hblank => ?_
  have hnone := (Spaced.blank (Text.isBlankText_iff.mp hblank)).fields_eq
  rw [hline.fields_eq] at hnone
  cases hnone

end Respelled

/-! ## Samples -/

/-- Two metrics without an interval that differ in how their tags are listed only. -/
inductive SameSample : Metric → Metric → Prop
  | intro {m : Metric} {tags : List String} : m.interval = 0 → (∀ tag, tag ∈ m.tags ↔ tag ∈ tags) →
      SameSample m { m with tags }

/-- **Another spelling of a metric is read as the same sample.** -/
theorem Respelled.exists_sample (h : Respelled line other) {m : Metric}
    (hm : parseLine org line = .ok m) : ∃ n, parseLine org other = .ok n ∧ SameSample m n := by
  cases parseLine_eq_iff.mp hm with
  | metric hlayout hname htags hvalue htime hperm hsorted =>
      obtain ⟨hline, hother, hpath⟩ := h
      have hfields := hlayout.fields.fields_eq
      rw [hline.fields_eq] at hfields
      obtain ⟨rfl, rfl⟩ := List.cons.inj hfields
      obtain ⟨others, rfl, hfree, hsame⟩ := hpath.exists_path hlayout.pieces
      obtain ⟨listed, hperm', hsorted'⟩ := exists_sorted (others.map String.ofList)
      refine ⟨_, (Reading.metric ⟨hother, hfree⟩ hname
        (fun tag hmem => htags tag ((hsame tag).mpr hmem)) hvalue htime hperm' hsorted').parseLine_eq,
        .intro rfl fun tag => ?_⟩
      rw [hperm.mem_iff, hperm'.mem_iff, List.mem_map, List.mem_map]
      simp only [hsame]

/-- Another spelling of a line that is refused is refused too. -/
theorem Respelled.exists_error (h : Respelled line other) {e : LineError}
    (he : parseLine org line = .error e) : ∃ e', parseLine org other = .error e' := by
  cases hother : parseLine org other with
  | error e' => exact ⟨e', rfl⟩
  | ok n =>
      obtain ⟨m, hm, -⟩ := h.symm.exists_sample hother
      rw [he] at hm
      cases hm

namespace SameSample

variable {m n : Metric}

theorem not_invalid (h : SameSample m n) : ¬ m.Invalid := by
  obtain ⟨hinterval, -⟩ := h
  exact fun hinvalid => hinvalid.1 hinterval

/-- Resolving the interval sorts the tags and drops repetitions before anything is made of them. -/
theorem resolve_eq (schemas : Storage.Schemas) (h : SameSample m n) :
    resolve schemas m = resolve schemas n := by
  cases h with
  | @intro tags hinterval htags =>
      rw [resolve, resolve, if_pos hinterval, if_pos hinterval]
      let resolved : Metric := { m with interval := (schemas.find m.name).interval }
      have hsame : resolved.SameDescription { resolved with tags } := ⟨rfl, rfl, rfl, rfl, htags⟩
      have hset : ({ resolved with tags } : Metric).setId = resolved.setId :=
        Metric.setId_of_sameDescription rfl hsame
      exact hset.symm

end SameSample

/-! ## Batches -/

section Batches

variable {σ : Type} {batch others : List Metric}

theorem normalize_of_sameSamples (schemas : Storage.Schemas)
    (h : List.Forall₂ SameSample batch others) :
    normalize schemas batch = normalize schemas others := by
  induction h with
  | nil => rfl
  | cons hm _ ih =>
      obtain ⟨key, hkey⟩ := Publish.exists_key_resolve schemas hm.not_invalid
      have hkey' := hm.resolve_eq schemas ▸ hkey
      rw [Publish.normalize_cons_of_key hkey, Publish.normalize_cons_of_key hkey',
        hm.resolve_eq schemas, ih]

/-- **Batches of the same samples are published alike.** -/
theorem publishAt_of_sameSamples (p : Publisher) (b : Broker σ) (now : Timestamp) (s : State σ)
    (h : List.Forall₂ SameSample batch others) :
    publishAt p b now batch s = publishAt p b now others s := by
  have hnormal := normalize_of_sameSamples p.schemas h
  cases h with
  | nil => rfl
  | cons hm hrest =>
      rw [publishAt, publishAt, hnormal]
      rfl

/-- A batch of samples without an interval does not complain about its metrics. -/
theorem result_publishAt_of_sameSamples (p : Publisher) (b : Broker σ) (now : Timestamp)
    (s : State σ) (h : List.Forall₂ SameSample batch others) (e : InvalidId) :
    (publishAt p b now batch s).1.result ≠ .error (.invalidMetric e) := by
  by_cases hbatch : batch = []
  · subst hbatch
    exact nofun
  · have hvalid : ∀ m ∈ batch, ¬ m.Invalid :=
      ((List.forall₂_and_left batch others).mp (h.imp fun _ _ hm => ⟨hm.not_invalid, hm⟩)).1
    obtain ⟨metrics, keys, hnormal⟩ := Publish.normalize_of_valid p.schemas hvalid
    rw [Publish.publishAt_of_normalize hbatch hnormal]
    exact Publish.result_send_ne_invalidMetric p b now metrics keys s e

end Batches

/-! ## Sessions -/

/-- What the batches of an input meet with. -/
structure Circumstances (σ : Type) where
  /-- When each batch is published, counted from zero on. -/
  time : Nat → Timestamp
  /-- What others have done to the state since the batch before, such as pruning the cache. -/
  meanwhile : Nat → State σ → State σ

/-- A publisher while an input is taken in. -/
structure Session (σ : Type) where
  state : State σ
  /-- What came of the batches so far, in order: the result, the metrics that were left, the records
  that were submitted, the reports that were received, the encodings and the measurements. -/
  outcomes : List Outcome := []

namespace Session

variable {σ : Type} {batch others : List Metric}

/-- Publishes the next batch of an input. -/
def publish (p : Publisher) (b : Broker σ) (c : Circumstances σ) : Intake.Publish (Session σ) :=
  fun batch s =>
    let n := s.outcomes.length
    let (outcome, state) := ingest (publishAt p b (c.time n)) batch (c.meanwhile n s.state)
    (outcome.result, { state, outcomes := s.outcomes ++ [outcome] })

/-- No batch so far has complained about its metrics. -/
def Valid (s : Session σ) : Prop :=
  ∀ outcome ∈ s.outcomes, ∀ e, outcome.result ≠ .error (.invalidMetric e)

variable (p : Publisher) (b : Broker σ) (c : Circumstances σ) {s : Session σ}

theorem publish_of_sameSamples (h : List.Forall₂ SameSample batch others) :
    publish p b c batch s = publish p b c others s := by
  have hpublish := fun now state => publishAt_of_sameSamples p b now state h
  rw [publish, publish, ingest, ingest, hpublish, h.length_eq]
  cases h with
  | nil => rfl
  | cons hm hrest => rfl

theorem valid_publish (hs : s.Valid) (h : List.Forall₂ SameSample batch others) :
    (publish p b c batch s).2.Valid := by
  intro outcome hmem e
  rcases List.mem_append.mp hmem with hmem | hmem
  · exact hs outcome hmem e
  · obtain rfl := List.mem_singleton.mp hmem
    cases h with
    | nil => exact nofun
    | cons hm hrest =>
        exact result_publishAt_of_sameSamples p b (c.time s.outcomes.length)
          (c.meanwhile s.outcomes.length s.state) (.cons hm hrest) e

end Session

/-! ## Inputs -/

/-- A line that counts: it holds more than white space, or it cannot be read at all. -/
def counts : Option String → Bool
  | none => true
  | some line => !Text.isBlankText line.toList

/-- Two ways to write an input: apart from blank lines, which may stand anywhere, its lines are those
of the other, one by one, each written in some way. -/
def SameInput (input other : Bytes) : Prop :=
  List.Forall₂ (Option.Rel Respelled) ((readLines input).filter counts)
    ((readLines other).filter counts)

namespace Intake

variable {σ : Type} {p : Publisher} {b : Broker σ} {c : Circumstances σ} {batchSize : Nat}

/-- Two intakes have handed on and counted the same, and their batches under way hold the same
samples. -/
structure Alike (s t : Intake (Session σ)) : Prop where
  sink : s.sink = t.sink
  stats : s.stats = t.stats
  batch : List.Forall₂ SameSample s.batch t.batch
  valid : s.sink.Valid

namespace Alike

variable {s t : Intake (Session σ)}

theorem flush (h : Alike s t) :
    Alike (s.flush (Session.publish p b c)) (t.flush (Session.publish p b c)) := by
  have hvalid := Session.valid_publish p b c h.valid h.batch
  have hpublish := Session.publish_of_sameSamples p b c (s := s.sink) h.batch
  rw [Intake.flush, Intake.flush, ← h.sink, ← hpublish]
  rcases hresult : Session.publish p b c s.batch s.sink with ⟨result | result, sink⟩ <;>
    rw [hresult] at hvalid
  · exact ⟨rfl, by rw [h.stats], .nil, hvalid⟩
  · exact ⟨rfl, h.stats, .nil, hvalid⟩

variable (org p b c) in
/-- **Two spellings of an input are taken in alike.** -/
theorem simulation :
    Simulation (Session.publish p b c) (Session.publish p b c) org Respelled Alike where
  blank hline := hline.not_blank.trans hline.symm.not_blank.symm
  skip hst hline he := by
    obtain ⟨e', he'⟩ := hline.exists_error he
    exact ⟨e', he', hst.sink, by rw [skip, skip, hst.stats], hst.batch, hst.valid⟩
  push hst hline hm := by
    obtain ⟨n, hn, hsame⟩ := hline.exists_sample hm
    have hbatch := List.rel_append hst.batch (.cons hsame .nil)
    exact ⟨n, hn, hst.sink, by rw [push, push, hst.stats], hbatch, hst.valid⟩
  length hst := hst.batch.length_eq
  flush := flush

end Alike

/-- Blank lines have no influence. -/
theorem takeLines_filter (publish : Publish σ) (reads : List (Option String)) (s : Intake σ) :
    takeLines publish org batchSize (reads.filter counts) s =
      takeLines publish org batchSize reads s := by
  induction reads generalizing s with
  | nil => rfl
  | cons read rest ih =>
      cases read with
      | none => rfl
      | some line =>
          by_cases hblank : Text.isBlankText line.toList = true
          · rw [List.filter_cons_of_neg (by simp [counts, hblank]), ih, takeLines,
              takeLine_of_blank hblank]
          · rw [List.filter_cons_of_pos (by simpa [counts] using hblank), takeLines, takeLines, ih]

end Intake

/-- **How an input is spelled does not change what is produced.**

Take any two inputs with the same lines, where white space around and between fields, blank lines, and
the order and repetition of tags do not matter. Take any size of batches, any publisher, any state of
its cache, its pools and its broker, and any behaviour of the broker and of others who change this
state, where corresponding batches of the two inputs are published at the same time. Both inputs are
read to the end or neither is. Both give the same counts of lines, of refused lines and of failed
batches. Batch by batch they have the same outcome, with the same records, reports and measurements,
and they leave the same cache, pools and broker. No batch of either complains about its metrics. -/
theorem spelling_immaterial {σ : Type} (p : Publisher) (b : Broker σ) (c : Circumstances σ)
    (org : OrgId) (batchSize : Nat) (state : State σ) {input other : Bytes}
    (h : SameInput input other) :
    let run := publishLines (Session.publish p b c) org batchSize input { state }
    let run' := publishLines (Session.publish p b c) org batchSize other { state }
    run.1 = run'.1 ∧ run.2.stats = run'.2.stats
      ∧ run.2.sink.outcomes = run'.2.sink.outcomes ∧ run.2.sink.state = run'.2.sink.state
      ∧ (∀ outcome ∈ run.2.sink.outcomes, ∀ e, outcome.result ≠ .error (.invalidMetric e))
      ∧ ∀ outcome ∈ run'.2.sink.outcomes, ∀ e, outcome.result ≠ .error (.invalidMetric e) := by
  dsimp only
  have hstart : Intake.Alike { sink := ({ state } : Session σ) } { sink := { state } } :=
    ⟨rfl, rfl, .nil, nofun⟩
  have hruns := (Intake.Alike.simulation org p b c).takeLines batchSize h hstart
  rw [Intake.takeLines_filter, Intake.takeLines_filter, ← publishLines, ← publishLines] at hruns
  obtain ⟨hread, hend⟩ := hruns
  have hvalid := hend.valid
  rw [← hend.sink]
  exact ⟨hread, hend.stats, rfl, rfl, hvalid, hvalid⟩

/-- One sample, once with a tag repeated, and once between blank lines with the tags in another order
and other white space. What is read differs in its tags, and what comes of it does not. -/
theorem spelling_immaterial_of_repeated_tag :
    let p : Publisher :=
      { partitioner := ⟨.bySeriesWithTags, 8, by decide⟩
        schemas := ⟨[], ⟨"default", default, ⟨60, 3600, by decide, by decide⟩, []⟩⟩ }
    let b : Broker Nat :=
      { openBatch := fun _ _ => 0
        produce := fun _ n => (.ok (), n + 1)
        closeBatch := fun _ n => (⟨List.replicate n .delivered, .disconnected⟩, n) }
    let c : Circumstances Nat := ⟨fun n => ⟨600 * n.toUInt64⟩, fun _ s => s⟩
    let state : State Nat := ⟨some ⟨.clamp 36, .ofSeconds 3600, 1, ∅⟩, .ofMaxIdle 8, 0⟩
    let input := Bytes.ofString "m;b=2;a=1;b=2 1 1\n"
    let other := Bytes.ofString " \n\u3000m;b=2;a=1\t1 \u00a01\r\n\n"
    let run := publishLines (Session.publish p b c) ⟨7⟩ 1 input { state }
    let run' := publishLines (Session.publish p b c) ⟨7⟩ 1 other { state }
    (∃ m n, parseLine ⟨7⟩ "m;b=2;a=1;b=2 1 1" = .ok m ∧ m.tags = ["a=1", "b=2", "b=2"]
        ∧ parseLine ⟨7⟩ "\u3000m;b=2;a=1\t1 \u00a01" = .ok n ∧ n.tags = ["a=1", "b=2"])
      ∧ SameInput input other
      ∧ run'.2.sink.outcomes = run.2.sink.outcomes ∧ run'.2.sink.state = run.2.sink.state := by
  intro p b c state input other
  dsimp only
  let m : Metric :=
    { org := ⟨7⟩, name := "m", value := .one, unit := lineUnit, time := 1, mtype := lineType
      tags := ["a=1", "b=2", "b=2"] }
  have hspaced : Spaced "m;b=2;a=1;b=2 1 1".toList
      [path ['m'] ["b=2".toList, "a=1".toList, "b=2".toList], ['1'], ['1']] :=
    Text.fields_eq_iff.mp (by decide)
  have hspaced' : Spaced "\u3000m;b=2;a=1\t1 \u00a01".toList
      [path ['m'] ["b=2".toList, "a=1".toList], ['1'], ['1']] := Text.fields_eq_iff.mp (by decide)
  have hrespelled : Respelled "m;b=2;a=1;b=2 1 1" "\u3000m;b=2;a=1\t1 \u00a01" :=
    .intro hspaced hspaced' (.intro (by decide) (by decide) (by simp [or_comm, or_left_comm]))
  have hvalue : Number.Binary64.read? ['1'] = some .one := by decide +kernel
  have hread : ∀ (path : List Char) (name : String) (tags : List String),
      readPath path = .ok (name, tags) →
        readFields ⟨7⟩ path ['1'] ['1'] = .ok { m with name, tags } := by
    intro path name tags hpath
    rw [readFields, hpath]
    dsimp only
    rw [hvalue]
    rfl
  have hm : parseLine ⟨7⟩ "m;b=2;a=1;b=2 1 1" = .ok m := by
    rw [parseLine, hspaced.fields_eq]
    exact hread _ _ _ (by cbv)
  have hn : parseLine ⟨7⟩ "\u3000m;b=2;a=1\t1 \u00a01" = .ok { m with tags := ["a=1", "b=2"] } := by
    rw [parseLine, hspaced'.fields_eq]
    exact hread _ _ _ (by cbv)
  have hlines : readLines input = [some "m;b=2;a=1;b=2 1 1"] := by decide
  have hlines' : readLines other = [some " ", some "\u3000m;b=2;a=1\t1 \u00a01", some ""] := by decide
  have hsame : SameInput input other := by
    rw [SameInput, hlines, hlines']
    exact .cons (.some hrespelled) .nil
  obtain ⟨-, -, houtcomes, hstate, -⟩ := spelling_immaterial p b c ⟨7⟩ 1 state hsame
  exact ⟨⟨m, _, hm, rfl, hn, rfl⟩, hsame, houtcomes.symm, hstate.symm⟩

end MetricGateway.Plaintext
