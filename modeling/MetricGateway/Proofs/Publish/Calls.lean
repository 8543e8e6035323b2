import Mathlib.Data.List.Perm.Basic
import Mathlib.Data.List.Sigma
import Mathlib.Logic.Relation
import MetricGateway.Proofs.Publish.Description

/-!
# Batches that are published at the same time

Publishers may share a cache, and publishing a batch is no single step. Every
metric makes a touch of its own and is encoded by what this touch has found. Then
the records are submitted one by one, while the broker reports on those that it
has taken, in any order. When no more reports are awaited the batch has succeeded
or failed, and if it has failed, the series that it was the first to describe are
forgotten one by one before it returns.

Between any two of these steps, others can make theirs. The choices are those of
the program: which encoding a touch leads to, what a message and its record are,
and which errors are noticed. If nothing comes in between, the steps of a call
publish its batch (`publish_uninterrupted`).
-/

namespace MetricGateway.Publish.Calls

open Novelty (KeyCache)
open Routing (Broker DeliveryReport Record ReportsEnd SendFailed)

/-! ## States -/

/-- A batch that is being published. -/
structure Call where
  publisher : Publisher
  now : Timestamp
  /-- The metrics with their keys, unless some metric is invalid. -/
  samples : List (Metric × MetricKey) := []
  /-- How the first of them have been encoded. -/
  encodings : List Encoding := []
  /-- The series that the batch is the first to describe, the latest first. -/
  described : List MetricKey := []
  submission : Submission := {}
  /-- What the broker has reported, and about which of the records that it has taken. -/
  reports : List (DeliveryReport × Nat) := []
  /-- What the batch will return, once that is settled. -/
  result : Option (Except PublishError Unit) := none
  /-- The series that are still to be forgotten. -/
  unforgotten : List MetricKey := []

namespace Call

/-- A call begins. It ends at once if there is nothing to do, or if a metric is invalid. -/
def start (p : Publisher) (now : Timestamp) (batch : List Metric) : Call :=
  if batch.isEmpty then { publisher := p, now, result := some (.ok ()) }
  else
    match normalize p.schemas batch with
    | (_, .error e) => { publisher := p, now, result := some (.error (.invalidMetric e)) }
    | (metrics, .ok keys) => { publisher := p, now, samples := metrics.zip keys }

/-- The record of a sample with an encoding. -/
def recordOf (c : Call) (m : Metric) (key : MetricKey) (encoding : Encoding) : Record :=
  Publish.recordOf c.publisher m ⟨encoding.bufferKind, writeMessage encoding m key []⟩

/-- The records of the samples that have been encoded. -/
def records (c : Call) : List Record :=
  (c.samples.zip c.encodings).map fun (sample, encoding) => c.recordOf sample.1 sample.2 encoding

/-- The next samples have been encoded. -/
def encode (c : Call) (encodings : List Encoding) (described : List MetricKey) : Call :=
  { c with encodings := c.encodings ++ encodings, described }

/-- Encoding is over, and the batch has not returned. -/
structure Ready (c : Call) : Prop where
  encoded : c.encodings.length = c.samples.length
  pending : c.result = none

/-- The broker has taken more records, or refused one. -/
def submit (c : Call) (more : Submission) : Call :=
  { c with submission := ⟨c.submission.accepted ++ more.accepted, more.refused⟩ }

/-- The broker has reported about more of the records that it has taken. -/
def report (c : Call) (more : List (DeliveryReport × Nat)) : Call :=
  { c with reports := c.reports ++ more }

/-- All errors, if no more reports are awaited. -/
def errors (c : Call) {patience : Option Duration} (ending : ReportsEnd patience) :
    List PublishError :=
  c.submission.errors ++
    (await ending c.submission.accepted.length (c.reports.map (·.1))).2

/-- No more reports are awaited. -/
def close (c : Call) {patience : Option Duration} (ending : ReportsEnd patience) : Call :=
  { c with
    result := some (resultOf (c.errors ending))
    unforgotten := if (c.errors ending).isEmpty then [] else c.described }

/-- Series are forgotten. -/
def forget (c : Call) (key : MetricKey) : Call :=
  { c with unforgotten := c.unforgotten.erase key }

/-- The batch has returned: its result is settled, and there is nothing left to forget. -/
structure Returned (c : Call) : Prop where
  settled : c.result ≠ none
  forgotten : c.unforgotten = []

theorem encode_encode (c : Call) (encodings more : List Encoding)
    (described later : List MetricKey) :
    (c.encode encodings described).encode more later = c.encode (encodings ++ more) later := by
  rw [encode, encode, encode, List.append_assoc]

theorem submit_submit (c : Call) (first more : Submission) :
    (c.submit first).submit more = c.submit ⟨first.accepted ++ more.accepted, more.refused⟩ := by
  rw [submit, submit, submit, List.append_assoc]

theorem report_report (c : Call) (first more : List (DeliveryReport × Nat)) :
    (c.report first).report more = c.report (first ++ more) := by
  rw [report, report, report, List.append_assoc]

end Call

/-- What calls do to the cache that they share. -/
inductive Event where
  /-- A call has touched the series of a sample and chosen how to encode it. -/
  | encoded (call place : Nat) (key : MetricKey) (encoding : Encoding)
  /-- A call has forgotten a series. -/
  | forgot (call : Nat) (key : MetricKey)
  deriving DecidableEq, Repr

/-- Calls and the cache that they share. -/
structure World where
  cache : Option KeyCache
  calls : List Call := []
  /-- What has happened so far. No step depends on it. -/
  log : List Event := []

namespace World

/-- Replaces what a call has come to. -/
def setCall (w : World) (i : Nat) (c : Call) : World := { w with calls := w.calls.set i c }

/-- What a call chooses for a series. -/
def choose (w : World) (c : Call) (key : MetricKey) : Encoding × EncodingState :=
  chooseEncoding c.publisher.format c.now key
    { cache := w.cache, described := c.described, pools := .ofMaxIdle 0 }

/-- A call encodes its next sample. -/
def encode (w : World) (i : Nat) (c : Call) (key : MetricKey) : World where
  cache := (w.choose c key).2.cache
  calls := w.calls.set i (c.encode [(w.choose c key).1] (w.choose c key).2.described)
  log := w.log ++ [.encoded i c.encodings.length key (w.choose c key).1]

/-- A call forgets a series. -/
def forget (w : World) (i : Nat) (c : Call) (key : MetricKey) : World where
  cache := forgetAll w.cache [key]
  calls := w.calls.set i (c.forget key)
  log := w.log ++ [.forgot i key]

end World

/-! ## Steps -/

/-- What can happen in one step. -/
inductive Step : World → World → Prop where
  | start (w : World) (p : Publisher) (now : Timestamp) (batch : List Metric) :
      Step w { w with calls := w.calls ++ [.start p now batch] }
  | encode {w : World} {i : Nat} {c : Call} {m : Metric} {key : MetricKey}
      (hc : w.calls[i]? = some c) (hpending : c.result = none)
      (hsample : c.samples[c.encodings.length]? = some (m, key)) : Step w (w.encode i c key)
  | take {w : World} {i : Nat} {c : Call} {r : Record} (hc : w.calls[i]? = some c)
      (hready : c.Ready) (hopen : c.submission.refused = none)
      (hr : c.records[c.submission.accepted.length]? = some r) :
      Step w (w.setCall i (c.submit { accepted := [r] }))
  | refuse {w : World} {i : Nat} {c : Call} {r : Record} (hc : w.calls[i]? = some c)
      (hready : c.Ready) (hopen : c.submission.refused = none)
      (hr : c.records[c.submission.accepted.length]? = some r) (e : SendFailed) :
      Step w (w.setCall i (c.submit { refused := some (r, e) }))
  /-- The broker reports once about a record, sooner or later. A report that comes when the call
  does not wait any more goes unnoticed. -/
  | report {w : World} {i : Nat} {c : Call} (place : Nat) (hc : w.calls[i]? = some c)
      (hplace : place < c.submission.accepted.length) (hnew : place ∉ c.reports.map (·.2))
      (r : DeliveryReport) : Step w (w.setCall i (c.report [(r, place)]))
  /-- When submission is over, a call waits for the reports that are missing. It may give up. -/
  | close {w : World} {i : Nat} {c : Call} (hc : w.calls[i]? = some c) (hready : c.Ready)
      (hsubmitted : c.submission.refused = none → c.submission.accepted.length = c.samples.length)
      (ending : ReportsEnd c.publisher.ackTimeout) : Step w (w.setCall i (c.close ending))
  /-- Series are forgotten in no particular order. -/
  | forget {w : World} {i : Nat} {c : Call} {key : MetricKey} (hc : w.calls[i]? = some c)
      (hkey : key ∈ c.unforgotten) : Step w (w.forget i c key)

/-- Any number of steps. -/
def Run : World → World → Prop := Relation.ReflTransGen Step

/-! ## A call on its own -/

section Uninterrupted

/-- Steps of the last of all calls lead from one state of it and of the cache to another. -/
def Leads (before : List Call) (cache : Option KeyCache) (c : Call) (cache' : Option KeyCache)
    (c' : Call) : Prop :=
  ∀ log, ∃ log', Run ⟨cache, before ++ [c], log⟩ ⟨cache', before ++ [c'], log'⟩

variable {before : List Call} {cache cache' cache'' : Option KeyCache} {c c' c'' : Call}

theorem Leads.refl : Leads before cache c cache c := fun log => ⟨log, .refl⟩

theorem Leads.trans (h : Leads before cache c cache' c') (h' : Leads before cache' c' cache'' c'') :
    Leads before cache c cache'' c'' := by
  intro log
  obtain ⟨log', hrun⟩ := h log
  obtain ⟨log'', hrun'⟩ := h' log'
  exact ⟨log'', Relation.ReflTransGen.trans hrun hrun'⟩

/-- The call at work is the last. -/
theorem getElem?_calls (before : List Call) (cache : Option KeyCache) (c : Call)
    (log : List Event) : (World.mk cache (before ++ [c]) log).calls[before.length]? = some c :=
  List.getElem?_concat_length

theorem set_calls (later : Call) : (before ++ [c]).set before.length later = before ++ [later] := by
  simp

theorem leads_setCall (h : ∀ log, Step ⟨cache, before ++ [c], log⟩
    (World.setCall ⟨cache, before ++ [c], log⟩ before.length c')) :
    Leads before cache c cache c' := by
  intro log
  have hstep := h log
  rw [World.setCall, set_calls] at hstep
  exact ⟨log, .single hstep⟩

/-- What is at hand and what is left of it. -/
theorem getElem?_and_drop_of_drop {α : Type} {l rest : List α} {n : Nat} {a : α}
    (h : l.drop n = a :: rest) : l[n]? = some a ∧ l.drop (n + 1) = rest := by
  constructor
  · rw [← List.head?_drop, h, List.head?_cons]
  · rw [← List.tail_drop, h, List.tail_cons]

/-- The samples that are left are encoded one after the other. -/
theorem leads_encode (hpending : c.result = none) {rest : List (Metric × MetricKey)}
    (hrest : c.samples.drop c.encodings.length = rest) {s : EncodingState}
    (hs : s.described = c.described) :
    Leads before s.cache c (encode c.publisher.format c.now rest s).2.cache
      (c.encode ((encode c.publisher.format c.now rest s).1.map (·.1))
        (encode c.publisher.format c.now rest s).2.described) := by
  induction rest generalizing c s with
  | nil =>
      have hsame : c.encode [] s.described = c := by rw [Call.encode, List.append_nil, hs]
      rw [encode, List.map_nil, hsame]
      exact .refl
  | cons sample rest ih =>
      obtain ⟨m, key⟩ := sample
      obtain ⟨hsample, htail⟩ := getElem?_and_drop_of_drop hrest
      have hchoose : ∀ log, World.choose ⟨s.cache, before ++ [c], log⟩ c key =
          ((chooseEncoding c.publisher.format c.now key s).1,
            { (chooseEncoding c.publisher.format c.now key s).2 with pools := .ofMaxIdle 0 }) := by
        intro log
        rw [← chooseEncoding_pools, World.choose, hs]
      have hfirst : Leads before s.cache c (encodeOne c.publisher.format c.now m key s).2.cache
          (c.encode [(chooseEncoding c.publisher.format c.now key s).1]
            (encodeOne c.publisher.format c.now m key s).2.described) := by
        intro log
        have hstep := Step.encode (getElem?_calls before s.cache c log)
          hpending hsample
        rw [World.encode, set_calls, hchoose] at hstep
        exact ⟨_, .single hstep⟩
      have hlater := ih (c := c.encode [(chooseEncoding c.publisher.format c.now key s).1]
        (encodeOne c.publisher.format c.now m key s).2.described) hpending
        (by rw [Call.encode, List.length_append]; exact htail) rfl
      rw [Call.encode_encode] at hlater
      exact hfirst.trans hlater

/-- The records that are left are submitted until one is refused. -/
theorem leads_submit {σ : Type} (b : Broker σ) (hready : c.Ready)
    (hopen : c.submission.refused = none) {rest : List Record}
    (hrest : c.records.drop c.submission.accepted.length = rest) (s : σ) :
    Leads before cache c cache (c.submit (submit b rest s).1) := by
  induction rest generalizing c s with
  | nil =>
      have hsame : c.submit {} = c := by rw [Call.submit, List.append_nil, ← hopen]
      rw [submit, hsame]
      exact .refl
  | cons r rest ih =>
      obtain ⟨hr, htail⟩ := getElem?_and_drop_of_drop hrest
      rcases h : b.produce r s with ⟨answer, s'⟩
      cases answer with
      | error e =>
          rw [submit_of_error h]
          exact leads_setCall fun _ => .refuse (getElem?_calls ..) hready hopen hr e
      | ok =>
          have hfirst : Leads before cache c cache (c.submit { accepted := [r] }) :=
            leads_setCall fun _ => .take (getElem?_calls ..) hready hopen hr
          have hlater := ih (c := c.submit { accepted := [r] }) ⟨hready.encoded, hready.pending⟩ rfl
            (by rw [Call.submit, List.length_append]; exact htail) s'
          rw [Call.submit_submit] at hlater
          rw [submit_of_ok h]
          exact hfirst.trans hlater

/-- The broker reports about records. -/
theorem leads_report {more : List (DeliveryReport × Nat)}
    (hplaces : ∀ r ∈ more, r.2 < c.submission.accepted.length)
    (honce : ((c.reports ++ more).map (·.2)).Nodup) :
    Leads before cache c cache (c.report more) := by
  induction more generalizing c with
  | nil =>
      have hsame : c.report [] = c := by rw [Call.report, List.append_nil]
      rw [hsame]
      exact .refl
  | cons r rest ih =>
      obtain ⟨hr, hrest⟩ := List.forall_mem_cons.mp hplaces
      have hnew : r.2 ∉ c.reports.map (·.2) := by
        rw [List.map_append] at honce
        exact fun hmem => (List.nodup_append.mp honce).2.2 _ hmem _ (List.mem_cons_self ..) rfl
      have hfirst : Leads before cache c cache (c.report [r]) :=
        leads_setCall fun _ => .report r.2 (getElem?_calls ..) hr hnew r.1
      have hlater := ih (c := c.report [r]) hrest (by
        rw [Call.report, List.append_assoc]; exact honce)
      rw [Call.report_report] at hlater
      exact hfirst.trans hlater

theorem leads_close (hready : c.Ready)
    (hsubmitted : c.submission.refused = none → c.submission.accepted.length = c.samples.length)
    (ending : ReportsEnd c.publisher.ackTimeout) :
    Leads before cache c cache (c.close ending) :=
  leads_setCall fun _ => .close (getElem?_calls ..) hready hsubmitted ending

theorem forgetAll_nil (cache : Option KeyCache) : forgetAll cache [] = cache := by
  cases cache <;> rfl

/-- What is left to forget is forgotten. -/
theorem leads_forget {keys : List MetricKey} (hkeys : c.unforgotten = keys) :
    Leads before cache c (forgetAll cache keys) { c with unforgotten := [] } := by
  induction keys generalizing c cache with
  | nil =>
      have hsame : { c with unforgotten := [] } = c := by rw [← hkeys]
      rw [hsame, forgetAll_nil]
      exact .refl
  | cons key rest ih =>
      have hkey : key ∈ c.unforgotten := by rw [hkeys]; exact List.mem_cons_self ..
      have hfirst : Leads before cache c (forgetAll cache [key]) (c.forget key) := by
        intro log
        have hstep := Step.forget (getElem?_calls before cache c log) hkey
        rw [World.forget, set_calls] at hstep
        exact ⟨_, .single hstep⟩
      have hlater : Leads before (forgetAll cache [key]) (c.forget key)
          (forgetAll (forgetAll cache [key]) rest) { c.forget key with unforgotten := [] } :=
        ih (by rw [Call.forget, hkeys, List.erase_cons_head])
      have hcache : forgetAll (forgetAll cache [key]) rest = forgetAll cache (key :: rest) := by
        cases cache <;> rfl
      rw [hcache] at hlater
      exact hfirst.trans hlater

/-- Only so many reports count as are awaited. -/
theorem await_take {patience : Option Duration} (ending : ReportsEnd patience) (expected : Nat)
    (reports : List DeliveryReport) :
    (await ending expected (reports.take expected)).2 = (await ending expected reports).2 := by
  rw [await_snd, await_snd, List.take_take, Nat.min_self, List.length_take]
  by_cases h : reports.length < expected
  · rw [Nat.min_eq_right (Nat.le_of_lt h)]
  · rw [if_neg h, if_neg (by omega)]

/-- The records of a batch are those of its samples with what has been chosen for them. -/
theorem recordsOf_encode (p : Publisher) (format : Wire.PointFormat) (now : Timestamp)
    (pairs : List (Metric × MetricKey)) {s : EncodingState} (hclean : s.pools.Clean) :
    recordsOf p (pairs.map (·.1)) (encode format now pairs s).1 =
      (pairs.zip ((encode format now pairs s).1.map (·.1))).map fun (sample, encoding) =>
        recordOf p sample.1 ⟨encoding.bufferKind, writeMessage encoding sample.1 sample.2 []⟩ := by
  induction pairs generalizing s with
  | nil => rfl
  | cons pair rest ih =>
      obtain ⟨m, key⟩ := pair
      obtain ⟨hone, hclean'⟩ := encodeOne_spec hclean format now m key
      rw [encode]
      dsimp only
      rw [List.map_cons, List.map_cons, List.zip_cons_cons, List.map_cons,
        ← ih (s := (encodeOne format now m key s).2) hclean']
      dsimp only
      rw [hone]
      rfl

section Exchange

variable {σ : Type} (b : Broker σ) (room : Nat) (s : σ) {more : List (DeliveryReport × Nat)}

/-- A call submits its records and waits for reports, which are given with the places of their
records. -/
theorem leads_exchange (hready : c.Ready) (hsubmission : c.submission = {})
    (hreports : c.reports = [])
    (hplaces : ∀ r ∈ more,
      r.2 < (exchange c.publisher b room c.records s).1.submission.accepted.length)
    (honce : (more.map (·.2)).Nodup) (ending : ReportsEnd c.publisher.ackTimeout) :
    Leads before cache c cache
      (((c.submit (exchange c.publisher b room c.records s).1.submission).report more).close
        ending) := by
  have hlength : c.records.length = c.samples.length := by
    rw [Call.records, List.length_map, List.length_zip, hready.encoded, Nat.min_self]
  have hsubmit : Leads before cache c cache
      (c.submit (exchange c.publisher b room c.records s).1.submission) :=
    leads_submit b hready (by rw [hsubmission]) (by rw [hsubmission]; rfl) (b.openBatch room s)
  have hsame : (c.submit (exchange c.publisher b room c.records s).1.submission).submission =
      (exchange c.publisher b room c.records s).1.submission := by
    rw [Call.submit, hsubmission]; rfl
  have hreport : Leads before cache _ cache _ :=
    leads_report (by rw [hsame]; exact hplaces) (by rw [Call.submit, hreports]; exact honce)
  refine (hsubmit.trans hreport).trans (leads_close (c := (c.submit _).report more)
    ⟨hready.encoded, hready.pending⟩ (fun hopen => ?_) ending)
  have hcall : ((c.submit (exchange c.publisher b room c.records s).1.submission).report
      more).submission = (exchange c.publisher b room c.records s).1.submission := hsame
  rw [hcall] at hopen ⊢
  rcases submission_errors_exchange c.publisher b room c.records s with
    ⟨hall, -⟩ | ⟨e, -, -, hrefused⟩
  · exact (length_accepted_exchange ..).trans (hall.trans hlength)
  · rw [Submission.errors, hopen] at hrefused
    cases hrefused

/-- The reports that have come lead to the same errors as all that the broker has. -/
theorem errors_of_exchange (hsubmission : c.submission = {}) (hreports : c.reports = [])
    (hmore : more.map (·.1) = (exchange c.publisher b room c.records s).1.received) :
    ((c.submit (exchange c.publisher b room c.records s).1.submission).report more).errors
        (reportsOf c.publisher b room c.records s).ending =
      (exchange c.publisher b room c.records s).1.errors := by
  rw [Call.errors, (await_exchange c.publisher b room c.records s).2,
    ← await_take _ _ (reportsOf c.publisher b room c.records s).received,
    ← received_exchange c.publisher, ← hmore, Call.report, Call.submit, hsubmission, hreports,
    ← length_accepted_exchange c.publisher]
  rfl

/-- **From the first record to the end.** Some reports come while the call waits for them, and the
others when it has returned. -/
theorem leads_send (hready : c.Ready) (hsubmission : c.submission = {}) (hreports : c.reports = [])
    (hreceived : (exchange c.publisher b room c.records s).1.received <+: more.map (·.1))
    (hplaces : ∀ r ∈ more,
      r.2 < (exchange c.publisher b room c.records s).1.submission.accepted.length)
    (honce : (more.map (·.2)).Nodup) :
    Leads before cache c
      (if (exchange c.publisher b room c.records s).1.errors.isEmpty then cache
        else forgetAll cache c.described)
      { c with
        submission := (exchange c.publisher b room c.records s).1.submission
        reports := more
        result := some (resultOf (exchange c.publisher b room c.records s).1.errors)
        unforgotten := [] } := by
  obtain ⟨first, later, rfl, hfirst⟩ : ∃ first later, more = first ++ later
      ∧ first.map (·.1) = (exchange c.publisher b room c.records s).1.received := by
    obtain ⟨rest, hrest⟩ := hreceived
    obtain ⟨first, later, hmore, hfirst, -⟩ := List.map_eq_append_iff.mp hrest.symm
    exact ⟨first, later, hmore, hfirst⟩
  have hexchange : Leads before cache c cache _ :=
    leads_exchange b room s hready hsubmission hreports
      (fun r hr => hplaces r (List.mem_append_left later hr))
      (by rw [List.map_append] at honce; exact (List.nodup_append.mp honce).1)
      (reportsOf c.publisher b room c.records s).ending
  have hclosed : ((c.submit (exchange c.publisher b room c.records s).1.submission).report
      first).close (reportsOf c.publisher b room c.records s).ending = { c with
        submission := (exchange c.publisher b room c.records s).1.submission
        reports := first
        result := some (resultOf (exchange c.publisher b room c.records s).1.errors)
        unforgotten := if (exchange c.publisher b room c.records s).1.errors.isEmpty then []
          else c.described } := by
    rw [Call.close, errors_of_exchange b room s hsubmission hreports hfirst]
    simp [Call.report, Call.submit, hsubmission, hreports]
  rw [hclosed] at hexchange
  have hcache : (if (exchange c.publisher b room c.records s).1.errors.isEmpty then cache
      else forgetAll cache c.described) = forgetAll cache
        (if (exchange c.publisher b room c.records s).1.errors.isEmpty then [] else c.described) := by
    split
    · rw [forgetAll_nil]
    · rfl
  rw [hcache]
  exact (hexchange.trans (leads_forget rfl)).trans
    (leads_report (fun r hr => hplaces r (List.mem_append_right _ hr)) honce)

end Exchange

/-- Reports that arrive in any order can be given the places of their records. -/
theorem exists_tagged {arrivals fates : List DeliveryReport} (h : arrivals.Perm fates) :
    ∃ tagged : List (DeliveryReport × Nat), tagged.map (·.1) = arrivals
      ∧ tagged.Perm fates.zipIdx := by
  rw [← List.zipIdx_map_fst 0 fates] at h
  obtain ⟨tagged, htagged, hperm⟩ :=
    (congrFun (congrFun (List.eq_map_comp_perm Prod.fst) arrivals) fates.zipIdx).mpr h
  exact ⟨tagged, htagged.symm, hperm⟩

theorem start_cases {σ : Type} (p : Publisher) (b : Broker σ) (now : Timestamp)
    (batch : List Metric) (s : State σ) :
    (∃ result metrics, publishAt p b now batch s = ({ result, metrics }, s)
        ∧ Call.start p now batch = { publisher := p, now, result := some result })
      ∨ ∃ metrics keys, normalize p.schemas batch = (metrics, .ok keys)
        ∧ publishAt p b now batch s = send p b now metrics keys s
        ∧ Call.start p now batch = { publisher := p, now, samples := metrics.zip keys } := by
  rw [publishAt, Call.start]
  split
  · exact Or.inl ⟨_, _, rfl, rfl⟩
  · rcases hnormal : normalize p.schemas batch with ⟨metrics, e | keys⟩
    · exact Or.inl ⟨_, _, rfl, rfl⟩
    · exact Or.inr ⟨metrics, keys, rfl, rfl, rfl⟩

/-- All metrics of a batch are encoded. -/
theorem leads_encodeBatch {σ : Type} (before : List Call) (p : Publisher) (now : Timestamp)
    {batch metrics : List Metric} {keys : List MetricKey} {s : State σ} (hclean : s.pools.Clean)
    (hnormal : normalize p.schemas batch = (metrics, .ok keys)) :
    ∃ c, Leads before s.cache { publisher := p, now, samples := metrics.zip keys }
        (encodeBatch p now metrics keys s).2.cache c
      ∧ c.Ready ∧ c.publisher = p
      ∧ c.encodings = (encodeBatch p now metrics keys s).1.map (·.1)
      ∧ c.described = (encodeBatch p now metrics keys s).2.described
      ∧ c.submission = {} ∧ c.reports = []
      ∧ c.records = recordsOf p metrics (encodeBatch p now metrics keys s).1 := by
  refine ⟨_, leads_encode rfl rfl (s := { cache := s.cache, pools := s.pools }) rfl,
    ⟨(List.length_map _).trans (length_encode ..), rfl⟩, rfl, rfl, rfl, rfl, rfl, ?_⟩
  obtain ⟨hmetrics, hkeys⟩ := length_normalize hnormal
  have hpairs : (metrics.zip keys).map (·.1) = metrics := List.map_fst_zip (by omega)
  have hrecords := recordsOf_encode p p.format now (metrics.zip keys)
    (s := { cache := s.cache, pools := s.pools }) hclean
  rw [hpairs] at hrecords
  exact hrecords.symm

/-- **A call that nobody interrupts publishes its batch.** Whatever a publisher and its broker do,
one step after the other, are steps of a call. -/
theorem publish_uninterrupted {σ : Type} (p : Publisher) (b : Broker σ) (now : Timestamp)
    (batch : List Metric) {s : State σ} (hclean : s.pools.Clean) {fates : List DeliveryReport}
    (honce : (publishAt p b now batch s).1.ReportedOnce fates) {w : World}
    (hw : w.cache = s.cache) :
    ∃ c log, Run w ⟨(publishAt p b now batch s).2.cache, w.calls ++ [c], log⟩
      ∧ c.Returned
      ∧ c.result = some (publishAt p b now batch s).1.result
      ∧ c.encodings = (publishAt p b now batch s).1.encodings
      ∧ c.submission = (publishAt p b now batch s).1.submission
      ∧ c.reports.Perm fates.zipIdx := by
  have hstart : Step w ⟨s.cache, w.calls ++ [.start p now batch], w.log⟩ := by
    rw [← hw]; exact .start w p now batch
  obtain ⟨hlength, arrivals, hperm, hprefix⟩ := honce
  rcases start_cases p b now batch s with ⟨result, metrics, heq, hcall⟩ |
    ⟨metrics, keys, hnormal, heq, hcall⟩
  · rw [heq] at hlength ⊢
    rw [hcall] at hstart
    rw [List.length_eq_zero_iff.mp hlength]
    exact ⟨_, _, .single hstart, ⟨nofun, rfl⟩, rfl, rfl, rfl, .nil⟩
  · rw [heq] at hlength hprefix ⊢
    rw [hcall] at hstart
    obtain ⟨c, hencode, hready, hpublisher, hencodings, hdescribed, hsubmission, hreports, hrecords⟩ :=
      leads_encodeBatch w.calls p now hclean hnormal
    obtain ⟨tagged, rfl, htags⟩ := exists_tagged hperm
    have hplaces : ∀ r ∈ tagged, r.2 < (send p b now metrics keys s).1.submission.accepted.length := by
      intro r hr
      rw [htags.mem_iff, List.mem_zipIdx_iff_getElem?] at hr
      exact Nat.lt_of_lt_of_eq (List.getElem?_eq_some_iff.mp hr).1 hlength
    have hdistinct : (tagged.map (·.2)).Nodup :=
      (htags.map (·.2)).nodup_iff.mpr (List.nodup_zipIdx_map_snd fates)
    -- the exchange of the call is that of the batch
    have hexchange : exchange c.publisher b metrics.length c.records s.broker =
        exchange p b metrics.length (recordsOf p metrics (encodeBatch p now metrics keys s).1)
          s.broker := by
      rw [hpublisher, hrecords]
    have hsend : Leads w.calls (encodeBatch p now metrics keys s).2.cache c _ _ :=
      leads_send b metrics.length s.broker hready hsubmission hreports
        (by rw [hexchange]; exact hprefix) (by rw [hexchange]; exact hplaces) hdistinct
    obtain ⟨log, hrun⟩ := hencode.trans hsend w.log
    rw [hexchange, hdescribed] at hrun
    exact ⟨_, log, .head hstart hrun, ⟨nofun, rfl⟩, rfl, hencodings, rfl, htags⟩

end Uninterrupted

end MetricGateway.Publish.Calls
