import Mathlib.Data.List.Perm.Subperm
import MetricGateway.Proofs.Log
import MetricGateway.Proofs.Novelty.Moment
import MetricGateway.Proofs.Publish.Calls

/-!
# Points that rely on a call that fails

A series counts as seen from the touch on that has described it, long before its
full message is acknowledged. A call that touches it in the meantime sends a point.
If the first call then fails it forgets the series, but the point is on its way.

Nothing else can go wrong. What carries the proof is where knowledge comes from:

> Each series that the cache knows has been described by a call that has not
> forgotten it.

Whoever sends a point has found its series, so another call had described it at
that place of the log. That call keeps its word if it succeeds, since all that it
has encoded is delivered then. If it fails, it forgets the series later.
-/

namespace MetricGateway.Publish.Calls

open Novelty (CacheConfig KeyCache maxShards slotOf slotOf_maxShards_inj)
open Routing (DeliveryReport Record ReportsEnd SendFailed)

/-! ## Calls one by one -/

namespace Call

/-- The message of a sample of a series was delivered, in this encoding. -/
def DeliveredAt (c : Call) (key : MetricKey) (place : Nat) (encoding : Encoding) : Prop :=
  ∃ m, c.samples[place]? = some (m, key)
    ∧ c.submission.accepted[place]? = some (c.recordOf m key encoding)
    ∧ (.delivered, place) ∈ c.reports

/-- The record at a place is that of the sample at this place, as it has been encoded. -/
theorem getElem?_records {c : Call} {n : Nat} {r : Record} :
    c.records[n]? = some r ↔ ∃ m key encoding, c.samples[n]? = some (m, key)
      ∧ c.encodings[n]? = some encoding ∧ r = c.recordOf m key encoding := by
  rw [records, List.getElem?_map, Option.map_eq_some_iff]
  constructor
  · rintro ⟨⟨⟨m, key⟩, encoding⟩, hzip, rfl⟩
    obtain ⟨hsample, hencoding⟩ := List.getElem?_zip_eq_some.mp hzip
    exact ⟨m, key, encoding, hsample, hencoding, rfl⟩
  · rintro ⟨m, key, encoding, hsample, hencoding, rfl⟩
    exact ⟨((m, key), encoding), List.getElem?_zip_eq_some.mpr ⟨hsample, hencoding⟩, rfl⟩

/-- What is true of every call, whatever others do. -/
structure Sound (c : Call) : Prop where
  /-- What was taken are the records of the first samples. -/
  taken : ∀ (n : Nat) r, c.submission.accepted[n]? = some r → c.records[n]? = some r
  /-- Only what was taken is reported about, once each. -/
  reported : ∀ r ∈ c.reports, r.2 < c.submission.accepted.length
  once : (c.reports.map (·.2)).Nodup
  /-- A call that succeeds has delivered the messages of all its samples. -/
  ok : c.result = some (.ok ()) → c.submission.accepted.length = c.samples.length
    ∧ ∀ n < c.samples.length, (.delivered, n) ∈ c.reports
  /-- Nothing is to be forgotten before the result is settled. -/
  pending : c.result = none → c.unforgotten = []

/-- Nothing has happened to a call that begins. If it ends at once without an error, it has no
samples. -/
theorem start_new (p : Publisher) (now : Timestamp) (batch : List Metric) :
    ∃ samples result, start p now batch = { publisher := p, now, samples, result }
      ∧ (result = some (.ok ()) → samples = []) := by
  rw [start]
  split
  · exact ⟨[], _, rfl, fun _ => rfl⟩
  · split
    · exact ⟨[], _, rfl, fun _ => rfl⟩
    · refine ⟨_, none, rfl, fun hok => ?_⟩
      cases hok

theorem sound_start (p : Publisher) (now : Timestamp) (batch : List Metric) :
    (start p now batch).Sound := by
  obtain ⟨samples, result, hstart, hok⟩ := start_new p now batch
  rw [hstart]
  refine ⟨fun n r hr => ?_, fun r hr => ?_, .nil, fun h => ?_, fun _ => rfl⟩
  · cases hr
  · cases hr
  · rw [hok h]
    exact ⟨rfl, fun n hn => absurd hn (Nat.not_lt_zero n)⟩

variable {c : Call}

/-- What has been encoded stays as it is. -/
theorem getElem?_records_encode {n : Nat} {r : Record} (h : c.records[n]? = some r)
    (encodings : List Encoding) (described : List MetricKey) :
    (c.encode encodings described).records[n]? = some r := by
  obtain ⟨m, key, encoding, hsample, hencoding, hr⟩ := getElem?_records.mp h
  refine getElem?_records.mpr ⟨m, key, encoding, hsample, ?_, hr⟩
  exact (List.getElem?_append_left (List.getElem?_eq_some_iff.mp hencoding).1).trans hencoding

theorem Sound.encode (h : c.Sound) (hpending : c.result = none) (encodings : List Encoding)
    (described : List MetricKey) : (c.encode encodings described).Sound where
  taken n r hr := getElem?_records_encode (h.taken n r hr) encodings described
  reported := h.reported
  once := h.once
  ok hok := absurd (hpending.symm.trans hok) nofun
  pending := h.pending

theorem Sound.take (h : c.Sound) (hpending : c.result = none) {r : Record}
    (hr : c.records[c.submission.accepted.length]? = some r) :
    (c.submit { accepted := [r] }).Sound where
  taken n r' hr' := by
    rcases getElem?_concat_eq_some_iff.mp hr' with hold | ⟨rfl, rfl⟩
    · exact h.taken n r' hold
    · exact hr
  reported r' hr' := by
    rw [submit, List.length_append]
    exact Nat.lt_add_right _ (h.reported r' hr')
  once := h.once
  ok hok := absurd (hpending.symm.trans hok) nofun
  pending := h.pending

theorem Sound.refuse (h : c.Sound) (hpending : c.result = none) (r : Record) (e : SendFailed) :
    (c.submit { refused := some (r, e) }).Sound where
  taken n r' hr' := by
    rw [submit, List.append_nil] at hr'
    exact h.taken n r' hr'
  reported r' hr' := by
    rw [submit, List.append_nil]
    exact h.reported r' hr'
  once := h.once
  ok hok := absurd (hpending.symm.trans hok) nofun
  pending := h.pending

theorem Sound.report (h : c.Sound) {place : Nat} (hplace : place < c.submission.accepted.length)
    (hnew : place ∉ c.reports.map (·.2)) (r : DeliveryReport) :
    (c.report [(r, place)]).Sound where
  taken := h.taken
  reported r' hr' := by
    rcases List.mem_append.mp hr' with hold | hlast
    · exact h.reported r' hold
    · rw [List.mem_singleton.mp hlast]; exact hplace
  once := by
    rw [Call.report, List.map_append]
    refine List.nodup_append.mpr ⟨h.once, List.nodup_singleton _, ?_⟩
    rintro n hn _ hlast rfl
    obtain rfl : n = place := List.mem_singleton.mp hlast
    exact hnew hn
  ok hok := by
    obtain ⟨hall, hdelivered⟩ := h.ok hok
    exact ⟨hall, fun n hn => List.mem_append_left _ (hdelivered n hn)⟩
  pending := h.pending

/-- If as many reports have come as records were taken, there is one about each. -/
theorem Sound.places (h : c.Sound) (hmany : c.submission.accepted.length ≤ c.reports.length) :
    (c.reports.map (·.2)).Perm (List.range c.submission.accepted.length) := by
  have hsub : c.reports.map (·.2) ⊆ List.range c.submission.accepted.length := by
    intro place hplace
    obtain ⟨r, hr, rfl⟩ := List.mem_map.mp hplace
    exact List.mem_range.mpr (h.reported r hr)
  refine (List.subperm_of_subset h.once hsub).perm_of_length_le ?_
  rw [List.length_range, List.length_map]
  exact hmany

/-- Without an error nothing was refused, and every report has come and is good. -/
theorem delivered_of_errors (h : c.Sound) {patience : Option Duration}
    {ending : ReportsEnd patience} (hnone : c.errors ending = []) :
    c.submission.refused = none
      ∧ ∀ n < c.submission.accepted.length, (.delivered, n) ∈ c.reports := by
  rw [errors, await_snd, List.append_eq_nil_iff, List.append_eq_nil_iff, List.length_map] at hnone
  obtain ⟨hrefused, hgood, hend⟩ := hnone
  have hmany : c.submission.accepted.length ≤ c.reports.length := by
    refine Nat.le_of_not_lt fun hlt => ?_
    rw [if_pos hlt] at hend
    cases hend
  refine ⟨?_, fun n hn => ?_⟩
  · cases hopen : c.submission.refused with
    | none => rfl
    | some refusal => rw [Submission.errors, hopen] at hrefused; cases hrefused
  · have hplaces := h.places hmany
    have hlength := hplaces.length_eq
    rw [List.length_map, List.length_range] at hlength
    obtain ⟨⟨r, _⟩, hr, rfl⟩ := List.mem_map.mp (hplaces.mem_iff.mpr (List.mem_range.mpr hn))
    -- it is among the reports that count
    rw [List.take_of_length_le (by rw [List.length_map, hlength]), failures_eq_nil_iff] at hgood
    rw [hgood r (List.mem_map_of_mem hr)] at hr
    exact hr

theorem Sound.close (h : c.Sound)
    (hsubmitted : c.submission.refused = none → c.submission.accepted.length = c.samples.length)
    {patience : Option Duration} (ending : ReportsEnd patience) : (c.close ending).Sound where
  taken := h.taken
  reported := h.reported
  once := h.once
  ok hok := by
    have hnone := resultOf_eq_ok_iff.mp (Option.some.inj hok)
    obtain ⟨hopen, hdelivered⟩ := delivered_of_errors h hnone
    exact ⟨hsubmitted hopen, fun n hn => hdelivered n (hsubmitted hopen ▸ hn)⟩
  pending := nofun

theorem Sound.forget (h : c.Sound) (key : MetricKey) : (c.forget key).Sound where
  taken := h.taken
  reported := h.reported
  once := h.once
  ok := h.ok
  pending hresult := by rw [Call.forget, h.pending hresult]; rfl

/-- What a call has come to is kept by what it comes to later. -/
structure Extends (c c' : Call) : Prop where
  samples : c'.samples = c.samples
  encodings : ∀ (n : Nat) encoding, c.encodings[n]? = some encoding →
    c'.encodings[n]? = some encoding
  described : ∀ key ∈ c.described, key ∈ c'.described
  settled : c.result ≠ none → c'.result ≠ none

theorem Extends.refl (c : Call) : c.Extends c := ⟨rfl, fun _ _ => id, fun _ => id, id⟩

end Call

/-! ## All calls -/

/-- A series that was described stays so, and gets no more points. -/
theorem described_choose (w : World) (c : Call) (key : MetricKey) :
    (∀ k ∈ c.described, k ∈ (w.choose c key).2.described)
      ∧ (key ∈ c.described → (w.choose c key).1 = .full) := by
  rcases chooseEncoding_cases c.publisher.format c.now key
    { cache := w.cache, described := c.described, pools := .ofMaxIdle 0 } with
    ⟨-, heq⟩ | ⟨_, -, ⟨-, hnew, heq⟩ | ⟨-, heq⟩ | ⟨-, -, heq⟩⟩
  all_goals rw [World.choose, heq]
  · exact ⟨fun _ => id, fun _ => rfl⟩
  · exact ⟨fun _ => id, fun hkey => absurd hkey hnew⟩
  · exact ⟨fun _ => id, fun _ => rfl⟩
  · exact ⟨fun _ => List.mem_cons_of_mem key, fun _ => rfl⟩

/-- Series are known after a touch because they were known before, or because the call has described
them. It has described the series of the touch if it is written in full, and a point stands for one
that was known. -/
theorem choose_spec {w : World} (h : Sharded maxShards w.cache) (c : Call) (key : MetricKey) :
    Sharded maxShards (w.choose c key).2.cache
      ∧ (∀ k, Known (w.choose c key).2.cache k → Known w.cache k ∨ k ∈ (w.choose c key).2.described)
      ∧ (∀ k ∈ (w.choose c key).2.described,
          k ∈ c.described ∨ k = key ∧ (w.choose c key).1 = .full)
      ∧ ((w.choose c key).1 = .full ∨ Known w.cache key) := by
  obtain ⟨⟨-, hsharded, hknown⟩, hchosen, hdescribed⟩ := chooseEncoding_spec
    (s := { cache := w.cache, described := c.described, pools := .ofMaxIdle 0 })
    ⟨BufferPools.clean_ofMaxIdle 0, h, fun _ => Or.inl⟩ c.publisher.format c.now key
  refine ⟨hsharded, fun k hk => ?_, hdescribed, hchosen.imp_right ?_⟩
  · refine (hknown k hk).imp_right ?_
    rintro ⟨k', hk', hslot⟩
    rwa [slotOf_maxShards_inj hslot]
  · rintro ⟨-, hknown | ⟨k, hne, hslot⟩⟩
    · exact hknown
    · exact absurd (slotOf_maxShards_inj hslot).symm hne

/-- **What a step does to a call**: nothing, or one thing that takes it further. -/
theorem exists_call_step {w w' : World} (h : Step w w') {i : Nat} {c : Call}
    (hc : w.calls[i]? = some c) :
    ∃ c', w'.calls[i]? = some c' ∧ c.Extends c' := by
  have hset : ∀ {j : Nat} {d d' : Call}, w.calls[j]? = some d → d.Extends d' →
      ∃ c', (w.calls.set j d')[i]? = some c' ∧ c.Extends c' := by
    intro j d d' hd hext
    rw [List.getElem?_set]
    split
    case isTrue hij =>
      subst hij
      rw [hc] at hd
      cases hd
      exact ⟨d', if_pos (List.getElem?_eq_some_iff.mp hc).1, hext⟩
    case isFalse => exact ⟨c, hc, .refl c⟩
  cases h with
  | start p now batch =>
      exact ⟨c, (List.getElem?_append_left (List.getElem?_eq_some_iff.mp hc).1).trans hc, .refl c⟩
  | @encode j d m key hd hpending hsample =>
      refine hset hd ⟨rfl, fun n e he => ?_, (described_choose w d key).1, id⟩
      exact (List.getElem?_append_left (List.getElem?_eq_some_iff.mp he).1).trans he
  | take hd | refuse hd | report _ hd | forget hd =>
      exact hset hd ⟨rfl, fun _ _ => id, fun _ => id, id⟩
  | close hd => exact hset hd ⟨rfl, fun _ _ => id, fun _ => id, fun _ => nofun⟩

theorem sound_step {w w' : World} (h : ∀ c ∈ w.calls, c.Sound) (hstep : Step w w') :
    ∀ c ∈ w'.calls, c.Sound := by
  have hset : ∀ {i : Nat} {c c' : Call}, w.calls[i]? = some c → (c.Sound → c'.Sound) →
      ∀ d ∈ w.calls.set i c', d.Sound := by
    intro i c c' hc hsound d hd
    rcases List.mem_or_eq_of_mem_set hd with hold | rfl
    · exact h d hold
    · exact hsound (h c (List.mem_of_getElem? hc))
  cases hstep with
  | start p now batch =>
      intro c hc
      rcases List.mem_append.mp hc with hold | hnew
      · exact h c hold
      · rw [List.mem_singleton.mp hnew]
        exact Call.sound_start p now batch
  | encode hc hpending => exact hset hc fun hsound => hsound.encode hpending _ _
  | take hc hready _ hr => exact hset hc fun hsound => hsound.take hready.pending hr
  | refuse hc hready _ _ e => exact hset hc fun hsound => hsound.refuse hready.pending _ e
  | report _ hc hplace hnew r => exact hset hc fun hsound => hsound.report hplace hnew r
  | close hc _ hsubmitted ending => exact hset hc fun hsound => hsound.close hsubmitted ending
  | @forget _ _ key hc => exact hset hc fun hsound => hsound.forget key

/-! ## The log -/

/-- What the log says about a call. -/
structure Call.Logged (log : List Event) (i : Nat) (c : Call) : Prop where
  encoded : ∀ {n m key encoding}, c.samples[n]? = some (m, key) →
    c.encodings[n]? = some encoding → ∃ x, At log x (.encoded i n key encoding)
  described : ∀ {key}, key ∈ c.described → ∃ y n, At log y (.encoded i n key .full)
  /-- What a call that fails has described is forgotten, or still has to be. -/
  owed : ∀ {e key}, c.result = some (.error e) → key ∈ c.described →
    key ∈ c.unforgotten ∨ ∃ z, At log z (.forgot i key)

theorem Call.Logged.concat {log : List Event} {i : Nat} {c : Call} (h : c.Logged log i)
    (event : Event) : c.Logged (log ++ [event]) i where
  encoded hsample hencoding := (h.encoded hsample hencoding).imp fun _ hx => hx.concat event
  described hkey := (h.described hkey).imp fun _ hy => hy.imp fun _ hy => hy.concat event
  owed hresult hkey := (h.owed hresult hkey).imp_right fun hz => hz.imp fun _ hz => hz.concat event

theorem Call.logged_start (log : List Event) (i : Nat) (p : Publisher) (now : Timestamp)
    (batch : List Metric) : (start p now batch).Logged log i := by
  obtain ⟨samples, result, hstart, -⟩ := start_new p now batch
  rw [hstart]
  refine ⟨fun _ hencoding => ?_, fun hkey => ?_, fun _ hkey => ?_⟩
  · cases hencoding
  · cases hkey
  · cases hkey

/-- A call that fails owes all that it has described. -/
theorem Call.Logged.close {log : List Event} {i : Nat} {c : Call} (h : c.Logged log i)
    {patience : Option Duration} (ending : ReportsEnd patience) :
    (c.close ending).Logged log i where
  encoded := h.encoded
  described := h.described
  owed := by
    intro e key hresult hkey
    refine Or.inl ?_
    rw [Call.close] at hresult ⊢
    cases herrors : c.errors ending with
    | nil => rw [herrors] at hresult; cases hresult
    | cons first rest => exact hkey

/-- The log is right about all calls if it is so about one that has gone on and about the others. -/
theorem logged_set {calls : List Call} {log : List Event} {i : Nat} {c : Call}
    (h : ∀ (j : Nat) (d : Call), calls[j]? = some d → d.Logged log j) (hc : c.Logged log i) :
    ∀ (j : Nat) (d : Call), (calls.set i c)[j]? = some d → d.Logged log j := by
  intro j d hd
  rw [List.getElem?_set] at hd
  split at hd
  case isTrue hij =>
    subst hij
    split at hd
    · cases hd
      exact hc
    · cases hd
  case isFalse => exact h j d hd

/-- At a place of the log, a call had described a series and not yet forgotten it. -/
structure World.DescribedBy (w : World) (x j : Nat) (key : MetricKey) : Prop where
  call : ∃ d, w.calls[j]? = some d ∧ key ∈ d.described
  earlier : ∃ y n, y < x ∧ At w.log y (.encoded j n key .full)
  later : ∀ z, At w.log z (.forgot j key) → x ≤ z

/-- What is true in every state of the calls. -/
structure Recorded (w : World) : Prop where
  sharded : Sharded maxShards w.cache
  calls : ∀ (i : Nat) (c : Call), w.calls[i]? = some c → c.Logged w.log i
  encoded : ∀ {x i n key encoding}, At w.log x (.encoded i n key encoding) →
    ∃ c m, w.calls[i]? = some c ∧ c.samples[n]? = some (m, key) ∧ c.encodings[n]? = some encoding
  /-- Only a call whose result is settled forgets. -/
  settled : ∀ {z i key}, At w.log z (.forgot i key) → ∃ c, w.calls[i]? = some c ∧ c.result ≠ none
  /-- A series is known because a call has described it. -/
  known : ∀ {key}, Known w.cache key → ∃ j, w.DescribedBy w.log.length j key
  /-- A point is chosen because another call has described the series. -/
  compact : ∀ {x i n key format}, At w.log x (.encoded i n key (.compact format)) →
    ∃ j, j ≠ i ∧ w.DescribedBy x j key

theorem log_step {w w' : World} (h : Step w w') :
    w'.log = w.log ∨ ∃ event, w'.log = w.log ++ [event] := by
  cases h with
  | encode | forget => exact Or.inr ⟨_, rfl⟩
  | start | take | refuse | report | close => exact Or.inl rfl

/-- What was described at a place of the log was described there for ever. -/
theorem World.DescribedBy.step {w w' : World} {x j : Nat} {key : MetricKey}
    (h : w.DescribedBy x j key) (hx : x ≤ w.log.length) (hstep : Step w w') :
    w'.DescribedBy x j key := by
  obtain ⟨⟨d, hd, hkey⟩, ⟨y, n, hlt, hy⟩, hlater⟩ := h
  obtain ⟨d', hd', hext⟩ := exists_call_step hstep hd
  have hcall : ∃ d, w'.calls[j]? = some d ∧ key ∈ d.described :=
    ⟨d', hd', hext.described key hkey⟩
  rcases log_step hstep with hlog | ⟨event, hlog⟩
  · exact ⟨hcall, ⟨y, n, hlt, hlog ▸ hy⟩, hlog ▸ hlater⟩
  · refine ⟨hcall, ⟨y, n, hlt, hlog ▸ hy.concat event⟩, fun z hz => ?_⟩
    rw [hlog] at hz
    rcases at_concat_iff.mp hz with hold | ⟨rfl, -⟩
    · exact hlater z hold
    · exact hx

section Steps

variable {w w' : World}

theorem Recorded.encoded_step (h : Recorded w) (hstep : Step w w') {x i n : Nat} {key : MetricKey}
    {encoding : Encoding} (hx : At w.log x (.encoded i n key encoding)) :
    ∃ c m, w'.calls[i]? = some c ∧ c.samples[n]? = some (m, key)
      ∧ c.encodings[n]? = some encoding := by
  obtain ⟨c, m, hc, hsample, hencoding⟩ := h.encoded hx
  obtain ⟨c', hc', hext⟩ := exists_call_step hstep hc
  exact ⟨c', m, hc', by rw [hext.samples, hsample], hext.encodings n encoding hencoding⟩

theorem Recorded.settled_step (h : Recorded w) (hstep : Step w w') {z i : Nat} {key : MetricKey}
    (hz : At w.log z (.forgot i key)) : ∃ c, w'.calls[i]? = some c ∧ c.result ≠ none := by
  obtain ⟨c, hc, hsettled⟩ := h.settled hz
  obtain ⟨c', hc', hext⟩ := exists_call_step hstep hc
  exact ⟨c', hc', hext.settled hsettled⟩

theorem Recorded.compact_step (h : Recorded w) (hstep : Step w w') {x i n : Nat} {key : MetricKey}
    {format : Wire.PointFormat} (hx : At w.log x (.encoded i n key (.compact format))) :
    ∃ j, j ≠ i ∧ w'.DescribedBy x j key := by
  obtain ⟨j, hne, hj⟩ := h.compact hx
  exact ⟨j, hne, hj.step (Nat.le_of_lt hx.lt) hstep⟩

/-- A step that leaves the cache alone. -/
theorem Recorded.quiet (h : Recorded w) (hstep : Step w w') (hcache : w'.cache = w.cache)
    (hlog : w'.log = w.log)
    (hcalls : ∀ (i : Nat) (c : Call), w'.calls[i]? = some c → c.Logged w.log i) :
    Recorded w' where
  sharded := by rw [hcache]; exact h.sharded
  calls i c hc := by rw [hlog]; exact hcalls i c hc
  encoded hx := h.encoded_step hstep (hlog ▸ hx)
  settled hz := h.settled_step hstep (hlog ▸ hz)
  known hkey := by
    rw [hcache] at hkey
    rw [hlog]
    exact (h.known hkey).imp fun j hj => hj.step (Nat.le_refl _) hstep
  compact hx := h.compact_step hstep (hlog ▸ hx)

/-- A series that is described at the end of the log is so behind the next event, unless it is then
forgotten. -/
theorem World.DescribedBy.next {j : Nat} {key : MetricKey}
    (h : w.DescribedBy w.log.length j key) (hstep : Step w w') {event : Event}
    (hlog : w'.log = w.log ++ [event]) (hevent : event ≠ .forgot j key) :
    w'.DescribedBy w'.log.length j key := by
  obtain ⟨hcall, ⟨y, n, -, hy⟩, hlater⟩ := h.step (Nat.le_refl _) hstep
  refine ⟨hcall, ⟨y, n, hy.lt, hy⟩, fun z hz => ?_⟩
  have hle := hlater z hz
  rw [hlog] at hz
  rcases at_concat_iff.mp hz with hold | ⟨-, heq⟩
  · exact absurd hold.lt (Nat.not_lt.mpr hle)
  · exact absurd heq hevent

/-- What the log says about a call that has encoded one more sample. -/
theorem Call.Logged.encode {log : List Event} {i : Nat} {c : Call} (h : c.Logged log i) {m : Metric}
    {key : MetricKey} {encoding : Encoding} {described : List MetricKey}
    (hpending : c.result = none) (hsample : c.samples[c.encodings.length]? = some (m, key))
    (hdescribed : ∀ k ∈ described, k ∈ c.described ∨ k = key ∧ encoding = .full) :
    (c.encode [encoding] described).Logged
      (log ++ [.encoded i c.encodings.length key encoding]) i where
  encoded := by
    intro n m' k encoding' hsample' hencoding
    rcases getElem?_concat_eq_some_iff.mp hencoding with hold | ⟨rfl, rfl⟩
    · exact (h.encoded hsample' hold).imp fun _ hx => hx.concat _
    · rw [show c.samples[c.encodings.length]? = some (m', k) from hsample'] at hsample
      cases hsample
      exact ⟨log.length, at_concat_length _⟩
  described := by
    intro k hk
    rcases hdescribed k hk with hold | ⟨rfl, rfl⟩
    · exact (h.described hold).imp fun _ hy => hy.imp fun _ hy => hy.concat _
    · exact ⟨log.length, c.encodings.length, at_concat_length _⟩
  owed := fun hresult => absurd (hpending.symm.trans hresult) nofun

/-- **A call encodes a sample.** If it sends a point, the series was known, and so another call had
described it. -/
theorem Recorded.encode (h : Recorded w) {i : Nat} {c : Call} {m : Metric} {key : MetricKey}
    (hc : w.calls[i]? = some c) (hpending : c.result = none)
    (hsample : c.samples[c.encodings.length]? = some (m, key)) : Recorded (w.encode i c key) := by
  have hstep := Step.encode hc hpending hsample
  obtain ⟨hsharded, hknown, hdescribed, hchosen⟩ := choose_spec h.sharded c key
  obtain ⟨-, hfull⟩ := described_choose w c key
  have hself : (w.encode i c key).calls[i]? =
      some (c.encode [(w.choose c key).1] (w.choose c key).2.described) :=
    List.getElem?_set_self (List.getElem?_eq_some_iff.mp hc).1
  have hlogged : (c.encode [(w.choose c key).1] (w.choose c key).2.described).Logged
      (w.encode i c key).log i := (h.calls i c hc).encode hpending hsample hdescribed
  constructor
  case sharded => exact hsharded
  case calls => exact logged_set (fun j d hd => (h.calls j d hd).concat _) hlogged
  case encoded =>
    intro x j n k encoding hx
    rcases at_concat_iff.mp hx with hold | ⟨-, heq⟩
    · exact h.encoded_step hstep hold
    · cases heq
      exact ⟨_, m, hself, hsample, List.getElem?_concat_length⟩
  case settled =>
    intro z j k hz
    rcases at_concat_iff.mp hz with hold | ⟨-, heq⟩
    · exact h.settled_step hstep hold
    · cases heq
  case known =>
    intro k hk
    rcases hknown k hk with hbefore | hmem
    · exact (h.known hbefore).imp fun j hj => hj.next hstep rfl nofun
    · -- the call at work has described the series, and it has not forgotten anything yet
      obtain ⟨y, n, hy⟩ := hlogged.described hmem
      refine ⟨i, ⟨_, hself, hmem⟩, ⟨y, n, hy.lt, hy⟩, fun z hz => ?_⟩
      rcases at_concat_iff.mp hz with hold | ⟨-, heq⟩
      · obtain ⟨c', hc', hsettled⟩ := h.settled hold
        rw [hc] at hc'
        cases hc'
        exact absurd hpending hsettled
      · cases heq
  case compact =>
    intro x j n k format hx
    rcases at_concat_iff.mp hx with hold | ⟨rfl, heq⟩
    · exact h.compact_step hstep hold
    · injection heq with hj hn hk hencoding
      subst hj hk
      rcases hchosen with hnot | hbefore
      · rw [hnot] at hencoding
        cases hencoding
      · obtain ⟨j, hj⟩ := h.known hbefore
        refine ⟨j, ?_, hj.step (Nat.le_refl _) hstep⟩
        -- the call itself would have gone on with full messages
        rintro rfl
        obtain ⟨d, hd, hmem⟩ := hj.call
        rw [hc] at hd
        cases hd
        rw [hfull hmem] at hencoding
        cases hencoding

theorem Call.Logged.forget {log : List Event} {i : Nat} {c : Call} (h : c.Logged log i)
    (key : MetricKey) : (c.forget key).Logged (log ++ [.forgot i key]) i where
  encoded := (h.concat _).encoded
  described := (h.concat _).described
  owed := by
    intro e k hresult hk
    rcases h.owed hresult hk with hmem | ⟨z, hz⟩
    · by_cases heq : k = key
      · subst heq
        exact Or.inr ⟨log.length, at_concat_length _⟩
      · exact Or.inl ((List.mem_erase_of_ne heq).mpr hmem)
    · exact Or.inr ⟨z, hz.concat _⟩

/-- **A call forgets a series.** It has failed, and what it has described is not known any more. -/
theorem Recorded.forget (h : Recorded w) {i : Nat} {c : Call} {key : MetricKey}
    (hc : w.calls[i]? = some c) (hkey : key ∈ c.unforgotten) (hsettled : c.result ≠ none) :
    Recorded (w.forget i c key) := by
  have hstep := Step.forget hc hkey
  obtain ⟨hsharded, hknown⟩ := forgetAll_spec h.sharded [key]
  have hself : (w.forget i c key).calls[i]? = some (c.forget key) :=
    List.getElem?_set_self (List.getElem?_eq_some_iff.mp hc).1
  constructor
  case sharded => exact hsharded
  case calls =>
    have hlogged := (h.calls i c hc).forget key
    exact logged_set (fun j d hd => (h.calls j d hd).concat _) hlogged
  case encoded =>
    intro x j n k encoding hx
    rcases at_concat_iff.mp hx with hold | ⟨-, heq⟩
    · exact h.encoded_step hstep hold
    · cases heq
  case settled =>
    intro z j k hz
    rcases at_concat_iff.mp hz with hold | ⟨-, heq⟩
    · exact h.settled_step hstep hold
    · cases heq
      exact ⟨_, hself, hsettled⟩
  case known =>
    intro k hk
    obtain ⟨hbefore, hother⟩ := (hknown k).mp hk
    refine (h.known hbefore).imp fun j hj => hj.next hstep rfl ?_
    rintro ⟨⟩
    exact hother key (List.mem_singleton_self key) rfl
  case compact =>
    intro x j n k format hx
    rcases at_concat_iff.mp hx with hold | ⟨-, heq⟩
    · exact h.compact_step hstep hold
    · cases heq

/-- **Every step leaves the log right.** -/
theorem recorded_step (h : Recorded w) (hsound : ∀ c ∈ w.calls, c.Sound) (hstep : Step w w') :
    Recorded w' := by
  -- a call that goes on with what it has encoded and described
  have hset : ∀ {i : Nat} {c c' : Call}, w.calls[i]? = some c → c'.Logged w.log i →
      Step w (w.setCall i c') → Recorded (w.setCall i c') := by
    intro i c c' hc hlogged hstep
    exact h.quiet hstep rfl rfl (logged_set h.calls hlogged)
  cases hstep with
  | start p now batch =>
      refine h.quiet (.start w p now batch) rfl rfl fun i c hc => ?_
      rcases getElem?_concat_eq_some_iff.mp hc with hold | ⟨-, rfl⟩
      · exact h.calls i c hold
      · exact Call.logged_start w.log i p now batch
  | encode hc hpending hsample => exact h.encode hc hpending hsample
  | take hc hready hopen hr =>
      obtain ⟨hencoded, hdescribed, howed⟩ := h.calls _ _ hc
      exact hset hc ⟨hencoded, hdescribed, howed⟩ (.take hc hready hopen hr)
  | refuse hc hready hopen hr e =>
      obtain ⟨hencoded, hdescribed, howed⟩ := h.calls _ _ hc
      exact hset hc ⟨hencoded, hdescribed, howed⟩ (.refuse hc hready hopen hr e)
  | report place hc hplace hnew r =>
      obtain ⟨hencoded, hdescribed, howed⟩ := h.calls _ _ hc
      exact hset hc ⟨hencoded, hdescribed, howed⟩ (.report place hc hplace hnew r)
  | close hc hready hsubmitted ending =>
      exact hset hc ((h.calls _ _ hc).close ending) (.close hc hready hsubmitted ending)
  | forget hc hkey =>
      have hpending := (hsound _ (List.mem_of_getElem? hc)).pending
      refine h.forget hc hkey fun hresult => ?_
      rw [hpending hresult] at hkey
      cases hkey

end Steps

/-! ## Runs -/

/-- What is true in every state of the calls. -/
structure Consistent (w : World) : Prop where
  sound : ∀ c ∈ w.calls, c.Sound
  recorded : Recorded w

theorem consistent_start {c : KeyCache} (horgs : c.orgs = ∅) (hcount : c.shardCount = maxShards) :
    Consistent { cache := some c } where
  sound := nofun
  recorded :=
    { sharded := by
        rintro _ ⟨⟩
        exact ⟨KeyCache.uniform_of_orgs_empty horgs (by rw [hcount]; decide), hcount⟩
      calls := nofun
      encoded := nofun
      settled := nofun
      known := fun h => absurd (known_some.mp h) (KeyCache.not_knows_of_orgs_empty horgs _)
      compact := nofun }

theorem consistent_run {w w' : World} (h : Consistent w) (hrun : Run w w') : Consistent w' := by
  induction hrun with
  | refl => exact h
  | tail _ hstep ih =>
      exact ⟨sound_step ih.sound hstep, recorded_step ih.recorded ih.sound hstep⟩

/-- What was delivered is what was chosen. -/
theorem Call.Sound.encoding_of_delivered {c : Call} (h : c.Sound) {key : MetricKey} {n : Nat}
    {encoding : Encoding} (hn : c.DeliveredAt key n encoding) :
    ∃ m, c.samples[n]? = some (m, key) ∧ c.encodings[n]? = some encoding := by
  obtain ⟨m, hsample, haccepted, -⟩ := hn
  obtain ⟨m', key', chosen, hsample', hencoding, hrecord⟩ :=
    Call.getElem?_records.mp (h.taken n _ haccepted)
  rw [hsample] at hsample'
  cases hsample'
  -- a message shows how it was encoded
  have hpayload : writeMessage encoding m key [] = writeMessage chosen m key [] :=
    congrArg Record.payload hrecord
  have hformat := congrArg Wire.PointFormat.detect hpayload
  rw [detect_writeMessage, detect_writeMessage] at hformat
  have heq : encoding = chosen := by
    cases encoding <;> cases chosen <;> simp_all [Encoding.format?]
  exact ⟨m, hsample, heq ▸ hencoding⟩

/-- A call that succeeds delivers what it has chosen. -/
theorem Call.Sound.delivered_of_ok {c : Call} (h : c.Sound) (hok : c.result = some (.ok ()))
    {n : Nat} {m : Metric} {key : MetricKey} {encoding : Encoding}
    (hsample : c.samples[n]? = some (m, key)) (hencoding : c.encodings[n]? = some encoding) :
    c.DeliveredAt key n encoding := by
  obtain ⟨hall, hdelivered⟩ := h.ok hok
  have hlt := (List.getElem?_eq_some_iff.mp hsample).1
  have haccepted := List.getElem?_eq_getElem (l := c.submission.accepted) (hall ▸ hlt)
  have hrecord := Call.getElem?_records.mpr ⟨m, key, encoding, hsample, hencoding, rfl⟩
  rw [h.taken n _ haccepted] at hrecord
  exact ⟨m, hsample, haccepted.trans hrecord, hdelivered n hlt⟩

/-! ## The overlap happens -/

section Orphan

variable {c : KeyCache} {p : Publisher} {m m' : Metric} {key : MetricKey}

/-- Two calls with the same sample encode it: the first describes its series, and the second relies
on that. -/
theorem run_encode_twice (horgs : c.orgs = ∅) (hcount : c.shardCount = maxShards)
    (hnormal : normalize p.schemas [m] = ([m'], .ok [key])) (now : Timestamp) :
    Run { cache := some c } ⟨some ((c.touch key now).2.touch key now).2,
      [{ publisher := p, now, samples := [(m', key)], encodings := [.full], described := [key] },
        { publisher := p, now, samples := [(m', key)], encodings := [.compact p.format] }],
      [.encoded 0 0 key .full, .encoded 1 0 key (.compact p.format)]⟩ := by
  have huniform := KeyCache.uniform_of_orgs_empty horgs (by rw [hcount]; decide)
  have hnew : (c.touch key now).1 = false := by
    refine Bool.eq_false_iff.mpr fun hseen => ?_
    exact KeyCache.not_knows_of_orgs_empty horgs key (KeyCache.knows_of_touch_fst hseen)
  have hseen : ((c.touch key now).2.touch key now).1 = true :=
    (KeyCache.finds_touch_iff huniform).mpr (Or.inl rfl)
  obtain ⟨a, ha⟩ : ∃ a : Call, a = { publisher := p, now, samples := [(m', key)] } := ⟨_, rfl⟩
  have hstart : Call.start p now [m] = a := by
    rw [Call.start, if_neg (by simp), hnormal, ha]; rfl
  have hcalls : Run { cache := some c } ⟨some c, [a, a], []⟩ := by
    have hstarts := Relation.ReflTransGen.refl (r := Step) (a := { cache := some c })
      |>.tail (.start _ p now [m]) |>.tail (.start _ p now [m])
    rwa [hstart] at hstarts
  have hfirst : World.encode ⟨some c, [a, a], []⟩ 0 a key =
      ⟨some (c.touch key now).2, [a.encode [.full] [key], a], [.encoded 0 0 key .full]⟩ := by
    simp [World.encode, World.choose, chooseEncoding, hnew, ha]
  have hsecond : World.encode
      ⟨some (c.touch key now).2, [a.encode [.full] [key], a], [.encoded 0 0 key .full]⟩ 1 a key =
      ⟨some ((c.touch key now).2.touch key now).2,
        [a.encode [.full] [key], a.encode [.compact p.format] []],
        [.encoded 0 0 key .full, .encoded 1 0 key (.compact p.format)]⟩ := by
    simp [World.encode, World.choose, chooseEncoding, hseen, ha]
  have hrun := hcalls.tail (.encode (i := 0) (m := m') rfl (by rw [ha]) (by rw [ha]; rfl))
  rw [hfirst] at hrun
  have hrun' := hrun.tail (.encode (i := 1) (m := m') rfl (by rw [ha]) (by rw [ha]; rfl))
  rw [hsecond, ha] at hrun'
  exact hrun'

/-- **A point can lose its description.** Two calls with the same sample are enough. The first
describes its series, and the second sends a point, which is delivered. Then the broker refuses the
message of the first. -/
theorem exists_orphaned_point (horgs : c.orgs = ∅) (hcount : c.shardCount = maxShards)
    (hnormal : normalize p.schemas [m] = ([m'], .ok [key])) (now : Timestamp) (e : SendFailed) :
    ∃ w, Run { cache := some c } w ∧ (∀ call ∈ w.calls, call.Returned)
      ∧ (∀ call ∈ w.calls, ∀ n < call.submission.accepted.length, n ∈ call.reports.map (·.2))
      ∧ (∃ call, w.calls[1]? = some call ∧ call.DeliveredAt key 0 (.compact p.format))
      ∧ ∀ call ∈ w.calls, ∀ n, ¬ call.DeliveredAt key n .full := by
  obtain ⟨w, hrun, hcalls⟩ : ∃ w, Run { cache := some c } w ∧ w.calls = [
      { publisher := p
        now
        samples := [(m', key)]
        encodings := [.full]
        described := [key]
        submission := { refused := some (recordOf p m' ⟨.full, writeMessage .full m' key []⟩, e) }
        result := some (.error (.producer e))
        unforgotten := [key].erase key },
      { publisher := p
        now
        samples := [(m', key)]
        encodings := [.compact p.format]
        submission :=
          { accepted := [recordOf p m' ⟨.compact, writeMessage (.compact p.format) m' key []⟩] }
        reports := [(.delivered, 0)]
        result := some (.ok ()) }] :=
    ⟨_, run_encode_twice horgs hcount hnormal now
      |>.tail (.take (i := 1) rfl ⟨rfl, rfl⟩ rfl rfl)
      |>.tail (.report (i := 1) 0 rfl (by exact Nat.zero_lt_one) (by exact nofun) .delivered)
      |>.tail (.close (i := 1) rfl ⟨rfl, rfl⟩ (fun _ => rfl) .disconnected)
      |>.tail (.refuse (i := 0) rfl ⟨rfl, rfl⟩ rfl rfl e)
      |>.tail (.close (i := 0) rfl ⟨rfl, rfl⟩ (by exact nofun) .disconnected)
      |>.tail (.forget (i := 0) rfl (List.mem_singleton_self key)), rfl⟩
  have hsound := (consistent_run (consistent_start horgs hcount) hrun).sound
  rw [List.erase_cons_head] at hcalls
  rw [hcalls, List.forall_mem_cons, List.forall_mem_singleton] at hsound
  refine ⟨w, hrun, ?_⟩
  rw [hcalls]
  simp only [List.forall_mem_cons, List.not_mem_nil, false_implies, implies_true, and_true]
  refine ⟨⟨⟨nofun, rfl⟩, ⟨nofun, rfl⟩⟩, ⟨nofun, fun n hn => ?_⟩, ⟨_, rfl, m', rfl, rfl, ?_⟩, ?_, ?_⟩
  · exact List.mem_singleton.mpr (Nat.lt_one_iff.mp hn)
  · exact List.mem_singleton_self _
  · rintro n ⟨_, -, haccepted, -⟩
    cases haccepted
  · intro n hn
    obtain ⟨_, -, hencoding⟩ := hsound.2.encoding_of_delivered hn
    rw [List.getElem?_singleton] at hencoding
    split at hencoding <;> cases hencoding

end Orphan

/-! ## When a point has no description -/

/-- **A delivered point is described, unless it was chosen during a call that failed.** Let any
number of calls share a cache of 256 shards that is empty at first, interleaved in any way, and let
all of them have returned. If a point of a series was delivered, another call had described the
series before it was chosen. Either a full message of that call was delivered too, or that call has
failed, and forgot the series only after the point had been chosen. -/
theorem point_described_unless_overlapped {config : CacheConfig} (hshards : config.shardCount = 256)
    {c : KeyCache} (hcache : KeyCache.ofConfig config = .ok c) {w : World}
    (hrun : Run { cache := some c } w) (hreturned : ∀ call ∈ w.calls, call.Returned) {i n : Nat}
    {call : Call} {key : MetricKey} {format : Wire.PointFormat} (hcall : w.calls[i]? = some call)
    (hpoint : call.DeliveredAt key n (.compact format)) :
    ∃ j other l x y, j ≠ i ∧ w.calls[j]? = some other
      ∧ At w.log y (.encoded j l key .full) ∧ At w.log x (.encoded i n key (.compact format))
      ∧ y < x
      ∧ (other.DeliveredAt key l .full
        ∨ ∃ e z, other.result = some (.error e) ∧ At w.log z (.forgot j key) ∧ x < z) := by
  obtain ⟨horgs, hcount⟩ := KeyCache.orgs_of_ofConfig hcache
  obtain ⟨hsound, hrecorded⟩ := consistent_run (consistent_start horgs (hcount.trans hshards)) hrun
  obtain ⟨m, hsample, hencoding⟩ :=
    (hsound call (List.mem_of_getElem? hcall)).encoding_of_delivered hpoint
  obtain ⟨x, hx⟩ := (hrecorded.calls i call hcall).encoded hsample hencoding
  obtain ⟨j, hne, ⟨other, hother, hkey⟩, ⟨y, l, hyx, hy⟩, hlater⟩ := hrecorded.compact hx
  refine ⟨j, other, l, x, y, hne, hother, hy, hx, hyx, ?_⟩
  obtain ⟨hsettled, hforgotten⟩ := hreturned other (List.mem_of_getElem? hother)
  cases hresult : other.result with
  | none => exact absurd hresult hsettled
  | some result =>
      cases result with
      | ok =>
          obtain ⟨_, m', hother', hsample', hencoding'⟩ := hrecorded.encoded hy
          rw [hother] at hother'
          cases hother'
          exact Or.inl ((hsound other (List.mem_of_getElem? hother)).delivered_of_ok hresult
            hsample' hencoding')
      | error e =>
          rcases (hrecorded.calls j other hother).owed hresult hkey with hmem | ⟨z, hz⟩
          · rw [hforgotten] at hmem
            cases hmem
          · refine Or.inr ⟨e, z, rfl, hz, Nat.lt_of_le_of_ne (hlater z hz) ?_⟩
            rintro rfl
            rw [At, hx] at hz
            cases hz

/-- The second does happen: a point is delivered, and no full message of its series is. -/
theorem point_described_unless_overlapped_of_refusal :
    let key : MetricKey := ⟨⟨1⟩, ⟨.ofFn fun i => i.toNat.toUInt8⟩⟩
    let c : KeyCache := ⟨.clamp 36, .ofSeconds 3600, 256, ∅⟩
    KeyCache.ofConfig {} = .ok c
      ∧ ∃ w, Run { cache := some c } w ∧ (∀ call ∈ w.calls, call.Returned)
        ∧ (∀ call ∈ w.calls, ∀ n < call.submission.accepted.length, n ∈ call.reports.map (·.2))
        ∧ (∃ call, w.calls[1]? = some call ∧ call.DeliveredAt key 0 (.compact .withOrg))
        ∧ (∀ call ∈ w.calls, ∀ n, ¬ call.DeliveredAt key n .full)
        ∧ ∃ j other x z e, j ≠ 1 ∧ w.calls[j]? = some other ∧ other.result = some (.error e)
          ∧ At w.log x (.encoded 1 0 key (.compact .withOrg)) ∧ At w.log z (.forgot j key)
          ∧ x < z := by
  intro key c
  let m : Metric := { id := "1.000102030405060708090a0b0c0d0e0f", org := ⟨1⟩, interval := 10 }
  let p : Publisher :=
    { partitioner := ⟨.byOrg, 1, by decide⟩
      schemas := ⟨[], ⟨"default", default, ⟨60, 3600, by decide, by decide⟩, []⟩⟩ }
  have hcache : KeyCache.ofConfig {} = .ok c := by cbv
  have hnormal : normalize p.schemas [m] = ([m], .ok [key]) := by cbv
  obtain ⟨w, hrun, hreturned, honce, ⟨call, hcall, hpoint⟩, hnone⟩ :=
    exists_orphaned_point (c := c) rfl rfl hnormal ⟨0⟩ ⟨"queue is full"⟩
  refine ⟨hcache, w, hrun, hreturned, honce, ⟨call, hcall, hpoint⟩, hnone, ?_⟩
  obtain ⟨j, other, l, x, y, hne, hother, -, hx, -, hfull | ⟨e, z, hfailed, hz, hlt⟩⟩ :=
    point_described_unless_overlapped rfl hcache hrun hreturned hcall hpoint
  · exact absurd hfull (hnone other (List.mem_of_getElem? hother) l)
  · exact ⟨j, other, x, z, e, hne, hother, hfailed, hx, hz, hlt⟩

end MetricGateway.Publish.Calls
