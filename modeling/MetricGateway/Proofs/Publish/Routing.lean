import Mathlib
import MetricGateway.Proofs.Bytes
import MetricGateway.Proofs.Publish.Batch
import MetricGateway.Proofs.Tags

/-!
# Where the samples of a series go

Samples of one series should share a partition, whatever the scheme. Two of the
schemes look at the organization or at the name, which is the same for all of
them. The third looks at the tags as they are listed, and expects them to be
normalized.

Computing an id normalizes the tags, so a metric that comes without an interval is
routed by its set of tags. A metric that comes with one keeps its id and its tags
as they are. Two samples with the same id whose tags are listed differently then
part ways, which is exactly when the scheme by tags does not keep a series
together.
-/

namespace MetricGateway

/-- All that describes a series is the same in both metrics, where the tags are a set. -/
structure Metric.SameSeries (m n : Metric) : Prop where
  org : m.org = n.org
  name : m.name = n.name
  unit : m.unit = n.unit
  mtype : m.mtype = n.mtype
  interval : m.interval = n.interval
  id : m.id = n.id
  tags : ∀ tag, tag ∈ m.tags ↔ tag ∈ n.tags

namespace Routing

/-! ## Keys -/

/-- The tags as the scheme by tags writes them behind the name. -/
def joinedTags (tags : List String) : Bytes :=
  tags.flatMap fun tag => Bytes.ofString ";" ++ Bytes.ofString tag

/-- Tags without semicolons can be read off. -/
theorem joinedTags_inj {tags others : List String} (h : ∀ tag ∈ tags, ';' ∉ tag.toList)
    (h' : ∀ tag ∈ others, ';' ∉ tag.toList) :
    joinedTags tags = joinedTags others ↔ tags = others := by
  -- a semicolon is one byte
  have hfields : ∀ tags : List String,
      joinedTags tags = (tags.map Bytes.ofString).flatMap ((59 : UInt8) :: ·) := by
    intro tags
    rw [joinedTags, List.flatMap_map]
    rfl
  have hfree : ∀ tags : List String, (∀ tag ∈ tags, ';' ∉ tag.toList) →
      ∀ field ∈ tags.map Bytes.ofString, (59 : UInt8) ∉ field := by
    intro tags htags field hfield hmem
    obtain ⟨tag, htag, rfl⟩ := List.mem_map.mp hfield
    exact htags tag htag ((Bytes.mem_ofString_iff (c := ';') (by decide)).mp hmem)
  rw [hfields, hfields, Bytes.flatMap_separator_inj (hfree tags h) (hfree others h')]
  exact (List.map_injective_iff.mpr fun _ _ => Bytes.ofString_inj.mp).eq_iff

/-- The schemes tell samples of a series apart only by how their tags are listed. -/
theorem PartitionScheme.key_eq_iff (scheme : PartitionScheme) {m n : Metric}
    (h : m.SameSeries n) : scheme.key m = scheme.key n ↔
      (scheme = .bySeriesWithTags → joinedTags m.tags = joinedTags n.tags) := by
  cases scheme with
  | byOrg => simp [key, h.org]
  | bySeries => simp [key, h.name]
  | bySeriesWithTags =>
      rw [key, key, h.name, List.append_cancel_left_eq]
      exact ⟨fun heq _ => heq, fun heq => heq rfl⟩

/-- Metrics are routed alike if and only if their keys are the same. -/
theorem Partitioner.partition_eq_iff (p : Partitioner) {m n : Metric} :
    ((p.partition m).1 = (p.partition n).1 ∧ (p.partition m).2 = (p.partition n).2) ↔
      p.scheme.key m = p.scheme.key n := by
  constructor
  · exact And.right
  · intro h
    have hkey : p.key m = p.key n := h
    exact ⟨congrArg p.partitionOf hkey, hkey⟩

end Routing

namespace Publish

open Routing (Broker Record joinedTags joinedTags_inj)

/-! ## Publishers -/

/-- Only metrics without an interval get their tags normalized. -/
theorem tags_resolve (schemas : Storage.Schemas) (m : Metric) :
    (resolve schemas m).tags = if m.interval = 0 then sortedTags m.tags else m.tags := by
  rw [resolve]
  split <;> rfl

/-- Tags are normalized in a batch if the metric comes without an interval, or with its tags in
order. -/
theorem pairwise_tags_resolve (schemas : Storage.Schemas) {m : Metric}
    (h : m.interval = 0 ∨ m.tags.Pairwise (· < ·)) :
    (resolve schemas m).tags.Pairwise (· < ·) := by
  rw [tags_resolve]
  split
  · exact pairwise_sortedTags m.tags
  · rcases h with hzero | hsorted
    · contradiction
    · exact hsorted

/-- A record goes where the partitioner sends the metric at its place. -/
theorem routed_of_sent {σ : Type} {p : Publisher} {b : Broker σ} {now : Timestamp}
    {batch : List Metric} {s : State σ} {key : MetricKey} {i : Nat} {m : Metric} {r : Record}
    (h : (publishAt p b now batch s).1.Sent key i m r) :
    (∃ raw, batch[i]? = some raw ∧ m = resolve p.schemas raw)
      ∧ (r.partition, r.key) = p.partitioner.partition m := by
  obtain ⟨metrics, keys, hnormal, heq⟩ := exists_send_of_sent h
  rw [heq] at h
  obtain ⟨encoding, message, hpair, -, rfl⟩ := sent_send hnormal h
  obtain ⟨hm, -⟩ := List.getElem?_zip_eq_some.mp hpair
  rw [metrics_of_normalize hnormal, List.getElem?_map, Option.map_eq_some_iff] at hm
  obtain ⟨raw, hraw, rfl⟩ := hm
  exact ⟨⟨raw, hraw, rfl⟩, rfl⟩

/-- **When the samples of a series share a partition.** Two samples of a series, in any two batches
of a publisher, get the same partition and the same key if and only if the scheme does not look at
tags, or the lists of tags look the same when they are joined; for tags without semicolons, if they
are the same lists. So they do if each metric comes without an interval, or with its tags sorted and
without repetition, and need not otherwise. -/
theorem routed_alike_iff (p : Publisher) {σ₁ σ₂ : Type} {b₁ : Broker σ₁} {b₂ : Broker σ₂}
    {now₁ now₂ : Timestamp} {batch₁ batch₂ : List Metric} {s₁ : State σ₁} {s₂ : State σ₂}
    {key₁ key₂ : MetricKey} {i₁ i₂ : Nat} {m₁ m₂ : Metric} {r₁ r₂ : Record}
    (h₁ : (publishAt p b₁ now₁ batch₁ s₁).1.Sent key₁ i₁ m₁ r₁)
    (h₂ : (publishAt p b₂ now₂ batch₂ s₂).1.Sent key₂ i₂ m₂ r₂) (hsame : m₁.SameSeries m₂) :
    ((r₁.partition = r₂.partition ∧ r₁.key = r₂.key) ↔
        (p.partitioner.scheme = .bySeriesWithTags → joinedTags m₁.tags = joinedTags m₂.tags))
      ∧ ((∀ tag ∈ m₁.tags, ';' ∉ tag.toList) →
        ((r₁.partition = r₂.partition ∧ r₁.key = r₂.key) ↔
          (p.partitioner.scheme = .bySeriesWithTags → m₁.tags = m₂.tags)))
      ∧ ((∀ raw, batch₁[i₁]? = some raw → raw.interval = 0 ∨ raw.tags.Pairwise (· < ·)) →
        (∀ raw, batch₂[i₂]? = some raw → raw.interval = 0 ∨ raw.tags.Pairwise (· < ·)) →
        r₁.partition = r₂.partition ∧ r₁.key = r₂.key) := by
  -- a record is routed by its metric alone, not by the batch around it
  obtain ⟨⟨raw₁, hraw₁, hm₁⟩, hroute₁⟩ := routed_of_sent h₁
  obtain ⟨⟨raw₂, hraw₂, hm₂⟩, hroute₂⟩ := routed_of_sent h₂
  have halike : (r₁.partition = r₂.partition ∧ r₁.key = r₂.key) ↔
      (p.partitioner.scheme = .bySeriesWithTags → joinedTags m₁.tags = joinedTags m₂.tags) := by
    rw [← p.partitioner.scheme.key_eq_iff hsame, ← p.partitioner.partition_eq_iff, ← hroute₁,
      ← hroute₂]
  refine ⟨halike, fun hfree => ?_, fun hnormal₁ hnormal₂ => ?_⟩
  · rw [halike, joinedTags_inj hfree fun tag htag => hfree tag ((hsame.tags tag).mpr htag)]
  · -- both lists are the one that sorting picks for this set of tags
    have hsorted₁ := pairwise_tags_resolve p.schemas (hnormal₁ raw₁ hraw₁)
    have hsorted₂ := pairwise_tags_resolve p.schemas (hnormal₂ raw₂ hraw₂)
    rw [← hm₁] at hsorted₁
    rw [← hm₂] at hsorted₂
    have hlists : m₁.tags = m₂.tags :=
      calc m₁.tags = sortedTags m₁.tags := (sortedTags_eq_self_iff.mpr hsorted₁).symm
        _ = sortedTags m₂.tags := sortedTags_congr hsame.tags
        _ = m₂.tags := sortedTags_eq_self_iff.mpr hsorted₂
    exact halike.mpr fun _ => congrArg joinedTags hlists

/-- Two samples with one id and the same two tags, which come with an interval: listed the other way
round, the tags lead to another partition. -/
theorem routed_apart_of_order :
    let key : MetricKey := ⟨⟨7⟩, ⟨#v[0x10, 0x25, 0xa6, 0xb4, 0xb7, 0x86, 0x57, 0xdb, 0xaa, 0xf9,
      0x19, 0xb5, 0x1b, 0x54, 0x43, 0x36]⟩⟩
    let m : Metric :=
      { id := "7.1025a6b4b78657dbaaf919b51b544336", org := ⟨7⟩, name := "host.cpu.load"
        interval := 10, unit := "unknown", mtype := "gauge", tags := ["dc=eu", "host=a"] }
    let n : Metric := { m with tags := ["host=a", "dc=eu"] }
    let p : Publisher :=
      { partitioner := ⟨.bySeriesWithTags, 8, by decide⟩
        schemas := ⟨[], ⟨"default", default, ⟨60, 3600, by decide, by decide⟩, []⟩⟩ }
    let b : Broker Unit :=
      { openBatch := fun _ _ => ()
        produce := fun _ _ => (.ok (), ())
        closeBatch := fun _ _ => (⟨[.delivered, .delivered], .disconnected⟩, ()) }
    let o := (publishAt p b ⟨0⟩ [m, n] ⟨none, .ofMaxIdle 0, ()⟩).1
    m.SameSeries n ∧ ∃ r₁ r₂, o.Sent key 0 m r₁ ∧ o.Sent key 1 n r₂
      ∧ r₁.partition = 7 ∧ r₂.partition = 1
      ∧ ¬ (r₁.partition = r₂.partition ∧ r₁.key = r₂.key) := by
  intro key m n p b o
  have hsame : m.SameSeries n := ⟨rfl, rfl, rfl, rfl, rfl, rfl, by
    intro tag
    simp only [m, n, List.mem_cons, List.not_mem_nil, or_false]
    exact or_comm⟩
  have hkey : MetricKey.parse "7.1025a6b4b78657dbaaf919b51b544336" = .ok key := by cbv
  have hnormal : normalize p.schemas [m, n] = ([m, n], .ok [key, key]) := by cbv
  have ho : o = (send p b ⟨0⟩ [m, n] [key, key] ⟨none, .ofMaxIdle 0, ()⟩).1 :=
    congrArg Prod.fst (publishAt_of_normalize (by simp) hnormal)
  have hm : o.Sent key 0 m (recordOf p m ⟨.full, Wire.encodeFull m⟩) :=
    ⟨by rw [ho]; rfl, hkey, by rw [ho]; rfl⟩
  have hn : o.Sent key 1 n (recordOf p n ⟨.full, Wire.encodeFull n⟩) :=
    ⟨by rw [ho]; rfl, hkey, by rw [ho]; rfl⟩
  refine ⟨hsame, _, _, hm, hn, by cbv, by cbv, fun halike => ?_⟩
  obtain ⟨-, hlists, -⟩ := routed_alike_iff p hm hn hsame
  have hfree : ∀ tag ∈ m.tags, ';' ∉ tag.toList := by decide
  have hlisted : m.tags = n.tags := (hlists hfree).mp halike rfl
  exact absurd hlisted (by decide)

end Publish

end MetricGateway
