import Mathlib
import MetricGateway.Proofs.Identity
import MetricGateway.Proofs.Plaintext.Line
import MetricGateway.Publish.Publisher

/-!
# Lines that share an identity

Two descriptions are the same bytes if and only if they are cut into the same pieces
at their zero bytes. A zero byte is no white space, so a line may have some within
its name or a tag. As long as no tag has one, the parts can be told apart: tags have an equals sign
and the interval in front of them has none, and what stands before the interval
is the name with the unit and the type of all lines. Lines of different series
have different descriptions then. A tag with a zero byte reads like two tags.
-/

namespace MetricGateway

/-! ## Descriptions -/

/-- What stands behind the last member without a property can be read off. -/
theorem append_cons_inj_of_forall {α : Type} {p : α → Bool} {x x' y y' : List α} {a a' : α}
    (hy : ∀ b ∈ y, p b = true) (hy' : ∀ b ∈ y', p b = true) (ha : p a = false) (ha' : p a' = false)
    (h : x ++ a :: y = x' ++ a' :: y') : x = x' ∧ a = a' ∧ y = y' := by
  have htail : ∀ {x y : List α} {a : α}, (∀ b ∈ y, p b = true) → p a = false →
      (x ++ a :: y).reverse.takeWhile p = y.reverse := by
    intro x y a hy ha
    rw [List.reverse_append, List.reverse_cons, List.append_assoc,
      List.takeWhile_append_of_pos fun b hb => hy b (List.mem_reverse.mp hb), List.singleton_append,
      List.takeWhile_cons_of_neg (by simp [ha]), List.append_nil]
  obtain rfl : y = y' := by
    rw [← List.reverse_inj, ← htail hy ha, h, htail hy' ha']
  rw [List.append_cons, List.append_cons x'] at h
  obtain ⟨rfl, hlast⟩ := List.append_inj' (List.append_cancel_right h) rfl
  exact ⟨rfl, List.singleton_inj.mp hlast, rfl⟩

namespace Metric

/-- **Descriptions that differ in name and tags only can be told apart** if every tag has an equals
sign and no zero byte. -/
theorem identity_eq_iff_of_tags {m n : Metric} (hunit : m.unit = n.unit)
    (hmtype : m.mtype = n.mtype) (hinterval : m.interval = n.interval)
    (hm : ∀ tag ∈ m.tags, '=' ∈ tag.toList) (hn : ∀ tag ∈ n.tags, '=' ∈ tag.toList)
    (hmzero : ∀ tag ∈ m.tags, '\x00' ∉ tag.toList)
    (hnzero : ∀ tag ∈ n.tags, '\x00' ∉ tag.toList) :
    m.identity = n.identity ↔ m.name = n.name ∧ m.tags = n.tags := by
  rw [identity_eq_iff, identityPieces_of_tags hmzero, identityPieces_of_tags hnzero, hunit, hmtype,
    hinterval]
  refine ⟨fun h => ?_, fun ⟨hname, htags⟩ => by rw [hname, htags]⟩
  have hequals : ∀ tags : List String, (∀ tag ∈ tags, '=' ∈ tag.toList) →
      ∀ piece ∈ tags.map String.toList, piece.contains '=' = true := by
    intro tags htags piece hmem
    obtain ⟨tag, htag, rfl⟩ := List.mem_map.mp hmem
    exact List.contains_iff_mem.mpr (htags tag htag)
  have hdigits : (Number.digits n.interval.toNat).contains '=' = false :=
    Bool.eq_false_iff.mpr fun h =>
      absurd (Number.isDigit_of_mem_digits (List.contains_iff_mem.mp h)) (by decide)
  obtain ⟨hfront, -, htags⟩ :=
    append_cons_inj_of_forall (hequals _ hm) (hequals _ hn) hdigits hdigits h
  refine ⟨String.toList_inj.mp (Text.split_inj.mp (List.append_cancel_right hfront)), ?_⟩
  exact List.map_injective_iff.mpr (fun _ _ => String.toList_inj.mp) htags

end Metric

/-! ## Lines -/

namespace Plaintext

open Number (Binary64)
open Publish (resolve)

/-- What all lines have in common. -/
theorem parseLine_eq_ok {org : OrgId} {line : String} {m : Metric}
    (h : parseLine org line = .ok m) :
    m.org = org ∧ m.unit = lineUnit ∧ m.mtype = lineType ∧ m.interval = 0
      ∧ ∀ tag ∈ m.tags, isTag tag.toList = true := by
  cases parseLine_eq_iff.mp h with
  | metric _ _ htags _ _ hperm _ =>
      refine ⟨rfl, rfl, rfl, rfl, fun tag hmem => ?_⟩
      obtain ⟨piece, hpiece, rfl⟩ := List.mem_map.mp (hperm.mem_iff.mp hmem)
      rw [String.toList_ofList]
      exact isTag_iff.mpr (htags piece hpiece)

theorem mem_of_isTag {tag : List Char} (h : isTag tag = true) : '=' ∈ tag :=
  (hasKey_iff.mp (isTag_iff.mp h)).1

/-- What the publisher makes of a line, which comes without an interval. -/
theorem resolve_of_interval_eq_zero (schemas : Storage.Schemas) {m : Metric}
    (h : m.interval = 0) :
    (resolve schemas m).name = m.name ∧ (resolve schemas m).unit = m.unit
      ∧ (resolve schemas m).mtype = m.mtype ∧ (resolve schemas m).tags = sortedTags m.tags
      ∧ (resolve schemas m).key = .ok ⟨m.org, (resolve schemas m).seriesKey⟩ := by
  rw [resolve, if_pos h]
  exact ⟨rfl, rfl, rfl, rfl, Metric.key_setId _⟩

/-- **When two lines share an identity.** Take two lines of one organization that are accepted and
get the same interval. What is digested for their ids is the same if and only if it has the same
pieces between its zero bytes. It is the same if the lines have the same name and the same set of
tags. If no tag has a zero byte, it is different otherwise. -/
theorem same_identity_iff (schemas : Storage.Schemas) {org : OrgId} {line₁ line₂ : String}
    {m₁ m₂ : Metric} (h₁ : parseLine org line₁ = .ok m₁) (h₂ : parseLine org line₂ = .ok m₂)
    (hinterval : (resolve schemas m₁).interval = (resolve schemas m₂).interval) :
    let a := resolve schemas m₁
    let b := resolve schemas m₂
    (a.key = .ok ⟨org, ⟨Digest.md5 a.identity⟩⟩ ∧ b.key = .ok ⟨org, ⟨Digest.md5 b.identity⟩⟩)
      ∧ (a.identity = b.identity ↔ a.identityPieces = b.identityPieces)
      ∧ (m₁.name = m₂.name → (∀ tag, tag ∈ m₁.tags ↔ tag ∈ m₂.tags) → a.identity = b.identity)
      ∧ ((∀ tag ∈ m₁.tags, '\x00' ∉ tag.toList) → (∀ tag ∈ m₂.tags, '\x00' ∉ tag.toList) →
        (a.identity = b.identity ↔
          m₁.name = m₂.name ∧ ∀ tag, tag ∈ m₁.tags ↔ tag ∈ m₂.tags)) := by
  intro a b
  obtain ⟨horg₁, hunit₁, hmtype₁, hzero₁, htags₁⟩ := parseLine_eq_ok h₁
  obtain ⟨horg₂, hunit₂, hmtype₂, hzero₂, htags₂⟩ := parseLine_eq_ok h₂
  obtain ⟨haname, haunit, hamtype, hatags, hakey⟩ :=
    resolve_of_interval_eq_zero schemas hzero₁
  obtain ⟨hbname, hbunit, hbmtype, hbtags, hbkey⟩ :=
    resolve_of_interval_eq_zero schemas hzero₂
  have hunit : a.unit = b.unit := by rw [haunit, hbunit, hunit₁, hunit₂]
  have hmtype : a.mtype = b.mtype := by rw [hamtype, hbmtype, hmtype₁, hmtype₂]
  refine ⟨⟨by rw [hakey, horg₁]; rfl, by rw [hbkey, horg₂]; rfl⟩, Metric.identity_eq_iff,
    fun hname htags => ?_, fun hfree₁ hfree₂ => ?_⟩
  · have hlists : a.tags = b.tags := by rw [hatags, hbtags, sortedTags_congr htags]
    have hnames : a.name = b.name := by rw [haname, hbname, hname]
    rw [Metric.identity, Metric.identity, hnames, hunit, hmtype, hinterval, hlists]
  · -- sorting keeps the members, so what holds of the tags of the lines holds of these
    have hmem₁ : ∀ tag ∈ a.tags, tag ∈ m₁.tags := fun tag h => mem_sortedTags.mp (hatags ▸ h)
    have hmem₂ : ∀ tag ∈ b.tags, tag ∈ m₂.tags := fun tag h => mem_sortedTags.mp (hbtags ▸ h)
    rw [Metric.identity_eq_iff_of_tags hunit hmtype hinterval
      (fun tag h => mem_of_isTag (htags₁ tag (hmem₁ tag h)))
      (fun tag h => mem_of_isTag (htags₂ tag (hmem₂ tag h)))
      (fun tag h => hfree₁ tag (hmem₁ tag h)) (fun tag h => hfree₂ tag (hmem₂ tag h)),
      haname, hbname, hatags, hbtags]
    refine and_congr_right fun _ => ⟨fun hlists tag => ?_, sortedTags_congr⟩
    rw [← mem_sortedTags, hlists, mem_sortedTags]

/-- Two tags, and one tag that has a zero byte between the same texts: the lines have different
tags, and what is digested for their ids is the same. -/
theorem same_identity_of_zero_byte :
    let schemas : Storage.Schemas :=
      ⟨[], ⟨"default", default, ⟨60, 3600, by decide, by decide⟩, []⟩⟩
    ∃ m₁ m₂, parseLine ⟨7⟩ "m;a=1;b=2 1 1" = .ok m₁ ∧ parseLine ⟨7⟩ "m;a=1\x00b=2 1 1" = .ok m₂
      ∧ m₁.tags = ["a=1", "b=2"] ∧ m₂.tags = ["a=1\x00b=2"]
      ∧ (resolve schemas m₁).identity = (resolve schemas m₂).identity
      ∧ (resolve schemas m₁).key = (resolve schemas m₂).key := by
  intro schemas
  let m₁ : Metric :=
    { org := ⟨7⟩, name := "m", value := .one, unit := lineUnit, time := 1, mtype := lineType
      tags := ["a=1", "b=2"] }
  let m₂ : Metric := { m₁ with tags := ["a=1\x00b=2"] }
  have hvalue : Binary64.read? ['1'] = some .one := by decide +kernel
  have hread : ∀ (path : List Char) (name : String) (tags : List String),
      readPath path = .ok (name, tags) →
        readFields ⟨7⟩ path ['1'] ['1'] = .ok { m₁ with name, tags } := by
    intro path name tags hpath
    rw [readFields, hpath]
    dsimp only
    rw [hvalue]
    rfl
  have h₁ : parseLine ⟨7⟩ "m;a=1;b=2 1 1" = .ok m₁ := by
    have hfields : Text.fields "m;a=1;b=2 1 1".toList = ["m;a=1;b=2".toList, ['1'], ['1']] := by cbv
    rw [parseLine, hfields]
    exact hread _ _ _ (by cbv)
  have h₂ : parseLine ⟨7⟩ "m;a=1\x00b=2 1 1" = .ok m₂ := by
    have hfields : Text.fields "m;a=1\x00b=2 1 1".toList =
        ["m;a=1\x00b=2".toList, ['1'], ['1']] := by cbv
    rw [parseLine, hfields]
    exact hread _ _ _ (by cbv)
  have hinterval : (resolve schemas m₁).interval = (resolve schemas m₂).interval := by
    rw [resolve, resolve, if_pos rfl, if_pos rfl]; rfl
  obtain ⟨⟨hkey₁, hkey₂⟩, hpieces, -⟩ := same_identity_iff schemas h₁ h₂ hinterval
  have hsame := hpieces.mpr (by cbv)
  exact ⟨m₁, m₂, h₁, h₂, rfl, rfl, hsame, by rw [hkey₁, hkey₂, hsame]⟩

end Plaintext

end MetricGateway
