import MetricGateway.Proofs.Bytes
import MetricGateway.Proofs.Series
import MetricGateway.Proofs.Tags

/-!
# The identity of a series

The id of a series is the digest of its description, which is written with zero
bytes between its parts. Two descriptions are the same bytes if and only if they
are cut into the same pieces at these bytes. If no part has a zero byte, the pieces
are the parts: the first four are name, unit, type and interval, and the others are
the tags, however many there are and even if some of them are empty.

Before an id is computed the tags are sorted without repetition, which is the same
list for every way to list a set of tags. So an id stands for all that describes a
series and for nothing else, as far as digests tell descriptions apart.
-/

namespace MetricGateway

/-! ## Numbers and digits -/

/-- Different numbers have different digits. -/
theorem Number.digits_toNat_inj {a b : UInt32} : digits a.toNat = digits b.toNat ↔ a = b := by
  refine ⟨fun h => ?_, fun h => by rw [h]⟩
  have hread := readUInt32_digits a
  rw [h, readUInt32_digits] at hread
  exact (Except.ok.inj hread).symm

/-- Bytes are written in digits of lower case. -/
theorem Hex.mem_of_mem_encode {b : Bytes} {c : Char} (h : c ∈ encode b) :
    c ∈ "0123456789abcdef".toList := by
  have hdigit : ∀ {n : Nat}, n < 16 → digit n ∈ "0123456789abcdef".toList := by
    intro n hn
    have key : ∀ m : Fin 16, digit m.val ∈ "0123456789abcdef".toList := by decide
    exact key ⟨n, hn⟩
  induction b with
  | nil => cases h
  | cons x rest ih =>
      have hx := x.toNat_lt
      rcases List.mem_cons.mp h with rfl | h
      · exact hdigit (by omega)
      · rcases List.mem_cons.mp h with rfl | h
        · exact hdigit (by omega)
        · exact ih h

/-! ## Descriptions -/

namespace Metric

/-- The description of a series as a text. -/
def identityText (m : Metric) : List Char :=
  m.name.toList ++ (m.unit.toList :: m.mtype.toList :: Number.digits m.interval.toNat ::
    m.tags.map String.toList).flatMap ('\x00' :: ·)

/-- The pieces of a description between its zero bytes. -/
def identityPieces (m : Metric) : List (List Char) :=
  (m.name.toList :: m.unit.toList :: m.mtype.toList :: Number.digits m.interval.toNat ::
    m.tags.map String.toList).flatMap (Text.split '\x00')

theorem identity_eq_ofString (m : Metric) :
    m.identity = Bytes.ofString (String.ofList m.identityText) := by
  have hzero : String.utf8EncodeChar '\x00' = [0] := by decide
  simp [identity, identityText, Bytes.ofString_eq, List.flatMap_append, List.flatMap_cons,
    List.flatMap_map, List.flatMap_assoc, hzero]

/-- **Descriptions are the same bytes if and only if they have the same pieces.** -/
theorem identity_eq_iff {m n : Metric} :
    m.identity = n.identity ↔ m.identityPieces = n.identityPieces := by
  have hpieces : ∀ m : Metric, Text.split '\x00' m.identityText = m.identityPieces :=
    fun m => Text.split_append_flatMap ..
  rw [identity_eq_ofString, identity_eq_ofString, Bytes.ofString_inj, String.ofList_inj,
    ← @Text.split_inj '\x00', hpieces, hpieces]

/-- Tags without zero bytes are pieces of a description, and so is the interval before them. -/
theorem identityPieces_of_tags {m : Metric} (h : ∀ tag ∈ m.tags, '\x00' ∉ tag.toList) :
    m.identityPieces = (Text.split '\x00' m.name.toList ++ (Text.split '\x00' m.unit.toList ++
      Text.split '\x00' m.mtype.toList)) ++
        Number.digits m.interval.toNat :: m.tags.map String.toList := by
  have hdigits : '\x00' ∉ Number.digits m.interval.toNat :=
    fun hmem => absurd (Number.isDigit_of_mem_digits hmem) (by decide)
  have htags : (m.tags.map String.toList).flatMap (Text.split '\x00') =
      m.tags.map String.toList := by
    rw [List.flatMap_map, List.map_eq_flatMap]
    exact List.flatMap_congr fun tag htag => Text.split_of_not_mem (h tag htag)
  rw [identityPieces, List.flatMap_cons, List.flatMap_cons, List.flatMap_cons, List.flatMap_cons,
    htags, Text.split_of_not_mem hdigits]
  simp only [List.append_assoc, List.singleton_append]

/-- No part of a description has a zero byte. -/
structure Separable (m : Metric) : Prop where
  name : '\x00' ∉ m.name.toList
  unit : '\x00' ∉ m.unit.toList
  mtype : '\x00' ∉ m.mtype.toList
  tags : ∀ tag ∈ m.tags, '\x00' ∉ tag.toList

/-- All that is written into a description is the same, where the tags are a set. -/
structure SameDescription (m n : Metric) : Prop where
  name : m.name = n.name
  unit : m.unit = n.unit
  mtype : m.mtype = n.mtype
  interval : m.interval = n.interval
  tags : ∀ tag, tag ∈ m.tags ↔ tag ∈ n.tags

theorem Separable.normalizeTags {m : Metric} (h : m.Separable) : m.normalizeTags.Separable where
  name := h.name
  unit := h.unit
  mtype := h.mtype
  tags := fun tag hmem => h.tags tag (mem_sortedTags.mp hmem)

/-- Parts without zero bytes are the pieces of a description. -/
theorem identityPieces_of_separable {m : Metric} (h : m.Separable) :
    m.identityPieces = m.name.toList :: m.unit.toList :: m.mtype.toList ::
      Number.digits m.interval.toNat :: m.tags.map String.toList := by
  rw [identityPieces_of_tags h.tags, Text.split_of_not_mem h.name, Text.split_of_not_mem h.unit,
    Text.split_of_not_mem h.mtype]
  rfl

/-- **Descriptions whose parts have no zero bytes can be told apart.** -/
theorem identity_eq_iff_of_separable {m n : Metric} (hm : m.Separable) (hn : n.Separable) :
    m.identity = n.identity ↔ m.name = n.name ∧ m.unit = n.unit ∧ m.mtype = n.mtype
      ∧ m.interval = n.interval ∧ m.tags = n.tags := by
  have htags : m.tags.map String.toList = n.tags.map String.toList ↔ m.tags = n.tags :=
    (List.map_injective_iff.mpr fun _ _ => String.toList_inj.mp).eq_iff
  rw [identity_eq_iff, identityPieces_of_separable hm, identityPieces_of_separable hn]
  simp only [List.cons.injEq, String.toList_inj, Number.digits_toNat_inj, htags]

/-! ## Ids -/

/-- What is digested for the ids of two metrics is the same if and only if they are described alike. -/
theorem identity_normalizeTags_eq_iff {m n : Metric} (hm : m.Separable) (hn : n.Separable) :
    m.normalizeTags.identity = n.normalizeTags.identity ↔ m.SameDescription n := by
  rw [identity_eq_iff_of_separable hm.normalizeTags hn.normalizeTags]
  constructor
  · rintro ⟨hname, hunit, hmtype, hinterval, htags⟩
    exact ⟨hname, hunit, hmtype, hinterval, sortedTags_eq_iff.mp htags⟩
  · intro h
    exact ⟨h.name, h.unit, h.mtype, h.interval, sortedTags_eq_iff.mpr h.tags⟩

/-- **The id of a metric**: its organization in decimal, a point, and the thirty-two digits of its
series, in lower case. -/
theorem id_setId (m : Metric) : ∃ key : String,
    m.setId.id = toString m.org.value.toNat ++ "." ++ key ∧ key.length = 32
      ∧ (∀ c ∈ key.toList, c ∈ "0123456789abcdef".toList)
      ∧ Hex.decode? key.toList = some (Digest.md5 m.normalizeTags.identity).toList := by
  have hkey : m.normalizeTags.seriesKey.display.toList =
      Hex.encode (Digest.md5 m.normalizeTags.identity).toList := String.toList_ofList
  refine ⟨m.normalizeTags.seriesKey.display, rfl, ?_, fun c hc => ?_, ?_⟩
  · rw [← String.length_toList, hkey, Hex.length_encode, Vector.length_toList]
  · rw [hkey] at hc
    exact Hex.mem_of_mem_encode hc
  · rw [hkey, Hex.decode?_encode]

theorem tags_setId (m : Metric) : m.setId.tags = sortedTags m.tags := rfl

/-- Tags are sorted by their bytes, without repetition. -/
theorem pairwise_tags_setId (m : Metric) :
    m.setId.tags.Pairwise fun s t => Bytes.ofString s < Bytes.ofString t := by
  rw [tags_setId]
  exact (pairwise_sortedTags m.tags).imp Bytes.ofString_lt_iff.mpr

/-- **Only the organization and the description take part in an id**, and the tags do so as a set. -/
theorem setId_of_sameDescription {m n : Metric} (horg : m.org = n.org) (h : m.SameDescription n) :
    n.setId = { m.setId with value := n.value, time := n.time } := by
  have htags : sortedTags m.tags = sortedTags n.tags := sortedTags_eq_iff.mpr h.tags
  have hidentity : m.normalizeTags.identity = n.normalizeTags.identity := by
    simp only [identity, normalizeTags, h.name, h.unit, h.mtype, h.interval, htags]
  have hkey : m.normalizeTags.seriesKey = n.normalizeTags.seriesKey := by
    rw [seriesKey, hidentity, seriesKey]
  simp only [setId, hkey]
  simp only [normalizeTags, htags, horg, h.name, h.unit, h.mtype, h.interval]

/-- Computing an id once more changes nothing. -/
theorem setId_setId (m : Metric) : m.setId.setId = m.setId := by
  have hsame : m.SameDescription m.setId :=
    ⟨rfl, rfl, rfl, rfl, fun tag => by rw [tags_setId, mem_sortedTags]⟩
  exact setId_of_sameDescription rfl hsame

/-- **The id of a series is canonical.**

What is digested for the ids of two metrics, whose parts have no zero bytes, is the same if and only
if name, unit, type and interval are the same and so is the set of tags. The id is the organization
in decimal, a point and the digest in hexadecimal digits of lower case, and it is read back as these
two. Computing it again changes nothing. Value, time and the id from before take no part in it, nor
does the way in which the tags are listed, which are left strictly sorted by their bytes. -/
theorem id_canonical (m n : Metric) :
    (m.Separable → n.Separable →
        (m.normalizeTags.identity = n.normalizeTags.identity ↔ m.SameDescription n))
      ∧ (∃ key : String, m.setId.id = toString m.org.value.toNat ++ "." ++ key ∧ key.length = 32
        ∧ (∀ c ∈ key.toList, c ∈ "0123456789abcdef".toList)
        ∧ Hex.decode? key.toList = some (Digest.md5 m.normalizeTags.identity).toList)
      ∧ m.setId.key = .ok ⟨m.org, ⟨Digest.md5 m.normalizeTags.identity⟩⟩
      ∧ m.setId.setId = m.setId
      ∧ (m.org = n.org → m.SameDescription n →
        n.setId = { m.setId with value := n.value, time := n.time })
      ∧ (m.setId.tags.Pairwise fun s t => Bytes.ofString s < Bytes.ofString t)
      ∧ ∀ tag, tag ∈ m.setId.tags ↔ tag ∈ m.tags :=
  ⟨identity_normalizeTags_eq_iff, id_setId m, key_setId m, setId_setId m, setId_of_sameDescription,
    pairwise_tags_setId m, fun _ => mem_sortedTags⟩

/-- The same tags, one of which is empty, in another order and with a repetition: the two metrics
are described by the same bytes and get the same id. With one tag less they are not. -/
theorem id_canonical_of_listed_otherwise :
    let m : Metric := { org := ⟨7⟩, name := "größe", interval := 10, tags := ["b=2", "", "ä=1"] }
    let n : Metric := { m with id := "7.0", value := .one, time := 5, tags := ["ä=1", "", "b=2", ""] }
    let shorter : Metric := { m with tags := ["b=2", "ä=1"] }
    m.Separable ∧ n.Separable ∧ shorter.Separable ∧ m.setId.id = n.setId.id
      ∧ m.normalizeTags.identity = n.normalizeTags.identity
      ∧ m.normalizeTags.identity ≠ shorter.normalizeTags.identity := by
  intro m n shorter
  have hm : m.Separable := ⟨by decide, by decide, by decide, by decide⟩
  have hn : n.Separable := ⟨by decide, by decide, by decide, by decide⟩
  have hshorter : shorter.Separable := ⟨by decide, by decide, by decide, by decide⟩
  have hsame : m.SameDescription n := ⟨rfl, rfl, rfl, rfl, fun tag => by
    simp only [m, n, List.mem_cons, List.not_mem_nil, or_false]
    grind⟩
  obtain ⟨hidentity, -, -, -, hid, -⟩ := id_canonical m n
  refine ⟨hm, hn, hshorter, by rw [hid rfl hsame], (hidentity hm hn).mpr hsame, fun heq => ?_⟩
  have hless : m.SameDescription shorter := ((id_canonical m shorter).1 hm hshorter).mp heq
  exact absurd ((hless.tags "").mp (by decide)) (by decide)

end Metric

end MetricGateway
