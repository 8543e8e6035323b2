import Mathlib
import MetricGateway.Plaintext.Line
import MetricGateway.Proofs.Bytes
import MetricGateway.Proofs.Number.Word
import MetricGateway.Proofs.Tags

/-!
# What lines say

A line is cut at white space, its first field at semicolons and each tag at the
first equals sign. `Layout` puts a line together again from all these parts, and
`Reading` says what comes of it: a metric, or the first complaint that applies.
There are six cases, and one of them applies to every line, so a line is read as
`Reading` says and in no other way.

What stands behind the first equals sign of a tag is its value and may have more
of them. So a tag with an equals sign in front has no key, whatever follows.
-/

namespace MetricGateway.Plaintext

open Number (Binary64 readInt64)
open Text (Blank IsWord Spaced)

/-! ## Tags -/

/-- A key that is not empty, with an equals sign and a value behind it. -/
def HasKey (tag : List Char) : Prop :=
  ∃ key value, tag = key ++ '=' :: value ∧ key ≠ [] ∧ '=' ∉ key

theorem isTag_iff {tag : List Char} : isTag tag = true ↔ HasKey tag := by
  rw [isTag]
  constructor
  · intro h
    split at h
    case h_1 key value hsplit =>
      obtain ⟨htag, hkey⟩ := Text.splitOnce_eq_some_iff.mp hsplit
      exact ⟨key, value, htag, by simpa using h, hkey⟩
    case h_2 => cases h
  · rintro ⟨key, value, htag, hne, hkey⟩
    rw [Text.splitOnce_eq_some_iff.mpr ⟨htag, hkey⟩]
    simpa using hne

theorem not_isTag_iff {tag : List Char} : (!isTag tag) = true ↔ ¬ HasKey tag := by
  rw [Bool.not_eq_true', ← Bool.not_eq_true, isTag_iff]

/-- What is complained about is the leftmost text without a key. -/
theorem find?_eq_some_iff_hasKey {tag : List Char} {tags : List (List Char)} :
    (tags.find? fun t => !isTag t) = some tag ↔ ∃ before behind,
      tags = before ++ tag :: behind ∧ (∀ t ∈ before, HasKey t) ∧ ¬ HasKey tag := by
  simp only [List.find?_eq_some_iff_append, not_isTag_iff, Bool.not_not, isTag_iff]
  constructor
  · rintro ⟨htag, before, behind, htags, hbefore⟩
    exact ⟨before, behind, htags, hbefore, htag⟩
  · rintro ⟨before, behind, htags, hbefore, htag⟩
    exact ⟨htag, before, behind, htags, hbefore⟩

theorem find?_eq_none_iff_hasKey {tags : List (List Char)} :
    (tags.find? fun t => !isTag t) = none ↔ ∀ tag ∈ tags, HasKey tag := by
  simp only [List.find?_eq_none, not_isTag_iff, not_not]

/-- There is a key where the first equals sign is not the first character. -/
theorem hasKey_iff {tag : List Char} : HasKey tag ↔ '=' ∈ tag ∧ tag.head? ≠ some '=' := by
  constructor
  · rintro ⟨key, value, rfl, hne, hkey⟩
    refine ⟨by simp, fun hhead => hkey ?_⟩
    obtain ⟨c, rest, rfl⟩ := List.exists_cons_of_ne_nil hne
    obtain rfl : c = '=' := Option.some.inj hhead
    exact List.mem_cons_self ..
  · rintro ⟨hmem, hhead⟩
    cases hsplit : Text.splitOnce '=' tag with
    | none => exact absurd hmem (Text.splitOnce_eq_none_iff.mp hsplit)
    | some parts =>
        obtain ⟨rfl, hkey⟩ := Text.splitOnce_eq_some_iff.mp hsplit
        refine ⟨parts.1, parts.2, rfl, fun hnil => hhead ?_, hkey⟩
        rw [hnil]
        rfl

/-! ## Layout -/

/-- The first field of a line. -/
def path (name : List Char) (tags : List (List Char)) : List Char :=
  name ++ tags.flatMap (';' :: ·)

/-- A line of three fields, the first of which is a name with tags behind it. -/
structure Layout (line name : List Char) (tags : List (List Char)) (value time : List Char) :
    Prop where
  fields : Spaced line [path name tags, value, time]
  /-- Semicolons stand between name and tags only. -/
  pieces : ∀ piece ∈ name :: tags, ';' ∉ piece

/-- A line of three fields has a layout. -/
theorem exists_layout {line first value time : List Char}
    (h : Spaced line [first, value, time]) : ∃ name tags, Layout line name tags value time := by
  obtain ⟨name, tags, hpieces⟩ := List.exists_cons_of_ne_nil (Text.split_ne_nil ';' first)
  obtain ⟨rfl, hfree⟩ := Text.split_eq_cons_iff.mp hpieces
  exact ⟨name, tags, h, hfree⟩

variable {org : OrgId} {name value time : List Char} {tags : List (List Char)}

namespace Layout

variable {line : String} (h : Layout line.toList name tags value time)

include h

theorem parseLine_eq : parseLine org line = readFields org (path name tags) value time := by
  rw [parseLine, h.fields.fields_eq]

theorem split_path : Text.split ';' (path name tags) = name :: tags :=
  Text.split_eq_cons_iff.mpr ⟨rfl, h.pieces⟩

theorem readPath_eq (hname : name ≠ []) (htags : ∀ tag ∈ tags, HasKey tag) :
    readPath (path name tags) = .ok (String.ofList name, sortTexts (tags.map String.ofList)) := by
  rw [readPath, h.split_path]
  dsimp only
  rw [if_neg (by simpa using hname), find?_eq_none_iff_hasKey.mpr htags]

end Layout

/-! ## Reading -/

/-- What comes of a line: the first complaint that applies, or the metric that it describes. -/
inductive Reading (org : OrgId) (line : List Char) : Except LineError Metric → Prop
  | fieldCount {fields : List (List Char)} : Spaced line fields → fields.length ≠ 3 →
      Reading org line (.error (.fieldCount fields.length))
  | emptyName {tags : List (List Char)} {value time : List Char} :
      Layout line [] tags value time → Reading org line (.error .emptyName)
  | invalidTag {name tag value time : List Char} {before behind : List (List Char)} :
      Layout line name (before ++ tag :: behind) value time → name ≠ [] →
      (∀ t ∈ before, HasKey t) → ¬ HasKey tag →
      Reading org line (.error (.invalidTag (String.ofList tag)))
  | invalidValue {name value time : List Char} {tags : List (List Char)} :
      Layout line name tags value time → name ≠ [] → (∀ tag ∈ tags, HasKey tag) →
      Binary64.read? value = none →
      Reading org line (.error (.invalidValue (String.ofList value)))
  | invalidTimestamp {name value time : List Char} {tags : List (List Char)} {x : Binary64}
      {e : Number.NumberError} :
      Layout line name tags value time → name ≠ [] → (∀ tag ∈ tags, HasKey tag) →
      Binary64.read? value = some x → readInt64 time = .error e →
      Reading org line (.error (.invalidTimestamp (String.ofList time)))
  | metric {name value time : List Char} {tags : List (List Char)} {x : Binary64} {t : Int64}
      {sorted : List String} :
      Layout line name tags value time → name ≠ [] → (∀ tag ∈ tags, HasKey tag) →
      Binary64.read? value = some x → readInt64 time = .ok t →
      sorted.Perm (tags.map String.ofList) →
      (sorted.Pairwise fun a b => Bytes.ofString a ≤ Bytes.ofString b) →
      Reading org line (.ok
        { id := "", org, name := String.ofList name, interval := 0, value := x, unit := lineUnit
          time := t, mtype := lineType, tags := sorted })

/-- A line is read like this. -/
theorem Reading.parseLine_eq {line : String} {r : Except LineError Metric}
    (h : Reading org line.toList r) : parseLine org line = r := by
  cases h with
  | fieldCount hfields hcount =>
      rw [parseLine, hfields.fields_eq]
      split
      case h_1 => exact absurd rfl hcount
      case h_2 => rfl
  | emptyName h =>
      rw [h.parseLine_eq, readFields, readPath, h.split_path]
      rfl
  | invalidTag h hname hbefore htag =>
      rw [h.parseLine_eq, readFields, readPath, h.split_path]
      dsimp only
      rw [if_neg (by simpa using hname),
        find?_eq_some_iff_hasKey.mpr ⟨_, _, rfl, hbefore, htag⟩]
  | invalidValue h hname htags hvalue =>
      rw [h.parseLine_eq, readFields, h.readPath_eq hname htags]
      dsimp only
      rw [hvalue]
  | invalidTimestamp h hname htags hvalue htime =>
      rw [h.parseLine_eq, readFields, h.readPath_eq hname htags]
      dsimp only
      rw [hvalue]
      dsimp only
      rw [htime]
  | metric h hname htags hvalue htime hperm hsorted =>
      rw [h.parseLine_eq, readFields, h.readPath_eq hname htags,
        ← eq_sortTexts hperm (hsorted.imp Bytes.ofString_le_iff.mp)]
      dsimp only
      rw [hvalue]
      dsimp only
      rw [htime]

theorem exists_sorted (tags : List String) : ∃ sorted : List String, sorted.Perm tags
    ∧ sorted.Pairwise fun a b => Bytes.ofString a ≤ Bytes.ofString b :=
  ⟨sortTexts tags, List.mergeSort_perm tags _,
    (pairwise_sortTexts tags).imp Bytes.ofString_le_iff.mpr⟩

/-- Every line is read in some way. -/
theorem exists_reading (org : OrgId) (line : List Char) : ∃ r, Reading org line r := by
  obtain ⟨fields, hfields⟩ := Text.exists_spaced line
  by_cases hcount : fields.length = 3
  case neg => exact ⟨_, .fieldCount hfields hcount⟩
  obtain ⟨first, value, time, rfl⟩ := List.length_eq_three.mp hcount
  obtain ⟨name, tags, hlayout⟩ := exists_layout hfields
  by_cases hname : name = []
  case pos => subst hname; exact ⟨_, .emptyName hlayout⟩
  cases hfind : tags.find? fun tag => !isTag tag with
  | some tag =>
      obtain ⟨before, behind, rfl, hbefore, htag⟩ := find?_eq_some_iff_hasKey.mp hfind
      exact ⟨_, .invalidTag hlayout hname hbefore htag⟩
  | none =>
      have htags := find?_eq_none_iff_hasKey.mp hfind
      cases hvalue : Binary64.read? value with
      | none => exact ⟨_, .invalidValue hlayout hname htags hvalue⟩
      | some x =>
          cases htime : readInt64 time with
          | error e => exact ⟨_, .invalidTimestamp hlayout hname htags hvalue htime⟩
          | ok t =>
              obtain ⟨sorted, hperm, hsorted⟩ := exists_sorted (tags.map String.ofList)
              exact ⟨_, .metric hlayout hname htags hvalue htime hperm hsorted⟩

theorem parseLine_eq_iff {line : String} {r : Except LineError Metric} :
    parseLine org line = r ↔ Reading org line.toList r := by
  refine ⟨fun h => ?_, Reading.parseLine_eq⟩
  obtain ⟨r', hr'⟩ := exists_reading org line.toList
  rwa [← h, hr'.parseLine_eq]

/-! ## Writing -/

/-- White space around the fields and between them is of no matter. -/
theorem layout_of_blank {p₀ p₁ p₂ p₃ : List Char} (hname : IsWord name)
    (hpieces : ∀ piece ∈ name :: tags, ';' ∉ piece)
    (htags : ∀ tag ∈ tags, ∀ c ∈ tag, Text.isBlank c = false) (hvalue : IsWord value)
    (htime : IsWord time) (h₀ : Blank p₀) (h₁ : Blank p₁) (hne₁ : p₁ ≠ []) (h₂ : Blank p₂)
    (hne₂ : p₂ ≠ []) (h₃ : Blank p₃) :
    Layout (p₀ ++ path name tags ++ p₁ ++ value ++ p₂ ++ time ++ p₃) name tags value time := by
  have hpath : IsWord (path name tags) := by
    refine ⟨List.append_ne_nil_of_left_ne_nil hname.ne_nil _, fun c hc => ?_⟩
    rcases List.mem_append.mp hc with hc | hc
    · exact hname.not_blank c hc
    · obtain ⟨tag, htag, hc⟩ := List.mem_flatMap.mp hc
      rcases List.mem_cons.mp hc with rfl | hc
      · decide
      · exact htags tag htag c hc
  have hlast : Spaced (p₂ ++ time ++ p₃) [time] :=
    .word h₂ htime (fun c hc => h₃ c (List.mem_of_mem_head? hc)) (.blank h₃)
  rw [List.append_assoc] at hlast
  have hline := hlast.cons h₁ hvalue h₂ hne₂
  rw [List.append_assoc] at hline
  refine ⟨?_, hpieces⟩
  simpa only [List.append_assoc] using hline.cons h₀ hpath h₁ hne₁

/-- **What lines are read.** A line is read as `Reading` says. It is read as a metric if and only
if it has three fields, of which the first is a name that is not empty, with tags behind it that
have an equals sign and do not start with one, the second is a number and the third an integer.
All such parts can be written as a line, whatever white space is between them and around, and are
read again with the tags in order. -/
theorem lines_read_by_grammar (org : OrgId) :
    (∀ (line : String) (r : Except LineError Metric),
        parseLine org line = r ↔ Reading org line.toList r)
      ∧ (∀ line : String, (∃ m, parseLine org line = .ok m) ↔
        ∃ name tags value time, Layout line.toList name tags value time ∧ name ≠ []
          ∧ (∀ tag ∈ tags, '=' ∈ tag ∧ tag.head? ≠ some '=')
          ∧ (∃ x, Binary64.read? value = some x) ∧ ∃ t, readInt64 time = .ok t)
      ∧ ∀ {name value time p₀ p₁ p₂ p₃ : List Char} {tags : List (List Char)} {x : Binary64}
        {t : Int64}, IsWord name → ';' ∉ name →
        (∀ tag ∈ tags, HasKey tag ∧ (∀ c ∈ tag, Text.isBlank c = false) ∧ ';' ∉ tag) →
        Binary64.read? value = some x → readInt64 time = .ok t →
        Blank p₀ → Blank p₁ → p₁ ≠ [] → Blank p₂ → p₂ ≠ [] → Blank p₃ →
        ∃ sorted : List String, sorted.Perm (tags.map String.ofList)
          ∧ (sorted.Pairwise fun a b => Bytes.ofString a ≤ Bytes.ofString b)
          ∧ parseLine org
              (String.ofList (p₀ ++ path name tags ++ p₁ ++ value ++ p₂ ++ time ++ p₃)) = .ok
            { id := "", org, name := String.ofList name, interval := 0, value := x
              unit := lineUnit, time := t, mtype := lineType, tags := sorted } := by
  refine ⟨fun _ _ => parseLine_eq_iff, fun line => ?_, ?_⟩
  · constructor
    · rintro ⟨m, hm⟩
      cases parseLine_eq_iff.mp hm with
      | metric h hname htags hvalue htime =>
          exact ⟨_, _, _, _, h, hname, fun tag hmem => hasKey_iff.mp (htags tag hmem),
            ⟨_, hvalue⟩, _, htime⟩
    · rintro ⟨name, tags, value, time, h, hname, htags, ⟨x, hvalue⟩, t, htime⟩
      obtain ⟨sorted, hperm, hsorted⟩ := exists_sorted (tags.map String.ofList)
      exact ⟨_, parseLine_eq_iff.mpr (.metric h hname
        (fun tag hmem => hasKey_iff.mpr (htags tag hmem)) hvalue htime hperm hsorted)⟩
  · intro name value time p₀ p₁ p₂ p₃ tags x t hname hfree htags hvalue htime h₀ h₁ hne₁ h₂ hne₂ h₃
    obtain ⟨sorted, hperm, hsorted⟩ := exists_sorted (tags.map String.ofList)
    have hlayout := layout_of_blank hname
      (List.forall_mem_cons.mpr ⟨hfree, fun tag hmem => (htags tag hmem).2.2⟩)
      (fun tag hmem => (htags tag hmem).2.1) (Number.isWord_of_read? hvalue)
      (Number.isWord_of_readInt64 htime) h₀ h₁ hne₁ h₂ hne₂ h₃
    refine ⟨sorted, hperm, hsorted, parseLine_eq_iff.mpr ?_⟩
    rw [String.toList_ofList]
    exact .metric hlayout hname.ne_nil (fun tag hmem => (htags tag hmem).1) hvalue htime hperm
      hsorted

/-- Tags in any order, one of them twice and one with a second equals sign, and white space of all
kinds. -/
theorem lines_read_by_grammar_of_repeated_tag :
    HasKey "b=2".toList ∧ HasKey "a=x=y".toList
      ∧ parseLine ⟨7⟩ "\u3000m;b=2;a=x=y;b=2\t 1\u00a01\r\n" = .ok
        { id := "", org := ⟨7⟩, name := "m", interval := 0, value := .one, unit := lineUnit
          time := 1, mtype := lineType, tags := ["a=x=y", "b=2", "b=2"] } := by
  have hb : HasKey "b=2".toList := ⟨['b'], ['2'], by decide, by decide, by decide⟩
  have ha : HasKey "a=x=y".toList := ⟨['a'], "x=y".toList, by decide, by decide, by decide⟩
  have hname : IsWord "m".toList ∧ ';' ∉ "m".toList := by decide
  have hfree : ∀ tag ∈ ["b=2".toList, "a=x=y".toList], IsWord tag ∧ ';' ∉ tag := by decide
  have htags : ∀ tag ∈ ["b=2".toList, "a=x=y".toList, "b=2".toList],
      HasKey tag ∧ (∀ c ∈ tag, Text.isBlank c = false) ∧ ';' ∉ tag := by
    intro tag hmem
    have hmem' : tag ∈ ["b=2".toList, "a=x=y".toList] := by
      simpa [or_comm, or_left_comm] using hmem
    refine ⟨?_, (hfree tag hmem').1.not_blank, (hfree tag hmem').2⟩
    rcases List.mem_pair.mp hmem' with rfl | rfl
    · exact hb
    · exact ha
  have hvalue : Binary64.read? ['1'] = some .one := by decide +kernel
  have htime : readInt64 ['1'] = .ok 1 := by decide +kernel
  have hblank : ∀ {s : List Char}, Text.isBlankText s = true → Blank s := Text.isBlankText_iff.mp
  obtain ⟨sorted, hperm, hsorted, hline⟩ := (lines_read_by_grammar ⟨7⟩).2.2 hname.1 hname.2 htags
    hvalue htime (hblank (s := "\u3000".toList) (by decide))
    (hblank (s := "\t ".toList) (by decide)) (by decide)
    (hblank (s := "\u00a0".toList) (by decide)) (by decide)
    (hblank (s := "\r\n".toList) (by decide))
  have hlist : sorted = ["a=x=y", "b=2", "b=2"] := by
    rw [eq_sortTexts hperm (hsorted.imp Bytes.ofString_le_iff.mp)]
    cbv
  rw [hlist] at hline
  exact ⟨hb, ha, hline⟩

/-- A tag with an equals sign in front has no key, though there is another one behind it. -/
theorem refused_of_leading_equals_sign :
    Layout "m;=a=b 1 1".toList "m".toList ["=a=b".toList] "1".toList "1".toList
      ∧ "m".toList ≠ []
      ∧ (∀ tag ∈ ["=a=b".toList], ∃ before behind, tag = before ++ '=' :: behind ∧ before ≠ [])
      ∧ (∃ x, Binary64.read? "1".toList = some x) ∧ (∃ t, readInt64 "1".toList = .ok t)
      ∧ parseLine ⟨7⟩ "m;=a=b 1 1" = .error (.invalidTag "=a=b") := by
  refine ⟨⟨?_, by decide⟩, by decide, ?_, ⟨.one, by decide +kernel⟩, ⟨1, by decide +kernel⟩, by cbv⟩
  · exact Text.fields_eq_iff.mp (by cbv)
  · exact List.forall_mem_singleton.mpr ⟨"=a".toList, "b".toList, by decide, by decide⟩

end MetricGateway.Plaintext
