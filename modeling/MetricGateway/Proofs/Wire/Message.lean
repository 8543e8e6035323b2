import MetricGateway.Proofs.Bytes
import MetricGateway.Proofs.Wire.Grammar
import MetricGateway.Publish.Publisher

/-!
# Full messages as bytes

A full message is read as a map, and only then taken for a metric. Because the
reader takes every form of a value, nothing has to be said about bytes once the
map is known to be written in some form: what a writer has put there and what a
stranger has put there are the same to the reader.

Taking a map for a metric goes through its entries in order. What can be said of
this at each entry is which fields have been set so far, and that those hold what
the entries say. Fields can be told apart by their names and a metric is known when
all its fields are, so the order of the entries leaves no trace, and neither do
entries whose names are those of no field.
-/

namespace MetricGateway

open Wire (Field)
open Wire.MessagePack (Value)

/-- A metric whose texts and tags can be counted by the four bytes that a message has for this. -/
structure Metric.Fits (m : Metric) : Prop where
  id : (Bytes.ofString m.id).length < 2 ^ 32
  name : (Bytes.ofString m.name).length < 2 ^ 32
  unit : (Bytes.ofString m.unit).length < 2 ^ 32
  mtype : (Bytes.ofString m.mtype).length < 2 ^ 32
  tags : m.tags.length < 2 ^ 32
  tag : ∀ tag ∈ m.tags, (Bytes.ofString tag).length < 2 ^ 32

/-- A text is read from its bytes. -/
theorem Bytes.toString?_ofString (s : String) : toString? (ofString s) = some s := by
  have hbytes : (⟨(ofString s).toArray⟩ : ByteArray) = s.toByteArray := by
    rw [ofString, String.toUTF8_eq_toByteArray, Array.toArray_toList]
  rw [toString?, hbytes, String.fromUTF8?, dif_pos s.isValidUTF8]
  rfl

namespace Wire

open MessagePack

/-! ## Values that are read back -/

namespace MessagePack.Value

theorem string?_ofString (s : String) : (ofString s).string? = some s :=
  Bytes.toString?_ofString s

theorem strings?_map_ofString (texts : List String) :
    (array (texts.map ofString)).strings? = some texts := by
  rw [strings?]
  induction texts with
  | nil => rfl
  | cons s texts ih => simp [string?_ofString, ih]

/-- A number without a sign is read. -/
theorem integerIn?_unsigned (n : UInt32) :
    (unsigned n.toNat).integerIn? 0 (2 ^ 32 - 1) = some (n.toNat : Int) := by
  have hlt := n.toNat_lt
  rw [integerIn?, integer?, Option.filter_some, if_pos]
  exact decide_eq_true (by omega)

/-- A number with a sign is read, however the shortest form shows it. -/
theorem integerIn?_plain (n : Int64) :
    (plain (.signed n.toInt)).integerIn? (-2 ^ 63) (2 ^ 63 - 1) = some n.toInt := by
  have hlow := n.le_toInt
  have hhigh := n.toInt_lt
  have hread : (plain (.signed n.toInt)).integer? = some n.toInt := by
    unfold plain
    dsimp only
    split
    · next hpos => exact congrArg some (Int.toNat_of_nonneg hpos)
    · rfl
  rw [integerIn?, hread, Option.filter_some, if_pos]
  exact decide_eq_true (by omega)

end MessagePack.Value

/-! ## Fields -/

namespace Field

/-- The field with a name. -/
def named? (name : String) : Option Field := all.find? fun f => f.label = name

theorem named?_eq_some_iff {name : String} {f : Field} : named? name = some f ↔ f.label = name := by
  constructor
  · intro h
    simpa using List.find?_some h
  · rintro rfl
    cases f <;> rfl

/-- Of a name, only its field is noticed. -/
theorem ofKey?_ofString (name : String) : ofKey? (.ofString name) = some (named? name) := by
  simp only [ofKey?, Value.ofString, named?, Bytes.ofString_inj]

/-- An entry of a full message. -/
def entry (m : Metric) (f : Field) : String × Value := (f.label, (f.valueOf m).plain)

@[simp] theorem named?_entry (m : Metric) (f : Field) : named? (f.entry m).1 = some f :=
  named?_eq_some_iff.mpr rfl

theorem mem_all (f : Field) : f ∈ all := by
  cases f <;> decide

theorem length_label_lt (f : Field) : (Bytes.ofString f.label).length < 2 ^ 32 := by
  cases f <;> decide

/-- A metric is known when the values of all its fields are. -/
theorem eq_of_valueOf {m m' : Metric} (h : ∀ f : Field, f.valueOf m = f.valueOf m') : m = m' := by
  have htext : ∀ {s t : String}, Value.ofString s = .ofString t → s = t := by
    intro s t heq
    exact Bytes.ofString_inj.mp (Value.text.inj heq)
  have hid := htext (h .id)
  have hname := htext (h .name)
  have hunit := htext (h .unit)
  have hmtype := htext (h .mtype)
  have horg := UInt32.toNat_inj.mp (Value.unsigned.inj (h .org))
  have hinterval := UInt32.toNat_inj.mp (Value.unsigned.inj (h .interval))
  have hvalue := Value.double.inj (h .value)
  have htime := Int64.toInt_inj.mp (Value.signed.inj (h .time))
  have htags := (List.map_inj_right fun _ _ => htext).mp (Value.array.inj (h .tags))
  obtain ⟨id, ⟨org⟩, name, interval, value, unit, time, mtype, tags⟩ := m
  obtain ⟨id', ⟨org'⟩, name', interval', value', unit', time', mtype', tags'⟩ := m'
  cases hid; cases hname; cases hunit; cases hmtype; cases horg; cases hinterval; cases hvalue
  cases htime; cases htags
  rfl

/-- Another metric with one field of this one. -/
def copy (m target : Metric) : Field → Metric
  | .id => { target with id := m.id }
  | .org => { target with org := m.org }
  | .name => { target with name := m.name }
  | .interval => { target with interval := m.interval }
  | .value => { target with value := m.value }
  | .unit => { target with unit := m.unit }
  | .time => { target with time := m.time }
  | .mtype => { target with mtype := m.mtype }
  | .tags => { target with tags := m.tags }

theorem valueOf_copy (m target : Metric) (f g : Field) :
    g.valueOf (f.copy m target) = if g = f then g.valueOf m else g.valueOf target := by
  cases f <;> cases g <;> rfl

/-- Setting a field to its value in a message of a metric copies it. -/
theorem set?_entry (m target : Metric) (f : Field) :
    f.set? target (f.entry m).2 = some (f.copy m target) := by
  cases f with
  | id => exact congrArg (Option.map _) (Value.string?_ofString m.id)
  | org =>
      refine (congrArg (Option.map _) (Value.integerIn?_unsigned m.org.value)).trans ?_
      simp [copy]
  | name => exact congrArg (Option.map _) (Value.string?_ofString m.name)
  | interval =>
      refine (congrArg (Option.map _) (Value.integerIn?_unsigned m.interval)).trans ?_
      simp [copy]
  | value => rfl
  | unit => exact congrArg (Option.map _) (Value.string?_ofString m.unit)
  | time =>
      refine (congrArg (Option.map _) (Value.integerIn?_plain m.time)).trans ?_
      simp [copy]
  | mtype => exact congrArg (Option.map _) (Value.string?_ofString m.mtype)
  | tags => exact congrArg (Option.map _) (Value.strings?_map_ofString m.tags)

end Field

/-! ## Entries -/

/-- Entries whose keys are texts, as those of a map. -/
def keyed (entries : List (String × Value)) : List (Value × Value) :=
  entries.map fun e => (.ofString e.1, e.2)

/-- The fields that entries set, in this order. -/
def fieldsOf (entries : List (String × Value)) : List Field :=
  entries.filterMap fun e => Field.named? e.1

theorem fieldsOf_cons (e : String × Value) (entries : List (String × Value)) :
    fieldsOf (e :: entries) = (Field.named? e.1).toList ++ fieldsOf entries := by
  cases hfield : Field.named? e.1 <;> simp [fieldsOf, hfield]

/-- What has been set behind an entry, if it is known what has been set before. -/
theorem reverse_fieldsOf_cons (e : String × Value) (entries : List (String × Value))
    (seen : List Field) :
    (fieldsOf (e :: entries)).reverse ++ seen =
      (fieldsOf entries).reverse ++ ((Field.named? e.1).toList ++ seen) := by
  rw [fieldsOf_cons, List.reverse_append, List.append_assoc]
  cases Field.named? e.1 <;> rfl

/-- An entry sets its field, unless the field has been set before, or is passed over. -/
theorem setEntries?_keyed_cons (m : Metric) (seen : List Field) (e : String × Value)
    (entries : List (String × Value)) :
    setEntries? m seen (keyed (e :: entries)) =
      match Field.named? e.1 with
      | none => setEntries? m seen (keyed entries)
      | some f =>
        if seen.contains f then none
        else (f.set? m e.2).bind fun m => setEntries? m (f :: seen) (keyed entries) := by
  rw [keyed, List.map_cons, setEntries?, Field.ofKey?_ofString]
  rfl

/-- **What has been set when entries have been taken.** No field was set twice, and the fields that
were set are those that the entries name. -/
theorem seen_of_setEntries? {m m' : Metric} {seen seen' : List Field}
    {entries : List (String × Value)} (h : setEntries? m seen (keyed entries) = some (m', seen'))
    (hnodup : seen.Nodup) : seen' = (fieldsOf entries).reverse ++ seen ∧ seen'.Nodup := by
  induction entries generalizing m seen with
  | nil => cases h; exact ⟨rfl, hnodup⟩
  | cons e entries ih =>
      rw [setEntries?_keyed_cons] at h
      rw [reverse_fieldsOf_cons]
      cases hfield : Field.named? e.1 with
      | none =>
          rw [hfield] at h
          exact ih h hnodup
      | some f =>
          rw [hfield] at h
          dsimp only at h
          split at h
          · cases h
          · next hnew =>
            obtain ⟨next, -, hrest⟩ := Option.bind_eq_some_iff.mp h
            have hfresh : f ∉ seen := by simpa using hnew
            exact ih hrest (List.nodup_cons.mpr ⟨hfresh, hnodup⟩)

/-- **Entries of a metric are taken**, in any order and among others, as long as no field is set
twice. The fields that they name are then as in the metric, and the others are as they were. -/
theorem exists_setEntries? {m : Metric} (start : Metric) (seen : List Field)
    {entries : List (String × Value)}
    (hentry : ∀ e ∈ entries, ∀ f, Field.named? e.1 = some f → e = f.entry m)
    (hnodup : ((fieldsOf entries).reverse ++ seen).Nodup) :
    ∃ m', setEntries? start seen (keyed entries) = some (m', (fieldsOf entries).reverse ++ seen)
      ∧ ∀ g : Field,
        g.valueOf m' = if g ∈ fieldsOf entries then g.valueOf m else g.valueOf start := by
  induction entries generalizing start seen with
  | nil => exact ⟨start, rfl, fun g => rfl⟩
  | cons e entries ih =>
      obtain ⟨hfirst, hrest⟩ := List.forall_mem_cons.mp hentry
      rw [reverse_fieldsOf_cons] at hnodup ⊢
      rw [setEntries?_keyed_cons, fieldsOf_cons]
      cases hfield : Field.named? e.1 with
      | none =>
          rw [hfield] at hnodup
          exact ih start seen hrest hnodup
      | some f =>
          rw [hfield] at hnodup
          have hnew : ¬ seen.contains f = true := by
            have hlate := (List.nodup_append.mp hnodup).2.1
            simpa using (List.nodup_cons.mp hlate).1
          obtain ⟨m', hset, hvalue⟩ := ih (f.copy m start) (f :: seen) hrest hnodup
          refine ⟨m', ?_, fun g => ?_⟩
          · dsimp only
            rw [if_neg hnew, hfirst f hfield, Field.set?_entry, Option.bind_some, hset]
            rfl
          · rw [hvalue, Field.valueOf_copy]
            by_cases hgf : g = f
            · simp [hgf]
            · simp [hgf]

/-- All fields have been set, perhaps without the tags. -/
theorem isComplete_iff {seen : List Field} :
    isComplete seen = true ↔ ∀ f : Field, f ≠ .tags → f ∈ seen := by
  rw [isComplete, List.all_eq_true]
  constructor
  · intro h f hf
    simpa [hf] using h f f.mem_all
  · intro h f _
    by_cases hf : f = .tags
    · simp [hf]
    · simp [h f hf]

/-! ## Messages -/

/-- The entries of a full message in the order in which they are written. -/
def entriesOf (m : Metric) : List (String × Value) := Field.all.map (Field.entry m)

theorem written_ofString {levels : Nat} {s : String} (h : (Bytes.ofString s).length < 2 ^ 32) :
    Written levels (.ofString s) (Value.ofString s).encode := by
  rw [Value.ofString, Value.encode]
  exact .scalar (.text (textHead_textHead h))

theorem writtenItems_texts {levels : Nat} {texts : List String}
    (h : ∀ s ∈ texts, (Bytes.ofString s).length < 2 ^ 32) :
    WrittenItems levels (texts.map .ofString) (encodeItems (texts.map .ofString)) := by
  induction texts with
  | nil => exact .nil
  | cons s texts ih =>
      obtain ⟨hs, htexts⟩ := List.forall_mem_cons.mp h
      exact .cons (written_ofString hs) (ih htexts)

/-- A field of a metric is written in a form of its value. -/
theorem written_valueOf {m : Metric} (h : m.Fits) (levels : Nat) (f : Field) :
    Written (levels + 1) (f.entry m).2 (f.valueOf m).encode := by
  have hnumber : ∀ n : UInt32,
      Written (levels + 1) (.unsigned n.toNat) (Value.unsigned n.toNat).encode := by
    intro n
    have hlt := n.toNat_lt
    rw [Value.encode]
    exact .scalar (.unsigned (naturalHead_encodeNatural (by omega)))
  cases f with
  | id => exact written_ofString h.id
  | org => exact hnumber m.org.value
  | name => exact written_ofString h.name
  | interval => exact hnumber m.interval
  | value => exact .scalar (.double m.value)
  | unit => exact written_ofString h.unit
  | time => exact .scalar (scalar_encodeInteger m.time.le_toInt m.time.toInt_lt)
  | mtype => exact written_ofString h.mtype
  | tags =>
      refine .array (arrayHead_arrayHead ?_) (writtenItems_texts h.tag)
      rw [List.length_map]
      exact h.tags

theorem writtenEntries_fields {m : Metric} (h : m.Fits) (levels : Nat) (fields : List Field) :
    WrittenEntries (levels + 1) (keyed (fields.map (Field.entry m)))
      (encodeEntries (fields.map fun f => (.ofString f.label, f.valueOf m))) := by
  induction fields with
  | nil => exact .nil
  | cons f fields ih =>
      exact .cons (written_ofString f.length_label_lt) (written_valueOf h levels f) ih

/-- A full message is a form of the map of its entries. -/
theorem written_encodeFull {m : Metric} (h : m.Fits) :
    Written messageLevels (.map (keyed (entriesOf m))) (encodeFull m) := by
  rw [encodeFull, messageValue, Value.encode]
  have hlength : (keyed (entriesOf m)).length = 9 := by
    rw [keyed, entriesOf, List.length_map, List.length_map]
    rfl
  exact .map (mapHead_mapHead (by omega)) (writtenEntries_fields h 1021 Field.all)

/-- Whatever follows a full message, its first byte is that of a map of nine entries. -/
theorem exists_encodeFull_eq (m : Metric) : ∃ body, encodeFull m = 0x89 :: body := by
  rw [encodeFull, messageValue, Value.encode, List.length_map]
  exact ⟨_, rfl⟩

/-- Entries that hold a metric: each of its fields once and in any order, where the tags may be
missing if there are none, and any entries with other names between them. -/
def Holds (m : Metric) (entries : List (String × Value)) : Prop :=
  ∃ fields : List Field,
    (fields.Perm Field.all ∨ m.tags = [] ∧ (Field.tags :: fields).Perm Field.all)
      ∧ entries.filter (fun e => (Field.named? e.1).isSome) = fields.map (Field.entry m)

theorem holds_entriesOf (m : Metric) : Holds m (entriesOf m) := by
  refine ⟨Field.all, Or.inl (List.Perm.refl _), List.filter_eq_self.mpr fun e he => ?_⟩
  obtain ⟨f, -, rfl⟩ := List.mem_map.mp he
  rw [Field.named?_entry]
  rfl

section Holds

variable {m : Metric} {entries : List (String × Value)}

/-- The fields that are set are those that the metric has entries for. -/
theorem Holds.perm (h : Holds m entries) :
    (fieldsOf entries).Perm Field.all
      ∨ m.tags = [] ∧ (Field.tags :: fieldsOf entries).Perm Field.all := by
  obtain ⟨fields, hfields, hentries⟩ := h
  -- what is no field sets nothing
  have hknown : fieldsOf entries =
      fieldsOf (entries.filter fun e => (Field.named? e.1).isSome) := by
    rw [fieldsOf, fieldsOf, List.filterMap_filter]
    refine congrArg (List.filterMap · entries) (funext fun e => ?_)
    cases Field.named? e.1 <;> rfl
  have hfields' : fieldsOf (fields.map (Field.entry m)) = fields := by
    rw [fieldsOf, List.filterMap_map]
    refine (congrArg (List.filterMap · fields) (funext fun f => ?_)).trans List.filterMap_some
    exact Field.named?_entry m f
  rwa [hknown, hentries, hfields']

theorem Holds.nodup (h : Holds m entries) : (fieldsOf entries).Nodup := by
  have hall : Field.all.Nodup := by decide
  rcases h.perm with hperm | ⟨-, hperm⟩
  · exact hperm.nodup_iff.mpr hall
  · exact (List.nodup_cons.mp (hperm.nodup_iff.mpr hall)).2

theorem Holds.mem_or (h : Holds m entries) (f : Field) :
    f ∈ fieldsOf entries ∨ f = .tags ∧ m.tags = [] := by
  rcases h.perm with hperm | ⟨htags, hperm⟩
  · exact Or.inl (hperm.mem_iff.mpr f.mem_all)
  · rcases List.mem_cons.mp (hperm.mem_iff.mpr f.mem_all) with rfl | hf
    · exact Or.inr ⟨rfl, htags⟩
    · exact Or.inl hf

/-- An entry whose name is that of a field is the entry of this field. -/
theorem Holds.eq_entry (h : Holds m entries) {e : String × Value} (he : e ∈ entries) {f : Field}
    (hf : Field.named? e.1 = some f) : e = f.entry m := by
  obtain ⟨fields, -, hentries⟩ := h
  have hknown : e ∈ fields.map (Field.entry m) := by
    rw [← hentries, List.mem_filter, hf]
    exact ⟨he, rfl⟩
  obtain ⟨g, -, rfl⟩ := List.mem_map.mp hknown
  rw [Field.named?_entry] at hf
  rw [Option.some.inj hf]

end Holds

/-! ## Decoding -/

/-- Of a map that is written in some form, the entries are taken. -/
theorem decodeFull?_of_written {entries : List (String × Value)} {b : Bytes}
    (hb : Written messageLevels (.map (keyed entries)) b) (rest : Bytes) :
    decodeFull? (b ++ rest) = (setEntries? {} [] (keyed entries)).bind fun (m, seen) =>
      if isComplete seen then some m else none := by
  rw [decodeFull?, reads_written hb rest]
  rfl

/-- Entries that hold a metric are taken for it. -/
theorem decodeFull?_of_holds {m : Metric} {entries : List (String × Value)} {b : Bytes}
    (hb : Written messageLevels (.map (keyed entries)) b) (h : Holds m entries) (rest : Bytes) :
    decodeFull? (b ++ rest) = some m := by
  obtain ⟨m', hset, hvalue⟩ := exists_setEntries? {} [] (fun _ he _ => h.eq_entry he)
    (by rw [List.append_nil]; exact (List.reverse_perm _).nodup_iff.mpr h.nodup)
  have hm : m' = m := by
    refine Field.eq_of_valueOf fun f => ?_
    rw [hvalue]
    rcases h.mem_or f with hf | ⟨rfl, htags⟩
    · rw [if_pos hf]
    · split
      · rfl
      · rw [Field.valueOf, Field.valueOf, htags]
  have hcomplete : isComplete ((fieldsOf entries).reverse ++ []) = true := by
    rw [isComplete_iff, List.append_nil]
    intro f hf
    rcases h.mem_or f with hmem | ⟨htags, -⟩
    · exact List.mem_reverse.mpr hmem
    · exact absurd htags hf
  rw [decodeFull?_of_written hb rest, hset, hm, Option.bind_some]
  exact if_pos hcomplete

/-- Entries that set a field twice are refused, and so are entries that leave out a field that has
to be there. -/
theorem decodeFull?_refused {entries : List (String × Value)} {b : Bytes}
    (hb : Written messageLevels (.map (keyed entries)) b)
    (h : ¬ (fieldsOf entries).Nodup ∨ ∃ f : Field, f ≠ .tags ∧ f ∉ fieldsOf entries)
    (rest : Bytes) : decodeFull? (b ++ rest) = none := by
  rw [decodeFull?_of_written hb rest]
  cases hset : setEntries? {} [] (keyed entries) with
  | none => rfl
  | some result =>
      obtain ⟨m, seen⟩ := result
      obtain ⟨hseen, hnodup⟩ := seen_of_setEntries? hset List.nodup_nil
      rw [List.append_nil] at hseen
      rcases h with hrepeated | ⟨f, hf, hmissing⟩
      · rw [hseen, (List.reverse_perm _).nodup_iff] at hnodup
        exact absurd hnodup hrepeated
      · have hincomplete : ¬ isComplete seen = true := by
          rw [isComplete_iff, hseen]
          intro hall
          exact hmissing (List.mem_reverse.mp (hall f hf))
        rw [Option.bind_some]
        exact if_neg hincomplete

theorem mem_fieldsOf_iff {entries : List (String × Value)} {f : Field} :
    f ∈ fieldsOf entries ↔ f.label ∈ entries.map Prod.fst := by
  rw [fieldsOf, List.mem_filterMap, List.mem_map]
  refine exists_congr fun e => and_congr_right fun _ => ?_
  rw [Field.named?_eq_some_iff, eq_comm]

/-- Fields are set as often as their names occur. -/
theorem count_fieldsOf (entries : List (String × Value)) (f : Field) :
    (fieldsOf entries).count f = (entries.map Prod.fst).count f.label := by
  rw [fieldsOf, List.count_filterMap, List.count_eq_countP, List.countP_map]
  refine congrArg (List.countP · entries) (funext fun e => ?_)
  rw [Bool.eq_iff_iff, beq_iff_eq, Field.named?_eq_some_iff, eq_comm]
  exact beq_iff_eq.symm

/-- A full message is read as its metric, whatever follows it. -/
theorem decodeFull?_encodeFull {m : Metric} (h : m.Fits) (rest : Bytes) :
    decodeFull? (encodeFull m ++ rest) = some m :=
  decodeFull?_of_holds (written_encodeFull h) (holds_entriesOf m) rest

/-- The mark of a point is a number, and a number is no metric. -/
theorem decodeFull?_point (format : PointFormat) (p : Point) (rest : Bytes) :
    decodeFull? (p.encode format ++ rest) = none := by
  cases format <;> rfl

/-- **Full messages are read back.** A metric whose lengths can be written comes back from its full
message with all its fields as they were, whatever follows the message and whatever the buffer held
that it was written into. The first byte is the mark of a map of nine entries and so neither mark of
a point: no full message is taken for a point of some format, and no point for a full message. -/
theorem full_messages_read_back {m : Metric} (h : m.Fits) (trailing : Bytes) :
    decodeFull? (encodeFull m ++ trailing) = some m
      ∧ (∀ key buffer, Publish.writeMessage .full m key buffer = buffer ++ encodeFull m)
      ∧ (∃ body, encodeFull m ++ trailing = 0x89 :: body)
      ∧ PointFormat.detect (encodeFull m ++ trailing) = none
      ∧ Point.decode (encodeFull m ++ trailing) = .error .unknownFormat
      ∧ ∀ format (p : Point), decodeFull? (p.encode format ++ trailing) = none := by
  obtain ⟨body, hbody⟩ := exists_encodeFull_eq m
  have hdetect : PointFormat.detect (encodeFull m ++ trailing) = none := by rw [hbody]; rfl
  refine ⟨decodeFull?_encodeFull h trailing, fun _ _ => rfl, ?_, hdetect, ?_, ?_⟩
  · exact ⟨body ++ trailing, by rw [hbody]; rfl⟩
  · rw [Point.decode, hdetect]
  · intro format p
    exact decodeFull?_point format p trailing

/-- A value that is no number comes back bit by bit, and so do a time before 1970 and an empty
tag. -/
theorem full_messages_read_back_of_nan :
    let m : Metric :=
      { org := ⟨0xffffffff⟩, name := "größe", interval := 0x100, value := ⟨0xfff4000000000001⟩,
        unit := "ms", time := -33, tags := ["", "dc=eu"] }
    m.Fits ∧ decodeFull? (encodeFull m ++ [2, 3]) = some m := by
  intro m
  have h : m.Fits := ⟨by decide, by decide, by decide, by decide, by decide, by decide⟩
  exact ⟨h, (full_messages_read_back h [2, 3]).1⟩

/-- **Fields are read in any order and among others.** Take a map from texts that is written in any
of its forms within the limit of nesting, as a full message is of its own entries. If it holds the
entries of a metric in some order, with or without tags when there are none, and between them
entries with other names and any values, it is read as the metric. If the name of a field occurs
twice or if a field other than the tags is missing, it is refused, whatever else there is. -/
theorem fields_in_any_order (m : Metric) {entries : List (String × Value)} {b : Bytes}
    (hb : Written messageLevels (.map (keyed entries)) b) (rest : Bytes) :
    (m.Fits → Written messageLevels (.map (keyed (entriesOf m))) (encodeFull m))
      ∧ (Holds m entries → decodeFull? (b ++ rest) = some m)
      ∧ (∀ f : Field, 2 ≤ (entries.map Prod.fst).count f.label → decodeFull? (b ++ rest) = none)
      ∧ ∀ f : Field, f ≠ .tags → f.label ∉ entries.map Prod.fst →
        decodeFull? (b ++ rest) = none := by
  refine ⟨written_encodeFull, fun h => decodeFull?_of_holds hb h rest, ?_, ?_⟩
  · intro f hcount
    refine decodeFull?_refused hb (Or.inl fun hnodup => ?_) rest
    have hone := List.nodup_iff_count.mp hnodup f
    rw [count_fieldsOf] at hone
    omega
  · intro f hf hmissing
    refine decodeFull?_refused hb (Or.inr ⟨f, hf, fun hmem => ?_⟩) rest
    exact hmissing (mem_fieldsOf_iff.mp hmem)

/-- The fields from last to first, the tags left out, and in the middle an array that holds nothing
and an extension. -/
theorem fields_in_any_order_of_reversal :
    let m : Metric :=
      { org := ⟨1⟩, name := "n", interval := 10, unit := "s", time := -1, mtype := "g" }
    let entries : List (String × Value) :=
      [("Mtype", .ofString "g"), ("Time", .signed (-1)), ("Unit", .ofString "s"),
        ("Value", .double .zero), ("Labels", .array [.nil, .extension 5 [1, 2]]),
        ("Interval", .unsigned 10), ("Name", .ofString "n"), ("OrgId", .unsigned 1),
        ("Id", .ofString "")]
    let bytes : Bytes :=
      [0x89,
        0xa5, 0x4d, 0x74, 0x79, 0x70, 0x65, 0xa1, 0x67,
        0xa4, 0x54, 0x69, 0x6d, 0x65, 0xff,
        0xa4, 0x55, 0x6e, 0x69, 0x74, 0xa1, 0x73,
        0xa5, 0x56, 0x61, 0x6c, 0x75, 0x65, 0xcb, 0, 0, 0, 0, 0, 0, 0, 0,
        0xa6, 0x4c, 0x61, 0x62, 0x65, 0x6c, 0x73, 0x92, 0xc0, 0xd5, 5, 1, 2,
        0xa8, 0x49, 0x6e, 0x74, 0x65, 0x72, 0x76, 0x61, 0x6c, 10,
        0xa4, 0x4e, 0x61, 0x6d, 0x65, 0xa1, 0x6e,
        0xa5, 0x4f, 0x72, 0x67, 0x49, 0x64, 0xcd, 0, 1,
        0xa2, 0x49, 0x64, 0xa0]
    Written messageLevels (.map (keyed entries)) bytes ∧ Holds m entries
      ∧ decodeFull? bytes = some m := by
  intro m entries bytes
  have hlabels : Written 1022 (.array [.nil, .extension 5 [1, 2]]) [0x92, 0xc0, 0xd5, 5, 1, 2] := by
    have hextension : ExtensionHead [(1 : UInt8), 2].length [0xd5] := .fixed (by decide)
    have htwo : ArrayHead [Value.nil, .extension 5 [1, 2]].length [0x92] := .short (by decide)
    exact .array htwo (.cons (.scalar .nil) (.cons (.extension hextension) .nil))
  have horg : Written 1022 (.unsigned 1) [0xcd, 0, 1] := by
    have hwide : ((0xcd : UInt8), 2) ∈ [((0xcc : UInt8), 1), (0xcd, 2), (0xce, 4), (0xcf, 8)] := by
      decide
    exact .scalar (.unsigned (.wide hwide (by decide)))
  obtain ⟨body, hbody, hbytes⟩ :
      ∃ body, WrittenEntries 1022 (keyed entries) body ∧ [0x89] ++ body = bytes :=
    ⟨_, .cons (written_ofString (by decide)) (written_ofString (by decide)) <|
        .cons (written_ofString (by decide)) (.scalar (.negative (by decide) (by decide))) <|
        .cons (written_ofString (by decide)) (written_ofString (by decide)) <|
        .cons (written_ofString (by decide)) (.scalar (.double .zero)) <|
        .cons (written_ofString (by decide)) hlabels <|
        .cons (written_ofString (by decide)) (.scalar (.unsigned (.short (by decide)))) <|
        .cons (written_ofString (by decide)) (written_ofString (by decide)) <|
        .cons (written_ofString (by decide)) horg <|
        .cons (written_ofString (by decide)) (written_ofString (by decide)) .nil, rfl⟩
  have hb : Written messageLevels (.map (keyed entries)) bytes := by
    have hnine : MapHead (keyed entries).length [0x89] := .short (by decide)
    rw [← hbytes]
    exact .map hnine hbody
  have hholds : Holds m entries :=
    ⟨[.mtype, .time, .unit, .value, .interval, .name, .org, .id], Or.inr ⟨rfl, by decide⟩, rfl⟩
  have hread := (fields_in_any_order m hb []).2.1 hholds
  exact ⟨hb, hholds, hread⟩

end Wire

end MetricGateway
