import MetricGateway.Proofs.Wire.Field
import MetricGateway.Wire.MessagePack

/-!
# Values and their forms

Most values can be written in several forms. A short number is part of the first
byte, or it stands behind a mark in one of several widths, and the lengths of
texts and the sizes of collections are such numbers too. This file lists the
forms of each value, as the format has them, and shows that the reader takes
every one of them for the value and stops right behind it.

A form carries the number of levels that it needs: collections have one more than
what they hold, and an extension has one. This is what the reader counts, so the
proof is an induction on the levels, and at each level one on the items.
-/

namespace MetricGateway.Wire.MessagePack

open Number (Binary64)

/-! ## Forms -/

/-- The forms of a number that stands at the beginning of a value. Numbers below `limit` are added
to the first byte `base`. The others, and these too, may stand behind a mark that tells their
width. -/
inductive Head (base limit : Nat) (marks : List (UInt8 × Nat)) (n : Nat) : Bytes → Prop where
  | short (h : n < limit) : Head base limit marks n [UInt8.ofNat (base + n)]
  | wide {mark : UInt8} {width : Nat} (hmark : (mark, width) ∈ marks) (h : n < 256 ^ width) :
      Head base limit marks n (marked mark width n)

/-- A number that is not negative, as a value of its own. -/
abbrev NaturalHead := Head 0 0x80 [(0xcc, 1), (0xcd, 2), (0xce, 4), (0xcf, 8)]

/-- The length of a text. -/
abbrev TextHead := Head 0xa0 0x20 [(0xd9, 1), (0xda, 2), (0xdb, 4)]

/-- The length of binary data. -/
abbrev BinaryHead := Head 0 0 [(0xc4, 1), (0xc5, 2), (0xc6, 4)]

/-- The size of an array. -/
abbrev ArrayHead := Head 0x90 0x10 [(0xdc, 2), (0xdd, 4)]

/-- The size of a map. -/
abbrev MapHead := Head 0x80 0x10 [(0xde, 2), (0xdf, 4)]

/-- The length of an extension. Some lengths have a mark of their own. -/
inductive ExtensionHead (n : Nat) : Bytes → Prop where
  | fixed {mark : UInt8}
      (h : (mark, n) ∈ [((0xd4 : UInt8), 1), (0xd5, 2), (0xd6, 4), (0xd7, 8), (0xd8, 16)]) :
      ExtensionHead n [mark]
  | wide {mark : UInt8} {width : Nat}
      (hmark : (mark, width) ∈ [((0xc7 : UInt8), 1), (0xc8, 2), (0xc9, 4)])
      (h : n < 256 ^ width) : ExtensionHead n (marked mark width n)

/-- The forms of values that hold no others. -/
inductive Scalar : Value → Bytes → Prop where
  | nil : Scalar .nil [0xc0]
  | bool (b : Bool) : Scalar (.bool b) [if b then 0xc3 else 0xc2]
  | unsigned {n : Nat} {head : Bytes} (h : NaturalHead n head) : Scalar (.unsigned n) head
  /-- A small negative number is the first byte. -/
  | negative {n : Int} (hlow : -0x20 ≤ n) (hhigh : n < 0) :
      Scalar (.signed n) [UInt8.ofNat (n + 2 ^ 8).toNat]
  /-- A number in two's complement. -/
  | signed {n : Int} {mark : UInt8} {width : Nat}
      (hmark : (mark, width) ∈ [((0xd0 : UInt8), 1), (0xd1, 2), (0xd2, 4), (0xd3, 8)])
      (hlow : -2 ^ (8 * width - 1) ≤ n) (hhigh : n < 2 ^ (8 * width - 1)) :
      Scalar (.signed n) (marked mark width (n % 2 ^ (8 * width)).toNat)
  | single (bits : UInt32) : Scalar (.single bits) (marked 0xca 4 bits.toNat)
  | double (x : Binary64) : Scalar (.double x) (marked 0xcb 8 x.bits.toNat)
  | text {utf8 head : Bytes} (h : TextHead utf8.length head) : Scalar (.text utf8) (head ++ utf8)
  | binary {bytes head : Bytes} (h : BinaryHead bytes.length head) :
      Scalar (.binary bytes) (head ++ bytes)

mutual

/-- `Written levels v b`: the bytes are a form of the value, in which at most so many collections
and extensions are nested in one another. -/
inductive Written : Nat → Value → Bytes → Prop where
  | scalar {levels : Nat} {v : Value} {b : Bytes} (h : Scalar v b) : Written levels v b
  | array {levels : Nat} {items : List Value} {head body : Bytes}
      (hhead : ArrayHead items.length head) (hbody : WrittenItems levels items body) :
      Written (levels + 1) (.array items) (head ++ body)
  | map {levels : Nat} {entries : List (Value × Value)} {head body : Bytes}
      (hhead : MapHead entries.length head) (hbody : WrittenEntries levels entries body) :
      Written (levels + 1) (.map entries) (head ++ body)
  | extension {levels : Nat} {kind : UInt8} {bytes head : Bytes}
      (hhead : ExtensionHead bytes.length head) :
      Written (levels + 1) (.extension kind bytes) (head ++ kind :: bytes)

/-- Values written one behind the other. -/
inductive WrittenItems : Nat → List Value → Bytes → Prop where
  | nil {levels : Nat} : WrittenItems levels [] []
  | cons {levels : Nat} {item : Value} {items : List Value} {b rest : Bytes}
      (hitem : Written levels item b) (hitems : WrittenItems levels items rest) :
      WrittenItems levels (item :: items) (b ++ rest)

/-- Keys and values written one behind the other. -/
inductive WrittenEntries : Nat → List (Value × Value) → Bytes → Prop where
  | nil {levels : Nat} : WrittenEntries levels [] []
  | cons {levels : Nat} {key value : Value} {entries : List (Value × Value)} {k v rest : Bytes}
      (hkey : Written levels key k) (hvalue : Written levels value v)
      (hentries : WrittenEntries levels entries rest) :
      WrittenEntries levels ((key, value) :: entries) (k ++ v ++ rest)

end

/-! ## Reading -/

/-- A reader takes these bytes for a value, whatever stands behind them. -/
def Reads {α : Type} (read : Reader α) (b : Bytes) (x : α) : Prop :=
  ∀ rest, read (b ++ rest) = some (x, rest)

/-- A number that fits its width is read. -/
theorem readNumber_bigEndian {width n : Nat} (h : n < 256 ^ width) :
    Reads (readNumber width) (Bytes.bigEndian width n) n := by
  intro rest
  have hvalue : Bytes.ofBigEndian (Bytes.bigEndian width n) = n := by
    rw [Bytes.ofBigEndian_bigEndian, Nat.mod_eq_of_lt h]
  rw [readNumber, Bytes.take?_append (Bytes.length_bigEndian width n), Option.map_some]
  dsimp only
  rw [hvalue]

/-- What follows a head is read with the number in it, if this is so for each of its marks. -/
theorem readWith_of_head {base limit : Nat} {marks : List (UInt8 × Nat)} {n : Nat} {head : Bytes}
    (h : Head base limit marks n head) {inner : Option (Reader Value)} (behind : Nat → Reader Value)
    (hbase : base + limit ≤ 256)
    (hshort : ∀ k < limit, ∀ b, readBehind inner (base + k) b = behind k b)
    (hwide : ∀ m ∈ marks, ∀ b, readBehind inner m.1.toNat b =
      (readNumber m.2 b).bind fun (k, rest) => behind k rest) (rest : Bytes) :
    readWith inner (head ++ rest) = behind n rest := by
  cases h with
  | short hn =>
      have hmark : (UInt8.ofNat (base + n)).toNat = base + n := by
        rw [UInt8.toNat_ofNat']; omega
      rw [List.singleton_append, readWith, hmark, hshort n hn]
  | @wide mark width hmark hn =>
      rw [marked, List.cons_append, readWith, hwide _ hmark, readNumber_bigEndian hn rest]
      rfl

section Heads

variable {n : Nat} {head : Bytes} (inner : Option (Reader Value)) (rest : Bytes)

theorem readWith_naturalHead (h : NaturalHead n head) :
    readWith inner (head ++ rest) = some (.unsigned n, rest) := by
  refine readWith_of_head h (fun k b => some (.unsigned k, b)) (by decide) ?_ ?_ rest
  · intro k hk b
    unfold readBehind
    rw [if_pos (by omega), Nat.zero_add]
  · simp only [List.forall_mem_cons]
    refine ⟨?_, ?_, ?_, ?_, List.forall_mem_nil _⟩ <;> intro b <;> exact Option.map_eq_bind ..

theorem readWith_textHead (h : TextHead n head) : readWith inner (head ++ rest) =
    (Bytes.take? n rest).map fun (data, rest) => (.text data, rest) := by
  refine readWith_of_head h
    (fun k b => (Bytes.take? k b).map fun (data, rest) => (.text data, rest))
    (by decide) ?_ ?_ rest
  · intro k hk b
    unfold readBehind
    rw [if_neg (by omega), if_neg (by omega), if_neg (by omega), if_pos (by omega),
      Nat.add_sub_cancel_left]
  · simp only [List.forall_mem_cons]
    refine ⟨?_, ?_, ?_, List.forall_mem_nil _⟩ <;> intro b <;> simp only [Option.map_eq_bind] <;> rfl

theorem readWith_binaryHead (h : BinaryHead n head) : readWith inner (head ++ rest) =
    (Bytes.take? n rest).map fun (data, rest) => (.binary data, rest) := by
  refine readWith_of_head h
    (fun k b => (Bytes.take? k b).map fun (data, rest) => (.binary data, rest))
    (by decide) nofun ?_ rest
  simp only [List.forall_mem_cons]
  refine ⟨?_, ?_, ?_, List.forall_mem_nil _⟩ <;> intro b <;> simp only [Option.map_eq_bind] <;> rfl

theorem readWith_arrayHead (h : ArrayHead n head) :
    readWith inner (head ++ rest) = readArray inner n rest := by
  refine readWith_of_head h _ (by decide) ?_ ?_ rest
  · intro k hk b
    unfold readBehind
    rw [if_neg (by omega), if_neg (by omega), if_pos (by omega), Nat.add_sub_cancel_left]
  · simp only [List.forall_mem_cons]
    exact ⟨fun b => rfl, fun b => rfl, List.forall_mem_nil _⟩

theorem readWith_mapHead (h : MapHead n head) :
    readWith inner (head ++ rest) = readMap inner n rest := by
  refine readWith_of_head h _ (by decide) ?_ ?_ rest
  · intro k hk b
    unfold readBehind
    rw [if_neg (by omega), if_pos (by omega), Nat.add_sub_cancel_left]
  · simp only [List.forall_mem_cons]
    exact ⟨fun b => rfl, fun b => rfl, List.forall_mem_nil _⟩

theorem readWith_extensionHead (h : ExtensionHead n head) :
    readWith inner (head ++ rest) = readExtension inner n rest := by
  cases h with
  | fixed h =>
      simp only [List.mem_cons, Prod.mk.injEq, List.not_mem_nil, or_false] at h
      rcases h with ⟨rfl, rfl⟩ | ⟨rfl, rfl⟩ | ⟨rfl, rfl⟩ | ⟨rfl, rfl⟩ | ⟨rfl, rfl⟩ <;> rfl
  | @wide mark width hmark hn =>
      have hread : ∀ m ∈ [((0xc7 : UInt8), 1), (0xc8, 2), (0xc9, 4)], ∀ b,
          readBehind inner m.1.toNat b = readLongExtension inner m.2 b := by
        simp only [List.forall_mem_cons]
        exact ⟨fun b => rfl, fun b => rfl, fun b => rfl, List.forall_mem_nil _⟩
      rw [marked, List.cons_append, readWith, hread _ hmark, readLongExtension,
        readNumber_bigEndian hn rest]
      rfl

end Heads

/-- The numbers of a width have two halves. The upper one stands for the negative numbers in two's
complement. -/
theorem halves_of_width {width : Nat} (h : 0 < width) :
    256 ^ width = 2 * 2 ^ (8 * width - 1)
      ∧ (2 : Int) ^ (8 * width) = 2 * ((2 ^ (8 * width - 1) : Nat) : Int)
      ∧ (2 : Int) ^ (8 * width - 1) = ((2 ^ (8 * width - 1) : Nat) : Int) := by
  obtain ⟨bits, hbits⟩ : ∃ bits, 8 * width = bits + 1 := ⟨8 * width - 1, by omega⟩
  have hwide : 256 ^ width = 2 ^ (8 * width) := by
    rw [show (256 : Nat) = 2 ^ 8 from rfl, ← Nat.pow_mul]
  rw [hwide, hbits, Nat.add_sub_cancel]
  refine ⟨?_, ?_, ?_⟩
  · rw [Nat.pow_succ, Nat.mul_comm]
  · rw [Int.pow_succ, Int.mul_comm]
    norm_cast
  · norm_cast

/-- An integer that fits its width in two's complement is read. -/
theorem readSigned_bigEndian {width : Nat} (hwidth : 0 < width) {n : Int}
    (hlow : -2 ^ (8 * width - 1) ≤ n) (hhigh : n < 2 ^ (8 * width - 1)) :
    Reads (readSigned width) (Bytes.bigEndian width (n % 2 ^ (8 * width)).toNat) n := by
  intro rest
  obtain ⟨hwide, hfull, hhalf⟩ := halves_of_width hwidth
  rw [hhalf] at hlow hhigh
  have hmod : n % 2 ^ (8 * width) = if n < 0 then n + 2 ^ (8 * width) else n := by
    split
    · rw [← Int.add_mul_emod_self_right n 1, Int.one_mul, Int.emod_eq_of_lt (by omega) (by omega)]
    · exact Int.emod_eq_of_lt (by omega) (by omega)
  rw [hmod, readSigned, readNumber_bigEndian (by split <;> omega), Option.map_some]
  dsimp only
  congr 2
  split <;> split <;> omega

/-! ## Scalars -/

/-- Every form of a scalar is read as it. -/
theorem reads_scalar {v : Value} {b : Bytes} (h : Scalar v b) (inner : Option (Reader Value)) :
    Reads (readWith inner) b v := by
  intro rest
  cases h with
  | nil => rfl
  | bool b => cases b <;> rfl
  | unsigned h => exact readWith_naturalHead inner rest h
  | @negative n hlow hhigh =>
      have hmark : (UInt8.ofNat (n + 2 ^ 8).toNat).toNat = (n + 2 ^ 8).toNat := by
        rw [UInt8.toNat_ofNat']; omega
      rw [List.singleton_append, readWith, hmark]
      unfold readBehind
      rw [if_neg (by omega), if_neg (by omega), if_neg (by omega), if_neg (by omega),
        if_pos (by omega)]
      congr 3
      omega
  | @signed n mark width hmark hlow hhigh =>
      have hread : ∀ m ∈ [((0xd0 : UInt8), 1), (0xd1, 2), (0xd2, 4), (0xd3, 8)],
          0 < m.2 ∧ ∀ b, readBehind inner m.1.toNat b =
            (readSigned m.2 b).map fun p => (.signed p.1, p.2) := by
        simp only [List.forall_mem_cons]
        exact ⟨⟨by decide, fun b => rfl⟩, ⟨by decide, fun b => rfl⟩, ⟨by decide, fun b => rfl⟩,
          ⟨by decide, fun b => rfl⟩, List.forall_mem_nil _⟩
      obtain ⟨hwidth, hread⟩ := hread _ hmark
      rw [marked, List.cons_append, readWith, hread,
        readSigned_bigEndian hwidth hlow hhigh rest]
      rfl
  | single bits =>
      have hread : ∀ b, readBehind inner (0xca : UInt8).toNat b =
          (readNumber 4 b).map fun p => (.single (UInt32.ofNat p.1), p.2) := fun b => rfl
      rw [marked, List.cons_append, readWith, hread, readNumber_bigEndian bits.toNat_lt rest]
      simp
  | double x =>
      have hread : ∀ b, readBehind inner (0xcb : UInt8).toNat b =
          (readNumber 8 b).map fun p => (.double ⟨UInt64.ofNat p.1⟩, p.2) := fun b => rfl
      rw [marked, List.cons_append, readWith, hread, readNumber_bigEndian x.bits.toNat_lt rest]
      simp
  | text h =>
      rw [List.append_assoc, readWith_textHead inner _ h, Bytes.take?_append rfl]
      rfl
  | binary h =>
      rw [List.append_assoc, readWith_binaryHead inner _ h, Bytes.take?_append rfl]
      rfl

/-! ## Collections -/

/-- Items are read one after the other if each of them is. -/
theorem reads_items {levels : Nat} {read : Reader Value}
    (hread : ∀ v b, Written levels v b → Reads read b v) {items : List Value} {b : Bytes}
    (h : WrittenItems levels items b) : Reads (readMany read items.length) b items := by
  intro rest
  induction items generalizing b with
  | nil => cases h; rfl
  | cons item items ih =>
      cases h with
      | cons hitem hitems =>
          rw [List.length_cons, readMany, List.append_assoc, hread _ _ hitem]
          dsimp only [Option.bind_eq_bind, Option.bind_some]
          rw [ih hitems]
          rfl

/-- Entries are read one after the other if each key and each value is. -/
theorem reads_entries {levels : Nat} {read : Reader Value}
    (hread : ∀ v b, Written levels v b → Reads read b v) {entries : List (Value × Value)}
    {b : Bytes} (h : WrittenEntries levels entries b) :
    Reads (readMany (readPair read) entries.length) b entries := by
  intro rest
  induction entries generalizing b with
  | nil => cases h; rfl
  | cons entry entries ih =>
      cases h with
      | cons hkey hvalue hentries =>
          rw [List.length_cons, readMany, readPair, List.append_assoc, List.append_assoc,
            hread _ _ hkey]
          dsimp only [Option.bind_eq_bind, Option.bind_some]
          rw [hread _ _ hvalue]
          dsimp only [Option.bind_some, pure]
          rw [ih hentries]
          rfl

/-- **Every form of a value is read as it**, and the reader stops right behind it. -/
theorem reads_written {levels : Nat} {v : Value} {b : Bytes} (h : Written levels v b) :
    Reads (Value.read levels) b v := by
  induction levels generalizing v b with
  | zero =>
      cases h with
      | scalar h => exact reads_scalar h none
  | succ levels ih =>
      intro rest
      rw [Value.read]
      cases h with
      | scalar h => exact reads_scalar h _ rest
      | array hhead hbody =>
          rw [List.append_assoc, readWith_arrayHead _ _ hhead, readArray]
          dsimp only [Option.bind_eq_bind, Option.bind_some]
          rw [reads_items (fun _ _ => ih) hbody rest]
          rfl
      | map hhead hbody =>
          rw [List.append_assoc, readWith_mapHead _ _ hhead, readMap]
          dsimp only [Option.bind_eq_bind, Option.bind_some]
          rw [reads_entries (fun _ _ => ih) hbody rest]
          rfl
      | @extension _ kind bytes head hhead =>
          rw [List.append_assoc, readWith_extensionHead _ _ hhead, readExtension]
          dsimp only [Option.bind_eq_bind, Option.bind_some]
          have hkind : Bytes.take? 1 (kind :: bytes ++ rest) = some ([kind], bytes ++ rest) :=
            Bytes.take?_append (show [kind].length = 1 from rfl) (bytes ++ rest)
          rw [hkind]
          dsimp only [Option.bind_some]
          rw [Bytes.take?_append rfl]
          rfl

/-! ## Shortest forms -/

section Shortest

variable {n : Nat}

theorem naturalHead_encodeNatural (h : n < 2 ^ 64) : NaturalHead n (encodeNatural n) := by
  unfold encodeNatural
  split
  · next hshort =>
    have hform : NaturalHead n [UInt8.ofNat (0 + n)] := .short hshort
    rwa [Nat.zero_add] at hform
  · split
    · next hwide => exact .wide (by decide) hwide
    · split
      · next hwide => exact .wide (by decide) hwide
      · split
        · next hwide => exact .wide (by decide) hwide
        · exact .wide (by decide) h

theorem textHead_textHead (h : n < 2 ^ 32) : TextHead n (textHead n) := by
  unfold textHead
  split
  · next hshort => exact .short hshort
  · split
    · next hwide => exact .wide (by decide) hwide
    · split
      · next hwide => exact .wide (by decide) hwide
      · exact .wide (by decide) h

theorem arrayHead_arrayHead (h : n < 2 ^ 32) : ArrayHead n (arrayHead n) := by
  unfold arrayHead
  split
  · next hshort => exact .short hshort
  · split
    · next hwide => exact .wide (by decide) hwide
    · exact .wide (by decide) h

theorem mapHead_mapHead (h : n < 2 ^ 32) : MapHead n (mapHead n) := by
  unfold mapHead
  split
  · next hshort => exact .short hshort
  · split
    · next hwide => exact .wide (by decide) hwide
    · exact .wide (by decide) h

end Shortest

/-- A value as it is read from its shortest form, which does not tell how an integer was signed. -/
def Value.plain : Value → Value
  | .signed n => if 0 ≤ n then .unsigned n.toNat else .signed n
  | v => v

/-- A negative number in two's complement is the number plus that power of two. -/
theorem scalar_of_negative {n : Int} {mark : UInt8} {width : Nat}
    (hmark : (mark, width) ∈ [((0xd0 : UInt8), 1), (0xd1, 2), (0xd2, 4), (0xd3, 8)])
    (hlow : -2 ^ (8 * width - 1) ≤ n) (hneg : n < 0) :
    Scalar (.signed n) (marked mark width (n + 2 ^ (8 * width)).toNat) := by
  have hhalf : (0 : Int) < 2 ^ (8 * width - 1) := Int.pow_pos (by decide)
  have hle : (2 : Int) ^ (8 * width - 1) ≤ 2 ^ (8 * width) := by
    have := Nat.pow_le_pow_right (n := 2) (by decide) (Nat.sub_le (8 * width) 1)
    exact_mod_cast this
  have hmod : n + 2 ^ (8 * width) = n % 2 ^ (8 * width) := by
    rw [← Int.add_mul_emod_self_right n 1, Int.one_mul, Int.emod_eq_of_lt (by omega) (by omega)]
  rw [hmod]
  exact .signed hmark hlow (by omega)

theorem scalar_encodeInteger {n : Int} (hlow : -2 ^ 63 ≤ n) (hhigh : n < 2 ^ 63) :
    Scalar (Value.plain (.signed n)) (encodeInteger n) := by
  unfold encodeInteger Value.plain
  dsimp only
  split
  · exact .unsigned (naturalHead_encodeNatural (by omega))
  · split
    · exact .negative (by omega) (by omega)
    · split
      · next hwide => exact scalar_of_negative (by decide) hwide (by omega)
      · split
        · next hwide => exact scalar_of_negative (by decide) hwide (by omega)
        · split
          · next hwide => exact scalar_of_negative (by decide) hwide (by omega)
          · exact scalar_of_negative (by decide) hlow (by omega)

end MetricGateway.Wire.MessagePack
