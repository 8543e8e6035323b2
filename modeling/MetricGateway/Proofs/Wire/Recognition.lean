import MetricGateway.Proofs.Wire.Grammar

/-!
# Nothing but forms is read

The reader takes every form of a value. Here is the other direction: whatever it
takes is a form of the value that it makes of it, with as many levels as it was
given. So the forms are all there is to know about the reader, and bytes that
begin with a form of a value begin with no other.

The first byte decides. For each of its values there is one reader for what
follows, and for each of these readers one lemma that says which bytes it has taken.
-/

namespace MetricGateway.Wire.MessagePack

/-- A reader takes nothing but forms of what it makes of them. -/
def TakesOnly {α : Type} (read : Reader α) (form : α → Bytes → Prop) : Prop :=
  ∀ b x rest, read b = some (x, rest) → ∃ front, b = front ++ rest ∧ form x front

/-! ## Numbers -/

theorem eq_of_readNumber {width n : Nat} {b rest : Bytes}
    (h : readNumber width b = some (n, rest)) :
    b = Bytes.bigEndian width n ++ rest ∧ n < 256 ^ width := by
  obtain ⟨⟨number, behind⟩, htake, heq⟩ := Option.map_eq_some_iff.mp h
  obtain ⟨rfl, hlength⟩ := Bytes.eq_append_of_take? htake
  cases heq
  subst hlength
  exact ⟨by rw [Bytes.bigEndian_ofBigEndian], Bytes.ofBigEndian_lt number⟩

/-- A number in two's complement is the only one of its width with these bytes. -/
theorem eq_of_readSigned {width : Nat} (hwidth : 0 < width) {n : Int} {b rest : Bytes}
    (h : readSigned width b = some (n, rest)) :
    b = Bytes.bigEndian width (n % 2 ^ (8 * width)).toNat ++ rest
      ∧ -2 ^ (8 * width - 1) ≤ n ∧ n < 2 ^ (8 * width - 1) := by
  obtain ⟨⟨k, behind⟩, hread, heq⟩ := Option.map_eq_some_iff.mp h
  obtain ⟨rfl, hk⟩ := eq_of_readNumber hread
  obtain ⟨hwide, hfull, hhalf⟩ := halves_of_width hwidth
  cases heq
  rw [hhalf]
  have hmod : (if 2 ^ (8 * width - 1) ≤ k then (k : Int) - 2 ^ (8 * width) else k)
      % 2 ^ (8 * width) = k := by
    split
    · rw [Int.sub_emod_right, Int.emod_eq_of_lt (by omega) (by omega)]
    · exact Int.emod_eq_of_lt (by omega) (by omega)
  refine ⟨by rw [hmod, Int.toNat_natCast], ?_, ?_⟩ <;> split <;> omega

/-! ## Collections -/

theorem eq_of_readItems {levels count : Nat} {read : Reader Value}
    (hread : TakesOnly read (Written levels)) {items : List Value} {b rest : Bytes}
    (h : readMany read count b = some (items, rest)) :
    items.length = count ∧ ∃ front, b = front ++ rest ∧ WrittenItems levels items front := by
  induction count generalizing b items with
  | zero => cases h; exact ⟨rfl, [], rfl, .nil⟩
  | succ count ih =>
      obtain ⟨⟨item, behind⟩, hitem, h⟩ := Option.bind_eq_some_iff.mp h
      obtain ⟨⟨others, behind'⟩, hothers, h⟩ := Option.bind_eq_some_iff.mp h
      cases h
      obtain ⟨front, rfl, hform⟩ := hread _ _ _ hitem
      obtain ⟨hlength, front', rfl, hforms⟩ := ih hothers
      exact ⟨congrArg (· + 1) hlength, front ++ front', (List.append_assoc ..).symm,
        .cons hform hforms⟩

theorem eq_of_readEntries {levels count : Nat} {read : Reader Value}
    (hread : TakesOnly read (Written levels)) {entries : List (Value × Value)} {b rest : Bytes}
    (h : readMany (readPair read) count b = some (entries, rest)) :
    entries.length = count ∧ ∃ front, b = front ++ rest ∧ WrittenEntries levels entries front := by
  induction count generalizing b entries with
  | zero => cases h; exact ⟨rfl, [], rfl, .nil⟩
  | succ count ih =>
      obtain ⟨⟨entry, behind⟩, hentry, h⟩ := Option.bind_eq_some_iff.mp h
      obtain ⟨⟨others, behind'⟩, hothers, h⟩ := Option.bind_eq_some_iff.mp h
      cases h
      obtain ⟨⟨key, behindKey⟩, hkey, hentry⟩ := Option.bind_eq_some_iff.mp hentry
      obtain ⟨⟨value, behindValue⟩, hvalue, hentry⟩ := Option.bind_eq_some_iff.mp hentry
      cases hentry
      obtain ⟨k, rfl, hk⟩ := hread _ _ _ hkey
      obtain ⟨v, rfl, hv⟩ := hread _ _ _ hvalue
      obtain ⟨hlength, front, rfl, hforms⟩ := ih hothers
      refine ⟨congrArg (· + 1) hlength, k ++ v ++ front, ?_, .cons hk hv hforms⟩
      rw [List.append_assoc, List.append_assoc]

section Heads

variable {levels : Nat} {inner : Option (Reader Value)} {v : Value} {head b rest : Bytes} {n : Nat}
  (hinner : ∀ read, inner = some read → ∃ lower, levels = lower + 1
    ∧ TakesOnly read (Written lower))

include hinner

theorem taken_array (hhead : ArrayHead n head) (h : readArray inner n b = some (v, rest)) :
    ∃ front, head ++ b = front ++ rest ∧ Written levels v front := by
  obtain ⟨read, hread, h⟩ := Option.bind_eq_some_iff.mp h
  obtain ⟨⟨items, behind⟩, hitems, h⟩ := Option.bind_eq_some_iff.mp h
  cases h
  obtain ⟨lower, rfl, htakes⟩ := hinner read hread
  obtain ⟨rfl, body, rfl, hbody⟩ := eq_of_readItems htakes hitems
  exact ⟨head ++ body, (List.append_assoc ..).symm, .array hhead hbody⟩

theorem taken_map (hhead : MapHead n head) (h : readMap inner n b = some (v, rest)) :
    ∃ front, head ++ b = front ++ rest ∧ Written levels v front := by
  obtain ⟨read, hread, h⟩ := Option.bind_eq_some_iff.mp h
  obtain ⟨⟨entries, behind⟩, hentries, h⟩ := Option.bind_eq_some_iff.mp h
  cases h
  obtain ⟨lower, rfl, htakes⟩ := hinner read hread
  obtain ⟨rfl, body, rfl, hbody⟩ := eq_of_readEntries htakes hentries
  exact ⟨head ++ body, (List.append_assoc ..).symm, .map hhead hbody⟩

theorem taken_extension (hhead : ExtensionHead n head)
    (h : readExtension inner n b = some (v, rest)) :
    ∃ front, head ++ b = front ++ rest ∧ Written levels v front := by
  obtain ⟨read, hread, h⟩ := Option.bind_eq_some_iff.mp h
  obtain ⟨⟨kind, behind⟩, hkind, h⟩ := Option.bind_eq_some_iff.mp h
  obtain ⟨⟨data, behind'⟩, hdata, h⟩ := Option.bind_eq_some_iff.mp h
  cases h
  obtain ⟨lower, rfl, -⟩ := hinner read hread
  obtain ⟨rfl, hone⟩ := Bytes.eq_append_of_take? hkind
  obtain ⟨rfl, rfl⟩ := Bytes.eq_append_of_take? hdata
  obtain ⟨k, rfl⟩ := List.length_eq_one_iff.mp hone
  exact ⟨head ++ k :: data, by simp, .extension hhead⟩

theorem taken_wide_array {mark : UInt8} {width : Nat}
    (hmark : (mark, width) ∈ [((0xdc : UInt8), 2), (0xdd, 4)])
    (h : ((readNumber width b).bind fun (n, rest) => readArray inner n rest) = some (v, rest)) :
    ∃ front, mark :: b = front ++ rest ∧ Written levels v front := by
  obtain ⟨⟨n, behind⟩, hnumber, hbody⟩ := Option.bind_eq_some_iff.mp h
  obtain ⟨rfl, hn⟩ := eq_of_readNumber hnumber
  exact taken_array hinner (.wide hmark hn) hbody

theorem taken_wide_map {mark : UInt8} {width : Nat}
    (hmark : (mark, width) ∈ [((0xde : UInt8), 2), (0xdf, 4)])
    (h : ((readNumber width b).bind fun (n, rest) => readMap inner n rest) = some (v, rest)) :
    ∃ front, mark :: b = front ++ rest ∧ Written levels v front := by
  obtain ⟨⟨n, behind⟩, hnumber, hbody⟩ := Option.bind_eq_some_iff.mp h
  obtain ⟨rfl, hn⟩ := eq_of_readNumber hnumber
  exact taken_map hinner (.wide hmark hn) hbody

theorem taken_wide_extension {mark : UInt8} {width : Nat}
    (hmark : (mark, width) ∈ [((0xc7 : UInt8), 1), (0xc8, 2), (0xc9, 4)])
    (h : readLongExtension inner width b = some (v, rest)) :
    ∃ front, mark :: b = front ++ rest ∧ Written levels v front := by
  obtain ⟨⟨n, behind⟩, hnumber, hbody⟩ := Option.bind_eq_some_iff.mp h
  obtain ⟨rfl, hn⟩ := eq_of_readNumber hnumber
  exact taken_extension hinner (.wide hmark hn) hbody

end Heads

/-! ## Scalars -/

section Scalars

variable {levels width : Nat} {v : Value} {mark : UInt8} {b rest : Bytes}

theorem taken_number {make : Nat → Value}
    (hform : ∀ n < 256 ^ width, Scalar (make n) (marked mark width n))
    (h : (readNumber width b).map (fun (n, rest) => (make n, rest)) = some (v, rest)) :
    ∃ front, mark :: b = front ++ rest ∧ Written levels v front := by
  obtain ⟨⟨n, behind⟩, hnumber, heq⟩ := Option.map_eq_some_iff.mp h
  obtain ⟨rfl, hn⟩ := eq_of_readNumber hnumber
  cases heq
  exact ⟨marked mark width n, rfl, .scalar (hform n hn)⟩

theorem taken_natural
    (hmark : (mark, width) ∈ [((0xcc : UInt8), 1), (0xcd, 2), (0xce, 4), (0xcf, 8)])
    (h : (readNumber width b).map (fun (n, rest) => (.unsigned n, rest)) = some (v, rest)) :
    ∃ front, mark :: b = front ++ rest ∧ Written levels v front :=
  taken_number (fun _ hn => .unsigned (.wide hmark hn)) h

theorem taken_signed
    (hmark : (mark, width) ∈ [((0xd0 : UInt8), 1), (0xd1, 2), (0xd2, 4), (0xd3, 8)])
    (hwidth : 0 < width)
    (h : (readSigned width b).map (fun (n, rest) => (.signed n, rest)) = some (v, rest)) :
    ∃ front, mark :: b = front ++ rest ∧ Written levels v front := by
  obtain ⟨⟨n, behind⟩, hnumber, heq⟩ := Option.map_eq_some_iff.mp h
  obtain ⟨rfl, hlow, hhigh⟩ := eq_of_readSigned hwidth hnumber
  cases heq
  exact ⟨marked mark width _, rfl, .scalar (.signed hmark hlow hhigh)⟩

theorem taken_data {make : Bytes → Value}
    (hform : ∀ data : Bytes, data.length < 256 ^ width →
      Scalar (make data) (marked mark width data.length ++ data))
    (h : readData width make b = some (v, rest)) :
    ∃ front, mark :: b = front ++ rest ∧ Written levels v front := by
  obtain ⟨⟨n, behind⟩, hnumber, h⟩ := Option.bind_eq_some_iff.mp h
  obtain ⟨⟨data, behind'⟩, hdata, h⟩ := Option.bind_eq_some_iff.mp h
  cases h
  obtain ⟨rfl, hn⟩ := eq_of_readNumber hnumber
  obtain ⟨rfl, rfl⟩ := Bytes.eq_append_of_take? hdata
  exact ⟨marked mark width data.length ++ data, by simp [marked], .scalar (hform data hn)⟩

theorem taken_binary (hmark : (mark, width) ∈ [((0xc4 : UInt8), 1), (0xc5, 2), (0xc6, 4)])
    (h : readData width .binary b = some (v, rest)) :
    ∃ front, mark :: b = front ++ rest ∧ Written levels v front :=
  taken_data (fun _ hn => .binary (.wide hmark hn)) h

theorem taken_text (hmark : (mark, width) ∈ [((0xd9 : UInt8), 1), (0xda, 2), (0xdb, 4)])
    (h : readData width .text b = some (v, rest)) :
    ∃ front, mark :: b = front ++ rest ∧ Written levels v front :=
  taken_data (fun _ hn => .text (.wide hmark hn)) h

theorem scalar_single {n : Nat} (h : n < 256 ^ 4) :
    Scalar (.single (UInt32.ofNat n)) (marked 0xca 4 n) := by
  have hform := Scalar.single (UInt32.ofNat n)
  rwa [UInt32.toNat_ofNat', Nat.mod_eq_of_lt h] at hform

theorem scalar_double {n : Nat} (h : n < 256 ^ 8) :
    Scalar (.double ⟨UInt64.ofNat n⟩) (marked 0xcb 8 n) := by
  have hform := Scalar.double ⟨UInt64.ofNat n⟩
  dsimp only at hform
  rwa [UInt64.toNat_ofNat', Nat.mod_eq_of_lt h] at hform

/-- A first byte in the right range is a short head. -/
theorem head_of_mark {base limit : Nat} {marks : List (UInt8 × Nat)} (hlow : base ≤ mark.toNat)
    (hhigh : mark.toNat < base + limit) : Head base limit marks (mark.toNat - base) [mark] := by
  have hshort : Head base limit marks (mark.toNat - base)
      [UInt8.ofNat (base + (mark.toNat - base))] := .short (by omega)
  rwa [Nat.add_sub_cancel' hlow, UInt8.ofNat_toNat] at hshort

end Scalars

/-! ## Values -/

section Values

variable {levels : Nat} {inner : Option (Reader Value)}
  (hinner : ∀ read, inner = some read → ∃ lower, levels = lower + 1
    ∧ TakesOnly read (Written lower))

include hinner

/-- The first bytes from 0xc0 to 0xdf each have a kind and a width of their own. -/
theorem taken_marked {v : Value} {mark : UInt8} {b rest : Bytes} (hlow : 0xc0 ≤ mark.toNat)
    (hhigh : mark.toNat < 0xe0) (h : readBehind inner mark.toNat b = some (v, rest)) :
    ∃ front, mark :: b = front ++ rest ∧ Written levels v front := by
  unfold readBehind at h
  rw [if_neg (by omega), if_neg (by omega), if_neg (by omega), if_neg (by omega),
    if_neg (by omega)] at h
  have hmark : ∀ k : UInt8, mark.toNat = k.toNat → mark = k := fun k => UInt8.toNat_inj.mp
  split at h
  -- nil and the two truth values
  · next heq =>
    obtain rfl := hmark 0xc0 heq
    cases h
    exact ⟨[0xc0], rfl, .scalar .nil⟩
  · next heq =>
    obtain rfl := hmark 0xc2 heq
    cases h
    exact ⟨[0xc2], rfl, .scalar (.bool false)⟩
  · next heq =>
    obtain rfl := hmark 0xc3 heq
    cases h
    exact ⟨[0xc3], rfl, .scalar (.bool true)⟩
  -- binary data
  · next heq =>
    obtain rfl := hmark 0xc4 heq
    exact taken_binary (by decide) h
  · next heq =>
    obtain rfl := hmark 0xc5 heq
    exact taken_binary (by decide) h
  · next heq =>
    obtain rfl := hmark 0xc6 heq
    exact taken_binary (by decide) h
  -- extensions that state their length
  · next heq =>
    obtain rfl := hmark 0xc7 heq
    exact taken_wide_extension hinner (by decide) h
  · next heq =>
    obtain rfl := hmark 0xc8 heq
    exact taken_wide_extension hinner (by decide) h
  · next heq =>
    obtain rfl := hmark 0xc9 heq
    exact taken_wide_extension hinner (by decide) h
  -- floats
  · next heq =>
    obtain rfl := hmark 0xca heq
    exact taken_number (fun n hn => scalar_single hn) h
  · next heq =>
    obtain rfl := hmark 0xcb heq
    exact taken_number (fun n hn => scalar_double hn) h
  -- unsigned numbers
  · next heq =>
    obtain rfl := hmark 0xcc heq
    exact taken_natural (by decide) h
  · next heq =>
    obtain rfl := hmark 0xcd heq
    exact taken_natural (by decide) h
  · next heq =>
    obtain rfl := hmark 0xce heq
    exact taken_natural (by decide) h
  · next heq =>
    obtain rfl := hmark 0xcf heq
    exact taken_natural (by decide) h
  -- signed numbers
  · next heq =>
    obtain rfl := hmark 0xd0 heq
    exact taken_signed (by decide) (by decide) h
  · next heq =>
    obtain rfl := hmark 0xd1 heq
    exact taken_signed (by decide) (by decide) h
  · next heq =>
    obtain rfl := hmark 0xd2 heq
    exact taken_signed (by decide) (by decide) h
  · next heq =>
    obtain rfl := hmark 0xd3 heq
    exact taken_signed (by decide) (by decide) h
  -- extensions of a fixed length
  · next heq =>
    obtain rfl := hmark 0xd4 heq
    exact taken_extension hinner (.fixed (by decide)) h
  · next heq =>
    obtain rfl := hmark 0xd5 heq
    exact taken_extension hinner (.fixed (by decide)) h
  · next heq =>
    obtain rfl := hmark 0xd6 heq
    exact taken_extension hinner (.fixed (by decide)) h
  · next heq =>
    obtain rfl := hmark 0xd7 heq
    exact taken_extension hinner (.fixed (by decide)) h
  · next heq =>
    obtain rfl := hmark 0xd8 heq
    exact taken_extension hinner (.fixed (by decide)) h
  -- texts
  · next heq =>
    obtain rfl := hmark 0xd9 heq
    exact taken_text (by decide) h
  · next heq =>
    obtain rfl := hmark 0xda heq
    exact taken_text (by decide) h
  · next heq =>
    obtain rfl := hmark 0xdb heq
    exact taken_text (by decide) h
  -- arrays and maps
  · next heq =>
    obtain rfl := hmark 0xdc heq
    exact taken_wide_array hinner (by decide) h
  · next heq =>
    obtain rfl := hmark 0xdd heq
    exact taken_wide_array hinner (by decide) h
  · next heq =>
    obtain rfl := hmark 0xde heq
    exact taken_wide_map hinner (by decide) h
  · next heq =>
    obtain rfl := hmark 0xdf heq
    exact taken_wide_map hinner (by decide) h
  · cases h

/-- What is read with a reader of items that takes nothing but forms is a form. -/
theorem takesOnly_readWith : TakesOnly (readWith inner) (Written levels) := by
  intro b v rest h
  cases b with
  | nil => cases h
  | cons mark b =>
      rw [readWith] at h
      by_cases hmarked : 0xc0 ≤ mark.toNat ∧ mark.toNat < 0xe0
      · exact taken_marked hinner hmarked.1 hmarked.2 h
      have hlt := mark.toNat_lt
      unfold readBehind at h
      split at h
      · -- a small number
        next hsmall =>
        cases h
        have hhead : NaturalHead (mark.toNat - 0) [mark] := head_of_mark (Nat.zero_le _) hsmall
        exact ⟨[mark], rfl, .scalar (.unsigned hhead)⟩
      split at h
      · exact taken_map hinner (head_of_mark (by omega) (by omega)) h
      split at h
      · exact taken_array hinner (head_of_mark (by omega) (by omega)) h
      split at h
      · -- a short text
        obtain ⟨⟨data, behind⟩, hdata, heq⟩ := Option.map_eq_some_iff.mp h
        cases heq
        obtain ⟨rfl, hlength⟩ := Bytes.eq_append_of_take? hdata
        have hhead : TextHead data.length [mark] := by
          rw [hlength]
          exact head_of_mark (by omega) (by omega)
        exact ⟨[mark] ++ data, rfl, .scalar (.text hhead)⟩
      split at h
      · -- a small negative number
        cases h
        have hbyte : ((mark.toNat : Int) - 0x100 + 2 ^ 8).toNat = mark.toNat := by omega
        have hform := Scalar.negative (n := (mark.toNat : Int) - 0x100) (by omega) (by omega)
        rw [hbyte, UInt8.ofNat_toNat] at hform
        exact ⟨[mark], rfl, .scalar hform⟩
      · omega

end Values

/-- **Nothing but forms is read**, and every form is. -/
theorem read_eq_some_iff {levels : Nat} {v : Value} {b rest : Bytes} :
    Value.read levels b = some (v, rest) ↔ ∃ front, b = front ++ rest ∧ Written levels v front := by
  constructor
  · intro h
    induction levels generalizing v b rest with
    | zero =>
        refine takesOnly_readWith (fun read hread => ?_) b v rest h
        cases hread
    | succ levels ih =>
        refine takesOnly_readWith (fun read hread => ?_) b v rest h
        cases hread
        exact ⟨levels, rfl, fun _ _ _ => ih⟩
  · rintro ⟨front, rfl, hform⟩
    exact reads_written hform rest

/-- A form is that of one value only, also if more bytes follow, and no form begins with another. -/
theorem written_unique {levels : Nat} {v v' : Value} {b b' rest rest' : Bytes}
    (h : Written levels v b) (h' : Written levels v' b') (heq : b ++ rest = b' ++ rest') :
    v = v' ∧ b = b' := by
  have hread := reads_written h rest
  rw [heq, reads_written h' rest'] at hread
  cases hread
  exact ⟨rfl, List.append_cancel_right heq⟩

end MetricGateway.Wire.MessagePack
