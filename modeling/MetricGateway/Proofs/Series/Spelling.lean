import Mathlib
import MetricGateway.Proofs.Number.Natural
import MetricGateway.Proofs.Result

/-!
# How ids are spelled

The id of a series is written in one way only, and it is read in many: with a
plus sign, with zeros in front of the number of the organization, with digits of
the key in upper case. `Spelling` is what may be written, part by part, and every
text that is not the text of a spelling is refused.

The point behind the number is the first one of the text, because a number has
none. So a spelling can be read off its text, and two spellings stand for the same
series if and only if their texts are the same once the sign, the leading zeros
and the case are taken away.
-/

namespace MetricGateway

/-! ## Hexadecimal digits -/

namespace Hex

/-- The hexadecimal digits of both cases. -/
def digits : List Char := "0123456789abcdefABCDEF".toList

/-- What a hexadecimal digit stands for: its place among those of lower case. -/
def value (c : Char) : Nat := "0123456789abcdef".toList.idxOf c.toLower

theorem value?_eq (c : Char) : value? c = if c ∈ digits then some (value c) else none := by
  by_cases hascii : c.toNat < 128
  · have key : ∀ n : Fin 128, value? (Char.ofNat n) =
        if Char.ofNat n ∈ digits then some (value (Char.ofNat n)) else none := by decide +kernel
    have h := key ⟨c.toNat, hascii⟩
    rwa [Char.ofNat_toNat] at h
  · -- all that is compared with is ASCII
    have hmem : c ∉ digits := fun hmem =>
      hascii (Text.forall_mem_of_all (p := (·.toNat < 128)) (by decide) c hmem)
    have hbeyond : ∀ d : Char, d.toNat < 128 → ¬ c ≤ d := by
      intro d hd hle
      have hle' : c.toNat ≤ d.toNat := hle
      omega
    rw [value?, if_neg fun h => hbeyond '9' (by decide) h.2,
      if_neg fun h => hbeyond 'f' (by decide) h.2, if_neg fun h => hbeyond 'F' (by decide) h.2,
      if_neg hmem]

theorem value_lt {c : Char} (h : c ∈ digits) : value c < 16 :=
  Text.forall_mem_of_all (p := fun c => value c < 16) (by decide) c h

/-- Only the two cases of a digit stand for the same number. -/
theorem value_eq_iff {c d : Char} (hc : c ∈ digits) :
    value c = value d ↔ c.toLower = d.toLower :=
  List.idxOf_inj (Text.forall_mem_of_all
    (p := fun c => c.toLower ∈ "0123456789abcdef".toList) (by decide) c hc)

theorem decode?_cons_cons {high low : Char} {rest : List Char} {b : Bytes} :
    decode? (high :: low :: rest) = some b ↔ high ∈ digits ∧ low ∈ digits
      ∧ ∃ tail, decode? rest = some tail
        ∧ b = UInt8.ofNat (16 * value high + value low) :: tail := by
  rw [decode?, value?_eq, value?_eq]
  by_cases hhigh : high ∈ digits
  · by_cases hlow : low ∈ digits
    · rw [if_pos hhigh, if_pos hlow]
      cases decode? rest with
      | none =>
          refine iff_of_false (Option.some_ne_none b).symm ?_
          rintro ⟨-, -, _, ⟨⟩, -⟩
      | some tail =>
          constructor
          · rintro ⟨⟩
            exact ⟨hhigh, hlow, tail, rfl, rfl⟩
          · rintro ⟨-, -, _, ⟨⟩, rfl⟩
            rfl
    · rw [if_pos hhigh, if_neg hlow]
      exact iff_of_false (Option.some_ne_none b).symm fun h => hlow h.2.1
  · rw [if_neg hhigh]
    exact iff_of_false (Option.some_ne_none b).symm fun h => hhigh h.1

/-- The two digits of a byte can be told apart. -/
theorem byte_eq_iff {a b c d : Nat} (ha : a < 16) (hb : b < 16) (hc : c < 16) (hd : d < 16) :
    UInt8.ofNat (16 * a + b) = UInt8.ofNat (16 * c + d) ↔ a = c ∧ b = d := by
  rw [← UInt8.toNat_inj, UInt8.toNat_ofNat', UInt8.toNat_ofNat']
  omega

/-- **Two digits for every byte, in order, and nothing else.** -/
theorem decode?_eq_some_iff {s : List Char} {b : Bytes} :
    decode? s = some b ↔ (∀ c ∈ s, c ∈ digits) ∧ s.length = 2 * b.length
      ∧ ∀ i high low, s[2 * i]? = some high → s[2 * i + 1]? = some low →
        b[i]? = some (UInt8.ofNat (16 * value high + value low)) := by
  induction s using decode?.induct generalizing b with
  | case1 =>
      rw [decode?, Option.some.injEq]
      constructor
      · rintro rfl
        exact ⟨List.forall_mem_nil _, rfl, fun i high low h => by cases h⟩
      · rintro ⟨-, hlength, -⟩
        rw [List.length_nil] at hlength
        exact (List.eq_nil_of_length_eq_zero (by omega)).symm
  | case2 high low rest ih =>
      rw [decode?_cons_cons, List.forall_mem_cons, List.forall_mem_cons]
      constructor
      · rintro ⟨hhigh, hlow, tail, hrest, rfl⟩
        obtain ⟨hdigits, hlength, hbytes⟩ := ih.mp hrest
        refine ⟨⟨hhigh, hlow, hdigits⟩, by simp only [List.length_cons]; omega, fun i => ?_⟩
        cases i with
        | zero => rintro _ _ ⟨⟩ ⟨⟩; rfl
        | succ i => exact hbytes i
      · rintro ⟨⟨hhigh, hlow, hdigits⟩, hlength, hbytes⟩
        cases b with
        | nil => simp at hlength
        | cons x tail =>
            simp only [List.length_cons] at hlength
            exact ⟨hhigh, hlow, tail, ih.mpr ⟨hdigits, by omega, fun i => hbytes (i + 1)⟩,
              congrArg (· :: tail) (Option.some.inj (hbytes 0 high low rfl rfl))⟩
  | case3 c =>
      refine iff_of_false (Option.some_ne_none b).symm fun h => ?_
      have hlength := h.2.1
      rw [List.length_singleton] at hlength
      omega

end Hex

/-! ## Keys -/

namespace SeriesKey

/-- The key that thirty-two digits stand for, the higher half of a byte first. -/
def ofDigits (digits : Vector Char 32) : SeriesKey :=
  ⟨Vector.ofFn fun i =>
    UInt8.ofNat (16 * Hex.value digits[2 * i.val] + Hex.value digits[2 * i.val + 1])⟩

theorem eq_ofDigits_iff {key : SeriesKey} {digits : Vector Char 32} :
    key = ofDigits digits ↔ ∀ (i : Nat) (h : i < 16), key.bytes[i] =
      UInt8.ofNat (16 * Hex.value digits[2 * i] + Hex.value digits[2 * i + 1]) := by
  obtain ⟨bytes⟩ := key
  rw [ofDigits, SeriesKey.mk.injEq, Vector.ext_iff]
  simp only [Vector.getElem_ofFn]

theorem getElem?_toBytes (key : SeriesKey) {i : Nat} (h : i < 16) :
    key.toBytes[i]? = some key.bytes[i] := by
  rw [toBytes, Vector.getElem?_toList, Vector.getElem?_eq_getElem h]

theorem parse?_eq_decode? {s : List Char} {key : SeriesKey} :
    parse? s = some key ↔ Hex.decode? s = some key.toBytes := by
  rw [parse?, Option.bind_eq_bind, Option.bind_eq_some_iff]
  constructor
  · rintro ⟨b, hb, hkey⟩
    rw [hb, toBytes_of_ofBytes? hkey]
  · exact fun h => ⟨_, h, ofBytes?_toBytes key⟩

/-- **A key is read from thirty-two digits and from nothing else.** -/
theorem parse?_eq_some_iff {s : List Char} {key : SeriesKey} :
    parse? s = some key ↔ ∃ digits : Vector Char 32,
      s = digits.toList ∧ (∀ c ∈ digits, c ∈ Hex.digits) ∧ key = ofDigits digits := by
  rw [parse?_eq_decode?, Hex.decode?_eq_some_iff, length_toBytes]
  constructor
  · rintro ⟨hdigits, hlength, hbytes⟩
    have hvector : ∃ digits : Vector Char 32, s = digits.toList :=
      ⟨⟨s.toArray, hlength⟩, rfl⟩
    obtain ⟨digits, rfl⟩ := hvector
    refine ⟨digits, rfl, fun c hc => hdigits c (Vector.mem_toList_iff.mpr hc), ?_⟩
    refine eq_ofDigits_iff.mpr fun i hi => ?_
    have hbyte := hbytes i digits[2 * i] digits[2 * i + 1] (by simp) (by simp)
    rw [getElem?_toBytes key hi] at hbyte
    exact Option.some.inj hbyte
  · rintro ⟨digits, rfl, hdigits, rfl⟩
    refine ⟨fun c hc => hdigits c (Vector.mem_toList_iff.mp hc), digits.length_toList,
      fun i high low hhigh hlow => ?_⟩
    obtain ⟨hlt, rfl⟩ := List.getElem?_eq_some_iff.mp hlow
    obtain ⟨-, rfl⟩ := List.getElem?_eq_some_iff.mp hhigh
    rw [Vector.length_toList] at hlt
    have hi : i < 16 := by omega
    rw [getElem?_toBytes _ hi, eq_ofDigits_iff.mp rfl i hi]
    rfl

/-- Digits stand for the same key if and only if they are the same in lower case. -/
theorem ofDigits_eq_iff {d e : Vector Char 32} (hd : ∀ c ∈ d, c ∈ Hex.digits)
    (he : ∀ c ∈ e, c ∈ Hex.digits) :
    ofDigits d = ofDigits e ↔ d.map Char.toLower = e.map Char.toLower := by
  have hdlt : ∀ (j : Nat) (hj : j < 32), Hex.value d[j] < 16 :=
    fun j hj => Hex.value_lt (hd _ (Vector.getElem_mem hj))
  have helt : ∀ (j : Nat) (hj : j < 32), Hex.value e[j] < 16 :=
    fun j hj => Hex.value_lt (he _ (Vector.getElem_mem hj))
  have hbyte : ∀ (i : Nat) (h : i < 16), (ofDigits d).bytes[i] =
        UInt8.ofNat (16 * Hex.value e[2 * i] + Hex.value e[2 * i + 1]) ↔
      Hex.value d[2 * i] = Hex.value e[2 * i]
        ∧ Hex.value d[2 * i + 1] = Hex.value e[2 * i + 1] := by
    intro i h
    rw [eq_ofDigits_iff.mp rfl i h, Hex.byte_eq_iff (hdlt _ _) (hdlt _ _) (helt _ _) (helt _ _)]
  have hlower : ∀ (j : Nat) (hj : j < 32),
      Hex.value d[j] = Hex.value e[j] ↔ d[j].toLower = e[j].toLower :=
    fun j hj => Hex.value_eq_iff (hd _ (Vector.getElem_mem hj))
  rw [eq_ofDigits_iff, Vector.ext_iff]
  simp only [Vector.getElem_map, hbyte, ← hlower]
  constructor
  · intro h j hj
    -- every digit is the higher or the lower half of a byte
    obtain ⟨i, rfl | rfl⟩ : ∃ i, j = 2 * i ∨ j = 2 * i + 1 := ⟨j / 2, by omega⟩
    · exact (h i (by omega)).1
    · exact (h i (by omega)).2
  · exact fun h i hi => ⟨h (2 * i) (by omega), h (2 * i + 1) (by omega)⟩

end SeriesKey

/-! ## Ids -/

namespace MetricKey

/-- The parts of a text that is an id. -/
structure Spelling where
  /-- Whether there is a plus sign in front. -/
  plus : Bool
  /-- The number of the organization. -/
  number : List Char
  /-- The digits of the key. -/
  digits : Vector Char 32
  number_ne_nil : number ≠ []
  isDigit : ∀ c ∈ number, c.isDigit = true
  number_lt : Nat.ofDigitChars 10 number 0 < 2 ^ 32
  isHexDigit : ∀ c ∈ digits, c ∈ Hex.digits

namespace Spelling

/-- A plus sign or none, the number, a point and the digits of the key. -/
def text (p : Spelling) : List Char :=
  (if p.plus then ['+'] else []) ++ p.number ++ '.' :: p.digits.toList

/-- The series that is spelled. -/
def key (p : Spelling) : MetricKey :=
  ⟨⟨UInt32.ofNat (Nat.ofDigitChars 10 p.number 0)⟩, SeriesKey.ofDigits p.digits⟩

end Spelling

/-- A text without the plus sign in front of it, if there is one. -/
def dropPlus : List Char → List Char
  | '+' :: rest => rest
  | s => s

/-- A text without plus sign, without leading zeros and in lower case. -/
def plainText (s : List Char) : List Char :=
  ((dropPlus s).dropWhile (· == '0')).map Char.toLower

theorem Spelling.numeral (p : Spelling) :
    Number.Numeral p.number (UInt32.ofNat (Nat.ofDigitChars 10 p.number 0)).toNat where
  ne_nil := p.number_ne_nil
  isDigit := p.isDigit
  value := (UInt32.toNat_ofNat_of_lt' p.number_lt).symm

/-- An id is cut at its first point. -/
theorem parse_eq_ok_iff_parts {s : String} {k : MetricKey} :
    parse s = .ok k ↔ ∃ org key, s.toList = org ++ '.' :: key ∧ '.' ∉ org
      ∧ Number.readUInt32 org = .ok k.org.value ∧ SeriesKey.parse? key = some k.key := by
  rw [parse]
  constructor
  · intro h
    split at h
    case h_1 => cases h
    case h_2 org key hsplit =>
      split at h
      case h_1 n digits horg hkey =>
        cases h
        obtain ⟨htext, hpoint⟩ := Text.splitOnce_eq_some_iff.mp hsplit
        exact ⟨org, key, htext, hpoint, horg, hkey⟩
      case h_2 => cases h
  · rintro ⟨org, key, htext, hpoint, horg, hkey⟩
    rw [Text.splitOnce_eq_some_iff.mpr ⟨htext, hpoint⟩]
    dsimp only
    rw [horg, hkey]

/-- **Ids are the texts of spellings.** -/
theorem parse_eq_ok_iff {s : String} {k : MetricKey} :
    parse s = .ok k ↔ ∃ p : Spelling, s.toList = p.text ∧ k = p.key := by
  obtain ⟨⟨org⟩, key⟩ := k
  rw [parse_eq_ok_iff_parts]
  constructor
  · rintro ⟨front, back, htext, -, hfront, hback⟩
    obtain ⟨number, hsign, hnumber⟩ := Number.readUInt32_eq_ok_iff.mp hfront
    obtain ⟨digits, rfl, hhex, rfl⟩ := SeriesKey.parse?_eq_some_iff.mp hback
    obtain ⟨plus, rfl⟩ : ∃ plus : Bool, front = (if plus then ['+'] else []) ++ number := by
      rcases hsign with rfl | rfl
      · exact ⟨false, rfl⟩
      · exact ⟨true, rfl⟩
    let p : Spelling :=
      { plus, number, digits, number_ne_nil := hnumber.ne_nil, isDigit := hnumber.isDigit
        number_lt := hnumber.value ▸ org.toNat_lt, isHexDigit := hhex }
    refine ⟨p, htext, ?_⟩
    simp only [Spelling.key, p, hnumber.value, UInt32.ofNat_toNat]
  · rintro ⟨p, htext, ⟨⟩⟩
    refine ⟨_, _, htext, ?_, ?_,
      SeriesKey.parse?_eq_some_iff.mpr ⟨p.digits, rfl, p.isHexDigit, rfl⟩⟩
    · have hnumber : '.' ∉ p.number := fun hmem => absurd (p.isDigit '.' hmem) (by decide)
      cases p.plus <;> simpa using hnumber
    · refine Number.readUInt32_eq_ok_iff.mpr ⟨p.number, ?_, p.numeral⟩
      cases p.plus
      · exact Or.inl rfl
      · exact Or.inr rfl

theorem exists_parse_iff {s : String} :
    (∃ k, parse s = .ok k) ↔ ∃ p : Spelling, s.toList = p.text := by
  constructor
  · rintro ⟨k, hk⟩
    obtain ⟨p, hp, -⟩ := parse_eq_ok_iff.mp hk
    exact ⟨p, hp⟩
  · rintro ⟨p, hp⟩
    exact ⟨p.key, parse_eq_ok_iff.mpr ⟨p, hp, rfl⟩⟩

/-- What is left of a spelling. -/
theorem Spelling.plainText_text (p : Spelling) :
    plainText p.text =
      p.number.dropWhile (· == '0') ++ '.' :: (p.digits.map Char.toLower).toList := by
  have hlower : (p.number.dropWhile (· == '0')).map Char.toLower =
      p.number.dropWhile (· == '0') := by
    refine (List.map_congr_left fun c hc => ?_).trans (List.map_id _)
    have hdigit := p.isDigit c ((List.dropWhile_sublist _).subset hc)
    exact Number.forall_isDigit (p := fun c => c.toLower = c) (by decide) hdigit
  have hunsigned : dropPlus p.text = p.number ++ '.' :: p.digits.toList := by
    rw [text]
    cases p.plus with
    | true => rfl
    | false =>
        obtain ⟨c, rest, hnumber⟩ := List.exists_cons_of_ne_nil p.number_ne_nil
        have hplus := p.numeral.not_mem_plus
        rw [hnumber] at hplus ⊢
        exact dropPlus.eq_2 _ fun _ heq => hplus ((List.cons.inj heq).1 ▸ List.mem_cons_self ..)
  -- the zeros end at the point at the latest
  have hzeros : (dropPlus p.text).dropWhile (· == '0') =
      p.number.dropWhile (· == '0') ++ '.' :: p.digits.toList := by
    rw [hunsigned, List.dropWhile_append]
    split
    case isTrue h => rw [List.isEmpty_iff.mp h]; rfl
    case isFalse => rfl
  rw [plainText, hzeros, List.map_append, hlower, List.map_cons, Vector.toList_map]
  rfl

/-- **Spellings stand for the same series if and only if their plain texts are the same.** -/
theorem Spelling.key_eq_iff (p q : Spelling) :
    p.key = q.key ↔ plainText p.text = plainText q.text := by
  have hnumber : p.key.org.value = q.key.org.value ↔
      p.number.dropWhile (· == '0') = q.number.dropWhile (· == '0') := by
    rw [← UInt32.toNat_inj]
    exact p.numeral.eq_iff q.numeral
  have hdigits : p.key.key = q.key.key ↔
      p.digits.map Char.toLower = q.digits.map Char.toLower :=
    SeriesKey.ofDigits_eq_iff p.isHexDigit q.isHexDigit
  have hparts : p.key = q.key ↔ p.key.org.value = q.key.org.value ∧ p.key.key = q.key.key :=
    ⟨fun h => by rw [h]; exact ⟨rfl, rfl⟩, fun ⟨horg, hkey⟩ => by
      rw [key, key, MetricKey.mk.injEq, OrgId.mk.injEq]; exact ⟨horg, hkey⟩⟩
  rw [hparts, hnumber, hdigits, plainText_text, plainText_text]
  constructor
  · rintro ⟨hn, hd⟩
    rw [hn, hd]
  · intro h
    obtain ⟨hn, hd⟩ := List.append_inj' h (by simp)
    exact ⟨hn, Vector.toList_inj.mp (List.cons.inj hd).2⟩

/-- **Ids are read exactly as they may be spelled.**

A text is read if and only if it is a plus sign or none, decimal digits that stand for a number
below `2 ^ 32`, a point and thirty-two hexadecimal digits, and it is read as the number and the
bytes that it spells. Every other text is complained about as a whole. What is displayed is read
back. Two texts that are read name the same series if and only if they are the same without plus
sign and leading zeros and in lower case. -/
theorem ids_read_as_spelled :
    (∀ (s : String) (k : MetricKey),
        parse s = .ok k ↔ ∃ p : Spelling, s.toList = p.text ∧ k = p.key)
      ∧ (∀ s : String, parse s = .error ⟨s⟩ ↔ ¬ ∃ p : Spelling, s.toList = p.text)
      ∧ (∀ k : MetricKey, parse k.display = .ok k)
      ∧ ∀ (s t : String) (k l : MetricKey), parse s = .ok k → parse t = .ok l →
        (k = l ↔ plainText s.toList = plainText t.toList) := by
  refine ⟨fun s k => parse_eq_ok_iff, fun s => ?_, parse_display, fun s t k l hs ht => ?_⟩
  · rw [Result.eq_error_iff (parse_cases s), exists_parse_iff]
  · obtain ⟨p, hp, rfl⟩ := parse_eq_ok_iff.mp hs
    obtain ⟨q, hq, rfl⟩ := parse_eq_ok_iff.mp ht
    rw [hp, hq]
    exact p.key_eq_iff q

/-- A plus sign, leading zeros and upper case make no difference, and another key does. -/
theorem ids_read_as_spelled_of_upper_case :
    ∃ k l, parse "+007.945276EF3A4124CD5DCD40581A3248DB" = .ok k
      ∧ parse "7.945276ef3a4124cd5dcd40581a3248db" = .ok k
      ∧ parse "7.945276ef3a4124cd5dcd40581a3248dc" = .ok l
      ∧ k.org = ⟨7⟩ ∧ k.key.leading = 0x94 ∧ k ≠ l := by
  obtain ⟨-, -, -, hsame⟩ := ids_read_as_spelled
  have hupper : ∃ k, parse "+007.945276EF3A4124CD5DCD40581A3248DB" = .ok k
      ∧ k.org = ⟨7⟩ ∧ k.key.leading = 0x94 := ⟨_, by cbv, by decide, by decide⟩
  have hlower : ∃ k, parse "7.945276ef3a4124cd5dcd40581a3248db" = .ok k := ⟨_, by cbv⟩
  have hother : ∃ k, parse "7.945276ef3a4124cd5dcd40581a3248dc" = .ok k := ⟨_, by cbv⟩
  obtain ⟨k, hk, horg, hleading⟩ := hupper
  obtain ⟨k', hk'⟩ := hlower
  obtain ⟨l, hl⟩ := hother
  obtain rfl : k = k' := (hsame _ _ k k' hk hk').mpr (by decide)
  refine ⟨k, l, hk, hk', hl, horg, hleading, fun heq => ?_⟩
  exact absurd ((hsame _ _ k l hk hl).mp heq) (by decide)

end MetricKey

end MetricGateway
