import MetricGateway.Bytes

/-!
# Texts as bytes

Several formats put texts one behind the other with a byte before each of them.
Whether the texts can be read off the result depends on whether this byte occurs
within one of them. For an ASCII character this is a question about characters:
in UTF-8 all bytes of other characters are beyond the ASCII range.

UTF-8 also keeps the order of texts. A character with a longer encoding has a
larger first byte, and of two with the same length the bits are compared from the
highest to the lowest. So the first byte that differs decides as the characters do,
and texts that are sorted by their characters are sorted by their bytes.
-/

namespace MetricGateway.Bytes

/-! ## UTF-8 -/

theorem ofString_eq (s : String) : ofString s = s.toList.flatMap String.utf8EncodeChar := by
  rw [ofString, String.toUTF8_eq_toByteArray, ← String.utf8Encode_toList, List.utf8Encode]
  exact congrArg Array.toList List.data_toByteArray

/-- Different texts are different bytes. -/
theorem ofString_inj {s t : String} : ofString s = ofString t ↔ s = t := by
  constructor
  · intro h
    refine String.toByteArray_inj.mp (ByteArray.ext (Array.toList_inj.mp ?_))
    exact h
  · exact congrArg ofString

/-- An ASCII byte encodes its own character only. -/
theorem toNat_eq_of_mem_utf8EncodeChar {c : Char} {b : UInt8} (hb : b.toNat < 0x80)
    (h : b ∈ String.utf8EncodeChar c) : b.toNat = c.toNat := by
  have hc : c.val.toNat = c.toNat := rfl
  rw [String.utf8EncodeChar, hc] at h
  split at h
  · have heq := congrArg UInt8.toNat (List.mem_singleton.mp h)
    rw [UInt8.toNat_ofNat'] at heq
    omega
  · -- the bytes of all longer forms have their highest bit set
    exfalso
    split at h
    · simp only [List.mem_cons, List.not_mem_nil, or_false] at h
      rcases h with rfl | rfl <;> rw [UInt8.toNat_ofNat'] at hb <;> omega
    · split at h
      · simp only [List.mem_cons, List.not_mem_nil, or_false] at h
        rcases h with rfl | rfl | rfl <;> rw [UInt8.toNat_ofNat'] at hb <;> omega
      · simp only [List.mem_cons, List.not_mem_nil, or_false] at h
        rcases h with rfl | rfl | rfl | rfl <;> rw [UInt8.toNat_ofNat'] at hb <;> omega

/-- An ASCII byte is in a text if and only if its character is. -/
theorem mem_ofString_iff {s : String} {c : Char} (hc : c.toNat < 0x80) :
    UInt8.ofNat c.toNat ∈ ofString s ↔ c ∈ s.toList := by
  have hbyte : (UInt8.ofNat c.toNat).toNat = c.toNat := by
    rw [UInt8.toNat_ofNat']; omega
  rw [ofString_eq, List.mem_flatMap]
  constructor
  · rintro ⟨d, hd, hmem⟩
    have heq := toNat_eq_of_mem_utf8EncodeChar (by omega) hmem
    rw [hbyte] at heq
    rwa [Char.toNat_inj.mp heq]
  · intro h
    have hone : c.val.toNat ≤ 0x7f := Nat.le_of_lt_succ hc
    refine ⟨c, h, ?_⟩
    rw [String.utf8EncodeChar, if_pos hone]
    exact List.mem_singleton_self _

/-! ## Separators -/

/-- A field that the separator does not occur in ends where the separator stands, or at the end. -/
theorem append_inj_of_not_mem {sep : UInt8} {x y rest rest' : Bytes} (hx : sep ∉ x) (hy : sep ∉ y)
    (hrest : rest.head? = none ∨ rest.head? = some sep)
    (hrest' : rest'.head? = none ∨ rest'.head? = some sep) (h : x ++ rest = y ++ rest') :
    x = y ∧ rest = rest' := by
  -- the field is what stands before the first separator
  have htake : ∀ {z tail : Bytes}, sep ∉ z → (tail.head? = none ∨ tail.head? = some sep) →
      (z ++ tail).takeWhile (· != sep) = z := by
    intro z tail hz htail
    have hfree : ∀ b ∈ z, (b != sep) = true := by
      intro b hb
      refine bne_iff_ne.mpr ?_
      rintro rfl
      exact hz hb
    rw [List.takeWhile_append_of_pos hfree]
    cases tail with
    | nil => simp
    | cons b tail =>
        rcases htail with hnone | hsome
        · cases hnone
        · cases hsome; simp
  have heq : x = y := by rw [← htake hx hrest, h, htake hy hrest']
  subst heq
  exact ⟨rfl, List.append_cancel_left h⟩

/-- **Fields that the separator does not occur in can be read off.** -/
theorem flatMap_separator_inj {sep : UInt8} {fields others : List Bytes}
    (h : ∀ field ∈ fields, sep ∉ field) (h' : ∀ field ∈ others, sep ∉ field) :
    fields.flatMap (sep :: ·) = others.flatMap (sep :: ·) ↔ fields = others := by
  refine ⟨fun heq => ?_, fun heq => by rw [heq]⟩
  -- whatever follows a field starts with a separator, if anything follows
  have hhead : ∀ fields : List Bytes, (fields.flatMap (sep :: ·)).head? = none
      ∨ (fields.flatMap (sep :: ·)).head? = some sep := by
    intro fields
    cases fields <;> simp
  induction fields generalizing others with
  | nil =>
      cases others with
      | nil => rfl
      | cons other others => cases heq
  | cons field fields ih =>
      cases others with
      | nil => cases heq
      | cons other others =>
          rw [List.flatMap_cons, List.flatMap_cons, List.cons_append, List.cons_append] at heq
          obtain ⟨rfl, hrest⟩ := append_inj_of_not_mem (h field (List.mem_cons_self ..))
            (h' other (List.mem_cons_self ..)) (hhead fields) (hhead others)
            (List.cons_eq_cons.mp heq).2
          rw [ih (fun f hf => h f (List.mem_cons_of_mem _ hf))
            (fun f hf => h' f (List.mem_cons_of_mem _ hf)) hrest]

/-! ## Order -/

/-- Bytes are ordered by the first that differs, and by the rest if the first is the same. -/
theorem ofNat_cons_lt {a b : Nat} {x y : Bytes} (hb : b < 256) (h : a < b ∨ a = b ∧ x < y) :
    UInt8.ofNat a :: x < UInt8.ofNat b :: y := by
  rcases h with hlt | ⟨rfl, hrest⟩
  · refine List.Lex.rel (UInt8.lt_iff_toNat_lt.mpr ?_)
    rw [UInt8.toNat_ofNat', UInt8.toNat_ofNat']
    omega
  · exact List.Lex.cons hrest

variable {m n : Nat} {x y : Bytes}

/-- The last six bits of a character, whatever follows. -/
theorem lastTail_lt (h : m % 64 < n % 64) :
    UInt8.ofNat (m % 64 + 128) :: x < UInt8.ofNat (n % 64 + 128) :: y :=
  ofNat_cons_lt (by omega) (Or.inl (by omega))

theorem twoTails_lt (h : m % 4096 < n % 4096) :
    UInt8.ofNat (m / 64 % 64 + 128) :: UInt8.ofNat (m % 64 + 128) :: x <
      UInt8.ofNat (n / 64 % 64 + 128) :: UInt8.ofNat (n % 64 + 128) :: y := by
  refine ofNat_cons_lt (by omega) ?_
  rcases Nat.lt_or_ge (m / 64 % 64) (n / 64 % 64) with hlt | hge
  · exact Or.inl (by omega)
  · exact Or.inr ⟨by omega, lastTail_lt (by omega)⟩

theorem threeTails_lt (h : m % 262144 < n % 262144) :
    UInt8.ofNat (m / 4096 % 64 + 128) :: UInt8.ofNat (m / 64 % 64 + 128) ::
        UInt8.ofNat (m % 64 + 128) :: x <
      UInt8.ofNat (n / 4096 % 64 + 128) :: UInt8.ofNat (n / 64 % 64 + 128) ::
        UInt8.ofNat (n % 64 + 128) :: y := by
  refine ofNat_cons_lt (by omega) ?_
  rcases Nat.lt_or_ge (m / 4096 % 64) (n / 4096 % 64) with hlt | hge
  · exact Or.inl (by omega)
  · exact Or.inr ⟨by omega, twoTails_lt (by omega)⟩

/-- **Characters are encoded in their order**, and no encoding continues another. -/
theorem utf8EncodeChar_append_lt {c d : Char} (h : c < d) (x y : Bytes) :
    String.utf8EncodeChar c ++ x < String.utf8EncodeChar d ++ y := by
  have hlt : c.val.toNat < d.val.toNat := h
  have hd : d.val.toNat < 0x110000 := by
    rcases d.valid with hlow | ⟨-, hhigh⟩
    · exact Nat.lt_trans hlow (by decide)
    · exact hhigh
  simp only [String.utf8EncodeChar]
  -- a longer encoding has a larger first byte; with the same length the first byte comes first
  split
  case isTrue =>
    split
    case isTrue => exact ofNat_cons_lt (by omega) (Or.inl hlt)
    case isFalse =>
      split
      case isTrue => exact ofNat_cons_lt (by omega) (Or.inl (by omega))
      case isFalse => split <;> exact ofNat_cons_lt (by omega) (Or.inl (by omega))
  case isFalse hone =>
    rw [if_neg (show ¬ d.val.toNat ≤ 127 by omega)]
    split
    case isTrue =>
      split
      case isTrue =>
        refine ofNat_cons_lt (by omega) ?_
        rcases Nat.lt_or_ge (c.val.toNat / 64) (d.val.toNat / 64) with hlead | hlead
        · exact Or.inl (by omega)
        · exact Or.inr ⟨by omega, lastTail_lt (by omega)⟩
      case isFalse => split <;> exact ofNat_cons_lt (by omega) (Or.inl (by omega))
    case isFalse htwo =>
      rw [if_neg (show ¬ d.val.toNat ≤ 2047 by omega)]
      split
      case isTrue =>
        split
        case isTrue =>
          refine ofNat_cons_lt (by omega) ?_
          rcases Nat.lt_or_ge (c.val.toNat / 4096) (d.val.toNat / 4096) with hlead | hlead
          · exact Or.inl (by omega)
          · exact Or.inr ⟨by omega, twoTails_lt (by omega)⟩
        case isFalse => exact ofNat_cons_lt (by omega) (Or.inl (by omega))
      case isFalse hthree =>
        rw [if_neg (show ¬ d.val.toNat ≤ 65535 by omega)]
        refine ofNat_cons_lt (by omega) ?_
        rcases Nat.lt_or_ge (c.val.toNat / 262144) (d.val.toNat / 262144) with hlead | hlead
        · exact Or.inl (by omega)
        · exact Or.inr ⟨by omega, threeTails_lt (by omega)⟩

/-- What two lists start with in common makes no difference to their order. -/
theorem append_lt_append (front : Bytes) (h : x < y) : front ++ x < front ++ y := by
  induction front with
  | nil => exact h
  | cons b rest ih => exact List.Lex.cons ih

/-- Texts in order are encoded in order. -/
theorem flatMap_utf8EncodeChar_lt {s t : List Char} (h : s < t) :
    s.flatMap String.utf8EncodeChar < t.flatMap String.utf8EncodeChar := by
  induction h with
  | @nil d rest =>
      obtain ⟨b, bs, hbytes⟩ := List.exists_cons_of_ne_nil (String.utf8EncodeChar_ne_nil (c := d))
      rw [List.flatMap_cons, hbytes]
      exact List.Lex.nil
  | rel hlt => exact utf8EncodeChar_append_lt hlt _ _
  | cons _ ih => exact append_lt_append _ ih

/-- **The order of texts is the order of their bytes.** -/
theorem ofString_lt_iff {s t : String} : ofString s < ofString t ↔ s < t := by
  have hlt : ∀ {s t : String}, s < t → ofString s < ofString t := by
    intro s t h
    rw [ofString_eq, ofString_eq]
    exact flatMap_utf8EncodeChar_lt h
  refine ⟨fun h => Decidable.byContradiction fun hnot => ?_, hlt⟩
  rcases Std.le_iff_lt_or_eq.mp (String.not_lt.mp hnot) with hbehind | rfl
  · exact List.lt_asymm h (hlt hbehind)
  · exact List.lt_irrefl _ h

theorem ofString_le_iff {s t : String} : ofString s ≤ ofString t ↔ s ≤ t :=
  not_congr ofString_lt_iff

end MetricGateway.Bytes
