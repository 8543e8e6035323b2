import Mathlib
import MetricGateway.Proofs.Result
import MetricGateway.Proofs.Series
import MetricGateway.Proofs.Text.Blank

/-!
# Which texts are numbers

The reader of numbers checks every digit as it comes and stops where the number
leaves its range. A number never gets smaller by one more digit, so it is enough
to look at the whole: a text is read if and only if it has digits only and stands
for a number in the range (`readDigits_eq_ok_iff`).

A number can be written in many ways. All of them are its digits with zeros in
front of them, so two texts stand for the same number if and only if they are the
same behind their leading zeros.
-/

namespace MetricGateway.Number

/-- Decimal digits, at least one of them, that stand for a number. -/
structure Numeral (s : List Char) (n : Nat) : Prop where
  ne_nil : s ≠ []
  isDigit : ∀ c ∈ s, c.isDigit = true
  value : Nat.ofDigitChars 10 s 0 = n

/-! ## Digits -/

theorem isDigit_iff {c : Char} : c.isDigit = true ↔ '0' ≤ c ∧ c ≤ '9' := by
  rw [Char.isDigit, Bool.and_eq_true, decide_eq_true_iff, decide_eq_true_iff]
  rfl

theorem digit?_of_isDigit {c : Char} (h : c.isDigit = true) :
    digit? c = some (c.toNat - '0'.toNat) := if_pos (isDigit_iff.mp h)

theorem digit?_eq_none_iff {c : Char} : digit? c = none ↔ c.isDigit = false := by
  rw [digit?, ← Bool.not_eq_true, isDigit_iff]
  split
  case isTrue h => exact iff_of_false (Option.some_ne_none _) (not_not_intro h)
  case isFalse h => exact iff_of_true rfl h

/-- A digit is the one that is written for its value. -/
theorem digitChar_of_isDigit {c : Char} (h : c.isDigit = true) :
    c.toNat - '0'.toNat < 10 ∧ (c.toNat - '0'.toNat).digitChar = c := by
  obtain ⟨hlow, hhigh⟩ := isDigit_iff.mp h
  have hlow' : 48 ≤ c.toNat := hlow
  have hhigh' : c.toNat ≤ 57 := hhigh
  have hlt : c.toNat - '0'.toNat < 10 := by
    rw [show '0'.toNat = 48 from rfl]; omega
  refine ⟨hlt, Char.toNat_inj.mp ?_⟩
  rw [Nat.toNat_digitChar_of_lt_ten hlt]
  exact Nat.add_sub_cancel' hlow

/-- What holds of the ten digits holds of every character that is one. -/
theorem forall_isDigit {p : Char → Prop} (h : ∀ d : Fin 10, p d.val.digitChar) {c : Char}
    (hc : c.isDigit = true) : p c := by
  obtain ⟨hlt, hchar⟩ := digitChar_of_isDigit hc
  rw [← hchar]
  exact h ⟨_, hlt⟩

theorem isBlank_of_isDigit {c : Char} (h : c.isDigit = true) : Text.isBlank c = false :=
  forall_isDigit (p := fun c => Text.isBlank c = false) (by decide) h

/-! ## Reading -/

variable {limit value n : Nat} {overflow : NumberError} {s : List Char}

/-- More digits never make a number smaller. -/
theorem le_ofDigitChars (s : List Char) (value : Nat) : value ≤ Nat.ofDigitChars 10 s value := by
  rw [Nat.ofDigitChars_eq_ofDigitChars_zero]
  calc value = 1 * value := (Nat.one_mul value).symm
    _ ≤ 10 ^ s.length * value := Nat.mul_le_mul_right value (Nat.pow_pos (by decide))
    _ ≤ _ := Nat.le_add_right ..

/-- **Digits are read if and only if they stay within the limit**, as the number they stand for. -/
theorem readDigits_eq_ok_iff (hvalue : value ≤ limit) :
    readDigits limit overflow value s = .ok n ↔
      (∀ c ∈ s, c.isDigit = true) ∧ Nat.ofDigitChars 10 s value = n ∧ n ≤ limit := by
  induction s generalizing value with
  | nil =>
      rw [readDigits, Nat.ofDigitChars_nil, Except.ok.injEq]
      constructor
      · rintro rfl
        exact ⟨List.forall_mem_nil _, rfl, hvalue⟩
      · exact fun h => h.2.1
  | cons c rest ih =>
      rw [readDigits, List.forall_mem_cons]
      cases hdigit : c.isDigit with
      | false =>
          rw [digit?_eq_none_iff.mpr hdigit]
          exact iff_of_false Result.error_ne_ok fun h => Bool.false_ne_true h.1.1
      | true =>
          rw [digit?_of_isDigit hdigit, Nat.ofDigitChars_cons]
          dsimp only
          split
          case isTrue hlimit =>
            -- what is beyond the limit now stays beyond it
            have hle := le_ofDigitChars rest (10 * value + (c.toNat - '0'.toNat))
            refine iff_of_false Result.error_ne_ok fun h => ?_
            have hn := h.2.1
            omega
          case isFalse hlimit =>
            rw [ih (by omega)]
            exact and_congr_left' ⟨fun h => ⟨rfl, h⟩, And.right⟩

theorem readSome_eq_ok_iff : readSome limit overflow s = .ok n ↔ Numeral s n ∧ n ≤ limit := by
  cases s with
  | nil => exact iff_of_false nofun fun h => h.1.ne_nil rfl
  | cons c rest =>
      have hread : readSome limit overflow (c :: rest) =
          readDigits limit overflow 0 (c :: rest) := rfl
      rw [hread, readDigits_eq_ok_iff (Nat.zero_le limit)]
      exact ⟨fun ⟨hdigits, hvalue, hn⟩ => ⟨⟨nofun, hdigits, hvalue⟩, hn⟩,
        fun ⟨⟨_, hdigits, hvalue⟩, hn⟩ => ⟨hdigits, hvalue, hn⟩⟩

/-- No digit is a sign. -/
theorem Numeral.not_mem_plus (h : Numeral s n) : '+' ∉ s :=
  fun hmem => absurd (h.isDigit '+' hmem) (by decide)

/-- **What is read as a number**: digits within the limit, with a plus sign in front or without. -/
theorem readNatural_eq_ok_iff :
    readNatural limit s = .ok n ↔
      ∃ digits, (s = digits ∨ s = '+' :: digits) ∧ Numeral digits n ∧ n ≤ limit := by
  fun_cases readNatural limit s with
  | case1 =>
      refine iff_of_false nofun ?_
      rintro ⟨digits, rfl | h, hnumeral, -⟩
      · exact hnumeral.ne_nil rfl
      · cases h
  | case2 rest =>
      rw [readSome_eq_ok_iff]
      constructor
      · exact fun h => ⟨rest, Or.inr rfl, h⟩
      · rintro ⟨digits, rfl | h, hnumeral, hn⟩
        · exact absurd (List.mem_cons_self ..) hnumeral.not_mem_plus
        · cases h; exact ⟨hnumeral, hn⟩
  | case3 _ _ hplus =>
      rw [readSome_eq_ok_iff]
      constructor
      · exact fun h => ⟨s, Or.inl rfl, h⟩
      · rintro ⟨digits, rfl | rfl, h⟩
        · exact h
        · exact (hplus digits rfl).elim

theorem readUInt32_eq_ok_iff {n : UInt32} :
    readUInt32 s = .ok n ↔
      ∃ digits, (s = digits ∨ s = '+' :: digits) ∧ Numeral digits n.toNat := by
  have hread : readUInt32 s = .ok n ↔ readNatural (2 ^ 32 - 1) s = .ok n.toNat := by
    rw [readUInt32]
    cases hnat : readNatural (2 ^ 32 - 1) s with
    | error e => exact iff_of_false Result.error_ne_ok Result.error_ne_ok
    | ok m =>
        obtain ⟨-, -, -, hm⟩ := readNatural_eq_ok_iff.mp hnat
        rw [Except.map, Except.ok.injEq, Except.ok.injEq, ← UInt32.toNat_inj,
          UInt32.toNat_ofNat_of_lt' (by rw [UInt32.size]; omega)]
  have hlt := n.toNat_lt
  rw [hread, readNatural_eq_ok_iff]
  exact exists_congr fun digits => and_congr_right fun _ =>
    and_iff_left_of_imp fun _ => by omega

/-! ## Leading zeros -/

theorem numeral_digits (n : Nat) : Numeral (digits n) n where
  ne_nil := Nat.toDigits_ne_nil
  isDigit := fun _ => isDigit_of_mem_digits
  value := Nat.ofDigitChars_ten_toDigits

/-- **A number is written without leading zeros**, and there is no other way to do so. -/
theorem Numeral.eq_digits (h : Numeral s n) (hzero : s.head? ≠ some '0') : s = digits n := by
  induction s using List.reverseRecOn generalizing n with
  | nil => exact absurd rfl h.ne_nil
  | append_singleton front c ih =>
      obtain ⟨hlt, hchar⟩ := digitChar_of_isDigit (h.isDigit c (by simp))
      have hvalue := h.value
      rw [Nat.ofDigitChars_append, Nat.ofDigitChars_cons, Nat.ofDigitChars_nil] at hvalue
      by_cases hfront : front = []
      · subst hfront
        rw [← hvalue, Nat.ofDigitChars_nil, Nat.mul_zero, Nat.zero_add, digits,
          Nat.toDigits_of_lt_base hlt, hchar, List.nil_append]
      · have hnumeral : Numeral front (Nat.ofDigitChars 10 front 0) :=
          ⟨hfront, fun d hd => h.isDigit d (List.mem_append_left _ hd), rfl⟩
        have hhead : front.head? ≠ some '0' := by
          obtain ⟨d, others, rfl⟩ := List.exists_cons_of_ne_nil hfront
          exact hzero
        have hdigits := ih hnumeral hhead
        -- what is written without a leading zero is not zero
        have hpos : 0 < Nat.ofDigitChars 10 front 0 := by
          refine Nat.pos_of_ne_zero fun hnone => hhead ?_
          rw [hdigits, hnone]; rfl
        rw [← hvalue, digits, ← Nat.toDigits_append_toDigits (by decide) hpos hlt,
          Nat.toDigits_of_lt_base hlt, hchar]
        exact congrArg (· ++ [c]) hdigits

/-- What is left of a numeral without its leading zeros. -/
theorem Numeral.dropWhile_zero (h : Numeral s n) :
    s.dropWhile (· == '0') = if n = 0 then [] else digits n := by
  -- zeros in front do not change the number
  have hvalue : ∀ s : List Char,
      Nat.ofDigitChars 10 (s.dropWhile (· == '0')) 0 = Nat.ofDigitChars 10 s 0 := by
    intro s
    induction s with
    | nil => rfl
    | cons c rest ih =>
        by_cases hc : c = '0'
        · rw [List.dropWhile_cons_of_pos (by simp [hc]), ih, Nat.ofDigitChars_cons, hc]
          rfl
        · rw [List.dropWhile_cons_of_neg (by simp [hc])]
  have hhead : (s.dropWhile (· == '0')).head? ≠ some '0' := by
    intro heq
    have hnot := List.head?_dropWhile_not (· == '0') s
    rw [heq] at hnot
    exact absurd hnot (by decide)
  cases hrest : s.dropWhile (· == '0') with
  | nil =>
      have hn := hvalue s
      rw [hrest, h.value, Nat.ofDigitChars_nil] at hn
      rw [if_pos hn.symm]
  | cons c rest =>
      rw [hrest] at hhead
      have hnumeral : Numeral (c :: rest) n := by
        refine ⟨nofun, fun d hd => h.isDigit d ?_, ?_⟩
        · rw [← hrest] at hd
          exact (List.dropWhile_sublist _).subset hd
        · rw [← hrest, hvalue, h.value]
      have hdigits := hnumeral.eq_digits hhead
      have hn : n ≠ 0 := by
        rintro rfl
        rw [hdigits] at hhead
        exact hhead rfl
      rw [if_neg hn, hdigits]

/-- **Numerals stand for the same number if and only if they are the same behind their leading
zeros.** -/
theorem Numeral.eq_iff {t : List Char} {m : Nat} (hs : Numeral s n) (ht : Numeral t m) :
    n = m ↔ s.dropWhile (· == '0') = t.dropWhile (· == '0') := by
  have hdigits : ∀ n : Nat, Nat.ofDigitChars 10 (if n = 0 then [] else digits n) 0 = n := by
    intro n
    split
    case isTrue h => rw [h]; rfl
    case isFalse => exact (numeral_digits n).value
  rw [hs.dropWhile_zero, ht.dropWhile_zero]
  constructor
  · exact fun h => by rw [h]
  · intro h
    rw [← hdigits n, h, hdigits m]

end MetricGateway.Number
