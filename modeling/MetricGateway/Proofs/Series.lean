import MetricGateway.Metric

/-!
# Ids that are read back

The id of a metric is a text that is put together from numbers and taken apart
again. The number of the organization has digits only, so the point behind it is
the first one, and what stands on either side of it is read for itself.

Numbers are read from the left, and what has been read so far is the number
without its last digits. So the induction is on the number and not on its digits.
-/

namespace MetricGateway

/-! ## Numbers -/

namespace Number

variable {limit : Nat} {overflow : NumberError}

/-- The digit of a number below ten stands for it. -/
theorem digit?_digitChar {d : Nat} (h : d < 10) : digit? d.digitChar = some d := by
  have hchar := Nat.toNat_digitChar_of_lt_ten h
  have hlow : '0' ≤ d.digitChar := by
    show ('0' : Char).toNat ≤ d.digitChar.toNat
    rw [hchar]
    exact Nat.le_add_right _ _
  have hhigh : d.digitChar ≤ '9' := by
    show d.digitChar.toNat ≤ ('9' : Char).toNat
    have hnine : ('9' : Char).toNat = 57 := rfl
    omega
  rw [digit?, if_pos ⟨hlow, hhigh⟩, hchar]
  exact congrArg some (Nat.add_sub_cancel_left ..)

/-- Reading goes on behind what has been read. -/
theorem readDigits_append {value result : Nat} {s : List Char}
    (h : readDigits limit overflow value s = .ok result) (rest : List Char) :
    readDigits limit overflow value (s ++ rest) = readDigits limit overflow result rest := by
  induction s generalizing value with
  | nil => cases h; rfl
  | cons c s ih =>
      rw [List.cons_append, readDigits]
      rw [readDigits] at h
      cases hdigit : digit? c with
      | none => rw [hdigit] at h; cases h
      | some d =>
          rw [hdigit] at h
          dsimp only at h ⊢
          split at h
          · cases h
          · next hlimit => rw [if_neg hlimit]; exact ih h

/-- The digits of a number within the limit are read as it. -/
theorem readDigits_digits {n : Nat} (h : n ≤ limit) :
    readDigits limit overflow 0 (digits n) = .ok n := by
  -- one more digit, if it leads to a number within the limit
  have hlast : ∀ {value d : Nat}, d < 10 → 10 * value + d ≤ limit →
      readDigits limit overflow value [d.digitChar] = .ok (10 * value + d) := by
    intro value d hd hlimit
    rw [readDigits, digit?_digitChar hd]
    dsimp only
    rw [if_neg (by omega), readDigits]
  induction n using Nat.strongRecOn with
  | ind n ih =>
      by_cases hsmall : n < 10
      · rw [digits, Nat.toDigits_of_lt_base hsmall, hlast hsmall (by omega)]
        simp
      · have hdigit : n % 10 < 10 := Nat.mod_lt _ (by decide)
        have hdigits : digits n = digits (n / 10) ++ [(n % 10).digitChar] := by
          have hsplit := Nat.toDigits_append_toDigits (b := 10) (n := n / 10) (by decide)
            (by omega) hdigit
          rw [Nat.div_add_mod, Nat.toDigits_of_lt_base hdigit] at hsplit
          exact hsplit.symm
        have hfirst := ih (n / 10) (by omega) (by omega)
        rw [hdigits, readDigits_append hfirst, hlast hdigit (by omega), Nat.div_add_mod]

/-- Digits have no sign in front of them. -/
theorem isDigit_of_mem_digits {n : Nat} {c : Char} (h : c ∈ digits n) : c.isDigit = true :=
  Nat.isDigit_of_mem_toDigits (by decide) (by decide) h

theorem readNatural_digits {n : Nat} (h : n ≤ limit) : readNatural limit (digits n) = .ok n := by
  have hread : readDigits limit .tooLarge 0 (digits n) = .ok n := readDigits_digits h
  have hplus : '+' ∉ digits n := fun hmem => absurd (isDigit_of_mem_digits hmem) (by decide)
  cases hdigits : digits n with
  | nil => exact absurd hdigits Nat.toDigits_ne_nil
  | cons c rest =>
      rw [hdigits] at hread hplus
      rw [readNatural.eq_3 _ _ (by simp) (by rintro tail ⟨⟩; simp at hplus)]
      exact hread

/-- A number is read from its digits. -/
theorem readUInt32_digits (n : UInt32) : readUInt32 (digits n.toNat) = .ok n := by
  have hlt := n.toNat_lt
  rw [readUInt32, readNatural_digits (by omega)]
  exact congrArg Except.ok (UInt32.ofNat_toNat)

end Number

/-! ## Ids -/

/-- A metric id is read as the series that it was written for. -/
theorem MetricKey.parse_display (k : MetricKey) : parse k.display = .ok k := by
  have hpoint : '.' ∉ Number.digits k.org.value.toNat := by
    intro hmem
    exact absurd (Number.isDigit_of_mem_digits hmem) (by decide)
  have htext : k.display.toList =
      Number.digits k.org.value.toNat ++ '.' :: k.key.display.toList := by
    simp [display, OrgId.display]
  have hsplit : Text.splitOnce '.' k.display.toList =
      some (Number.digits k.org.value.toNat, k.key.display.toList) :=
    Text.splitOnce_eq_some_iff.mpr ⟨htext, hpoint⟩
  rw [parse, hsplit]
  dsimp only
  rw [Number.readUInt32_digits, SeriesKey.parse?_display]

/-- What cannot be read as an id is complained about as a whole. -/
theorem MetricKey.parse_cases (s : String) : (∃ key, parse s = .ok key) ∨ parse s = .error ⟨s⟩ := by
  rw [parse]
  split
  case h_1 => exact Or.inr rfl
  case h_2 =>
    split
    case h_1 => exact Or.inl ⟨_, rfl⟩
    case h_2 => exact Or.inr rfl

/-- An id that was computed names the organization of the metric. -/
theorem Metric.key_setId (m : Metric) :
    m.setId.key = .ok ⟨m.org, m.normalizeTags.seriesKey⟩ :=
  MetricKey.parse_display ⟨m.org, m.normalizeTags.seriesKey⟩

end MetricGateway
