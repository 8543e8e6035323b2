import Mathlib
import MetricGateway.Number.Decimal
import MetricGateway.Proofs.Number.Natural
import MetricGateway.Proofs.Result

/-!
# Numbers have no white space

Text is cut at white space before the numbers in it are read. A number that is
read has none, so it is never cut apart. The readers check all characters against
digits, signs, points and letters, except that words are compared in lower case;
but white space has no other case.
-/

namespace MetricGateway.Number

open Text (isBlank IsWord)

theorem isBlank_of_isSome_digit? {c : Char} (h : (digit? c).isSome = true) : isBlank c = false := by
  cases hdigit : c.isDigit with
  | false => rw [digit?_eq_none_iff.mpr hdigit] at h; cases h
  | true => exact isBlank_of_isDigit hdigit

/-- A sign is no white space. -/
theorem not_blank_of_sign {s rest : List Char} {negative : Bool}
    (h : (match s with
      | '+' :: rest => (false, rest)
      | '-' :: rest => (true, rest)
      | rest => (false, rest)) = (negative, rest))
    (hrest : ∀ c ∈ rest, isBlank c = false) : ∀ c ∈ s, isBlank c = false := by
  split at h <;> cases h
  case h_1 => exact List.forall_mem_cons.mpr ⟨by decide, hrest⟩
  case h_2 => exact List.forall_mem_cons.mpr ⟨by decide, hrest⟩
  case h_3 => exact hrest

theorem not_blank_of_spanDigits {s whole rest : List Char} (h : spanDigits s = (whole, rest))
    (hrest : ∀ c ∈ rest, isBlank c = false) : ∀ c ∈ s, isBlank c = false := by
  cases h
  intro c hc
  rw [← @List.takeWhile_append_dropWhile _ (fun c => (digit? c).isSome) s] at hc
  rcases List.mem_append.mp hc with hc | hc
  · exact isBlank_of_isSome_digit? (@List.mem_takeWhile_imp _ (fun c => (digit? c).isSome) s c hc)
  · exact hrest c hc

theorem not_blank_of_readExponent? {s : List Char} {n : Int} (h : readExponent? s = some n) :
    ∀ c ∈ s, isBlank c = false := by
  revert h
  fun_cases readExponent? s with
  | case1 => exact nofun
  | case2 negative rest hsign hdigits =>
      intro _
      rw [Bool.not_eq_true, Bool.or_eq_false_iff, Bool.not_eq_false'] at hdigits
      exact not_blank_of_sign hsign fun c hc =>
        isBlank_of_isSome_digit? (List.all_eq_true.mp hdigits.2 c hc)

/-- What stands in front of an exponent: digits, and perhaps a point with digits behind it. -/
theorem isWord_of_mantissa {s whole rest part behind : List Char}
    (hpart : (match rest with
      | '.' :: rest => spanDigits rest
      | _ => ([], rest)) = (part, behind))
    (hwhole : spanDigits s = (whole, rest))
    (hsome : ¬(whole.isEmpty && part.isEmpty) = true)
    (hbehind : ∀ c ∈ behind, isBlank c = false) : IsWord s := by
  refine ⟨?_, not_blank_of_spanDigits hwhole ?_⟩
  · rintro rfl
    cases hwhole
    cases hpart
    exact hsome rfl
  · split at hpart
    case h_1 => exact List.forall_mem_cons.mpr ⟨by decide, not_blank_of_spanDigits hpart hbehind⟩
    case h_2 => cases hpart; exact hbehind

theorem isWord_of_readUnsigned? {negative : Bool} {s : List Char} {x : Binary64}
    (h : readUnsigned? negative s = some x) : IsWord s := by
  revert h
  fun_cases readUnsigned? negative s with
  | case1 => intro h; cases h
  | case2 whole rest hwhole part hsome _ hpart =>
      exact fun _ => isWord_of_mantissa hpart hwhole hsome (List.forall_mem_nil _)
  | case3 whole rest hwhole part hsome _ c behind hletter hpart =>
      intro h
      obtain ⟨n, hn, -⟩ := Option.bind_eq_some_iff.mp h
      have hc : isBlank c = false := by rcases hletter with rfl | rfl <;> decide
      exact isWord_of_mantissa hpart hwhole hsome
        (List.forall_mem_cons.mpr ⟨hc, not_blank_of_readExponent? hn⟩)
  | case4 => intro h; cases h

theorem lowerAscii_of_isBlank {c : Char} (h : isBlank c = true) : lowerAscii c = c := by
  refine if_neg fun ⟨hlow, hhigh⟩ => ?_
  have hlow' : 65 ≤ c.toNat := hlow
  have hhigh' : c.toNat ≤ 90 := hhigh
  simp only [isBlank, Bool.or_eq_true, Bool.and_eq_true, decide_eq_true_eq, beq_iff_eq] at h
  omega

theorem isWord_of_readWord? {negative : Bool} {s : List Char} {x : Binary64}
    (h : readWord? negative s = some x) : IsWord s := by
  have hcase : ∀ {word : List Char}, IsWord word → s.map lowerAscii = word → IsWord s := by
    rintro _ hword rfl
    refine ⟨fun hs => hword.ne_nil (by rw [hs]; rfl), fun c hc => ?_⟩
    cases hblank : isBlank c with
    | false => rfl
    | true =>
        -- white space is the same in lower case
        have hlower := hword.not_blank _ (List.mem_map_of_mem hc)
        rw [lowerAscii_of_isBlank hblank, hblank] at hlower
        cases hlower
  have hnan : IsWord "nan".toList := by decide
  have hinf : IsWord "inf".toList := by decide
  have hinfinity : IsWord "infinity".toList := by decide
  rw [readWord?] at h
  split at h
  case isTrue hs => exact hcase hnan hs
  case isFalse =>
    split at h
    case isTrue hs => exact hs.elim (hcase hinf) (hcase hinfinity)
    case isFalse => cases h

/-- A text that is read as a double has no white space. -/
theorem isWord_of_read? {s : List Char} {x : Binary64} (h : Binary64.read? s = some x) :
    IsWord s := by
  revert h
  fun_cases Binary64.read? s with
  | case1 negative rest hsign =>
      intro h
      have hrest : IsWord rest := by
        rcases Option.or_eq_some_iff.mp h with h | ⟨-, h⟩
        · exact isWord_of_readUnsigned? h
        · exact isWord_of_readWord? h
      refine ⟨?_, not_blank_of_sign hsign hrest.not_blank⟩
      rintro rfl
      cases hsign
      exact hrest.ne_nil rfl

theorem isWord_of_readInt64 {s : List Char} {t : Int64} (h : readInt64 s = .ok t) : IsWord s := by
  have hsome : ∀ {s limit overflow n}, readSome limit overflow s = .ok n → IsWord s := by
    intro s limit overflow n h
    obtain ⟨hnumeral, -⟩ := readSome_eq_ok_iff.mp h
    exact ⟨hnumeral.ne_nil, fun c hc => isBlank_of_isDigit (hnumeral.isDigit c hc)⟩
  have hsigned : ∀ {sign : Char}, isBlank sign = false →
      ∀ {rest : List Char}, IsWord rest → IsWord (sign :: rest) :=
    fun hsign _ hrest => ⟨nofun, List.forall_mem_cons.mpr ⟨hsign, hrest.not_blank⟩⟩
  obtain ⟨n, hn, -⟩ := Result.map_eq_ok_iff.mp h
  revert hn
  fun_cases readInteger (2 ^ 63 - 1) s with
  | case1 => exact nofun
  | case2 rest =>
      intro hn
      obtain ⟨m, hm, -⟩ := Result.map_eq_ok_iff.mp hn
      exact hsigned (by decide) (hsome hm)
  | case3 rest =>
      intro hn
      obtain ⟨m, hm, -⟩ := Result.map_eq_ok_iff.mp hn
      exact hsigned (by decide) (hsome hm)
  | case4 =>
      intro hn
      obtain ⟨m, hm, -⟩ := Result.map_eq_ok_iff.mp hn
      exact hsome hm

end MetricGateway.Number
