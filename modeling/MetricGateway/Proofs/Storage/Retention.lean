import Mathlib
import MetricGateway.Proofs.Number.Natural
import MetricGateway.Proofs.Result
import MetricGateway.Proofs.Text.Blank
import MetricGateway.Storage.Retention

/-!
# How retentions are spelled

White space may stand at three places of a retention: around the whole of it and
on both sides of the colon. It is taken away at the ends first and around each
span afterwards, which comes to the same as taking it away around each span. So a
retention is spelled as two spans with a colon between them, and a span as white
space, digits, a unit and white space.

A span has no colon, whatever its unit, so the colon of a spelling is the first
one of its text. How a retention is displayed is one of its spellings.
-/

namespace MetricGateway.Storage

open Text (Blank)

/-- The units of time and their seconds. -/
def units : List (List Char × Nat) :=
  [("".toList, 1), ("s".toList, 1), ("sec".toList, 1), ("m".toList, 60), ("min".toList, 60),
    ("h".toList, 60 * 60), ("d".toList, 24 * 60 * 60), ("w".toList, 7 * 24 * 60 * 60),
    ("y".toList, 365 * 24 * 60 * 60)]

/-- The parts of a text that is a span of time. -/
structure Span where
  /-- White space in front. -/
  before : List Char
  number : List Char
  unit : List Char
  /-- The seconds of the unit. -/
  scale : Nat
  /-- White space at the end. -/
  behind : List Char
  blank_before : Blank before
  number_ne_nil : number ≠ []
  isDigit_number : ∀ c ∈ number, c.isDigit = true
  unit_mem : (unit, scale) ∈ units
  blank_behind : Blank behind
  number_lt : Nat.ofDigitChars 10 number 0 < 2 ^ 32
  seconds_lt : Nat.ofDigitChars 10 number 0 * scale < 2 ^ 32

namespace Span

/-- The number is directly followed by the unit. -/
def text (p : Span) : List Char := p.before ++ (p.number ++ p.unit) ++ p.behind

/-- The length of the span. -/
def seconds (p : Span) : Nat := Nat.ofDigitChars 10 p.number 0 * p.scale

theorem toNat_seconds (p : Span) : (UInt32.ofNat p.seconds).toNat = p.seconds :=
  UInt32.toNat_ofNat_of_lt' p.seconds_lt

end Span

/-! ## Spans -/

theorem isDigit_eq : isDigit = Char.isDigit := by
  funext c
  cases h : c.isDigit with
  | true => rw [isDigit, Number.digit?_of_isDigit h]; rfl
  | false => rw [isDigit, Number.digit?_eq_none_iff.mpr h]; rfl

theorem unitSeconds?_eq_some_iff {unit : List Char} {scale : Nat} :
    unitSeconds? unit = some scale ↔ (unit, scale) ∈ units := by
  constructor
  · intro h
    rw [unitSeconds?] at h
    split_ifs at h with hsecond hminute hhour hday hweek hyear <;> cases h
    · rcases hsecond with rfl | rfl | rfl <;> decide
    · rcases hminute with rfl | rfl <;> decide
    · rw [hhour]; decide
    · rw [hday]; decide
    · rw [hweek]; decide
    · rw [hyear]; decide
  · exact (by decide : ∀ p ∈ units, unitSeconds? p.1 = some p.2) (unit, scale)

theorem not_isDigit_of_units : ∀ p ∈ units, ∀ c ∈ p.1, c.isDigit = false :=
  fun p hp => Text.forall_mem_of_all
    ((by decide : ∀ p ∈ units, (p.1.all fun c => decide (c.isDigit = false)) = true) p hp)

theorem not_isBlank_of_units : ∀ p ∈ units, ∀ c ∈ p.1, Text.isBlank c = false :=
  fun p hp => Text.forall_mem_of_all
    ((by decide : ∀ p ∈ units, (p.1.all fun c => decide (Text.isBlank c = false)) = true) p hp)

namespace Span

variable (p : Span)

theorem not_blank : ∀ c ∈ p.number ++ p.unit, Text.isBlank c = false := by
  intro c hc
  rcases List.mem_append.mp hc with hc | hc
  · exact Number.isBlank_of_isDigit (p.isDigit_number c hc)
  · exact not_isBlank_of_units _ p.unit_mem c hc

theorem not_mem_colon : ':' ∉ p.text := by
  have hword : ':' ∉ p.number ++ p.unit := by
    intro hc
    rcases List.mem_append.mp hc with hc | hc
    · exact absurd (p.isDigit_number ':' hc) (by decide)
    · exact (by decide : ∀ p ∈ units, ':' ∉ p.1) _ p.unit_mem hc
  have hblank : Text.isBlank ':' = false := by decide
  rw [text, List.mem_append, List.mem_append]
  rintro ((hc | hc) | hc)
  · exact p.blank_before.not_mem hblank hc
  · exact hword hc
  · exact p.blank_behind.not_mem hblank hc

theorem not_blank_of_head? (hbefore : p.before = []) {c : Char} {rest : List Char}
    (h : (p.text ++ rest).head? = some c) : Text.isBlank c = false := by
  obtain ⟨d, others, hnumber⟩ := List.exists_cons_of_ne_nil p.number_ne_nil
  rw [text, hbefore, hnumber] at h
  obtain rfl : d = c := Option.some.inj h
  exact p.not_blank d (by rw [hnumber]; exact List.mem_cons_self ..)

theorem not_blank_of_getLast? (hbehind : p.behind = []) {c : Char} {front : List Char}
    (h : (front ++ p.text).getLast? = some c) : Text.isBlank c = false := by
  have hword : p.number ++ p.unit ≠ [] := by simp [p.number_ne_nil]
  have hlast : (p.number ++ p.unit).getLast? = some c := by
    rw [text, hbehind, List.append_nil, ← List.append_assoc, List.getLast?_append,
      List.getLast?_eq_some_getLast hword] at h
    rw [List.getLast?_eq_some_getLast hword]
    exact h
  exact p.not_blank c (List.mem_of_getLast? hlast)

theorem trim_text : Text.trim p.text = p.number ++ p.unit := by
  refine Text.trim_append p.blank_before p.blank_behind (fun c hc => ?_) fun c hc => ?_
  · exact p.not_blank c (List.mem_of_mem_head? hc)
  · exact p.not_blank c (List.mem_of_getLast? hc)

/-- The number ends where the unit starts. -/
theorem takeWhile_isDigit : (p.number ++ p.unit).takeWhile isDigit = p.number
    ∧ (p.number ++ p.unit).dropWhile isDigit = p.unit := by
  have hunit := not_isDigit_of_units _ p.unit_mem
  rw [isDigit_eq, List.takeWhile_append_of_pos p.isDigit_number,
    List.dropWhile_append_of_pos p.isDigit_number]
  cases hu : p.unit with
  | nil => exact ⟨List.append_nil _, rfl⟩
  | cons c rest =>
      have hc : ¬ c.isDigit = true := by simp [hunit c (by simp [hu])]
      rw [List.takeWhile_cons_of_neg hc, List.dropWhile_cons_of_neg hc, List.append_nil]
      exact ⟨rfl, rfl⟩

/-- A span that is written in seconds. -/
def ofSeconds (n : UInt32) : Span where
  before := []
  number := Number.digits n.toNat
  unit := ['s']
  scale := 1
  behind := []
  blank_before := Text.Blank.nil
  number_ne_nil := (Number.numeral_digits n.toNat).ne_nil
  isDigit_number := (Number.numeral_digits n.toNat).isDigit
  unit_mem := by decide
  blank_behind := Text.Blank.nil
  number_lt := by rw [(Number.numeral_digits n.toNat).value]; exact n.toNat_lt
  seconds_lt := by rw [(Number.numeral_digits n.toNat).value, Nat.mul_one]; exact n.toNat_lt

theorem text_ofSeconds (n : UInt32) : (ofSeconds n).text = Number.digits n.toNat ++ ['s'] :=
  List.append_nil _

theorem seconds_ofSeconds (n : UInt32) : (ofSeconds n).seconds = n.toNat := by
  rw [seconds, ofSeconds, Nat.mul_one, (Number.numeral_digits n.toNat).value]

end Span

/-- **A span is read if and only if it is spelled as one.** -/
theorem readSpan?_eq_some_iff {s : List Char} {n : UInt32} :
    readSpan? s = some n ↔ ∃ p : Span, s = p.text ∧ n = UInt32.ofNat p.seconds := by
  constructor
  · intro h
    simp only [readSpan?] at h
    split at h
    case h_1 scale value hunit hvalue =>
      split at h
      case isTrue hlt =>
        cases h
        obtain ⟨before, behind, hbefore, hbehind, hs⟩ := Text.exists_eq_append_trim s
        have hdigits : ∀ c ∈ (Text.trim s).takeWhile isDigit, c.isDigit = true := by
          rw [isDigit_eq]
          exact fun c hc => List.mem_takeWhile_imp hc
        obtain ⟨digits, hsign, hnumeral, hle⟩ := Number.readNatural_eq_ok_iff.mp hvalue
        -- among digits there is no sign
        have hnumber : (Text.trim s).takeWhile isDigit = digits := by
          rcases hsign with hnumber | hplus
          · exact hnumber
          · exact absurd (hdigits '+' (hplus ▸ List.mem_cons_self ..)) (by decide)
        rw [← hnumber] at hnumeral
        have hn := hnumeral.value
        let p : Span :=
          { before, number := (Text.trim s).takeWhile isDigit
            unit := (Text.trim s).dropWhile isDigit, scale, behind
            blank_before := hbefore, number_ne_nil := hnumeral.ne_nil, isDigit_number := hdigits
            unit_mem := unitSeconds?_eq_some_iff.mp hunit, blank_behind := hbehind
            number_lt := by omega, seconds_lt := by rwa [hn] }
        refine ⟨p, ?_, ?_⟩
        · rw [Span.text, List.takeWhile_append_dropWhile]
          exact hs
        · rw [Span.seconds, hn]
      case isFalse => cases h
    case h_2 => cases h
  · rintro ⟨p, rfl, rfl⟩
    have hread : Number.readNatural (2 ^ 32 - 1) p.number =
        .ok (Nat.ofDigitChars 10 p.number 0) := by
      have hlt := p.number_lt
      exact Number.readNatural_eq_ok_iff.mpr
        ⟨p.number, Or.inl rfl, ⟨p.number_ne_nil, p.isDigit_number, rfl⟩, by omega⟩
    simp only [readSpan?]
    rw [p.trim_text, p.takeWhile_isDigit.1, p.takeWhile_isDigit.2,
      unitSeconds?_eq_some_iff.mpr p.unit_mem, hread]
    exact if_pos p.seconds_lt

/-! ## Retentions -/

namespace Retention

/-- The parts of a text that is a retention. -/
structure Spelling where
  resolution : Span
  ttl : Span
  positive : 1 ≤ resolution.seconds
  le_ttl : resolution.seconds ≤ ttl.seconds

namespace Spelling

/-- Two spans with a colon between them. -/
def text (p : Spelling) : List Char := p.resolution.text ++ ':' :: p.ttl.text

/-- The retention that is spelled. -/
def retention (p : Spelling) : Retention where
  secondsPerPoint := UInt32.ofNat p.resolution.seconds
  ttl := UInt32.ofNat p.ttl.seconds
  positive := by
    rw [UInt32.lt_iff_toNat_lt, p.resolution.toNat_seconds]
    exact p.positive
  le_ttl := by
    rw [UInt32.le_iff_toNat_le, p.resolution.toNat_seconds, p.ttl.toNat_seconds]
    exact p.le_ttl

end Spelling

theorem of?_eq_some_iff {secondsPerPoint ttl : UInt32} {r : Retention} :
    of? secondsPerPoint ttl = some r ↔ secondsPerPoint = r.secondsPerPoint ∧ ttl = r.ttl := by
  rw [of?]
  constructor
  · intro h
    split at h
    case isTrue => cases h; exact ⟨rfl, rfl⟩
    case isFalse => cases h
  · rintro ⟨rfl, rfl⟩
    exact dif_pos ⟨r.positive, r.le_ttl⟩

/-- A retention is cut at the first colon of what is left without white space at the ends. -/
theorem parse_eq_ok_iff_parts {s : String} {r : Retention} :
    parse s = .ok r ↔ ∃ resolution ttl, Text.trim s.toList = resolution ++ ':' :: ttl
      ∧ ':' ∉ resolution ∧ readSpan? resolution = some r.secondsPerPoint
      ∧ readSpan? ttl = some r.ttl := by
  have hfound : ∀ r : Retention, (do
        let parts ← Text.splitOnce ':' (Text.trim s.toList)
        of? (← readSpan? parts.1) (← readSpan? parts.2)) = some r ↔
      ∃ resolution ttl, Text.trim s.toList = resolution ++ ':' :: ttl ∧ ':' ∉ resolution
        ∧ readSpan? resolution = some r.secondsPerPoint ∧ readSpan? ttl = some r.ttl := by
    intro r
    simp only [Option.bind_eq_bind, Option.bind_eq_some_iff, Prod.exists, of?_eq_some_iff,
      Text.splitOnce_eq_some_iff]
    constructor
    · rintro ⟨resolution, ttl, ⟨htext, hcolon⟩, a, ha, b, hb, rfl, rfl⟩
      exact ⟨resolution, ttl, htext, hcolon, ha, hb⟩
    · rintro ⟨resolution, ttl, htext, hcolon, ha, hb⟩
      exact ⟨resolution, ttl, ⟨htext, hcolon⟩, _, ha, _, hb, rfl, rfl⟩
  rw [← hfound, parse]
  dsimp only
  split
  case h_1 r' h => rw [h, Except.ok.injEq, Option.some.injEq]
  case h_2 h => rw [h]; exact iff_of_false nofun nofun

/-- **Retentions are the texts of spellings.** -/
theorem parse_eq_ok_iff {s : String} {r : Retention} :
    parse s = .ok r ↔ ∃ p : Spelling, s.toList = p.text ∧ r = p.retention := by
  obtain ⟨secondsPerPoint, ttl, hpositive, hle⟩ := r
  rw [parse_eq_ok_iff_parts]
  constructor
  · rintro ⟨front, back, htext, -, hfront, hback⟩
    obtain ⟨before, behind, hbefore, hbehind, hs⟩ := Text.exists_eq_append_trim s.toList
    obtain ⟨a, rfl, rfl⟩ := readSpan?_eq_some_iff.mp hfront
    obtain ⟨b, rfl, rfl⟩ := readSpan?_eq_some_iff.mp hback
    rw [UInt32.lt_iff_toNat_lt, a.toNat_seconds] at hpositive
    rw [UInt32.le_iff_toNat_le, a.toNat_seconds, b.toNat_seconds] at hle
    -- the white space around the whole belongs to the two spans
    let p : Spelling :=
      { resolution :=
          { a with before := before ++ a.before, blank_before := hbefore.append a.blank_before }
        ttl :=
          { b with behind := b.behind ++ behind, blank_behind := b.blank_behind.append hbehind }
        positive := hpositive
        le_ttl := hle }
    refine ⟨p, ?_, rfl⟩
    rw [hs, htext]
    simp only [p, Spelling.text, Span.text, List.append_assoc, List.cons_append]
  · rintro ⟨p, hs, hr⟩
    obtain ⟨rfl, rfl⟩ := Retention.mk.inj hr
    -- what is left without the white space at the ends
    let a : Span := { p.resolution with before := [], blank_before := Text.Blank.nil }
    let b : Span := { p.ttl with behind := [], blank_behind := Text.Blank.nil }
    have htext : s.toList = p.resolution.before ++ (a.text ++ ':' :: b.text) ++ p.ttl.behind := by
      rw [hs]
      simp only [a, b, Spelling.text, Span.text, List.append_assoc, List.cons_append,
        List.nil_append]
    have htrim : Text.trim s.toList = a.text ++ ':' :: b.text := by
      rw [htext]
      refine Text.trim_append p.resolution.blank_before p.ttl.blank_behind
        (fun c hc => a.not_blank_of_head? rfl hc) fun c hc => ?_
      rw [List.append_cons] at hc
      exact b.not_blank_of_getLast? rfl hc
    have hread : ∀ p : Span, readSpan? p.text = some (UInt32.ofNat p.seconds) :=
      fun p => readSpan?_eq_some_iff.mpr ⟨p, rfl, rfl⟩
    exact ⟨a.text, b.text, htrim, a.not_mem_colon, hread a, hread b⟩

theorem exists_parse_iff {s : String} :
    (∃ r, parse s = .ok r) ↔ ∃ p : Spelling, s.toList = p.text := by
  constructor
  · rintro ⟨r, hr⟩
    obtain ⟨p, hp, -⟩ := parse_eq_ok_iff.mp hr
    exact ⟨p, hp⟩
  · rintro ⟨p, hp⟩
    exact ⟨p.retention, parse_eq_ok_iff.mpr ⟨p, hp, rfl⟩⟩

/-- What cannot be read as a retention is complained about as a whole. -/
theorem parse_cases (s : String) : (∃ r, parse s = .ok r) ∨ parse s = .error ⟨s⟩ := by
  rw [parse]
  dsimp only
  split
  case h_1 r _ => exact Or.inl ⟨r, rfl⟩
  case h_2 => exact Or.inr rfl

/-! ## Display -/

/-- A retention is displayed as the seconds of its two spans. -/
theorem display_eq (r : Retention) :
    r.display = toString r.secondsPerPoint.toNat ++ "s:" ++ toString r.ttl.toNat ++ "s" := by
  rw [← String.toList_inj, display, Number.digits, Number.digits]
  simp

/-- **What is displayed is read back.** -/
theorem parse_display (r : Retention) : parse r.display = .ok r := by
  let p : Spelling :=
    { resolution := .ofSeconds r.secondsPerPoint
      ttl := .ofSeconds r.ttl
      positive := by
        rw [Span.seconds_ofSeconds]
        exact UInt32.lt_iff_toNat_lt.mp r.positive
      le_ttl := by
        rw [Span.seconds_ofSeconds, Span.seconds_ofSeconds]
        exact UInt32.le_iff_toNat_le.mp r.le_ttl }
  refine parse_eq_ok_iff.mpr ⟨p, ?_, ?_⟩
  · rw [Spelling.text, Span.text_ofSeconds, Span.text_ofSeconds, display, String.toList_ofList]
    simp only [List.append_assoc, List.cons_append, List.nil_append]
  · obtain ⟨secondsPerPoint, ttl, -, -⟩ := r
    simp only [Spelling.retention, p, Span.seconds_ofSeconds, UInt32.ofNat_toNat]

/-- At least one point fits the time to live. -/
theorem one_le_points (r : Retention) : 1 ≤ r.points.toNat := by
  have hpositive := UInt32.lt_iff_toNat_lt.mp r.positive
  have hle := UInt32.le_iff_toNat_le.mp r.le_ttl
  rw [points, UInt32.toNat_div]
  exact Nat.div_pos hle hpositive

/-- **Retentions are read exactly as they may be spelled.**

A text is read if and only if it is two spans with a colon between them, each a number, directly
followed by a unit, with white space around it, whose seconds fit thirty-two bits, the second at
least the first and the first at least one. It is read as their seconds, and every other text is
complained about as a whole. What is read keeps at least one point, and no division by zero is
made to count them. Every resolution together with a time to live that is no shorter is displayed
as seconds, and what is displayed is read back. -/
theorem retentions_read_as_spelled :
    (∀ (s : String) (r : Retention),
        parse s = .ok r ↔ ∃ p : Spelling, s.toList = p.text ∧ r = p.retention)
      ∧ (∀ s : String, parse s = .error ⟨s⟩ ↔ ¬ ∃ p : Spelling, s.toList = p.text)
      ∧ (∀ (s : String) (r : Retention), parse s = .ok r → r.secondsPerPoint.toNat ≠ 0
        ∧ r.points.toNat = r.ttl.toNat / r.secondsPerPoint.toNat ∧ 1 ≤ r.points.toNat)
      ∧ ∀ secondsPerPoint ttl : Nat, 1 ≤ secondsPerPoint → secondsPerPoint ≤ ttl → ttl < 2 ^ 32 →
        ∃ r : Retention, r.secondsPerPoint.toNat = secondsPerPoint ∧ r.ttl.toNat = ttl
          ∧ r.display = toString secondsPerPoint ++ "s:" ++ toString ttl ++ "s"
          ∧ parse r.display = .ok r := by
  refine ⟨fun s r => parse_eq_ok_iff, fun s => ?_, fun s r _ => ?_, fun a b hpositive hle hlt => ?_⟩
  · rw [Result.eq_error_iff (parse_cases s), exists_parse_iff]
  · have hpositive := UInt32.lt_iff_toNat_lt.mp r.positive
    exact ⟨Nat.ne_of_gt hpositive, UInt32.toNat_div .., r.one_le_points⟩
  · have ha : (UInt32.ofNat a).toNat = a := UInt32.toNat_ofNat_of_lt' (Nat.lt_of_le_of_lt hle hlt)
    have hb : (UInt32.ofNat b).toNat = b := UInt32.toNat_ofNat_of_lt' hlt
    have hpositive' : 0 < UInt32.ofNat a := by rw [UInt32.lt_iff_toNat_lt, ha]; exact hpositive
    have hle' : UInt32.ofNat a ≤ UInt32.ofNat b := by rw [UInt32.le_iff_toNat_le, ha, hb]; exact hle
    refine ⟨⟨UInt32.ofNat a, UInt32.ofNat b, hpositive', hle'⟩, ha, hb, ?_, parse_display _⟩
    rw [display_eq, ha, hb]

/-- White space at all three places and leading zeros: the retention is read, and 120 points fit.
The longest time to live is displayed and read back, and one second more is refused. -/
theorem retentions_read_as_spelled_at_limits :
    ∃ r longest : Retention, parse " 05m :\t010h\u3000" = .ok r
      ∧ r.secondsPerPoint.toNat = 300 ∧ r.ttl.toNat = 36000 ∧ r.points.toNat = 120
      ∧ longest.display = "7s:4294967295s" ∧ parse "7s:4294967295s" = .ok longest
      ∧ parse "7s:4294967296s" = .error ⟨"7s:4294967296s"⟩ := by
  obtain ⟨-, -, hpoints, hdisplay⟩ := retentions_read_as_spelled
  have hread : ∃ r, parse " 05m :\t010h\u3000" = .ok r ∧ r.secondsPerPoint.toNat = 300
      ∧ r.ttl.toNat = 36000 := ⟨_, by cbv, by decide, by decide⟩
  obtain ⟨r, hr, hresolution, httl⟩ := hread
  obtain ⟨-, hcount, -⟩ := hpoints _ r hr
  obtain ⟨longest, -, -, hshown, hback⟩ :=
    hdisplay 7 4294967295 (by decide) (by decide) (by decide)
  have htext : longest.display = "7s:4294967295s" := by
    rw [hshown]; decide
  rw [htext] at hback
  exact ⟨r, longest, hr, hresolution, httl, by rw [hcount, hresolution, httl], htext, hback, by cbv⟩

end Retention

end MetricGateway.Storage
