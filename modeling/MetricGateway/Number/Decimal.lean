import MetricGateway.Number.Binary64
import MetricGateway.Number.Natural

/-!
# Doubles as decimal text

`read?` accepts an optional sign, digits with an optional point, at least one digit in all, and an
optional exponent; or one of the words `nan`, `inf` and `infinity` in any case. The result is the
double nearest to the written number.

`shortest` goes the other way. A double stands for all reals that round to it, an interval which
includes its ends exactly if the significand is even. Among the decimals of that interval with the
fewest digits it picks the one closest to the double. One of the two neighbours of the double on
the grid of `n`-digit decimals lies in the interval whenever any point of the grid does, so looking
at those two is enough. How digits and exponent are laid out is for each format to say: see
`FloatFormat`.
-/

namespace MetricGateway.Number

/-! ## Reading -/

/-- Letters of ASCII in lower case; all other characters as they are. -/
def lowerAscii (c : Char) : Char :=
  if 'A' ≤ c ∧ c ≤ 'Z' then Char.ofNat (c.toNat + 32) else c

/-- The leading digits of a text and what follows them. -/
def spanDigits (s : List Char) : List Char × List Char :=
  (s.takeWhile fun c => (digit? c).isSome, s.dropWhile fun c => (digit? c).isSome)

/-- The number written by digits. -/
def digitsValue (s : List Char) : Nat :=
  s.foldl (fun n c => 10 * n + (digit? c).getD 0) 0

/-- Reads the part behind the letter of an exponent. -/
def readExponent? (s : List Char) : Option Int :=
  let (negative, rest) := match s with
    | '+' :: rest => (false, rest)
    | '-' :: rest => (true, rest)
    | rest => (false, rest)
  if rest.isEmpty || !rest.all (fun c => (digit? c).isSome) then none
  else
    let n := Int.ofNat (digitsValue rest)
    some (if negative then -n else n)

/-- Reads an unsigned decimal. -/
def readUnsigned? (negative : Bool) (s : List Char) : Option Binary64 :=
  let (whole, rest) := spanDigits s
  let (part, rest) := match rest with
    | '.' :: rest => spanDigits rest
    | _ => ([], rest)
  if whole.isEmpty && part.isEmpty then none
  else do
    let exponent ← match rest with
      | [] => some 0
      | c :: rest => if c = 'e' ∨ c = 'E' then readExponent? rest else none
    return Binary64.ofDecimal negative (digitsValue (whole ++ part))
      (exponent - Int.ofNat part.length)

/-- Reads the words for what is not finite. -/
def readWord? (negative : Bool) (s : List Char) : Option Binary64 :=
  let word := s.map lowerAscii
  if word = "nan".toList then some (Binary64.nan negative)
  else if word = "inf".toList ∨ word = "infinity".toList then some (Binary64.infinity negative)
  else none

/-- Reads a double. -/
def Binary64.read? (s : List Char) : Option Binary64 :=
  let (negative, rest) := match s with
    | '+' :: rest => (false, rest)
    | '-' :: rest => (true, rest)
    | rest => (false, rest)
  (readUnsigned? negative rest).or (readWord? negative rest)

/-! ## The shortest digits -/

/-- The decimal `digits * 10 ^ exponent`. -/
structure Decimal where
  digits : Nat
  exponent : Int
  deriving DecidableEq, Repr

/-- The exponent of the leading decimal digit of a positive fraction. -/
def leadingExponent (numerator denominator : Nat) : Int :=
  if denominator ≤ numerator then
    Int.ofNat (Nat.toDigits 10 (numerator / denominator)).length - 1
  else
    let size := (Nat.toDigits 10 (denominator / numerator)).length
    if denominator = numerator * 10 ^ (size - 1) then 1 - Int.ofNat size else -Int.ofNat size

/-- A positive fraction over `10 ^ exponent`, as numerator and denominator. -/
def overPowerOfTen (numerator denominator : Nat) (exponent : Int) : Nat × Nat :=
  if exponent < 0 then (numerator * 10 ^ (-exponent).toNat, denominator)
  else (numerator, denominator * 10 ^ exponent.toNat)

/-- The decimal with `count` digits that is closest to the value among the two neighbours of the
value which lie in its interval. The interval is given in quarters of the unit of the significand:
`below` quarters down and two quarters up. -/
def gridHit? (significand : Nat) (exponent : Int) (below count : Nat) : Option Decimal :=
  let (num, den) := if exponent < 0 then (4 * significand, 4 * 2 ^ (-exponent).toNat)
    else (4 * significand * 2 ^ exponent.toNat, 4)
  let quarter := if exponent < 0 then 1 else 2 ^ exponent.toNat
  let step := leadingExponent num den - Int.ofNat count + 1
  let (n, d) := overPowerOfTen num den step
  let (u, _) := overPowerOfTen quarter den step
  let inside (candidate : Nat) : Bool :=
    let low := n - below * u
    let high := n + 2 * u
    if significand % 2 = 0 then decide (low ≤ candidate * d) && decide (candidate * d ≤ high)
    else decide (low < candidate * d) && decide (candidate * d < high)
  let floor := n / d
  let r := n % d
  if r = 0 then some ⟨floor, step⟩
  else
    let lower := decide (0 < floor) && inside floor
    let upper := inside (floor + 1)
    if lower && (!upper || decide (2 * r < d) || (decide (2 * r = d) && decide (floor % 2 = 0))) then
      some ⟨floor, step⟩
    else if upper then some ⟨floor + 1, step⟩
    else none

/-- Drops trailing zeros of the digits. -/
def Decimal.reduce (x : Decimal) : Decimal :=
  go x (Nat.toDigits 10 x.digits).length
where
  go (x : Decimal) : Nat → Decimal
    | 0 => x
    | n + 1 =>
      if x.digits % 10 = 0 ∧ x.digits ≠ 0 then go ⟨x.digits / 10, x.exponent + 1⟩ n else x

/-- The decimal with the fewest digits that reads back as a finite number, up to its sign. -/
def Binary64.shortest (x : Binary64) : Decimal :=
  let significand := x.significand
  if significand = 0 then ⟨0, 0⟩
  else
    let below := if significand = 2 ^ 52 ∧ -1074 < x.exponent then 1 else 2
    let hit := (List.range 17).findSome? fun n =>
      gridHit? significand x.exponent below (n + 1)
    (hit.getD ⟨significand, x.exponent⟩).reduce

/-! ## Laying the digits out -/

/-- How a format writes doubles. -/
structure FloatFormat where
  /-- The smallest exponent of the leading digit that is written without an exponent. -/
  lowest : Option Int
  /-- The largest exponent of the leading digit that is written without an exponent. -/
  highest : Option Int
  /-- Whether whole numbers without an exponent end in `.0`. -/
  pointZero : Bool
  /-- The word for NaN. -/
  nan : String
  /-- The word for infinity, which follows the sign. -/
  infinity : String

/-- Digits without an exponent; `leading` is the exponent of the first digit. -/
def layPositional (pointZero : Bool) (ds : List Char) (leading : Int) : List Char :=
  if leading < 0 then
    '0' :: '.' :: List.replicate ((-leading).toNat - 1) '0' ++ ds
  else
    let whole := leading.toNat + 1
    if ds.length ≤ whole then
      ds ++ List.replicate (whole - ds.length) '0' ++ (if pointZero then ['.', '0'] else [])
    else ds.take whole ++ '.' :: ds.drop whole

/-- Digits with an exponent, a point behind the first digit if there are more. -/
def layScientific (ds : List Char) (leading : Int) : List Char :=
  let mantissa := match ds with
    | d :: e :: rest => d :: '.' :: e :: rest
    | ds => ds
  let exponent := if leading < 0 then '-' :: digits (-leading).toNat else digits leading.toNat
  mantissa ++ 'e' :: exponent

/-- The text of a double in a format. -/
def FloatFormat.write (f : FloatFormat) (x : Binary64) : String :=
  if x.isNaN then f.nan
  else
    let sign := if x.negative then "-" else ""
    if !x.isFinite then sign ++ f.infinity
    else
      let d := x.shortest
      let ds := digits d.digits
      let leading : Int := if d.digits = 0 then 0 else d.exponent + Int.ofNat ds.length - 1
      let positional := (f.lowest.all fun l => decide (l ≤ leading)) &&
        (f.highest.all fun h => decide (leading ≤ h))
      sign ++ String.ofList
        (if positional then layPositional f.pointZero ds leading else layScientific ds leading)

/-- Plain decimals: no exponent, and whole numbers without a point. -/
def FloatFormat.plain : FloatFormat :=
  { lowest := none, highest := none, pointZero := false, nan := "NaN", infinity := "inf" }

/-- Decimals for people who debug: an exponent from `1e16` on and below `1e-4`. -/
def FloatFormat.debug : FloatFormat :=
  { lowest := some (-4), highest := some 15, pointZero := true, nan := "NaN", infinity := "inf" }

end MetricGateway.Number
