import MetricGateway.Bytes

/-!
# Double precision numbers

Sample values travel as the sixty-four bits of an IEEE 754 double, and every bit pattern is kept as
it is, the payload of a NaN included. So a number is its bits here. Comparisons are defined on the
bits: without the sign they count the non-negative numbers in order, which makes `rank` an
order-preserving map of all numbers into the integers that sends both zeros to zero.
-/

namespace MetricGateway.Number

/-- A double precision number, given by its bits. -/
structure Binary64 where
  bits : UInt64
  deriving DecidableEq, Repr, Inhabited

namespace Binary64

/-- The number with the given bits below the sign. -/
def ofMagnitude (negative : Bool) (magnitude : Nat) : Binary64 :=
  ⟨UInt64.ofNat (if negative then 2 ^ 63 + magnitude else magnitude)⟩

/-- The bits of positive infinity; larger magnitudes are NaNs. -/
def infinityMagnitude : Nat := 0x7ff0000000000000

/-- Zero with a positive sign. -/
def zero : Binary64 := ⟨0⟩

/-- The number one. -/
def one : Binary64 := ⟨0x3ff0000000000000⟩

/-- The quiet NaN without payload, or its negation. -/
def nan (negative : Bool) : Binary64 := ofMagnitude negative 0x7ff8000000000000

/-- Positive or negative infinity. -/
def infinity (negative : Bool) : Binary64 := ofMagnitude negative infinityMagnitude

/-- Whether the sign bit is set. -/
def negative (x : Binary64) : Bool := decide (2 ^ 63 ≤ x.bits.toNat)

/-- The bits below the sign. -/
def magnitude (x : Binary64) : Nat := x.bits.toNat % 2 ^ 63

/-- Not a number. -/
def isNaN (x : Binary64) : Bool := decide (infinityMagnitude < x.magnitude)

/-- Neither infinite nor a NaN. -/
def isFinite (x : Binary64) : Bool := decide (x.magnitude < infinityMagnitude)

/-- The position of a number on the line of all numbers; both zeros are at zero. -/
def rank (x : Binary64) : Int :=
  if x.negative then -Int.ofNat x.magnitude else Int.ofNat x.magnitude

/-- The order of numbers; a NaN is not comparable. -/
def le (x y : Binary64) : Bool := !x.isNaN && !y.isNaN && decide (x.rank ≤ y.rank)

/-- The strict order of numbers; a NaN is not comparable. -/
def lt (x y : Binary64) : Bool := !x.isNaN && !y.isNaN && decide (x.rank < y.rank)

/-- Moves a number into an interval. What is not comparable stays as it is. -/
def clamp (lower upper x : Binary64) : Binary64 :=
  if x.lt lower then lower else if upper.lt x then upper else x

/-- A number inside the interval is left alone. -/
theorem clamp_of_le {lower upper x : Binary64} (hl : lower.le x = true) (hu : x.le upper = true) :
    clamp lower upper x = x := by
  simp only [le, Bool.and_eq_true, decide_eq_true_eq] at hl hu
  have h1 : x.lt lower = false := by simp [lt, hl.2]
  have h2 : upper.lt x = false := by simp [lt, hu.2]
  simp [clamp, h1, h2]

/-- The eight bytes of a number, the least significant first. -/
def toBytes (x : Binary64) : Bytes := Bytes.littleEndian 8 x.bits.toNat

/-- The number with the given bytes, the least significant first. -/
def ofBytes (b : Bytes) : Binary64 := ⟨UInt64.ofNat (Bytes.ofLittleEndian b)⟩

@[simp] theorem length_toBytes (x : Binary64) : x.toBytes.length = 8 := by simp [toBytes]

/-- Every bit pattern survives being written and read. -/
theorem ofBytes_toBytes (x : Binary64) : ofBytes x.toBytes = x := by
  simp [ofBytes, toBytes, Bytes.ofLittleEndian_littleEndian]

/-! ## Finite numbers as fractions

A finite number is `significand * 2 ^ exponent` up to its sign. -/

/-- The whole number that a power of two scales to the value. -/
def significand (x : Binary64) : Nat :=
  if x.magnitude < 2 ^ 52 then x.magnitude else 2 ^ 52 + x.magnitude % 2 ^ 52

/-- The power of two that scales the significand. -/
def exponent (x : Binary64) : Int :=
  if x.magnitude < 2 ^ 52 then -1074 else Int.ofNat (x.magnitude / 2 ^ 52) - 1075

/-- The magnitude of `significand * 2 ^ exponent`, or infinity beyond the largest number. Below
`2 ^ 52` the exponent must be the smallest one. -/
def assemble (significand : Nat) (exponent : Int) : Nat :=
  if significand < 2 ^ 52 then significand
  else
    let biased := (exponent + 1075).toNat
    if 2047 ≤ biased then infinityMagnitude else biased * 2 ^ 52 + (significand - 2 ^ 52)

/-- Divides by a power of two or multiplies with one. -/
def scale (numerator denominator : Nat) (exponent : Int) : Nat × Nat :=
  if exponent < 0 then (numerator * 2 ^ (-exponent).toNat, denominator)
  else (numerator, denominator * 2 ^ exponent.toNat)

/-- The quotient, rounded to the nearest whole number, ties to the even one. -/
def roundDiv (numerator denominator : Nat) : Nat :=
  let q := numerator / denominator
  let r := 2 * (numerator % denominator)
  if r < denominator then q
  else if r = denominator then q + q % 2
  else q + 1

/-- The magnitude nearest to a fraction, ties to the even significand. -/
def nearest (numerator denominator : Nat) : Nat :=
  if numerator = 0 then 0
  else
    let guess : Int := Int.ofNat (Nat.log2 numerator) - Int.ofNat (Nat.log2 denominator) - 52
    let (n, d) := scale numerator denominator guess
    let exact : Int := if n / d < 2 ^ 52 then guess - 1 else guess
    let exponent : Int := max exact (-1074)
    let (n, d) := scale numerator denominator exponent
    let significand := roundDiv n d
    if significand = 2 ^ 53 then assemble (2 ^ 52) (exponent + 1) else assemble significand exponent

/-- The number nearest to `digits * 10 ^ exponent`. Far outside the range of doubles the answer is
known from the number of digits alone. -/
def ofDecimal (negative : Bool) (digits : Nat) (exponent : Int) : Binary64 :=
  let size : Int := exponent + Int.ofNat (Nat.toDigits 10 digits).length
  ofMagnitude negative <|
    if digits = 0 then 0
    else if 400 < size then infinityMagnitude
    else if size < -400 then 0
    else if exponent < 0 then nearest digits (10 ^ (-exponent).toNat)
    else nearest (digits * 10 ^ exponent.toNat) 1

/-- The number nearest to an integer. -/
def ofInt (n : Int) : Binary64 := ofMagnitude (decide (n < 0)) (nearest n.natAbs 1)

/-- The magnitude of a finite number as a fraction. -/
def fraction (x : Binary64) : Nat × Nat :=
  if x.exponent < 0 then (x.significand, 2 ^ (-x.exponent).toNat)
  else (x.significand * 2 ^ x.exponent.toNat, 1)

/-- The sum of two finite numbers that are not negative, rounded to the nearest number. -/
def addMagnitudes (x y : Binary64) : Binary64 :=
  let (a, b) := x.fraction
  let (c, d) := y.fraction
  ofMagnitude false (nearest (a * d + c * b) (b * d))

/-- A finite number that is not negative times a whole number, rounded to the nearest number. -/
def scaleMagnitude (x : Binary64) (factor : Nat) : Binary64 :=
  let (a, b) := x.fraction
  ofMagnitude false (nearest (a * factor) b)

/-- The number with the value of a single precision number, given by its bits. A NaN keeps what fits
of its payload and becomes quiet. -/
def ofSingle (bits : UInt32) : Binary64 :=
  let negative := decide (2 ^ 31 ≤ bits.toNat)
  let magnitude := bits.toNat % 2 ^ 31
  let fraction := magnitude % 2 ^ 23
  let biased := magnitude / 2 ^ 23
  ofMagnitude negative <|
    if biased = 255 then
      if fraction = 0 then infinityMagnitude
      else infinityMagnitude + 2 ^ 51 + (fraction % 2 ^ 22) * 2 ^ 29
    else if biased = 0 then nearest fraction (2 ^ 149)
    else
      let significand := 2 ^ 23 + fraction
      if biased < 150 then nearest significand (2 ^ (150 - biased))
      else nearest (significand * 2 ^ (biased - 150)) 1

end Binary64

end MetricGateway.Number
