import MetricGateway.Number.Power

/-!
# Whole numbers as text

A number of a fixed width is written as an optional sign and decimal digits. The reader goes
through the digits from the left and stops at the first character that is no digit or at the
first digit that leaves the range, whichever comes first.
-/

namespace MetricGateway.Number

/-- Why a text is no number of the wanted width. -/
inductive NumberError where
  /-- There is no character at all. -/
  | empty
  /-- A character is no digit, or a sign stands alone. -/
  | invalidDigit
  /-- The number lies above the range. -/
  | tooLarge
  /-- The number lies below the range. -/
  | tooSmall
  deriving DecidableEq, Repr

/-- The wording shown to users. -/
def NumberError.message : NumberError → String
  | .empty => "cannot parse integer from empty string"
  | .invalidDigit => "invalid digit found in string"
  | .tooLarge => "number too large to fit in target type"
  | .tooSmall => "number too small to fit in target type"

/-- The value of a decimal digit. -/
def digit? (c : Char) : Option Nat :=
  if '0' ≤ c ∧ c ≤ '9' then some (c.toNat - '0'.toNat) else none

/-- Appends the decimal digits of a text to a number that must not exceed `limit`. -/
def readDigits (limit : Nat) (overflow : NumberError) (value : Nat) :
    List Char → Except NumberError Nat
  | [] => .ok value
  | c :: rest =>
    match digit? c with
    | none => .error .invalidDigit
    | some d =>
      if limit < 10 * value + d then .error overflow
      else readDigits limit overflow (10 * value + d) rest

/-- Digits where at least one is wanted. -/
def readSome (limit : Nat) (overflow : NumberError) : List Char → Except NumberError Nat
  | [] => .error .invalidDigit
  | s => readDigits limit overflow 0 s

/-- Reads a number of at most `limit`, with an optional plus sign. -/
def readNatural (limit : Nat) : List Char → Except NumberError Nat
  | [] => .error .empty
  | '+' :: rest => readSome limit .tooLarge rest
  | s => readSome limit .tooLarge s

/-- Reads an integer from `-(limit + 1)` to `limit`, with an optional sign. -/
def readInteger (limit : Nat) : List Char → Except NumberError Int
  | [] => .error .empty
  | '+' :: rest => (readSome limit .tooLarge rest).map Int.ofNat
  | '-' :: rest => (readSome (limit + 1) .tooSmall rest).map fun n => -Int.ofNat n
  | s => (readSome limit .tooLarge s).map Int.ofNat

/-- The decimal digits of a number. -/
def digits (n : Nat) : List Char := Nat.toDigits 10 n

/-- Reads an unsigned number of 32 bits. -/
def readUInt32 (s : List Char) : Except NumberError UInt32 :=
  (readNatural (2 ^ 32 - 1) s).map UInt32.ofNat

/-- Reads a signed number of 64 bits. -/
def readInt64 (s : List Char) : Except NumberError Int64 :=
  (readInteger (2 ^ 63 - 1) s).map Int64.ofInt

end MetricGateway.Number
