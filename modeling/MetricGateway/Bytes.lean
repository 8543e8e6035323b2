import MetricGateway.Number.Power

/-!
# Bytes

Everything the gateway puts on a wire is a sequence of bytes. A sequence is a list here, so that a
format can be read off its encoder and a decoder can be defined by recursion on what is left.

Numbers of a fixed width are written least significant byte first. `ofLittleEndian` reads back
what `littleEndian` wrote as long as the number fits the width.
-/

namespace MetricGateway

/-- A sequence of bytes. -/
abbrev Bytes := List UInt8

namespace Bytes

/-- The UTF-8 encoding of a text. -/
def ofString (s : String) : Bytes := s.toUTF8.data.toList

/-- The text that a sequence of bytes encodes in UTF-8, if it encodes one. -/
def toString? (b : Bytes) : Option String := String.fromUTF8? ⟨b.toArray⟩

/-- The lowest `width` bytes of a number, the least significant first. -/
def littleEndian : (width : Nat) → Nat → Bytes
  | 0, _ => []
  | width + 1, n => UInt8.ofNat n :: littleEndian width (n / 256)

/-- The number whose bytes are given, the least significant first. -/
def ofLittleEndian : Bytes → Nat
  | [] => 0
  | b :: rest => b.toNat + 256 * ofLittleEndian rest

/-- The lowest `width` bytes of a number, the most significant first. -/
def bigEndian (width n : Nat) : Bytes := (littleEndian width n).reverse

/-- The number whose bytes are given, the most significant first. -/
def ofBigEndian (b : Bytes) : Nat := ofLittleEndian b.reverse

@[simp] theorem length_littleEndian (width n : Nat) : (littleEndian width n).length = width := by
  induction width generalizing n with
  | zero => rfl
  | succ width ih => simp [littleEndian, ih]

theorem ofLittleEndian_littleEndian (width n : Nat) :
    ofLittleEndian (littleEndian width n) = n % 256 ^ width := by
  induction width generalizing n with
  | zero => simp [littleEndian, ofLittleEndian, Nat.mod_one]
  | succ width ih =>
    have hb : (UInt8.ofNat n).toNat = n % 256 := by simp
    rw [littleEndian, ofLittleEndian, ih, hb, Nat.pow_succ, Nat.mul_comm (256 ^ width) 256,
      Nat.mod_mul]

/-- The first `count` bytes and the rest, if there are that many. -/
def take? (count : Nat) (b : Bytes) : Option (Bytes × Bytes) :=
  if count ≤ b.length then some (b.take count, b.drop count) else none

end Bytes

namespace Hex

/-- The digit of a number below sixteen, in lower case. -/
def digit (n : Nat) : Char :=
  if n < 10 then Char.ofNat ('0'.toNat + n) else Char.ofNat ('a'.toNat + (n - 10))

/-- The value of a hexadecimal digit of either case. -/
def value? (c : Char) : Option Nat :=
  if '0' ≤ c ∧ c ≤ '9' then some (c.toNat - '0'.toNat)
  else if 'a' ≤ c ∧ c ≤ 'f' then some (c.toNat - 'a'.toNat + 10)
  else if 'A' ≤ c ∧ c ≤ 'F' then some (c.toNat - 'A'.toNat + 10)
  else none

/-- Two lower case digits per byte. -/
def encode : Bytes → List Char
  | [] => []
  | b :: rest => digit (b.toNat / 16) :: digit (b.toNat % 16) :: encode rest

/-- Reads two digits of either case per byte; nothing else is accepted. -/
def decode? : List Char → Option Bytes
  | [] => some []
  | high :: low :: rest => do
    let h ← value? high
    let l ← value? low
    let bytes ← decode? rest
    return UInt8.ofNat (16 * h + l) :: bytes
  | [_] => none

/-- The hexadecimal digits of a number without leading zeros, in lower case. -/
def ofNat (n : Nat) : List Char := Nat.toDigits 16 n

@[simp] theorem length_encode (b : Bytes) : (encode b).length = 2 * b.length := by
  induction b with
  | nil => rfl
  | cons x rest ih => simp only [encode, List.length_cons, ih]; omega

/-- Both cases of a digit have the value that the digit was written for. -/
theorem value?_digit {n : Nat} (h : n < 16) : value? (digit n) = some n := by
  have key : ∀ m : Fin 16, value? (digit m.val) = some m.val := by decide
  exact key ⟨n, h⟩

/-- Reading hexadecimal text undoes writing it. -/
theorem decode?_encode (b : Bytes) : decode? (encode b) = some b := by
  induction b with
  | nil => rfl
  | cons x rest ih =>
    have hx : x.toNat < 256 := x.toNat_lt
    have h1 : x.toNat / 16 < 16 := by omega
    have h2 : x.toNat % 16 < 16 := by omega
    have h3 : 16 * (x.toNat / 16) + x.toNat % 16 = x.toNat := by omega
    simp only [encode, decode?, value?_digit h1, value?_digit h2, ih, Option.bind_eq_bind,
      Option.bind_some, h3, UInt8.ofNat_toNat, pure]

end Hex

end MetricGateway
