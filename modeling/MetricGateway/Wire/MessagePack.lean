import MetricGateway.Number.Binary64

/-!
# MessagePack

MessagePack is a binary format for nested values. The first byte of a value tells its kind, and for
small values their length or even their whole content; longer ones carry their length in the bytes
that follow. Writing always takes the shortest form. Reading takes any form, stops behind the value,
and refuses collections and extensions that are nested more than a given number of levels deep.
-/

namespace MetricGateway.Wire.MessagePack

open Number (Binary64)

/-- A value. Integers remember whether they were read in a signed form. -/
inductive Value where
  | nil
  | bool (b : Bool)
  | unsigned (n : Nat)
  | signed (n : Int)
  | single (bits : UInt32)
  | double (x : Binary64)
  /-- Text, whose bytes need not be UTF-8. -/
  | text (utf8 : Bytes)
  | binary (bytes : Bytes)
  | array (items : List Value)
  | map (entries : List (Value × Value))
  /-- A value of a kind that an application has defined. -/
  | extension (kind : UInt8) (bytes : Bytes)
  deriving Inhabited

/-! ## Writing -/

/-- A first byte that tells the kind, and a number of so many bytes. -/
def marked (mark : UInt8) (width n : Nat) : Bytes := mark :: Bytes.bigEndian width n

/-- The shortest form of a number that is not negative. -/
def encodeNatural (n : Nat) : Bytes :=
  if n < 0x80 then [UInt8.ofNat n]
  else if n < 2 ^ 8 then marked 0xcc 1 n
  else if n < 2 ^ 16 then marked 0xcd 2 n
  else if n < 2 ^ 32 then marked 0xce 4 n
  else marked 0xcf 8 n

/-- The shortest form of an integer. -/
def encodeInteger (n : Int) : Bytes :=
  if 0 ≤ n then encodeNatural n.toNat
  else if -0x20 ≤ n then [UInt8.ofNat (n + 2 ^ 8).toNat]
  else if -2 ^ 7 ≤ n then marked 0xd0 1 (n + 2 ^ 8).toNat
  else if -2 ^ 15 ≤ n then marked 0xd1 2 (n + 2 ^ 16).toNat
  else if -2 ^ 31 ≤ n then marked 0xd2 4 (n + 2 ^ 32).toNat
  else marked 0xd3 8 (n + 2 ^ 64).toNat

/-- The shortest head of a text of so many bytes. -/
def textHead (length : Nat) : Bytes :=
  if length < 0x20 then [UInt8.ofNat (0xa0 + length)]
  else if length < 2 ^ 8 then marked 0xd9 1 length
  else if length < 2 ^ 16 then marked 0xda 2 length
  else marked 0xdb 4 length

/-- The shortest head of binary data of so many bytes. -/
def binaryHead (length : Nat) : Bytes :=
  if length < 2 ^ 8 then marked 0xc4 1 length
  else if length < 2 ^ 16 then marked 0xc5 2 length
  else marked 0xc6 4 length

/-- The shortest head of an array of so many items. -/
def arrayHead (length : Nat) : Bytes :=
  if length < 0x10 then [UInt8.ofNat (0x90 + length)]
  else if length < 2 ^ 16 then marked 0xdc 2 length
  else marked 0xdd 4 length

/-- The shortest head of a map of so many entries. -/
def mapHead (length : Nat) : Bytes :=
  if length < 0x10 then [UInt8.ofNat (0x80 + length)]
  else if length < 2 ^ 16 then marked 0xde 2 length
  else marked 0xdf 4 length

/-- The shortest head of an extension of so many bytes, without its kind. -/
def extensionHead (length : Nat) : Bytes :=
  if length = 1 then [0xd4]
  else if length = 2 then [0xd5]
  else if length = 4 then [0xd6]
  else if length = 8 then [0xd7]
  else if length = 16 then [0xd8]
  else if length < 2 ^ 8 then marked 0xc7 1 length
  else if length < 2 ^ 16 then marked 0xc8 2 length
  else marked 0xc9 4 length

mutual

/-- The bytes of a value in its shortest form. -/
def Value.encode : Value → Bytes
  | .nil => [0xc0]
  | .bool b => [if b then 0xc3 else 0xc2]
  | .unsigned n => encodeNatural n
  | .signed n => encodeInteger n
  | .single bits => marked 0xca 4 bits.toNat
  | .double x => marked 0xcb 8 x.bits.toNat
  | .text utf8 => textHead utf8.length ++ utf8
  | .binary bytes => binaryHead bytes.length ++ bytes
  | .array items => arrayHead items.length ++ encodeItems items
  | .map entries => mapHead entries.length ++ encodeEntries entries
  | .extension kind bytes => extensionHead bytes.length ++ kind :: bytes

/-- The bytes of the items of an array. -/
def encodeItems : List Value → Bytes
  | [] => []
  | item :: items => item.encode ++ encodeItems items

/-- The bytes of the entries of a map. -/
def encodeEntries : List (Value × Value) → Bytes
  | [] => []
  | (key, value) :: entries => key.encode ++ value.encode ++ encodeEntries entries

end

/-! ## Reading -/

/-- Reads a value of a type and says what is left. -/
abbrev Reader (α : Type) := Bytes → Option (α × Bytes)

/-- Reads a number of so many bytes, the most significant first. -/
def readNumber (width : Nat) : Reader Nat := fun b =>
  (Bytes.take? width b).map fun (number, rest) => (Bytes.ofBigEndian number, rest)

/-- Reads an integer of so many bytes in two's complement. -/
def readSigned (width : Nat) : Reader Int := fun b =>
  (readNumber width b).map fun (n, rest) =>
    (if 2 ^ (8 * width - 1) ≤ n then (n : Int) - 2 ^ (8 * width) else n, rest)

/-- Reads so many values. -/
def readMany {α : Type} (read : Reader α) : (count : Nat) → Reader (List α)
  | 0, b => some ([], b)
  | count + 1, b => do
    let (x, b) ← read b
    let (xs, b) ← readMany read count b
    return (x :: xs, b)

/-- Reads a value and another. -/
def readPair {α : Type} (read : Reader α) : Reader (α × α) := fun b => do
  let (x, b) ← read b
  let (y, b) ← read b
  return ((x, y), b)

/-- Reads data whose length is given by so many bytes. -/
def readData (width : Nat) (make : Bytes → Value) : Reader Value := fun b => do
  let (length, b) ← readNumber width b
  let (data, b) ← Bytes.take? length b
  return (make data, b)

/-- Reads an extension of a length, unless it is nested too deep: its kind and its data are a level
of their own. -/
def readExtension (inner : Option (Reader Value)) (length : Nat) : Reader Value := fun b => do
  let _ ← inner
  let (kind, b) ← Bytes.take? 1 b
  let (data, b) ← Bytes.take? length b
  return (.extension (kind.headD 0) data, b)

/-- Reads an extension whose length is given by so many bytes. -/
def readLongExtension (inner : Option (Reader Value)) (width : Nat) : Reader Value := fun b => do
  let (length, b) ← readNumber width b
  readExtension inner length b

/-- Reads an array of so many items, unless it is nested too deep. -/
def readArray (inner : Option (Reader Value)) (count : Nat) : Reader Value := fun b => do
  let (items, b) ← readMany (← inner) count b
  return (.array items, b)

/-- Reads a map of so many entries, unless it is nested too deep. -/
def readMap (inner : Option (Reader Value)) (count : Nat) : Reader Value := fun b => do
  let (entries, b) ← readMany (readPair (← inner)) count b
  return (.map entries, b)

/-- Reads a value behind its first byte. Items of collections are read by `inner`. -/
def readBehind (inner : Option (Reader Value)) (mark : Nat) : Reader Value := fun b =>
  if mark < 0x80 then some (.unsigned mark, b)
  else if mark < 0x90 then readMap inner (mark - 0x80) b
  else if mark < 0xa0 then readArray inner (mark - 0x90) b
  else if mark < 0xc0 then
    (Bytes.take? (mark - 0xa0) b).map fun (data, rest) => (.text data, rest)
  else if 0xe0 ≤ mark then some (.signed ((mark : Int) - 0x100), b)
  else match mark with
    | 0xc0 => some (.nil, b)
    | 0xc2 => some (.bool false, b)
    | 0xc3 => some (.bool true, b)
    | 0xc4 => readData 1 .binary b
    | 0xc5 => readData 2 .binary b
    | 0xc6 => readData 4 .binary b
    | 0xc7 => readLongExtension inner 1 b
    | 0xc8 => readLongExtension inner 2 b
    | 0xc9 => readLongExtension inner 4 b
    | 0xca => (readNumber 4 b).map fun (n, rest) => (.single (UInt32.ofNat n), rest)
    | 0xcb => (readNumber 8 b).map fun (n, rest) => (.double ⟨UInt64.ofNat n⟩, rest)
    | 0xcc => (readNumber 1 b).map fun (n, rest) => (.unsigned n, rest)
    | 0xcd => (readNumber 2 b).map fun (n, rest) => (.unsigned n, rest)
    | 0xce => (readNumber 4 b).map fun (n, rest) => (.unsigned n, rest)
    | 0xcf => (readNumber 8 b).map fun (n, rest) => (.unsigned n, rest)
    | 0xd0 => (readSigned 1 b).map fun (n, rest) => (.signed n, rest)
    | 0xd1 => (readSigned 2 b).map fun (n, rest) => (.signed n, rest)
    | 0xd2 => (readSigned 4 b).map fun (n, rest) => (.signed n, rest)
    | 0xd3 => (readSigned 8 b).map fun (n, rest) => (.signed n, rest)
    | 0xd4 => readExtension inner 1 b
    | 0xd5 => readExtension inner 2 b
    | 0xd6 => readExtension inner 4 b
    | 0xd7 => readExtension inner 8 b
    | 0xd8 => readExtension inner 16 b
    | 0xd9 => readData 1 .text b
    | 0xda => readData 2 .text b
    | 0xdb => readData 4 .text b
    | 0xdc => (readNumber 2 b).bind fun (n, rest) => readArray inner n rest
    | 0xdd => (readNumber 4 b).bind fun (n, rest) => readArray inner n rest
    | 0xde => (readNumber 2 b).bind fun (n, rest) => readMap inner n rest
    | 0xdf => (readNumber 4 b).bind fun (n, rest) => readMap inner n rest
    | _ => none

/-- Reads a value whose items are read by `inner`. -/
def readWith (inner : Option (Reader Value)) : Reader Value
  | [] => none
  | mark :: b => readBehind inner mark.toNat b

/-- Reads a value with at most `levels` collections and extensions nested in one another. -/
def Value.read : (levels : Nat) → Reader Value
  | 0 => readWith none
  | levels + 1 => readWith (some (Value.read levels))

/-! ## Scalars with a meaning -/

namespace Value

/-- An integer, however it was written. -/
def integer? : Value → Option Int
  | .unsigned n => some n
  | .signed n => some n
  | _ => none

/-- An integer between two bounds. -/
def integerIn? (lowest highest : Int) (v : Value) : Option Int :=
  v.integer?.filter fun n => lowest ≤ n ∧ n ≤ highest

/-- A number as a double: a double, a single precision number or an integer. -/
def double? : Value → Option Binary64
  | .double x => some x
  | .single bits => some (.ofSingle bits)
  | .unsigned n => some (.ofInt n)
  | .signed n => some (.ofInt n)
  | _ => none

/-- A text, which may also have been written as binary data. -/
def string? : Value → Option String
  | .text utf8 => Bytes.toString? utf8
  | .binary bytes => Bytes.toString? bytes
  | _ => none

/-- A list of texts. -/
def strings? : Value → Option (List String)
  | .array items => items.mapM string?
  | _ => none

/-- A text as a value. -/
def ofString (s : String) : Value := .text (Bytes.ofString s)

end Value

end MetricGateway.Wire.MessagePack
