import MetricGateway.Bytes

/-!
# The MD5 digest

Series are identified by a digest of their description. The message is padded to whole blocks of
sixty-four bytes that end in its length in bits; every block updates a state of four words in
sixty-four rounds.
-/

namespace MetricGateway.Digest

/-- The state between two blocks. -/
structure Md5State where
  a : UInt32
  b : UInt32
  c : UInt32
  d : UInt32
  deriving DecidableEq, Repr, Inhabited

namespace Md5State

/-- The state in front of the first block. -/
def initial : Md5State := ⟨0x67452301, 0xefcdab89, 0x98badcfe, 0x10325476⟩

/-- Adds two states word by word. -/
def add (s t : Md5State) : Md5State := ⟨s.a + t.a, s.b + t.b, s.c + t.c, s.d + t.d⟩

/-- The words of a state, the least significant byte of each first. -/
def toBytes (s : Md5State) : Bytes :=
  Bytes.littleEndian 4 s.a.toNat ++ Bytes.littleEndian 4 s.b.toNat ++
    Bytes.littleEndian 4 s.c.toNat ++ Bytes.littleEndian 4 s.d.toNat

@[simp] theorem length_toBytes (s : Md5State) : s.toBytes.length = 16 := by
  simp [toBytes]

end Md5State

/-- What is added in each round: the fractional parts of the sines of 1 to 64. -/
def md5Sines : Array UInt32 := #[
  0xd76aa478, 0xe8c7b756, 0x242070db, 0xc1bdceee, 0xf57c0faf, 0x4787c62a, 0xa8304613, 0xfd469501,
  0x698098d8, 0x8b44f7af, 0xffff5bb1, 0x895cd7be, 0x6b901122, 0xfd987193, 0xa679438e, 0x49b40821,
  0xf61e2562, 0xc040b340, 0x265e5a51, 0xe9b6c7aa, 0xd62f105d, 0x02441453, 0xd8a1e681, 0xe7d3fbc8,
  0x21e1cde6, 0xc33707d6, 0xf4d50d87, 0x455a14ed, 0xa9e3e905, 0xfcefa3f8, 0x676f02d9, 0x8d2a4c8a,
  0xfffa3942, 0x8771f681, 0x6d9d6122, 0xfde5380c, 0xa4beea44, 0x4bdecfa9, 0xf6bb4b60, 0xbebfbc70,
  0x289b7ec6, 0xeaa127fa, 0xd4ef3085, 0x04881d05, 0xd9d4d039, 0xe6db99e5, 0x1fa27cf8, 0xc4ac5665,
  0xf4292244, 0x432aff97, 0xab9423a7, 0xfc93a039, 0x655b59c3, 0x8f0ccc92, 0xffeff47d, 0x85845dd1,
  0x6fa87e4f, 0xfe2ce6e0, 0xa3014314, 0x4e0811a1, 0xf7537e82, 0xbd3af235, 0x2ad7d2bb, 0xeb86d391]

/-- How far each round rotates: four amounts that repeat, for each of the four quarters. -/
def md5Shifts : Array UInt32 := #[7, 12, 17, 22, 5, 9, 14, 20, 4, 11, 16, 23, 6, 10, 15, 21]

/-- Rotates a word to the left. -/
def rotateLeft (x n : UInt32) : UInt32 := (x <<< n) ||| (x >>> (32 - n))

/-- One of the sixty-four rounds. -/
def md5Round (block : Array UInt32) (s : Md5State) (i : Nat) : Md5State :=
  let (mix, word) :=
    if i < 16 then ((s.b &&& s.c) ||| (~~~s.b &&& s.d), i)
    else if i < 32 then ((s.d &&& s.b) ||| (~~~s.d &&& s.c), (5 * i + 1) % 16)
    else if i < 48 then (s.b ^^^ s.c ^^^ s.d, (3 * i + 5) % 16)
    else (s.c ^^^ (s.b ||| ~~~s.d), (7 * i) % 16)
  let sum := s.a + mix + md5Sines.getD i 0 + block.getD word 0
  ⟨s.d, s.b + rotateLeft sum (md5Shifts.getD (4 * (i / 16) + i % 4) 0), s.b, s.c⟩

/-- The words of a block. -/
def md5Words (block : Bytes) : Array UInt32 :=
  (Array.range 16).map fun i =>
    UInt32.ofNat (Bytes.ofLittleEndian ((block.drop (4 * i)).take 4))

/-- Updates the state by a block. -/
def md5Block (s : Md5State) (block : Bytes) : Md5State :=
  s.add ((List.range 64).foldl (md5Round (md5Words block)) s)

/-- Updates the state by so many blocks. -/
def md5Blocks : (count : Nat) → Md5State → Bytes → Md5State
  | 0, s, _ => s
  | count + 1, s, message => md5Blocks count (md5Block s (message.take 64)) (message.drop 64)

/-- A message with a one bit, zeros and its length, which together fill whole blocks. -/
def md5Padded (message : Bytes) : Bytes :=
  let zeros := (55 + 64 - message.length % 64) % 64
  message ++ 0x80 :: List.replicate zeros 0 ++ Bytes.littleEndian 8 (8 * message.length)

/-- The digest of a message, sixteen bytes. -/
def md5 (message : Bytes) : Vector UInt8 16 :=
  let padded := md5Padded message
  let s := md5Blocks (padded.length / 64) .initial padded
  ⟨s.toBytes.toArray, by simp⟩

end MetricGateway.Digest
