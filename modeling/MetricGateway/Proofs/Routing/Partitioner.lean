import MetricGateway.Routing.Partitioner

/-!
# The partition of a key

Producers and consumers have to agree on the partition of a key, and consumers
compute it on words: the hash is a word of thirty-two bits, taken for a signed
number, and remainder and absolute value are those of signed words. Both could leave
the words. The absolute value of `-2 ^ 31` is no word, and neither is the quotient of
`-2 ^ 31` by `-1`, where the remainder is computed along with it.

Neither happens here. A number of partitions is positive, and so a remainder is
closer to zero than it, which leaves `-2 ^ 31` out. So the words stand for the
numbers throughout, also where the hash itself is `-2 ^ 31`.
-/

namespace MetricGateway.Routing

/-! ## Hashes as numbers -/

/-- A step of the hash, without words. -/
def plainStep (hash : Nat) (b : UInt8) : Nat := (hash ^^^ b.toNat) * 16777619 % 2 ^ 32

/-- The FNV-1a hash of thirty-two bits, without words. -/
def plainHash (bytes : Bytes) : Nat := bytes.foldl plainStep 2166136261

/-- The signed number that thirty-two bits stand for in two's complement. -/
def twosComplement (n : Nat) : Int := if n < 2 ^ 31 then n else (n : Int) - 2 ^ 32

theorem toNat_fnvStep (hash : UInt32) (b : UInt8) :
    (Digest.fnvStep hash b).toNat = plainStep hash.toNat b := by
  rw [Digest.fnvStep, UInt32.toNat_mul, UInt32.toNat_xor, UInt8.toNat_toUInt32]
  rfl

/-- **The hash on words is the hash on numbers.** -/
theorem toNat_fnv1a (bytes : Bytes) : (Digest.fnv1a bytes).toNat = plainHash bytes := by
  have hfrom : ∀ hash : UInt32,
      (bytes.foldl Digest.fnvStep hash).toNat = bytes.foldl plainStep hash.toNat := by
    induction bytes with
    | nil => exact fun _ => rfl
    | cons b rest ih =>
        intro hash
        rw [List.foldl_cons, List.foldl_cons, ih, toNat_fnvStep]
  exact hfrom Digest.fnvOffset

theorem toInt_toInt32 (w : UInt32) : w.toInt32.toInt = twosComplement w.toNat := by
  have hbits : w.toInt32.toInt = w.toBitVec.toInt := rfl
  have hnat : w.toBitVec.toNat = w.toNat := rfl
  rw [hbits, BitVec.toInt_eq_toNat_cond, hnat, twosComplement]
  split <;> split <;> omega

/-! ## Signed words -/

/-- The remainder of signed words, if the division stays within them. -/
def remainder? (a b : Int32) : Option Int32 :=
  if b = 0 ∨ (a = Int32.minValue ∧ b = -1) then none else some (a % b)

/-- A signed word without its sign. -/
def withoutSign (a : Int32) : Int32 := if a < 0 then -a else a

/-- The absolute value of a signed word, if that is one. -/
def absolute? (a : Int32) : Option Int32 :=
  if a = Int32.minValue then none else some (withoutSign a)

/-- The partition for a hash, if nothing leaves the words on the way. -/
def wordPartition? (hash count : Int32) : Option Int32 := remainder? hash count >>= absolute?

/-- The partition of a key as consumers compute it. -/
def consumerPartition (key : Bytes) (count : Int32) : Int32 :=
  withoutSign ((UInt32.ofNat (plainHash key)).toInt32 % count)

variable {a b count : Int32}

theorem remainder?_of_pos (h : 1 ≤ b.toInt) (a : Int32) : remainder? a b = some (a % b) := by
  refine if_neg ?_
  rintro (rfl | ⟨-, rfl⟩) <;> exact absurd h (by decide)

/-- A remainder is closer to zero than what it was divided by. -/
theorem natAbs_toInt_mod_lt (h : 1 ≤ b.toInt) (a : Int32) :
    (a % b).toInt.natAbs < b.toInt.natAbs := by
  rw [Int32.toInt_mod, Int.natAbs_tmod]
  exact Nat.mod_lt _ (by omega)

theorem mod_ne_minValue (h : 1 ≤ b.toInt) (a : Int32) : a % b ≠ Int32.minValue := by
  intro heq
  have hlt := natAbs_toInt_mod_lt h a
  have hword := b.toInt_lt
  rw [heq, Int32.toInt_minValue] at hlt
  omega

theorem toInt_withoutSign (h : a ≠ Int32.minValue) : (withoutSign a).toInt = a.toInt.natAbs := by
  have hlow := a.le_toInt
  have hhigh := a.toInt_lt
  have hmin : a.toInt ≠ -2 ^ 31 := by
    rw [← Int32.toInt_minValue]
    exact fun heq => h (Int32.toInt_inj.mp heq)
  rw [withoutSign]
  split
  case isTrue hneg =>
    rw [Int32.lt_iff_toInt_lt, Int32.toInt_zero] at hneg
    rw [Int32.toInt_neg, Int.bmod_eq_of_le (by omega) (by omega)]
    omega
  case isFalse hpos =>
    rw [Int32.lt_iff_toInt_lt, Int32.toInt_zero] at hpos
    omega

/-- **Nothing leaves the words**, whatever the hash. -/
theorem wordPartition?_of_pos (h : 1 ≤ count.toInt) (hash : Int32) :
    wordPartition? hash count = some (withoutSign (hash % count)) := by
  rw [wordPartition?, remainder?_of_pos h]
  exact if_neg (mod_ne_minValue h hash)

/-- Words stand for the numbers that are computed on them. -/
theorem toInt_withoutSign_mod (h : 1 ≤ count.toInt) (hash : Int32) :
    (withoutSign (hash % count)).toInt = (hash.toInt.tmod count.toInt).natAbs := by
  rw [toInt_withoutSign (mod_ne_minValue h hash), Int32.toInt_mod]

namespace Partitioner

/-! ## Partitions -/

theorem of_eq_ok_iff {scheme : PartitionScheme} {n : Int} {p : Partitioner} :
    of scheme n = .ok p ↔ 1 ≤ n ∧ p.scheme = scheme ∧ (p.count : Int) = n := by
  rw [of]
  split
  case isTrue h =>
    obtain ⟨pscheme, pcount, hpos⟩ := p
    rw [Except.ok.injEq, mk.injEq]
    refine ⟨?_, ?_⟩
    · rintro ⟨rfl, rfl⟩
      exact ⟨h, rfl, Int.toNat_of_nonneg (by omega)⟩
    · rintro ⟨-, rfl, hcount⟩
      exact ⟨rfl, by simp only at hcount; omega⟩
  case isFalse h => exact iff_of_false nofun fun hp => h hp.1

/-- **The partition of a key, without words.** -/
theorem partitionOf_eq (p : Partitioner) (key : Bytes) :
    p.partitionOf key = ((twosComplement (plainHash key)).tmod p.count).natAbs := by
  rw [partitionOf, toInt_toInt32, toNat_fnv1a]

/-- The hash of a key as a signed word. -/
theorem toInt_hash (key : Bytes) :
    (UInt32.ofNat (plainHash key)).toInt32.toInt = twosComplement (plainHash key) := by
  rw [← toNat_fnv1a, UInt32.ofNat_toNat, toInt_toInt32]

/-- **Consumers compute the same partition.** -/
theorem toInt_consumerPartition {p : Partitioner} (hcount : (p.count : Int) = count.toInt)
    (key : Bytes) : (consumerPartition key count).toInt = p.partitionOf key := by
  have hpos := p.count_pos
  rw [consumerPartition, toInt_withoutSign_mod (by omega), toInt_hash, partitionOf_eq, hcount]

/-- **The partitioner is the hash partitioner of the consumers.**

Any word may be given for the number of partitions. It is accepted if and only if it is at least one.
Then the partition of every key is the absolute value of the remainder of its hash, which is the
FNV-1a hash of thirty-two bits in two's complement. This is the absolute value of the hash modulo the
number of partitions, and so it is one of them. Computed on words, no hash whatsoever leaves the
words, and consumers get the same partition. A metric goes to the partition of the key that is
returned with it. -/
theorem partition_as_consumers (scheme : PartitionScheme) (count : Int32) :
    ((∃ p, of scheme count.toInt = .ok p) ↔ 1 ≤ count.toInt)
      ∧ ∀ p, of scheme count.toInt = .ok p →
        (p.scheme = scheme ∧ (p.count : Int) = count.toInt)
        ∧ (∀ key, p.partitionOf key = ((twosComplement (plainHash key)).tmod count.toInt).natAbs
          ∧ p.partitionOf key = (twosComplement (plainHash key)).natAbs % p.count
          ∧ p.partitionOf key < p.count
          ∧ (consumerPartition key count).toInt = p.partitionOf key)
        ∧ (∀ hash, ∃ partition, wordPartition? hash count = some partition
          ∧ partition.toInt = (hash.toInt.tmod count.toInt).natAbs)
        ∧ ∀ m, p.partition m = (p.partitionOf (p.partition m).2, p.scheme.key m) := by
  refine ⟨⟨fun ⟨p, hp⟩ => (of_eq_ok_iff.mp hp).1, fun h => ?_⟩, fun p hp => ?_⟩
  · exact ⟨_, dif_pos h⟩
  · obtain ⟨hpos, hscheme, hcount⟩ := of_eq_ok_iff.mp hp
    refine ⟨⟨hscheme, hcount⟩, fun key => ⟨?_, ?_, partitionOf_lt p key,
      toInt_consumerPartition hcount key⟩, fun hash => ?_, fun m => rfl⟩
    · rw [partitionOf_eq, hcount]
    · rw [partitionOf_eq, Int.natAbs_tmod, Int.natAbs_natCast]
    · exact ⟨_, wordPartition?_of_pos hpos hash, toInt_withoutSign_mod hpos hash⟩

/-- The hash of this key is `-2 ^ 31`, the word without an absolute value. Of seven partitions it
gets the third, and so say consumers. -/
theorem partition_as_consumers_of_least_hash :
    let key := Bytes.ofString "qqk42v"
    let p : Partitioner := ⟨.bySeries, 7, by decide⟩
    of .bySeries (7 : Int32).toInt = .ok p ∧ twosComplement (plainHash key) = -2 ^ 31
      ∧ absolute? Int32.minValue = none ∧ p.partitionOf key = 2
      ∧ (consumerPartition key 7).toInt = 2 := by
  intro key p
  have hp : of .bySeries (7 : Int32).toInt = .ok p := rfl
  have hhash : twosComplement (plainHash key) = -2 ^ 31 := by decide +kernel
  obtain ⟨hpartition, -, -, hconsumer⟩ := ((partition_as_consumers .bySeries 7).2 p hp).2.1 key
  have htwo : p.partitionOf key = 2 := by
    rw [hpartition, hhash]
    decide
  exact ⟨hp, hhash, by decide, htwo, by rw [hconsumer, htwo]; rfl⟩

end Partitioner

end MetricGateway.Routing
