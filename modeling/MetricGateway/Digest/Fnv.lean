import MetricGateway.Bytes

/-!
# The FNV-1a hash

Records are spread over partitions by a hash of thirty-two bits: every byte is joined to the state by
exclusive or, and the state is multiplied by a prime, modulo `2 ^ 32`.
-/

namespace MetricGateway.Digest

/-- The hash of no bytes. -/
def fnvOffset : UInt32 := 0x811c9dc5

/-- The factor between two bytes. -/
def fnvPrime : UInt32 := 0x01000193

/-- Adds a byte to a hash. -/
def fnvStep (hash : UInt32) (b : UInt8) : UInt32 := (hash ^^^ b.toUInt32) * fnvPrime

/-- The hash of a sequence of bytes. -/
def fnv1a (bytes : Bytes) : UInt32 := bytes.foldl fnvStep fnvOffset

end MetricGateway.Digest
