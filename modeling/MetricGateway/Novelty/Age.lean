import MetricGateway.Time

/-!
# Buckets and ages

The novelty cache counts time in buckets of ten minutes. When a key was last seen is kept as its age, a
single byte that counts buckets from the reference of the shard it is in, which bounds the memory per
series. Buckets stop at `2 ^ 32 - 1` and ages at 255, about forty-two hours.
-/

namespace MetricGateway.Novelty

/-- The width of a bucket in seconds. -/
def bucketSeconds : Nat := 600

/-- The largest number of a bucket. -/
def lastBucket : Nat := 2 ^ 32 - 1

/-- The largest age. -/
def maxAge : Nat := 255

/-- A bucket, counted from the start of 1970. -/
structure Bucket where
  index : UInt32
  deriving DecidableEq, Repr, Inhabited

/-- A number of buckets between a reference and a sighting. -/
structure Age where
  buckets : UInt8
  deriving DecidableEq, Repr, Inhabited

namespace Age

/-- No buckets at all. -/
def zero : Age := ⟨0⟩

/-- The age of so many buckets; what does not fit becomes the largest age. -/
def clamp (n : Nat) : Age := ⟨UInt8.ofNat (min n maxAge)⟩

/-- The buckets of an age. -/
def toNat (a : Age) : Nat := a.buckets.toNat

/-- The whole buckets of a span of time, if they fit. -/
def ofDuration? (d : Duration) : Option Age :=
  let n := d.seconds / bucketSeconds
  if n ≤ maxAge then some (clamp n) else none

/-- The buckets from a reference to a time: none if the time lies before the reference, and the
largest age if it lies beyond all ages. -/
def between (reference time : Bucket) : Age := clamp (time.index.toNat - reference.index.toNat)

/-- An age without so many buckets, if it has them. -/
def sub? (a : Age) (n : Nat) : Option Age := if n ≤ a.toNat then some (clamp (a.toNat - n)) else none

/-- The span of time of an age. -/
def toDuration (a : Age) : Duration := .ofSeconds (a.toNat * bucketSeconds)

/-- The buckets with the name of their kind, for people who debug. -/
def debug (a : Age) : String := "Age(" ++ String.ofList (Number.digits a.toNat) ++ ")"

theorem toNat_le (a : Age) : a.toNat ≤ maxAge := by
  have := a.buckets.toNat_lt
  simp only [toNat, maxAge]; omega

@[simp] theorem toNat_clamp (n : Nat) : (clamp n).toNat = min n maxAge := by
  simp only [clamp, toNat, maxAge, UInt8.toNat_ofNat']; omega

/-- Ages with the same number are the same. -/
theorem ext_toNat {a b : Age} (h : a.toNat = b.toNat) : a = b := by
  cases a; cases b; simp only [toNat] at h; congr; exact UInt8.toNat_inj.mp h

end Age

namespace Bucket

/-- The number of a bucket. -/
def toNat (b : Bucket) : Nat := b.index.toNat

/-- The bucket of a number; what does not fit becomes the last bucket. -/
def clamp (n : Nat) : Bucket := ⟨UInt32.ofNat (min n lastBucket)⟩

/-- The bucket that holds a point in time. -/
def ofTimestamp (t : Timestamp) : Bucket := clamp (t.seconds.toNat / bucketSeconds)

/-- The bucket an age before, or the first one. -/
def back (b : Bucket) (a : Age) : Bucket := clamp (b.toNat - a.toNat)

/-- The bucket an age behind, or the last one. -/
def forth (b : Bucket) (a : Age) : Bucket := clamp (b.toNat + a.toNat)

/-- The later of two buckets. -/
def later (a b : Bucket) : Bucket := if a.toNat ≤ b.toNat then b else a

/-- The number with the name of its kind, for people who debug. -/
def debug (b : Bucket) : String := "Ref(" ++ String.ofList (Number.digits b.toNat) ++ ")"

theorem toNat_le (b : Bucket) : b.toNat ≤ lastBucket := by
  have := b.index.toNat_lt
  simp only [toNat, lastBucket]; omega

@[simp] theorem toNat_clamp (n : Nat) : (clamp n).toNat = min n lastBucket := by
  simp only [clamp, toNat, lastBucket, UInt32.toNat_ofNat']; omega

@[simp] theorem toNat_back (b : Bucket) (a : Age) : (b.back a).toNat = b.toNat - a.toNat := by
  have := b.toNat_le
  simp only [back, toNat_clamp]; omega

@[simp] theorem toNat_later (a b : Bucket) : (later a b).toNat = max a.toNat b.toNat := by
  unfold later; split <;> omega

/-- Buckets with the same number are the same. -/
theorem ext_toNat {a b : Bucket} (h : a.toNat = b.toNat) : a = b := by
  cases a; cases b; simp only [toNat] at h; congr; exact UInt32.toNat_inj.mp h

end Bucket

end MetricGateway.Novelty
