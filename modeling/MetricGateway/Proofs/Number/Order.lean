import Mathlib.Algebra.Order.Field.Power
import Mathlib.Data.Int.ConditionallyCompleteOrder
import Mathlib.Data.Rat.Cast.Order
import Mathlib.Order.Monotone.Basic
import MetricGateway.Number.Binary64
import MetricGateway.Number.Power

/-!
# The order of numbers

Doubles are compared by their bits. A finite one stands for a rational number, its
significand times a power of two, and this says in which order they should be.

Without the sign, the bits count the finite numbers upwards: the next magnitude is
larger by one unit of its exponent, also where the exponent changes. So the order
of the bits is that of the rational numbers.
-/

namespace MetricGateway.Number.Binary64

/-- The rational number that a finite number stands for. -/
def toRat? (x : Binary64) : Option ℚ :=
  if x.isFinite then
    let magnitude : ℚ := x.significand * 2 ^ x.exponent
    some (if x.negative then -magnitude else magnitude)
  else none

/-! ## Magnitudes -/

/-- What a magnitude stands for, in units of the smallest positive number. -/
def units (magnitude : Nat) : Nat :=
  if magnitude < 2 ^ 52 then magnitude
  else (2 ^ 52 + magnitude % 2 ^ 52) * 2 ^ (magnitude / 2 ^ 52 - 1)

/-- **A larger magnitude stands for a larger number.** -/
theorem units_strictMono : StrictMono units := by
  refine strictMono_nat_of_lt_succ fun m => ?_
  rcases Nat.lt_or_ge (m + 1) (2 ^ 52) with hsmall | hlarge
  · rw [units, units, if_pos (by omega), if_pos hsmall]
    omega
  · rcases Nat.lt_or_ge m (2 ^ 52) with hlast | hm
    · -- the exponent starts to count
      obtain rfl : m = 2 ^ 52 - 1 := by omega
      decide
    · rw [units, units, if_neg (by omega), if_neg (by omega)]
      rcases Nat.lt_or_ge (m % 2 ^ 52 + 1) (2 ^ 52) with hsame | hcarry
      · rw [show (m + 1) % 2 ^ 52 = m % 2 ^ 52 + 1 by omega,
          show (m + 1) / 2 ^ 52 = m / 2 ^ 52 by omega]
        exact Nat.mul_lt_mul_of_pos_right (by omega) (Nat.two_pow_pos _)
      · -- the fraction is full, and the exponent goes up by one
        have hfull : m % 2 ^ 52 = 2 ^ 52 - 1 := by omega
        have hcarried : (m + 1) / 2 ^ 52 - 1 = m / 2 ^ 52 - 1 + 1 := by omega
        have hdouble : 2 ^ (m / 2 ^ 52 - 1 + 1) = 2 ^ (m / 2 ^ 52 - 1) * 2 := Nat.pow_succ _ _
        have hpos := Nat.two_pow_pos (m / 2 ^ 52 - 1)
        rw [hfull, hcarried, hdouble, show (m + 1) % 2 ^ 52 = 0 by omega]
        generalize 2 ^ (m / 2 ^ 52 - 1) = unit at hpos ⊢
        omega

theorem units_zero : units 0 = 0 := rfl

/-- A significand and its exponent are a number of units. -/
theorem significand_mul_exponent (x : Binary64) :
    (x.significand * 2 ^ x.exponent : ℚ) = units x.magnitude * 2 ^ (-1074 : Int) := by
  rw [significand, exponent, units]
  split
  · rfl
  · have hexponent : Int.ofNat (x.magnitude / 2 ^ 52) - 1075 =
        ((x.magnitude / 2 ^ 52 - 1 : Nat) : Int) + -1074 := by
      have hlarge : 1 ≤ x.magnitude / 2 ^ 52 := by omega
      rw [Int.ofNat_eq_natCast]
      omega
    rw [hexponent, zpow_add₀ two_ne_zero, zpow_natCast, ← mul_assoc]
    simp only [Nat.cast_mul, Nat.cast_pow, Nat.cast_ofNat]

/-! ## Ranks -/

/-- What a rank stands for, in units of the smallest positive number. -/
def unitsOfRank (rank : Int) : Int := if rank < 0 then -units rank.natAbs else units rank.natAbs

theorem unitsOfRank_strictMono : StrictMono unitsOfRank := by
  intro a b h
  have hunits : ∀ m n : Nat, m < n → units m < units n := fun _ _ hlt => units_strictMono hlt
  have hzero := units_zero
  rw [unitsOfRank, unitsOfRank]
  split
  case isTrue hneg =>
    split
    case isTrue hneg' =>
      -- further from zero is smaller among the negative numbers
      have := hunits b.natAbs a.natAbs (by omega)
      omega
    case isFalse hpos =>
      have := hunits 0 a.natAbs (by omega)
      omega
  case isFalse hpos =>
    have := hunits a.natAbs b.natAbs (by omega)
    rw [if_neg (by omega)]
    omega

/-- A finite number is its rank, in units of the smallest positive number. -/
theorem toRat?_of_isFinite {x : Binary64} (h : x.isFinite = true) :
    x.toRat? = some ((unitsOfRank x.rank : ℚ) * 2 ^ (-1074 : Int)) := by
  rw [toRat?, if_pos h, significand_mul_exponent]
  dsimp only
  congr 1
  have hunits : (unitsOfRank x.rank : ℚ) =
      if x.negative then -(units x.magnitude : ℚ) else units x.magnitude := by
    rw [unitsOfRank, rank]
    split
    case isTrue hneg =>
      rw [Int.natAbs_neg, Int.ofNat_eq_natCast, Int.natAbs_natCast]
      split
      case isTrue hsign => push_cast; rfl
      case isFalse hzero =>
        -- both zeros are zero
        have hm : x.magnitude = 0 := by omega
        rw [hm, units_zero]
        rfl
    case isFalse hpos =>
      rw [Int.ofNat_eq_natCast, Int.natAbs_natCast, if_neg (by omega)]
      rfl
  rw [hunits]
  split
  · rw [neg_mul]
  · rfl

/-! ## Comparisons -/

theorem not_isNaN_of_isFinite {x : Binary64} (h : x.isFinite = true) : x.isNaN = false := by
  simp only [isFinite, isNaN, decide_eq_true_eq, decide_eq_false_iff_not] at h ⊢
  omega

theorem isFinite_of_toRat? {x : Binary64} {q : ℚ} (h : x.toRat? = some q) : x.isFinite = true := by
  rw [toRat?] at h
  split at h
  case isTrue hfinite => exact hfinite
  case isFalse => cases h

/-- **Finite numbers are ordered as the rational numbers that they stand for.** -/
theorem le_iff_of_toRat? {x y : Binary64} {q r : ℚ} (hx : x.toRat? = some q)
    (hy : y.toRat? = some r) : x.le y = true ↔ q ≤ r := by
  have hxf := isFinite_of_toRat? hx
  have hyf := isFinite_of_toRat? hy
  rw [toRat?_of_isFinite hxf] at hx
  rw [toRat?_of_isFinite hyf] at hy
  cases hx
  cases hy
  have hunit : (0 : ℚ) < 2 ^ (-1074 : Int) := zpow_pos two_pos _
  rw [mul_le_mul_iff_left₀ hunit, Int.cast_le, unitsOfRank_strictMono.le_iff_le, le,
    not_isNaN_of_isFinite hxf, not_isNaN_of_isFinite hyf]
  simp

theorem toRat?_zero : zero.toRat? = some 0 := by
  have hsignificand : zero.significand = 0 := by decide
  have hfinite : zero.isFinite = true := by decide
  rw [toRat?, if_pos hfinite, hsignificand]
  simp

theorem toRat?_one : one.toRat? = some 1 := by
  have hsignificand : one.significand = 2 ^ 52 := by decide
  have hexponent : one.exponent = -52 := by decide
  have hfinite : one.isFinite = true := by decide
  have hpositive : one.negative = false := by decide
  rw [toRat?, if_pos hfinite, hsignificand, hexponent, hpositive]
  norm_num

/-- What lies between finite numbers is finite. -/
theorem isFinite_of_le {lower x upper : Binary64} (hl : lower.isFinite = true)
    (hu : upper.isFinite = true) (hlower : lower.le x = true) (hupper : x.le upper = true) :
    x.isFinite = true := by
  have hrank : ∀ y : Binary64, y.isFinite = true →
      -Int.ofNat infinityMagnitude < y.rank ∧ y.rank < Int.ofNat infinityMagnitude := by
    intro y hy
    simp only [isFinite, decide_eq_true_eq] at hy
    simp only [rank, Int.ofNat_eq_natCast]
    split <;> omega
  obtain ⟨hleast, -⟩ := hrank lower hl
  obtain ⟨-, hgreatest⟩ := hrank upper hu
  simp only [le, Bool.and_eq_true, decide_eq_true_eq] at hlower hupper
  have hbelow := hlower.2
  have habove := hupper.2
  -- so the rank of the number is between those of the infinities
  have hx : -Int.ofNat infinityMagnitude < x.rank ∧ x.rank < Int.ofNat infinityMagnitude := by
    omega
  simp only [rank, Int.ofNat_eq_natCast] at hx
  simp only [isFinite, decide_eq_true_eq]
  split at hx <;> omega

/-- A number lies between finite numbers if and only if it stands for one between theirs. -/
theorem between_iff {lower x upper : Binary64} {a b : ℚ} (hl : lower.toRat? = some a)
    (hu : upper.toRat? = some b) :
    lower.le x = true ∧ x.le upper = true ↔ ∃ q, x.toRat? = some q ∧ a ≤ q ∧ q ≤ b := by
  constructor
  · rintro ⟨hlower, hupper⟩
    have hfinite := isFinite_of_le (isFinite_of_toRat? hl) (isFinite_of_toRat? hu) hlower hupper
    have hx := toRat?_of_isFinite hfinite
    exact ⟨_, hx, (le_iff_of_toRat? hl hx).mp hlower, (le_iff_of_toRat? hx hu).mp hupper⟩
  · rintro ⟨q, hx, hlower, hupper⟩
    exact ⟨(le_iff_of_toRat? hl hx).mpr hlower, (le_iff_of_toRat? hx hu).mpr hupper⟩

end MetricGateway.Number.Binary64
