import Mathlib.Data.Nat.Log
import RecordFilter.Binary64

/-!
# Rounding keeps the order of integers

The floating-point number nearest to an integer does not fall when the integer grows. Within
one power of two the significand does not fall, and between two powers it stays in the range
that the exponent gives to it; a significand that rounds up to the next power of two is the
smallest one there.
-/

set_option autoImplicit false

namespace RecordFilter.Binary64

/-! ## Quotients -/

theorem roundQuotient_mono {m n : Nat} (le : m ≤ n) (divisor : Nat) :
    roundQuotient m divisor ≤ roundQuotient n divisor := by
  have quotients : m / divisor ≤ n / divisor := Nat.div_le_div_right le
  have firstParts := Nat.div_add_mod m divisor
  have secondParts := Nat.div_add_mod n divisor
  unfold roundQuotient
  dsimp only
  rcases Nat.lt_or_eq_of_le quotients with below | same
  · split <;> split <;> omega
  · rw [same] at firstParts ⊢
    split
    next up =>
      have further : (decide (divisor < 2 * (n % divisor)) ||
          (decide (2 * (n % divisor) = divisor) && decide (n / divisor % 2 = 1))) = true := by
        simp only [Bool.or_eq_true, Bool.and_eq_true, decide_eq_true_eq] at up ⊢
        omega
      rw [if_pos further]
    next => split <;> omega

theorem roundQuotient_mul {divisor : Nat} (positive : 0 < divisor) (quotient : Nat) :
    roundQuotient (quotient * divisor) divisor = quotient := by
  unfold roundQuotient
  simp [Nat.mul_div_cancel quotient positive]
  omega

/-! ## Magnitudes of integers -/

/-- The significand of 53 bits for an integer, or the power of two above it. -/
def roundedSignificand (n : Nat) : Nat :=
  if 52 ≤ n.log2 then roundQuotient n (Nat.pow 2 (n.log2 - 52))
  else n * Nat.pow 2 (52 - n.log2)

theorem binaryExponent_one {n : Nat} (positive : n ≠ 0) : binaryExponent n 1 = n.log2 := by
  have reached := Nat.log2_self_le positive
  have one : Nat.log2 1 = 0 := by decide
  simp only [binaryExponent, one, Nat.pow_eq, Nat.one_mul, Int.natCast_zero, Int.sub_zero,
    Int.natCast_nonneg, ↓reduceIte, Int.toNat_natCast, Nat.not_lt.mpr reached]

theorem nearestMagnitude_one {n : Nat} (positive : n ≠ 0) :
    nearestMagnitude n 1 =
      min ((n.log2 + 1022) * leadingBit + roundedSignificand n) infinity := by
  have shift : max ((n.log2 : Int) - 52) (-1074) = (n.log2 : Int) - 52 := by omega
  have exponent : ((n.log2 : Int) - 52 + 1074).toNat = n.log2 + 1022 := by omega
  have down : ((n.log2 : Int) - 52).toNat = n.log2 - 52 := by omega
  have up : (-((n.log2 : Int) - 52)).toNat = 52 - n.log2 := by omega
  have large : 0 ≤ (n.log2 : Int) - 52 ↔ 52 ≤ n.log2 := by omega
  have whole : roundQuotient (n * 2 ^ (52 - n.log2)) 1 = n * 2 ^ (52 - n.log2) := by
    simpa using roundQuotient_mul Nat.one_pos (n * 2 ^ (52 - n.log2))
  simp only [nearestMagnitude, positive, ↓reduceIte, binaryExponent_one positive, shift, exponent,
    down, up, large, Nat.pow_eq, Nat.one_mul, whole, roundedSignificand]

theorem roundedSignificand_bounds {n : Nat} (positive : n ≠ 0) :
    leadingBit ≤ roundedSignificand n ∧ roundedSignificand n ≤ 2 * leadingBit := by
  have lower := Nat.log2_self_le positive
  have upper := Nat.lt_log2_self (n := n)
  have bit : leadingBit = 2 ^ 52 := by decide
  unfold roundedSignificand
  rw [bit]
  split
  next large =>
    have unit : 0 < 2 ^ (n.log2 - 52) := Nat.two_pow_pos _
    have least : 2 ^ 52 * 2 ^ (n.log2 - 52) = 2 ^ n.log2 := by
      rw [← Nat.pow_add, Nat.add_sub_cancel' large]
    have most : 2 * 2 ^ 52 * 2 ^ (n.log2 - 52) = 2 ^ (n.log2 + 1) := by
      rw [Nat.mul_assoc, least, Nat.pow_succ']
    constructor
    · rw [← roundQuotient_mul unit (2 ^ 52), least]
      exact roundQuotient_mono lower _
    · rw [← roundQuotient_mul unit (2 * 2 ^ 52), most]
      exact roundQuotient_mono upper.le _
  next small =>
    have least : 2 ^ n.log2 * 2 ^ (52 - n.log2) = 2 ^ 52 := by
      rw [← Nat.pow_add, Nat.add_sub_cancel' (by omega)]
    have most : 2 ^ (n.log2 + 1) * 2 ^ (52 - n.log2) = 2 * 2 ^ 52 := by
      rw [Nat.pow_succ', Nat.mul_assoc, least]
    constructor
    · rw [← least]
      exact Nat.mul_le_mul_right _ lower
    · rw [← most]
      exact Nat.mul_le_mul_right _ upper.le

theorem roundedSignificand_mono {m n : Nat} (le : m ≤ n) (binade : m.log2 = n.log2) :
    roundedSignificand m ≤ roundedSignificand n := by
  unfold roundedSignificand
  rw [binade]
  split
  · exact roundQuotient_mono le _
  · exact Nat.mul_le_mul_right _ le

theorem nearestMagnitude_mono {m n : Nat} (le : m ≤ n) :
    nearestMagnitude m 1 ≤ nearestMagnitude n 1 := by
  by_cases zero : m = 0
  · simp [nearestMagnitude, zero]
  · have positive : n ≠ 0 := by omega
    have exponents : m.log2 ≤ n.log2 := by
      rw [Nat.log2_eq_log_two, Nat.log2_eq_log_two]
      exact Nat.log_mono_right le
    have sums : (m.log2 + 1022) * leadingBit + roundedSignificand m ≤
        (n.log2 + 1022) * leadingBit + roundedSignificand n := by
      rcases Nat.lt_or_eq_of_le exponents with below | same
      · have carried := (roundedSignificand_bounds zero).2
        have least := (roundedSignificand_bounds positive).1
        have next : (m.log2 + 1022 + 1) * leadingBit ≤ (n.log2 + 1022) * leadingBit :=
          Nat.mul_le_mul_right _ (by omega)
        rw [Nat.succ_mul] at next
        omega
      · rw [same]
        exact Nat.add_le_add_left (roundedSignificand_mono le same) _
    rw [nearestMagnitude_one zero, nearestMagnitude_one positive]
    omega

theorem nearestMagnitude_le_infinity (numerator denominator : Nat) :
    nearestMagnitude numerator denominator ≤ infinity := by
  unfold nearestMagnitude
  split
  · exact Nat.zero_le _
  · exact Nat.min_le_right _ _

/-! ## Numbers of integers -/

section Parts

variable {negative : Bool} {magnitude : Nat} (bounded : magnitude < signBit)

include bounded

theorem toNat_bits_ofParts :
    (ofParts negative magnitude).bits.toNat = (if negative then signBit else 0) + magnitude := by
  have bit : signBit = 9223372036854775808 := rfl
  rw [ofParts]
  apply UInt64.toNat_ofNat_of_lt'
  show _ < 18446744073709551616
  split <;> omega

theorem magnitude_ofParts : (ofParts negative magnitude).magnitude = magnitude := by
  rw [Binary64.magnitude, toNat_bits_ofParts bounded]
  cases negative with
  | false => simpa using Nat.mod_eq_of_lt bounded
  | true => simpa using Nat.mod_eq_of_lt bounded

theorem isNegative_ofParts : (ofParts negative magnitude).isNegative = negative := by
  rw [isNegative, toNat_bits_ofParts bounded]
  cases negative with
  | false => simpa using bounded
  | true => simp

end Parts

theorem nearestMagnitude_lt_signBit (n : Nat) : nearestMagnitude n 1 < signBit :=
  Nat.lt_of_le_of_lt (nearestMagnitude_le_infinity n 1) (by decide)

theorem isNaN_ofInt (n : Int) : (ofInt n).isNaN = false := by
  rw [isNaN, ofInt, ofFraction, magnitude_ofParts (nearestMagnitude_lt_signBit _)]
  exact decide_eq_false (Nat.not_lt.mpr (nearestMagnitude_le_infinity _ _))

theorem rank_ofInt (n : Int) :
    (ofInt n).rank =
      if n < 0 then -(nearestMagnitude n.natAbs 1 : Int) else nearestMagnitude n.natAbs 1 := by
  have bounded := nearestMagnitude_lt_signBit n.natAbs
  rw [rank, ofInt, ofFraction, isNegative_ofParts bounded, magnitude_ofParts bounded]
  simp only [decide_eq_true_eq]

theorem rank_ofInt_mono {m n : Int} (le : m ≤ n) : (ofInt m).rank ≤ (ofInt n).rank := by
  rw [rank_ofInt, rank_ofInt]
  split
  next negative =>
    split
    next =>
      have shrinking : n.natAbs ≤ m.natAbs := by omega
      have magnitudes := nearestMagnitude_mono shrinking
      omega
    next => omega
  next =>
    have growing : m.natAbs ≤ n.natAbs := by omega
    have magnitudes := nearestMagnitude_mono growing
    split <;> omega

end RecordFilter.Binary64
