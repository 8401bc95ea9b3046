import Mathlib.Algebra.Ring.Int.Defs
import Mathlib.Algebra.Ring.Nat
import InfixCalculator.Arithmetic

/-!
# Magnitudes and powers

The bits of a number bound its magnitude by a power of two (`bitLength_le_iff`), so the size
limit is such a bound (`fits_eq_true_iff`), and the calculator's power with a natural exponent is
the power (`naturalPower_eq`).
-/

namespace InfixCalculator

/-- A magnitude has at most `bits` bits exactly below that power of two. -/
theorem bitLength_le_iff (number : Int) (bits : Nat) :
    bitLength number ≤ bits ↔ number.natAbs < 2 ^ bits := by
  by_cases zero : number = 0
  · rw [bitLength, if_pos zero, zero]
    exact ⟨fun _ => Nat.two_pow_pos bits, fun _ => Nat.zero_le bits⟩
  · have magnitude : number.natAbs ≠ 0 := Int.natAbs_ne_zero.2 zero
    rw [bitLength, if_neg zero, Nat.succ_le_iff]
    exact Nat.log2_lt magnitude

/-- A number fits below the power of two of the size limit. -/
theorem fits_eq_true_iff (number : Int) :
    fits number = true ↔ number.natAbs < 2 ^ maxResultBits := by
  rw [fits, decide_eq_true_eq]
  exact bitLength_le_iff number maxResultBits

/-- A number other than zero is at least the power of two that its bits begin with. -/
theorem two_pow_le_natAbs {number : Int} (nonzero : number ≠ 0) :
    2 ^ (bitLength number - 1) ≤ number.natAbs := by
  have positive : 0 < bitLength number := by
    rw [bitLength, if_neg nonzero]
    exact Nat.succ_pos _
  have exceeds : ¬ bitLength number ≤ bitLength number - 1 := by omega
  rw [bitLength_le_iff] at exceeds
  exact Nat.le_of_not_lt exceeds

/-- A power of minus one depends on the parity of its exponent alone. -/
theorem minusOne_pow (half parity : Nat) :
    (-1 : Int) ^ (2 * half + parity) = (-1) ^ parity := by
  have square : (-1 : Int) ^ 2 = 1 := rfl
  rw [pow_add, pow_mul, square, one_pow, one_mul]

/-- Reducing the exponent keeps the power. -/
theorem naturalPower_eq (base : Int) (exponent : Nat) :
    naturalPower base exponent = base ^ exponent := by
  rw [naturalPower]
  split
  · rename_i short
    change base ^ reducedExponent exponent = base ^ exponent
    by_cases vanishing : exponent = 0
    · rw [reducedExponent, if_pos vanishing, vanishing]
    · have bases : base = 0 ∨ base = 1 ∨ base = -1 := by omega
      rw [reducedExponent, if_neg vanishing]
      rcases bases with rfl | rfl | rfl
      · rw [Int.zero_pow vanishing, Int.zero_pow (by omega)]
      · rw [one_pow, one_pow]
      · have parity := minusOne_pow (exponent / 2) (exponent % 2)
        rw [Nat.div_add_mod] at parity
        rw [parity]
        rcases Nat.mod_two_eq_zero_or_one exponent with even | odd
        · rw [even]
          rfl
        · rw [odd]
  · rfl

end InfixCalculator
