import Mathlib.Algebra.Order.Ring.Int
import InfixCalculator.Proofs.Magnitude
import InfixCalculator.Proofs.Machine.Effect

/-!
# Exact results

An operation has an exact result, truncated toward zero where it is not an integer, unless it is
undefined.  An operator combines two operands to their exact result if that is short enough, and
it overflows if not (`Operation.combine_operator`): a power that is refused uncomputed would have
been too long (`natAbs_pow_of_refused`).
-/

namespace InfixCalculator

/-- The exact result, truncated toward zero; none where the operation is undefined. -/
def Operation.exactResult : Operation → Int → Int → Option Int
  | .add, left, right => some (left + right)
  | .subtract, left, right => some (left - right)
  | .multiply, left, right => some (left * right)
  | .divide, left, right => if right = 0 then none else some (left.tdiv right)
  | .power, base, exponent =>
      if 0 ≤ exponent then some (base ^ exponent.toNat)
      else if base = 0 then none
      else some (Int.tdiv 1 (base ^ exponent.natAbs))

/-- The outcome of an exact result: itself if it is short enough. -/
def Outcome.ofExact : Option Int → Outcome
  | none => .error .divisionByZero
  | some result => if fits result then .ok result else .error .resultOverflow

/-- A power that is refused for the bits of its base is too long. -/
theorem natAbs_pow_of_refused {base : Int} {exponent : Nat}
    (refused : maxResultBits < (bitLength base - 1) * exponent) :
    2 ^ maxResultBits ≤ (base ^ exponent).natAbs := by
  have nonzero : base ≠ 0 := by
    rintro rfl
    rw [bitLength, if_pos rfl, Nat.zero_sub, Nat.zero_mul] at refused
    exact Nat.not_lt_zero _ refused
  calc 2 ^ maxResultBits
      ≤ 2 ^ ((bitLength base - 1) * exponent) := Nat.pow_le_pow_right (by decide) refused.le
    _ = (2 ^ (bitLength base - 1)) ^ exponent := Nat.pow_mul _ _ _
    _ ≤ base.natAbs ^ exponent := Nat.pow_le_pow_left (two_pow_le_natAbs nonzero) exponent
    _ = (base ^ exponent).natAbs := (Int.natAbs_pow base exponent).symm

/-- One divided by a larger magnitude vanishes. -/
theorem one_tdiv_of_large {divisor : Int} (large : 1 < divisor.natAbs) :
    Int.tdiv 1 divisor = 0 := by
  rw [← Int.natAbs_eq_zero, Int.natAbs_tdiv]
  exact Nat.div_eq_of_lt large

/-- One and minus one are their own reciprocals. -/
theorem one_tdiv_of_unit {divisor : Int} (single : divisor.natAbs = 1) :
    Int.tdiv 1 divisor = divisor := by
  rcases Int.natAbs_eq_iff.mp single with rfl | rfl
  · rfl
  · rfl

/-- A negative power is the reciprocal, truncated toward zero. -/
theorem reciprocalPower_eq {base : Int} {exponent : Nat} (nonzero : base ≠ 0)
    (positive : exponent ≠ 0) :
    reciprocalPower base exponent = .ok (Int.tdiv 1 (base ^ exponent)) := by
  rw [reciprocalPower, if_neg nonzero]
  by_cases single : base.natAbs = 1
  · have unit : (base ^ exponent).natAbs = 1 := by
      rw [Int.natAbs_pow, single, one_pow]
    rw [if_pos single, naturalPower_eq, one_tdiv_of_unit unit]
  · have several : 1 < base.natAbs := by omega
    have large : 1 < (base ^ exponent).natAbs := by
      rw [Int.natAbs_pow]
      exact Nat.one_lt_pow positive several
    rw [if_neg single, one_tdiv_of_large large]

/-- An operator combines two operands to their exact result, if that is short enough. -/
theorem Operation.combine_operator (operation : Operation) (left right : Int) :
    operation.operator.combine left right = Outcome.ofExact (operation.exactResult left right) := by
  unfold Operator.combine
  cases operation with
  | add => rfl
  | subtract => rfl
  | multiply => rfl
  | divide =>
      simp only [operator, Operator.binary, rule, truncatedQuotient, exactResult]
      by_cases zero : right = 0
      · rw [if_pos zero, if_pos zero]
        rfl
      · rw [if_neg zero, if_neg zero]
        rfl
  | power =>
      simp only [operator, Operator.binary, rule, truncatedPower, exactResult]
      by_cases natural : 0 ≤ right
      · rw [if_pos natural, if_pos natural]
        -- A power is refused before it is computed only if it is too long.
        by_cases refused : maxResultBits < (bitLength left - 1) * right.toNat
        · have long : ¬ fits (left ^ right.toNat) = true := by
            rw [fits_eq_true_iff]
            exact Nat.not_lt_of_le (natAbs_pow_of_refused refused)
          rw [if_pos refused, Outcome.ofExact, if_neg long]
          rfl
        · rw [if_neg refused, naturalPower_eq]
          rfl
      · rw [if_neg natural, if_neg natural]
        by_cases zero : left = 0
        · rw [if_pos zero, reciprocalPower, if_pos zero]
          rfl
        · rw [if_neg zero, reciprocalPower_eq zero (by omega)]
          rfl

end InfixCalculator
