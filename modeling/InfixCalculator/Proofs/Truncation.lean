import Mathlib.Algebra.Order.Floor.Ring
import Mathlib.Data.Rat.Floor
import InfixCalculator.Proofs.Exactness

/-!
# Truncated rational values

Every operation has an exact rational value where it is defined, and its exact result is that value
without its fraction (`Operation.exactResult_eq_map_truncate`).  So a reduction by an operator is
exact arithmetic with an exact bound: it fails where the operation is undefined, it overflows where
the truncated value is too long, and it puts that value back otherwise (`Machine.reduce_exact`).
-/

namespace InfixCalculator

/-- A rational number without its fraction: the nearest integer toward zero. -/
def truncate (value : ℚ) : Int :=
  if 0 ≤ value then ⌊value⌋ else ⌈value⌉

@[simp] theorem truncate_intCast (value : Int) : truncate value = value := by
  rw [truncate, Int.floor_intCast, Int.ceil_intCast, ite_self]

/-- Truncation is towards zero, so it does not mind the sign. -/
theorem truncate_neg (value : ℚ) : truncate (-value) = -truncate value := by
  rcases lt_trichotomy value 0 with negative | rfl | positive
  · rw [truncate, if_pos (neg_nonneg.mpr negative.le), truncate, if_neg negative.not_ge,
      Int.floor_neg]
  · rfl
  · rw [truncate, if_neg (neg_neg_of_pos positive).not_ge, truncate, if_pos positive.le,
      Int.ceil_neg]

/-- The quotient of two magnitudes is truncated downward. -/
theorem truncate_natCast_div (left right : Nat) :
    truncate ((left : ℚ) / right) = ((left : Int).tdiv right) := by
  have nonneg : (0 : ℚ) ≤ left / right := div_nonneg left.cast_nonneg right.cast_nonneg
  rw [truncate, if_pos nonneg, Rat.floor_natCast_div_natCast, ← Int.ofNat_tdiv,
    Int.natCast_ediv]

/-- The truncated quotient of two integers is the quotient of their magnitudes, signed. -/
theorem truncate_div (left right : Int) :
    truncate ((left : ℚ) / right) = left.tdiv right := by
  obtain ⟨dividend, rfl | rfl⟩ := left.eq_nat_or_neg <;>
    obtain ⟨divisor, rfl | rfl⟩ := right.eq_nat_or_neg
  · exact truncate_natCast_div dividend divisor
  · rw [Int.cast_neg, div_neg, truncate_neg, Int.tdiv_neg]
    exact congrArg Neg.neg (truncate_natCast_div dividend divisor)
  · rw [Int.cast_neg, neg_div, truncate_neg, Int.neg_tdiv]
    exact congrArg Neg.neg (truncate_natCast_div dividend divisor)
  · rw [Int.cast_neg, Int.cast_neg, neg_div_neg_eq, Int.neg_tdiv, Int.tdiv_neg, neg_neg]
    exact truncate_natCast_div dividend divisor

namespace Operation

/-- The exact value of an operation, unless it is undefined. -/
def exactValue (operation : Operation) (left right : Int) : Option ℚ :=
  match operation with
  | .add => some (left + right)
  | .subtract => some (left - right)
  | .multiply => some (left * right)
  | .divide => if right = 0 then none else some (left / right)
  | .power => if left = 0 ∧ right < 0 then none else some ((left : ℚ) ^ right)

/-- A power with a negative exponent is a reciprocal. -/
theorem truncate_zpow_of_neg (base : Int) {exponent : Int} (negative : exponent < 0) :
    truncate ((base : ℚ) ^ exponent) = Int.tdiv 1 (base ^ exponent.natAbs) := by
  have flipped : exponent = -(exponent.natAbs : Int) := by omega
  calc truncate ((base : ℚ) ^ exponent)
      = truncate ((base : ℚ) ^ (-(exponent.natAbs : Int))) := by rw [← flipped]
    _ = truncate (((1 : Int) : ℚ) / ((base ^ exponent.natAbs : Int) : ℚ)) := by
        rw [zpow_neg, zpow_natCast, Int.cast_one, Int.cast_pow, one_div]
    _ = Int.tdiv 1 (base ^ exponent.natAbs) := truncate_div _ _

/-- The exact result of an operation is its exact value, truncated. -/
theorem exactResult_eq_map_truncate (operation : Operation) (left right : Int) :
    operation.exactResult left right = (operation.exactValue left right).map truncate := by
  cases operation with
  | add =>
      rw [exactResult, exactValue, Option.map_some, ← Int.cast_add, truncate_intCast]
  | subtract =>
      rw [exactResult, exactValue, Option.map_some, ← Int.cast_sub, truncate_intCast]
  | multiply =>
      rw [exactResult, exactValue, Option.map_some, ← Int.cast_mul, truncate_intCast]
  | divide =>
      rw [exactResult, exactValue]
      split
      · rfl
      · rw [Option.map_some, truncate_div]
  | power =>
      rw [exactResult, exactValue]
      by_cases natural : 0 ≤ right
      · have integral : (left : ℚ) ^ right = ((left ^ right.toNat : Int) : ℚ) := by
          conv_lhs => rw [← Int.toNat_of_nonneg natural, zpow_natCast]
          rw [Int.cast_pow]
        rw [if_pos natural, if_neg fun undefined => not_lt_of_ge natural undefined.2,
          Option.map_some, integral, truncate_intCast]
      · have negative : right < 0 := lt_of_not_ge natural
        rw [if_neg natural]
        by_cases zero : left = 0
        · rw [if_pos zero, if_pos ⟨zero, negative⟩]
          rfl
        · rw [if_neg zero, if_neg fun undefined => zero undefined.1, Option.map_some,
            truncate_zpow_of_neg left negative]

/-- An operator combines two operands to their truncated value, if that is short enough. -/
theorem combine_eq_ofExact (operation : Operation) (left right : Int) :
    operation.operator.combine left right =
      Outcome.ofExact ((operation.exactValue left right).map truncate) := by
  rw [combine_operator, exactResult_eq_map_truncate]

/-- A power that is refused uncomputed has a value that is too long. -/
theorem exists_exactValue_of_refused {operation : Operation} {left right : Int} {fault : Fault}
    (fails : operation.rule left right = .error fault) (refused : fault.cause = .powerTooLarge) :
    ∃ exact, operation.exactValue left right = some exact ∧
      maxResultBits < bitLength (truncate exact) := by
  have overflows : operation.operator.combine left right = .error .resultOverflow := by
    unfold Operator.combine operator Operator.binary
    simp only [fails, Fault.kind, refused, Cause.kind]
  rw [combine_eq_ofExact] at overflows
  cases exists? : operation.exactValue left right with
  | none =>
      rw [exists?] at overflows
      cases overflows
  | some exact =>
      refine ⟨exact, rfl, ?_⟩
      by_contra short
      rw [exists?, Option.map_some, Outcome.ofExact, fits, if_pos (by simpa using short)]
        at overflows
      cases overflows

/-- What a truncated quotient leaves over is less than the divisor and has the sign of the
dividend. -/
theorem remainder_of_quotient {left right : Int} {exact : ℚ}
    (quotient : divide.exactValue left right = some exact) :
    let remainder := left - truncate exact * right
    remainder.natAbs < right.natAbs ∧ (remainder = 0 ∨ remainder.sign = left.sign) := by
  intro remainder
  rw [exactValue, Option.ite_none_left_eq_some, Option.some.injEq] at quotient
  obtain ⟨nonzero, rfl⟩ := quotient
  have left_over : remainder = left.tmod right := by
    rw [Int.tmod_def, ← truncate_div, Int.mul_comm]
  rw [left_over]
  constructor
  · rw [Int.natAbs_tmod]
    exact Nat.mod_lt _ (Int.natAbs_pos.mpr nonzero)
  · by_cases divides : right ∣ left
    · exact Or.inl (Int.tmod_eq_zero_of_dvd divides)
    · right
      rw [Int.sign_tmod, if_neg divides]

end Operation

/-! ## Reductions -/

namespace Machine

variable {machine : Machine} {operation : Operation} {waiting : List Operator}
  {operands : List Int} {left right : Int}

/-- **A reduction is exact arithmetic with an exact bound.** With a standard operator and two
operands of any size on top, it divides by zero exactly where the operation is undefined, and it
overflows exactly where the truncated value has too many bits.  Otherwise it puts that value in place
of the operands and takes the operator away.  A power is never refused unless it is too long, and
what a quotient leaves over is less than the divisor and has the sign of the dividend. -/
theorem reduce_exact (top : machine.operators = operation.operator :: waiting)
    (pair : machine.operands = right :: left :: operands) (position : Option Int) :
    let step := machine.reduce position
    ((∃ fault, step.outcome = .error fault ∧ fault.kind = .divisionByZero) ↔
        operation.exactValue left right = none) ∧
      (∀ exact, operation.exactValue left right = some exact →
        ((∃ fault, step.outcome = .error fault ∧ fault.kind = .resultOverflow) ↔
            maxResultBits < bitLength (truncate exact)) ∧
          (bitLength (truncate exact) ≤ maxResultBits → step.outcome = .ok () ∧
            step.machine.unrecorded = { machine.unrecorded with
              operands := truncate exact :: operands
              operators := waiting })) ∧
      (∀ fault, operation.rule left right = .error fault → fault.cause = .powerTooLarge →
        ∃ exact, operation.exactValue left right = some exact ∧
          maxResultBits < bitLength (truncate exact)) ∧
      ∀ exact, operation = .divide → operation.exactValue left right = some exact →
        let remainder := left - truncate exact * right
        remainder.natAbs < right.natAbs ∧ (remainder = 0 ∨ remainder.sign = left.sign) := by
  intro step
  -- All that is claimed of the machine is in its effect, which the exact value decides.
  have effect : step.effect = _ := effect_reduce top pair position
  rw [operation.combine_eq_ofExact] at effect
  refine ⟨?_, ?_, fun fault => Operation.exists_exactValue_of_refused, ?_⟩
  · rw [← step.effect_eq_error_iff, effect]
    cases operation.exactValue left right with
    | none => exact ⟨fun _ => rfl, fun _ => rfl⟩
    | some exact =>
        rw [Option.map_some, Outcome.ofExact]
        split
        · simp
        · simp
  · intro exact valued
    rw [valued, Option.map_some, Outcome.ofExact] at effect
    rw [← step.effect_eq_error_iff, ← not_le]
    by_cases short : bitLength (truncate exact) ≤ maxResultBits
    · rw [if_pos (show fits _ = true from decide_eq_true short)] at effect
      refine ⟨⟨?_, fun long => absurd short long⟩, fun _ =>
        ⟨step.outcome_of_effect effect, step.unrecorded_of_effect effect⟩⟩
      intro overflows
      rw [effect] at overflows
      cases overflows
    · rw [if_neg (show ¬fits _ = true from fun fitting => short (of_decide_eq_true fitting))]
        at effect
      exact ⟨⟨fun _ => short, fun _ => effect⟩, fun fitting => absurd fitting short⟩
  · rintro exact rfl quotient
    exact Operation.remainder_of_quotient quotient

/-- Minus seven halves leave minus three. -/
theorem reduce_exact_quotient :
    let machine : Machine :=
      { start with
        operands := [2, -7]
        operators := [Operation.divide.operator, Operator.start] }
    machine.operators = Operation.divide.operator :: [Operator.start] ∧
      machine.operands = 2 :: -7 :: [] ∧
      (machine.reduce none).outcome = .ok () ∧
      (machine.reduce none).machine.unrecorded = { machine.unrecorded with
        operands := [-3]
        operators := [Operator.start] } := by
  intro machine
  have defined : Operation.divide.exactValue (-7) 2 = some (((-7 : Int) : ℚ) / (2 : Int)) := rfl
  have truncated : truncate (((-7 : Int) : ℚ) / (2 : Int)) = -3 := truncate_div (-7) 2
  have top : machine.operators = Operation.divide.operator :: [Operator.start] := rfl
  have pair : machine.operands = 2 :: -7 :: [] := rfl
  have value := ((reduce_exact top pair none).2.1 _ defined).2
  rw [truncated] at value
  exact ⟨top, pair, value (by decide)⟩

end Machine

end InfixCalculator
