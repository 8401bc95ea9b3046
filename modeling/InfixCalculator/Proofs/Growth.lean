import Mathlib.Algebra.Order.Ring.Int
import InfixCalculator.Evaluator
import InfixCalculator.Proofs.Machine.Calls

/-!
# Growth of numbers

The operands of every operation are within the size limit, and from such operands an operation
computes at most twice as many bits (`Operation.bitLength_le_of_rule`).  For powers that is what
their refusal is for: it counts all bits but one of each factor, so a power that is not refused has
at most twice the bits that it counts (`bitLength_pow_le`).  Hence no run computes a huge number,
whatever numbers it is given, even if it fails (`Evaluator.runStream_bounded`).
-/

namespace InfixCalculator

section Bits

variable {left right value : Int} {bits : Nat}

/-- The larger magnitude has the more bits. -/
theorem bitLength_le_of_natAbs_le (within : value.natAbs ≤ left.natAbs) :
    bitLength value ≤ bitLength left := by
  rw [bitLength_le_iff]
  exact Nat.lt_of_le_of_lt within ((bitLength_le_iff left _).mp (Nat.le_refl _))

/-- A sum or a difference has at most one bit more than its terms. -/
theorem bitLength_le_of_natAbs_le_add (short : bitLength left ≤ bits)
    (otherShort : bitLength right ≤ bits)
    (within : value.natAbs ≤ left.natAbs + right.natAbs) : bitLength value ≤ bits + 1 := by
  rw [bitLength_le_iff] at short otherShort ⊢
  rw [Nat.two_pow_succ]
  omega

/-- A product has at most the bits of its factors together. -/
theorem bitLength_mul_le (left right : Int) :
    bitLength (left * right) ≤ bitLength left + bitLength right := by
  rw [bitLength_le_iff, Int.natAbs_mul, Nat.pow_add]
  exact Nat.mul_lt_mul'' ((bitLength_le_iff left _).mp (Nat.le_refl _))
    ((bitLength_le_iff right _).mp (Nat.le_refl _))

/-- A power of zero, one or minus one has at most one bit. -/
theorem bitLength_pow_le_one {base : Int} (single : bitLength base ≤ 1) (exponent : Nat) :
    bitLength (base ^ exponent) ≤ 1 := by
  rw [bitLength_le_iff] at single ⊢
  calc (base ^ exponent).natAbs
      = base.natAbs ^ exponent := Int.natAbs_pow base exponent
    _ ≤ 1 ^ exponent := Nat.pow_le_pow_left (Nat.le_of_lt_succ single) exponent
    _ = 1 := Nat.one_pow exponent
    _ < 2 ^ 1 := by decide

/-- A power has at most twice as many bits as are counted if one bit of each factor is not. -/
theorem bitLength_pow_le {base : Int} {exponent : Nat} (positive : 0 < bits)
    (counted : (bitLength base - 1) * exponent ≤ bits) :
    bitLength (base ^ exponent) ≤ 2 * bits := by
  by_cases vanishing : exponent = 0
  · rw [vanishing, pow_zero, bitLength_le_iff]
    exact Nat.one_lt_two_pow (by omega)
  · by_cases single : bitLength base ≤ 1
    · exact Nat.le_trans (bitLength_pow_le_one single exponent) (by omega)
    · have below : base.natAbs < 2 ^ bitLength base := (bitLength_le_iff base _).mp (Nat.le_refl _)
      -- With at least two bits in each factor, no more bits are left out than are counted.
      have doubled : bitLength base * exponent ≤ 2 * bits :=
        calc bitLength base * exponent
            ≤ 2 * (bitLength base - 1) * exponent := Nat.mul_le_mul_right exponent (by omega)
          _ = 2 * ((bitLength base - 1) * exponent) := Nat.mul_assoc _ _ _
          _ ≤ 2 * bits := Nat.mul_le_mul_left 2 counted
      rw [bitLength_le_iff]
      calc (base ^ exponent).natAbs
          = base.natAbs ^ exponent := Int.natAbs_pow base exponent
        _ < (2 ^ bitLength base) ^ exponent := Nat.pow_lt_pow_left below vanishing
        _ = 2 ^ (bitLength base * exponent) := (Nat.pow_mul 2 _ _).symm
        _ ≤ 2 ^ (2 * bits) := Nat.pow_le_pow_right (by decide) doubled

end Bits

namespace Operation

variable {left right value : Int}

/-- A power that is computed has at most twice as many bits as the limit. -/
theorem bitLength_le_of_truncatedPower (computes : truncatedPower left right = .ok value) :
    bitLength value ≤ 2 * maxResultBits := by
  simp only [truncatedPower, reciprocalPower, arithmeticFault] at computes
  split at computes
  · split at computes
    · cases computes
    · rename_i admitted
      cases computes
      rw [naturalPower_eq]
      exact bitLength_pow_le (by decide) (Nat.le_of_not_lt admitted)
  · split at computes
    · cases computes
    · split at computes
      · rename_i unit
        cases computes
        have single : bitLength left ≤ 1 := by
          rw [bitLength_le_iff, unit]
          decide
        rw [naturalPower_eq]
        exact Nat.le_trans (bitLength_pow_le_one single _) (by decide)
      · cases computes
        decide

/-- From operands within the size limit an operation computes at most twice as many bits. -/
theorem bitLength_le_of_rule {operation : Operation} (short : bitLength left ≤ maxResultBits)
    (otherShort : bitLength right ≤ maxResultBits)
    (computes : operation.rule left right = .ok value) :
    bitLength value ≤ 2 * maxResultBits := by
  have room : maxResultBits + 1 ≤ 2 * maxResultBits := by decide
  cases operation with
  | add =>
      cases computes
      exact Nat.le_trans
        (bitLength_le_of_natAbs_le_add short otherShort (Int.natAbs_add_le left right)) room
  | subtract =>
      cases computes
      exact Nat.le_trans
        (bitLength_le_of_natAbs_le_add short otherShort (Int.natAbs_sub_le left right)) room
  | multiply =>
      cases computes
      calc bitLength (left * right)
          ≤ bitLength left + bitLength right := bitLength_mul_le left right
        _ ≤ 2 * maxResultBits := by omega
  | divide =>
      simp only [rule, truncatedQuotient, arithmeticFault] at computes
      split at computes
      · cases computes
      · cases computes
        calc bitLength (left.tdiv right)
            ≤ bitLength left := bitLength_le_of_natAbs_le (Int.natAbs_tdiv_le_natAbs left right)
          _ ≤ 2 * maxResultBits := by omega
  | power => exact bitLength_le_of_truncatedPower computes

/-- A power of more than twice the bits of the limit is refused. -/
theorem rule_power_of_long (natural : 0 ≤ right)
    (long : 2 * maxResultBits < bitLength (left ^ right.toNat)) :
    power.rule left right = .error ⟨.powerTooLarge, none⟩ := by
  have refused : maxResultBits < (bitLength left - 1) * right.toNat := by
    by_contra admitted
    exact Nat.not_lt_of_le (bitLength_pow_le (by decide) (Nat.le_of_not_lt admitted)) long
  simp only [rule, truncatedPower, arithmeticFault]
  rw [if_pos natural, if_pos refused]

end Operation

/-- Every rule of a table is that of an operation. -/
def OperatorTable.AppliesOperations (table : OperatorTable) : Prop :=
  ∀ operator ∈ table.operators, ∀ rule ∈ operator.rule,
    ∃ operation : Operation, rule = operation.rule

/-- An attempt calls the rule of an operation, and no number that has to do with it is huge. -/
structure Attempt.Bounded (attempt : Attempt) (operation : Operation) : Prop where
  rule : attempt.operator.rule = some operation.rule
  result : attempt.result = operation.rule attempt.left attempt.right
  left : bitLength attempt.left ≤ maxResultBits
  right : bitLength attempt.right ≤ maxResultBits
  value : ∀ value, attempt.result = .ok value → bitLength value ≤ 2 * maxResultBits
  /-- A longer power is not computed. -/
  power : operation = .power → 0 ≤ attempt.right →
    2 * maxResultBits < bitLength (attempt.left ^ attempt.right.toNat) →
      attempt.result = .error ⟨.powerTooLarge, none⟩

/-- Calls of the rules of operations are bounded. -/
theorem Attempt.IsCall.exists_bounded {table : OperatorTable} {attempt : Attempt}
    (applies : table.AppliesOperations) (isCall : attempt.IsCall table) :
    ∃ operation, attempt.Bounded operation := by
  obtain ⟨rule, ruled, applied⟩ := Option.map_eq_some_iff.mp isCall.applied
  obtain ⟨operation, rfl⟩ := applies attempt.operator isCall.member rule ruled
  have short : bitLength attempt.left ≤ maxResultBits := of_decide_eq_true isCall.left
  have otherShort : bitLength attempt.right ≤ maxResultBits := of_decide_eq_true isCall.right
  refine ⟨operation, ruled, applied.symm, short, otherShort, fun value computes => ?_, ?_⟩
  · exact Operation.bitLength_le_of_rule short otherShort (applied.trans computes)
  · rintro rfl natural long
    rw [← applied]
    exact Operation.rule_power_of_long natural long

/-- **No run computes a huge number.** If the rules of a table are those of the operations, then
every application of a rule in a run is bounded, whether the run succeeds or fails, and whatever
numbers it is given. -/
theorem Evaluator.runStream_bounded (evaluator : Evaluator)
    (applies : evaluator.table.AppliesOperations) (stream : TokenStream) :
    ∀ attempt ∈ (evaluator.runStream stream).machine.attempts,
      ∃ operation, attempt.Bounded operation := by
  intro attempt member
  have admits : ∀ place : Int, Admits (fun _ => True) (some place) :=
    fun _ => ⟨fun _ _ => trivial, fun _ => trivial, trivial⟩
  have admitted : ∀ token ∈ stream.tokens, token.Admitted fun _ => True := by
    rintro (⟨value, position⟩ | ⟨symbol, position⟩) _
    · exact Or.inr trivial
    · trivial
  have run := (Machine.lawful_start evaluator.table).run 0 admits admitted fun _ _ => trivial
  exact (run.machine.calls attempt member).exists_bounded applies

/-- The rules of the calculator are the operations. -/
theorem OperatorTable.appliesOperations_standard : standard.AppliesOperations := by
  intro operator member rule ruled
  rcases List.mem_append.mp member with arithmetic | delimiter
  · obtain ⟨operation, _, rfl⟩ := List.mem_map.mp arithmetic
    exact ⟨operation, (Option.some.inj ruled).symm⟩
  · have ruleless : operator.rule = none := by
      rcases List.mem_pair.mp delimiter with rfl | rfl
      · rfl
      · rfl
    rw [ruleless] at ruled
    cases ruled

/-- In `9^9^9` the upper power is computed, and the lower one is refused. -/
theorem Evaluator.runStream_bounded_tower :
    let tower : List Token :=
      [.number 9 0, .symbol "^" 1, .number 9 2, .symbol "^" 3, .number 9 4]
    let step := Evaluator.standard.runTokens tower
    OperatorTable.standard.AppliesOperations ∧
      step.machine.attempts.map (fun attempt => (attempt.left, attempt.right)) =
        [(9, 387420489), (9, 9)] ∧
      step.outcome = .error ⟨.powerTooLarge, none⟩ ∧
      ∀ attempt ∈ step.machine.attempts, ∃ operation, attempt.Bounded operation := by
  intro tower step
  refine ⟨OperatorTable.appliesOperations_standard, by decide, by decide, ?_⟩
  exact Evaluator.standard.runStream_bounded OperatorTable.appliesOperations_standard _

end InfixCalculator
