import Mathlib.Logic.Relation
import InfixCalculator.Proofs.Machine.Calls
import InfixCalculator.Proofs.Machine.Fluency

/-!
# What a failed step leaves behind

On a machine that has only taken in tokens, a step fails in one of two ways.  Either it refuses its
token before it changes anything, or one of the reductions that it makes is broken off: the rule of
an operator fails, or its result is too large (`Machine.BreaksOff`).  Then the reductions before it
are made, the operator and its two operands are gone, and nothing is put back; what is open and
what is due have not changed (`Machine.BreaksOff.retained`).  The end of the input can fail in a
third way, after all its reductions (`Machine.Settles`).

`Machine.ConsumeFails` and `Machine.FinishFails` list these ways, and no guard of a reduction is
among them: a waiting operator that has a rule has its operands (`Machine.Fluent.exists_offers`).
-/

namespace InfixCalculator

/-- Every operator of a table that delimits no group has a rule. -/
def OperatorTable.IsRuled (table : OperatorTable) : Prop :=
  ∀ operator ∈ table.operators, operator.isPlain = true → operator.isBinary = true

instance (table : OperatorTable) : Decidable table.IsRuled :=
  inferInstanceAs (Decidable (∀ operator ∈ table.operators,
    operator.isPlain = true → operator.isBinary = true))

/-- The causes for which a token is refused where it stands. -/
def Cause.isRefusal : Cause → Bool
  | operatorDueBeforeNumber | operandTooLarge | operatorDueBefore _ | operandDueBefore _
  | closerWithoutOpener _ _ => true
  | _ => false

/-- A refusal is not one of the faults of a reduction. -/
theorem Cause.not_reduction_of_isRefusal {cause : Cause} (refusal : cause.isRefusal = true) :
    ¬(cause.kind = .divisionByZero ∨ (cause.kind = .resultOverflow ∧ cause ≠ .operandTooLarge)) := by
  cases cause <;> simp [isRefusal, kind] at refusal ⊢

namespace Step

variable {α β : Type} {step : Step α} {next : Machine → α → Step β} {after : Machine}

theorem eq_of_outcome {outcome : Except Fault α} (ends : step.outcome = outcome) :
    step = ⟨step.machine, outcome⟩ := by
  rw [← ends]

/-- Two steps in turn fail if the first does, or if the second does after it. -/
theorem andThen_eq_error {fault : Fault} (fails : step.andThen next = ⟨after, .error fault⟩) :
    step = ⟨after, .error fault⟩ ∨
      ∃ machine value, step = ⟨machine, .ok value⟩ ∧
        next machine value = ⟨after, .error fault⟩ := by
  rcases step with ⟨machine, other | value⟩
  · cases fails
    exact Or.inl rfl
  · exact Or.inr ⟨machine, value, rfl, fails⟩

/-- Two steps in turn succeed if both do. -/
theorem andThen_eq_ok {result : β} (succeeds : step.andThen next = ⟨after, .ok result⟩) :
    ∃ machine value, step = ⟨machine, .ok value⟩ ∧ next machine value = ⟨after, .ok result⟩ := by
  rcases step with ⟨machine, other | value⟩
  · cases succeeds
  · exact ⟨machine, value, rfl, succeeds⟩

end Step

namespace Machine

/-- Whether an operator is reduced before `incoming` is taken in: a closer reduces all that lies
above the innermost opener, and any other operator what outranks it above the barrier. -/
def isDue (machine : Machine) (incoming operator : Operator) : Bool :=
  if incoming.closesGroup then
    machine.groups.head?.all fun opener => operator.symbol != opener.symbol
  else !machine.isBarrier operator && operator.outranks incoming

/-- The operator on top is due and its reduction succeeds. -/
def Reduces (due : Operator → Bool) (position : Option Int) (machine next : Machine) : Prop :=
  ∃ operator waiting, machine.operators = operator :: waiting ∧ due operator = true ∧
    machine.reduce position = .done next

/-- All reductions that are due succeed, and none is due after them. -/
structure Settles (due : Operator → Bool) (position : Option Int) (machine after : Machine) :
    Prop where
  reduces : Relation.ReflTransGen (Reduces due position) machine after
  rests : ∀ operator waiting, after.operators = operator :: waiting → due operator = false

/-- After some reductions that succeed, the next one fails: its operator and its two operands are
gone, and nothing is put back. -/
def BreaksOff (due : Operator → Bool) (position : Option Int) (machine after : Machine)
    (fault : Fault) : Prop :=
  ∃ (reached : Machine) (attempt : Attempt) (waiting : List Operator) (operands : List Int),
    Relation.ReflTransGen (Reduces due position) machine reached ∧
      reached.Offers attempt waiting operands ∧ due attempt.operator = true ∧
      attempt.outcome position = .error fault ∧
      after = { reached with
        operands := operands
        operators := waiting
        attempts := attempt :: reached.attempts }

/-- The same groups are open, the same is due, and no operator was added. -/
structure Retained (machine after : Machine) : Prop where
  groups : after.groups = machine.groups
  expectsOperand : after.expectsOperand = machine.expectsOperand
  operators : after.operators <:+ machine.operators

variable {table : OperatorTable} {machine next after : Machine} {operator opener closer : Operator}
  {due : Operator → Bool} {position : Option Int} {fault : Fault} {token : Token}

theorem Retained.refl (machine : Machine) : machine.Retained machine :=
  ⟨rfl, rfl, List.suffix_refl _⟩

theorem Retained.trans (first : machine.Retained next) (second : next.Retained after) :
    machine.Retained after :=
  ⟨second.groups.trans first.groups, second.expectsOperand.trans first.expectsOperand,
    second.operators.trans first.operators⟩

/-- A reduction that succeeds takes one operator away and opens or closes nothing. -/
theorem Reduces.retained (reduces : Reduces due position machine next) :
    machine.Retained next := by
  obtain ⟨operator, waiting, top, _, succeeds⟩ := reduces
  have sameGroups := machine.reduce_groups position
  have sameExpects := machine.reduce_expectsOperand position
  have below := operators_of_reduce top (congrArg Step.outcome succeeds)
  rw [succeeds] at sameGroups sameExpects below
  exact ⟨sameGroups, sameExpects, by rw [top]; exact below ▸ List.suffix_cons _ _⟩

theorem retained_of_reduces
    (reduces : Relation.ReflTransGen (Reduces due position) machine after) :
    machine.Retained after := by
  induction reduces with
  | refl => exact .refl machine
  | tail _ last ih => exact ih.trans last.retained

/-- A reduction that succeeds raises nothing. -/
theorem Reduces.raised_before (reduces : Reduces due position machine next)
    (raised : next.Raised fault) : machine.Raised fault := by
  obtain ⟨operator, waiting, top, _, succeeds⟩ := reduces
  rcases machine.reduce_cases position with ⟨cause, refused⟩ | ⟨attempt, rest, operands, offers⟩
  · rw [refused] at succeeds
    cases succeeds
  · rw [reduce_of_offers offers, Step.done, Step.mk.injEq] at succeeds
    obtain ⟨rfl, completed⟩ := succeeds
    obtain ⟨other, member, failed⟩ := raised
    rcases List.mem_cons.mp member with rfl | before
    · rw [Attempt.outcome, failed] at completed
      cases completed
    · exact ⟨other, before, failed⟩

/-- Reductions that all succeed raise nothing. -/
theorem raised_before_reduces
    (reduces : Relation.ReflTransGen (Reduces due position) machine after)
    (raised : after.Raised fault) : machine.Raised fault := by
  induction reduces with
  | refl => exact raised
  | tail _ last ih => exact ih (last.raised_before raised)

/-- What is broken off keeps the groups and what is due, and pushes no operator. -/
theorem BreaksOff.retained (broken : BreaksOff due position machine after fault) :
    machine.Retained after := by
  obtain ⟨reached, attempt, waiting, operands, reduces, offers, _, _, rfl⟩ := broken
  have before := retained_of_reduces reduces
  refine before.trans ⟨rfl, rfl, ?_⟩
  rw [offers.operators]
  exact List.suffix_cons _ _

/-- What breaks off a reduction is a fault that its rule raised, or a result that is too large. -/
theorem BreaksOff.raised_or_large (broken : BreaksOff due position machine after fault) :
    after.Raised fault ∨ ∃ symbol, fault = ⟨.resultTooLarge symbol, position⟩ := by
  obtain ⟨reached, attempt, waiting, operands, _, _, _, fails, rfl⟩ := broken
  rcases Attempt.fault_of_outcome (congrArg (Except.map fun _ => ()) fails) with raised | large
  · exact Or.inl ⟨attempt, List.mem_cons_self, raised⟩
  · exact Or.inr ⟨_, large⟩

/-! ## Loops -/

/-- Which operators a condition spares depends on the open groups alone. -/
theorem Spares.of_groups (spares : machine.Spares table due)
    (sameGroups : next.groups = machine.groups) : next.Spares table due :=
  fun current operator waiting sound same =>
    spares current operator waiting sound (same.trans sameGroups)

/-- A loop that succeeds makes the reductions that are due. -/
theorem reduceWhile_settles (succeeds : machine.reduceWhile due position = .done after) :
    Settles due position machine after := by
  generalize stacked : machine.operators = stack
  induction stack generalizing machine with
  | nil =>
      rw [reduceWhile_of_empty stacked] at succeeds
      cases succeeds
      exact ⟨.refl, fun _ _ top => absurd (stacked.symm.trans top) (List.cons_ne_nil _ _).symm⟩
  | cons operator waiting ih =>
      by_cases holds : due operator = true
      · rw [reduceWhile_of_due stacked holds] at succeeds
        obtain ⟨middle, _, reduced, rest⟩ := Step.andThen_eq_ok succeeds
        have below := operators_of_reduce stacked (congrArg Step.outcome reduced)
        rw [reduced] at below
        obtain ⟨reduces, rests⟩ := ih rest below
        exact ⟨.head ⟨operator, waiting, stacked, holds, reduced⟩ reduces, rests⟩
      · rw [reduceWhile_of_not_due stacked (Bool.eq_false_iff.mpr holds)] at succeeds
        cases succeeds
        refine ⟨.refl, fun other _ top => ?_⟩
        rw [stacked, List.cons.injEq] at top
        exact top.1 ▸ Bool.eq_false_iff.mpr holds

namespace Fluent

/-- A loop over waiting operators that fails is broken off. -/
theorem breaksOff (fluent : machine.Fluent table) (ruled : table.IsRuled)
    (expects : machine.expectsOperand = false) (spares : machine.Spares table due)
    (fails : machine.reduceWhile due position = ⟨after, .error fault⟩) :
    BreaksOff due position machine after fault := by
  generalize stacked : machine.operators = stack
  induction stack generalizing machine with
  | nil =>
      rw [reduceWhile_of_empty stacked] at fails
      cases fails
  | cons operator waiting ih =>
      by_cases holds : due operator = true
      · rw [reduceWhile_of_due stacked holds] at fails
        have waits := spares machine operator waiting fluent.toSound rfl stacked holds
        have plain := fluent.hasPlain_top stacked waits
        obtain ⟨rule, given⟩ := Option.isSome_iff_exists.mp
          (ruled operator plain.member plain.isPlain)
        obtain ⟨left, right, operands, offers⟩ :=
          fluent.exists_offers expects stacked waits given
        rcases Step.andThen_eq_error fails with first | ⟨middle, _, reduced, rest⟩
        · -- this reduction fails: the attempt that it made puts nothing back
          rw [reduce_of_offers offers] at first
          have returned := Attempt.toOption_outcome ⟨operator, left, right, rule left right⟩ position
          cases outcome : Attempt.outcome _ position with
          | ok value =>
              rw [outcome] at first
              cases first
          | error raised =>
              rw [outcome] at first returned
              cases first
              refine ⟨machine, _, waiting, operands, .refl, offers, holds, outcome, ?_⟩
              rw [afterAttempt, ← returned]
              rfl
        · -- this reduction succeeds, so a later one fails
          have keepsGroups := machine.reduce_groups position
          have keepsExpects := machine.reduce_expectsOperand position
          have below := operators_of_reduce stacked (congrArg Step.outcome reduced)
          have fluentAfter := fluent.of_reduce stacked waits (congrArg Step.outcome reduced)
          rw [reduced] at keepsGroups keepsExpects below fluentAfter
          obtain ⟨reached, attempt, rest, operands, reduces, left⟩ := ih fluentAfter
            (keepsExpects.trans expects) (spares.of_groups keepsGroups) rest below
          exact ⟨reached, attempt, rest, operands,
            .head ⟨operator, waiting, stacked, holds, reduced⟩ reduces, left⟩
      · rw [reduceWhile_of_not_due stacked (Bool.eq_false_iff.mpr holds)] at fails
        cases fails

end Fluent

/-! ## Steps -/

/-- A transition fails: it refuses its token, or one of its reductions is broken off. -/
inductive Fails (machine : Machine) (due : Operator → Bool) (position : Option Int) :
    Machine → Fault → Prop
  | refused {cause : Cause} (refusal : cause.isRefusal = true) :
      Fails machine due position machine ⟨cause, position⟩
  | brokenOff {after : Machine} {fault : Fault} (expects : machine.expectsOperand = false)
      (broken : BreaksOff due position machine after fault) :
      Fails machine due position after fault

/-- A token is not taken in: its symbol is unknown, or its transition fails. -/
inductive ConsumeFails (table : OperatorTable) (machine : Machine) :
    Token → Machine → Fault → Prop
  | unknown {symbol : String} {place : Int} (absent : table.find? symbol = none) :
      ConsumeFails table machine (.symbol symbol place) machine ⟨.unknownSymbol symbol, none⟩
  | number {value place : Int} {cause : Cause} (refusal : cause.isRefusal = true) :
      ConsumeFails table machine (.number value place) machine ⟨cause, some place⟩
  | symbol {operator : Operator} {place : Int} {after : Machine} {fault : Fault}
      (member : operator ∈ table.operators)
      (fails : machine.Fails (machine.isDue operator) (some place) after fault) :
      ConsumeFails table machine (.symbol operator.symbol place) after fault

/-- The end of the input fails: there is no input, or an operand is due, or a reduction is broken
off, or what is left after all reductions is not one value. -/
inductive FinishFails (machine : Machine) (position : Option Int) : Machine → Fault → Prop
  | empty (operands : machine.operands = []) (operators : machine.operators.length = 1) :
      FinishFails machine position machine ⟨.emptyExpression, none⟩
  | incomplete : FinishFails machine position machine ⟨.operandDueAtEnd, position⟩
  | brokenOff {after : Machine} {fault : Fault} (expects : machine.expectsOperand = false)
      (broken : BreaksOff (machine.isDue .finish) position machine after fault) :
      FinishFails machine position after fault
  | unclosed {after : Machine} {opener : String}
      (settles : Settles (machine.isDue .finish) position machine after) :
      FinishFails machine position after ⟨.groupLeftOpen opener, position⟩
  | malformed {after : Machine} (settles : Settles (machine.isDue .finish) position machine after) :
      FinishFails machine position after ⟨.malformedExpression, position⟩

/-- Once its reductions are made, the end of the input changes nothing more and finds one of two
faults. -/
theorem conclude_eq_error (fails : machine.conclude position = ⟨after, .error fault⟩) :
    after = machine ∧ ((∃ opener, fault = ⟨.groupLeftOpen opener, position⟩) ∨
      fault = ⟨.malformedExpression, position⟩) := by
  unfold conclude at fails
  split at fails
  · cases fails
    exact ⟨rfl, Or.inl ⟨_, rfl⟩⟩
  · split at fails
    · split at fails
      · cases fails
      · cases fails
        exact ⟨rfl, Or.inr rfl⟩
    · cases fails
      exact ⟨rfl, Or.inr rfl⟩

theorem openGroup_fails (fails : machine.openGroup opener position = ⟨after, .error fault⟩) :
    machine.Fails due position after fault := by
  unfold Machine.openGroup at fails
  split at fails
  · cases fails
  · cases fails
    exact .refused rfl

namespace Fluent

/-- A binary operator is refused, or what it makes yield is broken off. -/
theorem pushBinary_fails (fluent : machine.Fluent table) (ruled : table.IsRuled)
    (closes : operator.closesGroup = false)
    (fails : machine.pushBinary operator position = ⟨after, .error fault⟩) :
    machine.Fails (machine.isDue operator) position after fault := by
  unfold Machine.pushBinary at fails
  split at fails
  · cases fails
    exact .refused rfl
  · rename_i expects
    rw [Bool.not_eq_true] at expects
    have same : machine.isDue operator =
        fun waiting => !machine.isBarrier waiting && waiting.outranks operator := by
      funext waiting
      rw [isDue, closes, if_neg Bool.false_ne_true]
    rcases Step.andThen_eq_error fails with broken | ⟨_, _, _, impossible⟩
    · exact .brokenOff expects (fluent.breaksOff ruled expects
        (same ▸ spares_yielding table machine operator) (same ▸ broken))
    · cases impossible

/-- A closer is refused, or the reduction of its group is broken off. -/
theorem closeGroup_fails (fluent : machine.Fluent table) (ruled : table.IsRuled)
    (closes : closer.closesGroup = true)
    (fails : machine.closeGroup closer position = ⟨after, .error fault⟩) :
    machine.Fails (machine.isDue closer) position after fault := by
  unfold Machine.closeGroup at fails
  split at fails
  · cases fails
    exact .refused rfl
  · rename_i opener outer innermost
    split at fails
    · cases fails
      exact .refused rfl
    · split at fails
      · cases fails
        exact .refused rfl
      · rename_i expects
        rw [Bool.not_eq_true] at expects
        have same : machine.isDue closer = fun waiting => waiting.symbol != opener.symbol := by
          funext waiting
          rw [isDue, if_pos closes, innermost]
          rfl
        rcases Step.andThen_eq_error fails with broken | ⟨_, _, _, impossible⟩
        · exact .brokenOff expects (fluent.breaksOff ruled expects
            (same ▸ spares_closing innermost) (same ▸ broken))
        · cases impossible

theorem pushSymbol_fails (fluent : machine.Fluent table) (ruled : table.IsRuled)
    (fails : machine.pushSymbol operator position = ⟨after, .error fault⟩) :
    machine.Fails (machine.isDue operator) position after fault := by
  unfold Machine.pushSymbol Machine.pushOperator at fails
  split at fails
  · rename_i closes
    exact fluent.closeGroup_fails ruled closes fails
  · rename_i closes
    rw [Bool.not_eq_true] at closes
    split at fails
    · exact openGroup_fails fails
    · exact fluent.pushBinary_fails ruled closes fails

/-- A token that is not taken in was refused, or it broke off a reduction. -/
theorem consume_fails (fluent : machine.Fluent table) (ruled : table.IsRuled)
    (fails : machine.consume table token = ⟨after, .error fault⟩) :
    ConsumeFails table machine token after fault := by
  cases token with
  | number value place =>
      rw [Machine.consume, Machine.pushOperand] at fails
      split at fails
      · split at fails
        · cases fails
        · cases fails
          exact .number rfl
      · cases fails
        exact .number rfl
  | symbol name place =>
      rw [Machine.consume, withOperator] at fails
      rcases table.lookup_cases name with ⟨absent, unknown⟩ | ⟨operator, member, rfl, _, found⟩
      · rw [unknown] at fails
        cases fails
        exact .unknown absent
      · rw [found] at fails
        exact .symbol member (fluent.pushSymbol_fails ruled fails)

/-- The end of the input fails before, during or after its reductions. -/
theorem finish_fails (fluent : machine.Fluent table) (ruled : table.IsRuled)
    (fails : machine.finish position = ⟨after, .error fault⟩) :
    machine.FinishFails position after fault := by
  rw [Machine.finish] at fails
  split at fails
  · rename_i nothing
    rw [Bool.and_eq_true, List.isEmpty_iff, beq_iff_eq] at nothing
    cases fails
    exact .empty nothing.1 nothing.2
  · split at fails
    · cases fails
      exact .incomplete
    · rename_i expects
      rw [Bool.not_eq_true] at expects
      rcases Step.andThen_eq_error fails with broken | ⟨settled, _, reduced, concludes⟩
      · exact .brokenOff expects (fluent.breaksOff ruled expects
          (spares_yielding table machine .finish) broken)
      · have settles : Settles (machine.isDue .finish) position machine settled :=
          reduceWhile_settles reduced
        obtain ⟨rfl, ⟨opener, rfl⟩ | rfl⟩ := conclude_eq_error concludes
        · exact .unclosed settles
        · exact .malformed settles

end Fluent

/-! ## Machines that have only taken in tokens -/

/-- No rule has raised a fault as long as no attempt has failed. -/
theorem Fluent.not_raised (fluent : machine.Fluent table) (fault : Fault) :
    ¬machine.Raised fault := by
  rintro ⟨attempt, member, raised⟩
  have completed := List.countP_eq_zero.mp fluent.unfailed attempt member
  rw [Attempt.value?, Attempt.outcome, raised] at completed
  exact completed rfl

/-- What a token leaves behind that is not taken in. -/
structure TokenAftermath (table : OperatorTable) (machine : Machine) (token : Token)
    (after : Machine) (fault : Fault) : Prop where
  retained : machine.Retained after
  /-- The openers of the open groups are still on the operators, in the same order. -/
  openers : after.operators.filter Operator.opensGroup = machine.groups
  /-- A fault that is the token's own, and no rule's, is found before anything changes. -/
  unchanged : ¬after.Raised fault →
    fault.kind = .stackUnderflow ∨ fault.kind = .unmatchedGroup ∨
      fault.kind = .unknownOperator ∨ fault.cause = .operandTooLarge → after = machine
  broken : after.Raised fault ∨ fault.kind = .divisionByZero ∨
      (fault.kind = .resultOverflow ∧ fault.cause ≠ .operandTooLarge) →
    ∃ operator ∈ table.operators, ∃ place, token = .symbol operator.symbol place ∧
      BreaksOff (machine.isDue operator) (some place) machine after fault

/-- What the end of the input leaves behind if it fails. -/
structure EndAftermath (machine : Machine) (position : Option Int) (after : Machine)
    (fault : Fault) : Prop where
  retained : machine.Retained after
  openers : after.operators.filter Operator.opensGroup = machine.groups
  unchanged : ¬after.Raised fault →
    fault.cause = .emptyExpression ∨ fault.cause = .operandDueAtEnd → after = machine
  broken : after.Raised fault ∨ fault.kind = .divisionByZero ∨ fault.kind = .resultOverflow →
    BreaksOff (machine.isDue .finish) position machine after fault
  /-- A group that is left open is found after all reductions that the end makes due. -/
  settled : ¬after.Raised fault →
    fault.kind = .unmatchedGroup ∨ fault.cause = .malformedExpression →
      Settles (machine.isDue .finish) position machine after

namespace Fluent

/-- A token that changes nothing is refused for a fault that no reduction has. -/
theorem tokenAftermath_of_unchanged (fluent : machine.Fluent table)
    (refused : ¬(fault.kind = .divisionByZero ∨
      (fault.kind = .resultOverflow ∧ fault.cause ≠ .operandTooLarge))) :
    TokenAftermath table machine token machine fault where
  retained := .refl machine
  openers := fluent.groups.symm
  unchanged _ _ := rfl
  broken reduction := absurd reduction (not_or.mpr ⟨fluent.not_raised fault, refused⟩)

/-- What a token leaves behind that is not taken in. -/
theorem tokenAftermath (fluent : machine.Fluent table) (sound : after.Sound table)
    (fails : ConsumeFails table machine token after fault) :
    TokenAftermath table machine token after fault := by
  cases fails with
  | unknown absent =>
      refine fluent.tokenAftermath_of_unchanged ?_
      rintro (divides | ⟨overflows, _⟩)
      · cases divides
      · cases overflows
  | number refusal =>
      exact fluent.tokenAftermath_of_unchanged (Cause.not_reduction_of_isRefusal refusal)
  | symbol member fails =>
      cases fails with
      | refused refusal =>
          exact fluent.tokenAftermath_of_unchanged (Cause.not_reduction_of_isRefusal refusal)
      | brokenOff expects broken =>
          refine ⟨broken.retained, sound.groups.symm.trans broken.retained.groups, ?_,
            fun _ => ⟨_, member, _, rfl, broken⟩⟩
          intro unraised kinds
          obtain ⟨symbol, rfl⟩ := broken.raised_or_large.resolve_left unraised
          rcases kinds with underflow | unmatched | unknown | large
          · cases underflow
          · cases unmatched
          · cases unknown
          · cases large

/-- What the end of the input leaves behind if it fails. -/
theorem endAftermath (fluent : machine.Fluent table) (sound : after.Sound table)
    (fails : machine.FinishFails position after fault) :
    EndAftermath machine position after fault := by
  cases fails with
  -- Nothing was reduced, and a machine that has not failed has no fault of a rule to report.
  | empty _ _ | incomplete =>
      refine ⟨.refl _, fluent.groups.symm, fun _ _ => rfl, ?_, ?_⟩
      · rintro (raised | divides | overflows)
        · exact absurd raised (fluent.not_raised _)
        · cases divides
        · cases overflows
      · rintro - (groups | malformed)
        · cases groups
        · cases malformed
  | brokenOff expects broken =>
      refine ⟨broken.retained, sound.groups.symm.trans broken.retained.groups, ?_,
        fun _ => broken, ?_⟩
      · intro unraised causes
        obtain ⟨symbol, rfl⟩ := broken.raised_or_large.resolve_left unraised
        rcases causes with empty | incomplete
        · cases empty
        · cases incomplete
      · intro unraised causes
        obtain ⟨symbol, rfl⟩ := broken.raised_or_large.resolve_left unraised
        rcases causes with groups | malformed
        · cases groups
        · cases malformed
  -- All reductions succeeded before the fault was found.
  | unclosed settles | malformed settles =>
      have retained := retained_of_reduces settles.reduces
      refine ⟨retained, sound.groups.symm.trans retained.groups, ?_, ?_, fun _ _ => settles⟩
      · rintro - (empty | incomplete)
        · cases empty
        · cases incomplete
      · rintro (raised | divides | overflows)
        · exact absurd (raised_before_reduces settles.reduces raised) (fluent.not_raised _)
        · cases divides
        · cases overflows

end Fluent

variable {tokens : List Token}

/-- **What a failing step leaves behind.** Where every operator that delimits no group has a rule,
take any machine that has only taken in tokens, and any token or the end of the input next.  If the
step fails, the same groups are open with their openers on the operators, the same is due, and no
operator was pushed.  A fault of the step itself changes nothing at all; a fault of a reduction
leaves what the reductions before it left, without the operator and the operands of its own; and a
group that is left open is found once all reductions are made. -/
theorem consumeAll_aftermath (ruled : table.IsRuled)
    (taken : Machine.start.consumeAll table tokens = .done machine) :
    (∀ token after fault, machine.consume table token = ⟨after, .error fault⟩ →
        TokenAftermath table machine token after fault) ∧
      ∀ position after fault, machine.finish position = ⟨after, .error fault⟩ →
        EndAftermath machine position after fault := by
  have fluent := fluent_of_consumeAll taken
  constructor
  · intro token after fault fails
    have sound := fluent.toSound.consume token
    rw [fails] at sound
    exact fluent.tokenAftermath sound (fluent.consume_fails ruled fails)
  · intro position after fault fails
    have sound := fluent.toSound.finish position
    rw [fails] at sound
    exact fluent.endAftermath sound (fluent.finish_fails ruled fails)

/-- Behind `1 + (6 / 0` a closing parenthesis divides by zero: the sum and the parenthesis keep
waiting, and the summand is the only operand. -/
theorem consumeAll_aftermath_division :
    let table := OperatorTable.standard
    let tokens := [Token.number 1 0, .symbol "+" 1, .symbol "(" 2, .number 6 3, .symbol "/" 4,
      .number 0 5]
    let machine := (Machine.start.consumeAll table tokens).machine
    let after := (machine.consume table (.symbol ")" 6)).machine
    table.IsRuled ∧ Machine.start.consumeAll table tokens = .done machine ∧
      machine.consume table (.symbol ")" 6) = ⟨after, .error ⟨.zeroDivisor, none⟩⟩ ∧
      after.operands = [1] ∧ after.operators.map Operator.symbol = ["(", "+", "#"] ∧
      TokenAftermath table machine (.symbol ")" 6) after ⟨.zeroDivisor, none⟩ := by
  intro table tokens machine after
  have ruled : table.IsRuled := by decide
  have taken : Machine.start.consumeAll table tokens = .done machine :=
    Step.eq_of_outcome (by decide +kernel)
  have fails : machine.consume table (.symbol ")" 6) = ⟨after, .error ⟨.zeroDivisor, none⟩⟩ :=
    Step.eq_of_outcome (by decide +kernel)
  exact ⟨ruled, taken, fails, by decide +kernel, by decide +kernel,
    (consumeAll_aftermath ruled taken).1 _ _ _ fails⟩

end Machine

end InfixCalculator
