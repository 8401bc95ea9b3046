import InfixCalculator.Proofs.Machine.Reduction
import InfixCalculator.Proofs.Operators

/-!
# Machines side by side

Machines that differ at most in their records of attempts make the same transitions, wherever the
tokens stand.  They come to one value and are alike again, or both fail, and then their faults
have one cause and differ in their positions alone.  Which faults may stand for each other is
left open: any relation will do that holds of a cause at the two positions and of what the rules
raise (`Spans`, `Machine.Twin`).  There is one lemma for each transition, up to
`Machine.Twin.consume` and `Machine.Twin.finish`.
-/

namespace InfixCalculator

/-- A token without its position. -/
def Token.unplaced : Token → Token
  | .number value _ => .number value 0
  | .symbol name _ => .symbol name 0

namespace Machine

/-- A machine without its record of attempts. -/
def unrecorded (machine : Machine) : Machine :=
  { machine with attempts := [] }

/-- Machines that differ at most in their records of attempts. -/
def Alike (first second : Machine) : Prop :=
  first.unrecorded = second.unrecorded

theorem alike_refl (machine : Machine) : machine.Alike machine := rfl

theorem alike_unrecorded (machine : Machine) : machine.Alike machine.unrecorded := rfl

variable {first second : Machine}

/-- Alike machines agree on all that a transition reads. -/
theorem alike_iff :
    first.Alike second ↔ first.operands = second.operands ∧
      first.operators = second.operators ∧ first.groups = second.groups ∧
      first.expectsOperand = second.expectsOperand := by
  rw [Alike, unrecorded, unrecorded, mk.injEq]
  simp only [and_true]

namespace Alike

theorem operands (alike : first.Alike second) : first.operands = second.operands :=
  (alike_iff.mp alike).1

theorem operators (alike : first.Alike second) : first.operators = second.operators :=
  (alike_iff.mp alike).2.1

theorem groups (alike : first.Alike second) : first.groups = second.groups :=
  (alike_iff.mp alike).2.2.1

theorem expectsOperand (alike : first.Alike second) :
    first.expectsOperand = second.expectsOperand :=
  (alike_iff.mp alike).2.2.2

theorem isBarrier (alike : first.Alike second) (operator : Operator) :
    first.isBarrier operator = second.isBarrier operator := by
  rw [Machine.isBarrier, Machine.isBarrier, alike.groups]

theorem addOperator (alike : first.Alike second) (operator : Operator) :
    Alike { first with operators := operator :: first.operators, expectsOperand := true }
      { second with operators := operator :: second.operators, expectsOperand := true } :=
  alike_iff.mpr ⟨alike.operands, congrArg (operator :: ·) alike.operators, alike.groups, rfl⟩

theorem removeOpener (alike : first.Alike second) :
    Alike { first with operators := first.operators.tail, groups := first.groups.tail }
      { second with operators := second.operators.tail, groups := second.groups.tail } :=
  alike_iff.mpr ⟨alike.operands, congrArg List.tail alike.operators,
    congrArg List.tail alike.groups, alike.expectsOperand⟩

end Alike

end Machine

/-! ## Related faults -/

/-- A relation holds of every cause at two positions, and of every cause without a position. -/
structure Spans (relates : Fault → Fault → Prop) (position other : Option Int) : Prop where
  placed : ∀ cause, relates ⟨cause, position⟩ ⟨cause, other⟩
  unplaced : ∀ cause, relates ⟨cause, none⟩ ⟨cause, none⟩

/-- The rule of an operator, if it has one, raises faults that may stand for themselves. -/
def Operator.Respects (relates : Fault → Fault → Prop) (operator : Operator) : Prop :=
  ∀ rule ∈ operator.rule, ∀ left right fault,
    rule left right = .error fault → relates fault fault

/-- All rules of a table raise faults that may stand for themselves. -/
def OperatorTable.Respects (relates : Fault → Fault → Prop) (table : OperatorTable) : Prop :=
  ∀ operator ∈ table.operators, operator.Respects relates

/-- Alike machines whose operators respect a relation between faults. -/
structure Machine.Twin (relates : Fault → Fault → Prop) (first second : Machine) : Prop where
  alike : first.Alike second
  respects : ∀ operator ∈ first.operators, operator.Respects relates

namespace Step

variable {α β : Type} {relates : Fault → Fault → Prop} {step other : Step α}

/-- Two steps give one value and twin machines, or they fail with related faults. -/
inductive Related (relates : Fault → Fault → Prop) (step other : Step α) : Prop
  | done {value : α} (ended : step.outcome = .ok value) (otherEnded : other.outcome = .ok value)
      (twin : step.machine.Twin relates other.machine)
  | failed {fault otherFault : Fault} (failed : step.outcome = .error fault)
      (otherFailed : other.outcome = .error otherFault) (related : relates fault otherFault)

/-- Two pairs of steps in turn are related if the second pair is on the machines that the first
leaves. -/
theorem Related.andThen {next otherNext : Machine → α → Step β}
    (first : step.Related relates other)
    (second : ∀ value, step.outcome = .ok value → step.machine.Twin relates other.machine →
      (next step.machine value).Related relates (otherNext other.machine value)) :
    (step.andThen next).Related relates (other.andThen otherNext) := by
  rcases step with ⟨machine, outcome⟩
  rcases other with ⟨otherMachine, otherOutcome⟩
  rcases first with ⟨ended, otherEnded, twin⟩ | ⟨failed, otherFailed, related⟩
  · cases ended
    cases otherEnded
    exact second _ rfl twin
  · cases failed
    cases otherFailed
    exact .failed rfl rfl related

/-- One cause at two positions. -/
theorem related_failed {position otherPosition : Option Int}
    (spans : Spans relates position otherPosition) (machine otherMachine : Machine)
    (cause : Cause) :
    (failed (α := α) machine cause position).Related relates
      (failed otherMachine cause otherPosition) :=
  .failed rfl rfl (spans.placed cause)

end Step

/-! ## Transitions -/

namespace Machine

namespace Twin

variable {relates : Fault → Fault → Prop} {first second : Machine} {table : OperatorTable}
  {operator : Operator} {position other : Option Int}

/-- Twin machines offer the same attempt; what its rule raises may stand for itself, and a result
that is too large is found at either position. -/
theorem reduce (twin : first.Twin relates second) (spans : Spans relates position other) :
    (first.reduce position).Related relates (second.reduce other) := by
  obtain ⟨alike, respects⟩ := twin
  unfold Machine.reduce
  rw [← alike.operators, ← alike.operands]
  cases stacked : first.operators with
  | nil => exact Step.related_failed spans _ _ _
  | cons operator waiting =>
      obtain ⟨respectsTop, respectsWaiting⟩ := List.forall_mem_cons.mp (stacked ▸ respects)
      simp only
      cases ruled : operator.rule with
      | none => exact Step.related_failed spans _ _ _
      | some rule =>
          simp only
          split
          · rename_i right left operands pair
            unfold Attempt.outcome
            cases computed : rule left right with
            | error fault =>
                exact .failed rfl rfl (respectsTop rule ruled left right fault computed)
            | ok value =>
                simp only
                by_cases short : fits value = true
                · rw [if_pos short, if_pos short]
                  refine .done rfl rfl ⟨?_, respectsWaiting⟩
                  exact alike_iff.mpr ⟨rfl, rfl, alike.groups, alike.expectsOperand⟩
                · rw [if_neg short, if_neg short]
                  exact .failed rfl rfl (spans.placed _)
          · exact Step.related_failed spans _ _ _

/-- Twin machines look at the same operators, so they make the same reductions. -/
theorem reduceWhile (twin : first.Twin relates second) (spans : Spans relates position other)
    (due : Operator → Bool) :
    (first.reduceWhile due position).Related relates (second.reduceWhile due other) := by
  generalize stacked : first.operators = stack
  induction stack generalizing first second with
  | nil =>
      rw [reduceWhile_of_empty stacked, reduceWhile_of_empty (twin.alike.operators ▸ stacked)]
      exact .done rfl rfl twin
  | cons operator waiting ih =>
      have otherStacked := twin.alike.operators ▸ stacked
      by_cases holds : due operator = true
      · rw [reduceWhile_of_due stacked holds, reduceWhile_of_due otherStacked holds]
        exact (twin.reduce spans).andThen fun _ succeeds reached =>
          ih reached (operators_of_reduce stacked succeeds)
      · have fails : due operator = false := Bool.eq_false_iff.mpr holds
        rw [reduceWhile_of_not_due stacked fails, reduceWhile_of_not_due otherStacked fails]
        exact .done rfl rfl twin

/-- The barriers are the same, so the same operators yield. -/
theorem yieldTo (twin : first.Twin relates second) (spans : Spans relates position other)
    (incoming : Operator) :
    (first.yieldTo incoming position).Related relates (second.yieldTo incoming other) := by
  unfold Machine.yieldTo
  simp only [twin.alike.isBarrier]
  exact twin.reduceWhile spans _

/-- A number is taken in or refused by both machines. -/
theorem pushOperand (twin : first.Twin relates second) (spans : Spans relates position other)
    (value : Int) :
    (first.pushOperand value position).Related relates (second.pushOperand value other) := by
  obtain ⟨alike, respects⟩ := twin
  unfold Machine.pushOperand
  rw [← alike.expectsOperand]
  split
  · split
    · refine .done rfl rfl ⟨?_, respects⟩
      exact alike_iff.mpr ⟨congrArg (value :: ·) alike.operands, alike.operators, alike.groups, rfl⟩
    · exact Step.related_failed spans _ _ _
  · exact Step.related_failed spans _ _ _

/-- An opener is taken in or refused by both machines. -/
theorem openGroup (twin : first.Twin relates second) (spans : Spans relates position other)
    (respects : operator.Respects relates) :
    (first.openGroup operator position).Related relates (second.openGroup operator other) := by
  unfold Machine.openGroup
  rw [← twin.alike.expectsOperand]
  split
  · refine .done rfl rfl ⟨?_, List.forall_mem_cons.mpr ⟨respects, twin.respects⟩⟩
    exact alike_iff.mpr ⟨twin.alike.operands, congrArg (operator :: ·) twin.alike.operators,
      congrArg (operator :: ·) twin.alike.groups, rfl⟩
  · exact Step.related_failed spans _ _ _

/-- A binary operator is taken in by both machines after the same reductions. -/
theorem pushBinary (twin : first.Twin relates second) (spans : Spans relates position other)
    (respects : operator.Respects relates) :
    (first.pushBinary operator position).Related relates (second.pushBinary operator other) := by
  unfold Machine.pushBinary
  rw [← twin.alike.expectsOperand]
  split
  · exact Step.related_failed spans _ _ _
  · refine (twin.yieldTo spans operator).andThen fun _ _ reached => ?_
    refine .done rfl rfl ⟨reached.alike.addOperator operator, ?_⟩
    exact List.forall_mem_cons.mpr ⟨respects, reached.respects⟩

theorem pushOperator (twin : first.Twin relates second) (spans : Spans relates position other)
    (respects : operator.Respects relates) :
    (first.pushOperator operator position).Related relates
      (second.pushOperator operator other) := by
  unfold Machine.pushOperator
  split
  · exact twin.openGroup spans respects
  · exact twin.pushBinary spans respects

/-- A closer finds the same group open, or none, on both machines. -/
theorem closeGroup (twin : first.Twin relates second) (spans : Spans relates position other)
    (closer : Operator) :
    (first.closeGroup closer position).Related relates (second.closeGroup closer other) := by
  unfold Machine.closeGroup
  rw [← twin.alike.groups, ← twin.alike.expectsOperand]
  split
  · exact Step.related_failed spans _ _ _
  · split
    · exact Step.related_failed spans _ _ _
    · split
      · exact Step.related_failed spans _ _ _
      · refine (twin.reduceWhile spans _).andThen fun _ _ reached => ?_
        refine .done rfl rfl ⟨reached.alike.removeOpener, ?_⟩
        exact fun operator member => reached.respects operator (List.mem_of_mem_tail member)

theorem pushSymbol (twin : first.Twin relates second) (spans : Spans relates position other)
    (respects : operator.Respects relates) :
    (first.pushSymbol operator position).Related relates (second.pushSymbol operator other) := by
  unfold Machine.pushSymbol
  split
  · exact twin.closeGroup spans operator
  · exact twin.pushOperator spans respects

/-- One token at two places. -/
theorem consume (twin : first.Twin relates second) (respects : table.Respects relates)
    {token otherToken : Token} (same : token.unplaced = otherToken.unplaced)
    (spans : Spans relates (some token.position) (some otherToken.position)) :
    (first.consume table token).Related relates (second.consume table otherToken) := by
  cases token with
  | number value place =>
      cases otherToken with
      | symbol name otherPlace => cases same
      | number otherValue otherPlace =>
          cases same
          exact twin.pushOperand spans value
  | symbol name place =>
      cases otherToken with
      | number value otherPlace => cases same
      | symbol otherName otherPlace =>
          cases same
          rw [Machine.consume, Machine.consume, withOperator, withOperator]
          rcases table.lookup_cases name with ⟨_, unknown⟩ | ⟨operator, member, _, _, found⟩
          · rw [unknown]
            exact .failed rfl rfl (spans.unplaced _)
          · rw [found]
            exact twin.pushSymbol spans (respects operator member)

/-- What is left after the reductions is the same on both machines. -/
theorem conclude (twin : first.Twin relates second) (spans : Spans relates position other) :
    (first.conclude position).Related relates (second.conclude other) := by
  have sameStart : first.isAtStart = second.isAtStart := by
    rw [isAtStart, isAtStart, twin.alike.operators]
  unfold Machine.conclude
  rw [← twin.alike.groups, ← twin.alike.operands, ← sameStart]
  split
  · exact Step.related_failed spans _ _ _
  · split
    · split
      · exact .done rfl rfl twin
      · exact Step.related_failed spans _ _ _
    · exact Step.related_failed spans _ _ _

/-- The end of the input at two positions. -/
theorem finish (twin : first.Twin relates second) (spans : Spans relates position other) :
    (first.finish position).Related relates (second.finish other) := by
  rw [Machine.finish, Machine.finish, ← twin.alike.operands, ← twin.alike.operators,
    ← twin.alike.expectsOperand]
  split
  · exact .failed rfl rfl (spans.unplaced _)
  · split
    · exact Step.related_failed spans _ _ _
    · exact (twin.yieldTo spans .finish).andThen fun _ _ reached => reached.conclude spans

end Twin

end Machine

end InfixCalculator
