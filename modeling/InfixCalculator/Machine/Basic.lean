import InfixCalculator.Operator.Table

/-!
# The evaluation machine

A machine holds the operands and operators that wait for each other, the groups that
are still open, and whether an operand or an operator is due next.  Its stacks are lists
with the top first; the start sentinel lies at the bottom of the operators.

A step leaves a machine behind whether or not it succeeds, so a `Step` carries both the
machine and the outcome.  The only step that computes is `reduce`: it takes an operator
and two operands off their stacks *before* it applies the rule, and the record of the
attempt stays with the machine.
-/

namespace InfixCalculator

/-- The record of one application of a rule. -/
structure Attempt where
  operator : Operator
  left : Int
  right : Int
  result : Except Fault Int

namespace Attempt

/-- What the attempt contributes to the operands: the rule's result, unless the rule
fails or its result exceeds the size limit. -/
def outcome (attempt : Attempt) (position : Option Int) : Except Fault Int :=
  match attempt.result with
  | .error fault => .error fault
  | .ok value =>
      if fits value then .ok value
      else .error ⟨.resultTooLarge attempt.operator.symbol, position⟩

/-- The value that the attempt put back on the operands, if it did. -/
def value? (attempt : Attempt) : Option Int :=
  (attempt.outcome none).toOption

/-- The line that a completed attempt leaves in the trace. -/
def entry? (attempt : Attempt) : Option String :=
  attempt.value?.map fun value =>
    "reduce " ++ Decimal.text attempt.left ++ " " ++ attempt.operator.symbol ++ " " ++
      Decimal.text attempt.right ++ " = " ++ Decimal.text value

end Attempt

/-- The state of an evaluation. -/
structure Machine where
  /-- The operands, the latest first. -/
  operands : List Int
  /-- The operators, the latest first and the start sentinel last. -/
  operators : List Operator
  /-- The openers of the groups that are open, the innermost first. -/
  groups : List Operator
  expectsOperand : Bool
  /-- Every application of a rule so far, the latest first. -/
  attempts : List Attempt

/-- How a step ends: with the machine it leaves behind, and a value or a fault. -/
structure Step (α : Type) where
  machine : Machine
  outcome : Except Fault α

namespace Step

/-- A step that succeeds without a value. -/
def done (machine : Machine) : Step Unit :=
  ⟨machine, .ok ()⟩

/-- A step that fails; the machine stays as it is. -/
def failed {α : Type} (machine : Machine) (cause : Cause) (position : Option Int) :
    Step α :=
  ⟨machine, .error ⟨cause, position⟩⟩

/-- Goes on with the machine of a step, unless the step failed. -/
def andThen {α β : Type} (step : Step α) (next : Machine → α → Step β) : Step β :=
  match step.outcome with
  | .ok value => next step.machine value
  | .error fault => ⟨step.machine, .error fault⟩

@[simp] theorem andThen_ok {α β : Type} (machine : Machine) (value : α)
    (next : Machine → α → Step β) :
    andThen ⟨machine, .ok value⟩ next = next machine value := rfl

@[simp] theorem andThen_error {α β : Type} (machine : Machine) (fault : Fault)
    (next : Machine → α → Step β) :
    andThen ⟨machine, .error fault⟩ next = ⟨machine, .error fault⟩ := rfl

@[simp] theorem andThen_done {β : Type} (machine : Machine)
    (next : Machine → Unit → Step β) : (done machine).andThen next = next machine () := rfl

end Step

namespace Machine

/-- The machine before the first token. -/
def start : Machine where
  operands := []
  operators := [Operator.start]
  groups := []
  expectsOperand := true
  attempts := []

/-- Whether an operator is the start sentinel or opens the innermost group.  No reduction
goes past such an operator. -/
def isBarrier (machine : Machine) (operator : Operator) : Bool :=
  operator.symbol == Operator.startSymbol ||
    machine.groups.head?.any fun opener => opener.symbol == operator.symbol

/-- Whether nothing but the start sentinel is left to be reduced. -/
def isAtStart (machine : Machine) : Bool :=
  machine.operators.head?.any fun operator => operator.symbol == Operator.startSymbol

/-- The lines of the completed reductions, the earliest first. -/
def trace (machine : Machine) : List String :=
  machine.attempts.reverse.filterMap Attempt.entry?

/-- Applies the operator on top to the two operands on top.  All three are taken off
first, so they are gone even if the rule fails or its result is too large. -/
def reduce (machine : Machine) (position : Option Int) : Step Unit :=
  match machine.operators with
  | [] => .failed machine .nothingToReduce position
  | operator :: waiting =>
      match operator.rule with
      | none => .failed machine .nothingToReduce position
      | some rule =>
          match machine.operands with
          | right :: left :: operands =>
              let attempt : Attempt := ⟨operator, left, right, rule left right⟩
              let spent : Machine :=
                { machine with
                  operands := operands
                  operators := waiting
                  attempts := attempt :: machine.attempts }
              match attempt.outcome position with
              | .ok value => .done { spent with operands := value :: operands }
              | .error fault => ⟨spent, .error fault⟩
          | _ => .failed machine (.operandsMissing operator.symbol) position

/-- Reduces as long as the operator on top is due.  The list holds the operators that are
still to be looked at; each reduction takes one of them off the machine. -/
def reduceThrough (due : Operator → Bool) (position : Option Int) :
    List Operator → Machine → Step Unit
  | [], machine => .done machine
  | operator :: waiting, machine =>
      if due operator then
        (machine.reduce position).andThen fun next _ =>
          reduceThrough due position waiting next
      else .done machine

/-- Reduces until the operator on top is not due. -/
def reduceWhile (machine : Machine) (due : Operator → Bool) (position : Option Int) :
    Step Unit :=
  reduceThrough due position machine.operators machine

/-- Reduces every operator above the nearest barrier that outranks `incoming`. -/
def yieldTo (machine : Machine) (incoming : Operator) (position : Option Int) :
    Step Unit :=
  machine.reduceWhile
    (fun operator => !machine.isBarrier operator && operator.outranks incoming) position

end Machine

end InfixCalculator
