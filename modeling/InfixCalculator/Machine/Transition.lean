import InfixCalculator.Machine.Basic
import InfixCalculator.Token.Basic

/-!
# Transitions of the evaluation machine

What each kind of token does to a machine, and how a machine is brought to an end.  Each
transition checks first whether its token may stand where it does and changes nothing
otherwise; only reductions can fail later.
-/

namespace InfixCalculator

namespace Machine

/-- Takes in a number where an operand is due, if it is within the size limit. -/
def pushOperand (machine : Machine) (value : Int) (position : Option Int) : Step Unit :=
  if machine.expectsOperand then
    if fits value then
      .done { machine with
        operands := value :: machine.operands
        expectsOperand := false }
    else .failed machine .operandTooLarge position
  else .failed machine .operatorDueBeforeNumber position

/-- Takes in an opening delimiter: the innermost group is now its own. -/
def openGroup (machine : Machine) (opener : Operator) (position : Option Int) :
    Step Unit :=
  if machine.expectsOperand then
    .done { machine with
      operators := opener :: machine.operators
      groups := opener :: machine.groups }
  else .failed machine (.operatorDueBefore opener.symbol) position

/-- Takes in a binary operator, after every operator that outranks it is reduced. -/
def pushBinary (machine : Machine) (operator : Operator) (position : Option Int) :
    Step Unit :=
  if machine.expectsOperand then
    .failed machine (.operandDueBefore operator.symbol) position
  else
    (machine.yieldTo operator position).andThen fun next _ =>
      .done { next with
        operators := operator :: next.operators
        expectsOperand := true }

/-- Takes in an operator that closes no group: an opener opens one, any other is binary. -/
def pushOperator (machine : Machine) (operator : Operator) (position : Option Int) :
    Step Unit :=
  if operator.opensGroup then machine.openGroup operator position
  else machine.pushBinary operator position

/-- Takes in a closing delimiter: reduces the innermost group to one operand and removes
its opener. -/
def closeGroup (machine : Machine) (closer : Operator) (position : Option Int) :
    Step Unit :=
  match machine.groups with
  | [] =>
      .failed machine (.closerWithoutOpener closer.symbol closer.pairedOpener) position
  | opener :: _ =>
      if closer.pairedOpener ≠ some opener.symbol then
        .failed machine (.closerWithoutOpener closer.symbol closer.pairedOpener) position
      else if machine.expectsOperand then
        .failed machine (.operandDueBefore closer.symbol) position
      else
        (machine.reduceWhile (fun operator => operator.symbol != opener.symbol)
            position).andThen fun next _ =>
          .done { next with
            operators := next.operators.tail
            groups := next.groups.tail }

/-- The end of the input once its reductions are made: the only operand that is left is the
value. -/
def conclude (machine : Machine) (position : Option Int) : Step Int :=
  match machine.groups with
  | opener :: _ => .failed machine (.groupLeftOpen opener.symbol) position
  | [] =>
      match machine.operands with
      | [value] =>
          if machine.isAtStart then ⟨machine, .ok value⟩
          else .failed machine .malformedExpression position
      | _ => .failed machine .malformedExpression position

/-- Ends the input: reduces what is left and returns the only operand. -/
def finish (machine : Machine) (position : Option Int) : Step Int :=
  if machine.operands.isEmpty && machine.operators.length == 1 then
    .failed machine .emptyExpression none
  else if machine.expectsOperand then .failed machine .operandDueAtEnd position
  else (machine.yieldTo .finish position).andThen fun next _ => next.conclude position

/-- Takes in an operator of a table: a closing delimiter closes, any other is pushed. -/
def pushSymbol (machine : Machine) (operator : Operator) (position : Option Int) :
    Step Unit :=
  if operator.closesGroup then machine.closeGroup operator position
  else machine.pushOperator operator position

/-- Looks an operator up and goes on with it; an unknown symbol changes nothing. -/
def withOperator (table : OperatorTable) (machine : Machine) (symbol : String)
    (next : Operator → Step Unit) : Step Unit :=
  match table.lookup symbol with
  | .error fault => ⟨machine, .error fault⟩
  | .ok operator => next operator

/-- Takes in a token. -/
def consume (table : OperatorTable) (machine : Machine) : Token → Step Unit
  | .number value position => machine.pushOperand value (some position)
  | .symbol symbol position =>
      machine.withOperator table symbol fun operator =>
        machine.pushSymbol operator (some position)

/-- Takes in a stream of tokens and ends the input.  The position is that of the latest
token, which end-of-input faults carry. -/
def run (table : OperatorTable) (machine : Machine) (position : Int) :
    TokenStream → Step Int
  | .done => machine.finish (some position)
  | .failed fault => ⟨machine, .error fault⟩
  | .token first rest =>
      (machine.consume table first).andThen fun next _ =>
        next.run table first.position rest

end Machine

end InfixCalculator
