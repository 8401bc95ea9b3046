import InfixCalculator.Machine.Transition

/-!
# Instructions

A machine can also be driven by hand, one transition at a time and in any order.  A
failed instruction leaves its changes behind, and the next one goes on from there.
-/

namespace InfixCalculator

/-- A transition of the machine, with the symbol of its operator if it needs one. -/
inductive Instruction where
  | operand (value : Int)
  | operator (symbol : String)
  | close (symbol : String)
  | reduce
  | finish
deriving DecidableEq, Repr

/-- A step whose value is nothing to speak of. -/
def Step.withoutValue (step : Step Unit) : Step (Option Int) :=
  step.andThen fun machine _ => ⟨machine, .ok none⟩

namespace Machine

/-- Executes an instruction; only the end of the input gives a value. -/
def execute (table : OperatorTable) (machine : Machine) (position : Option Int) :
    Instruction → Step (Option Int)
  | .operand value => (machine.pushOperand value position).withoutValue
  | .operator symbol =>
      (machine.withOperator table symbol fun operator =>
        machine.pushOperator operator position).withoutValue
  | .close symbol =>
      (machine.withOperator table symbol fun closer =>
        machine.closeGroup closer position).withoutValue
  | .reduce => (machine.reduce position).withoutValue
  | .finish => (machine.finish position).andThen fun ended value => ⟨ended, .ok (some value)⟩

/-- Executes instructions in order, each on the machine that the one before it left. -/
def executeAll (table : OperatorTable) (machine : Machine) :
    List (Instruction × Option Int) → Machine
  | [] => machine
  | (instruction, position) :: rest =>
      (machine.execute table position instruction).machine.executeAll table rest

end Machine

end InfixCalculator
