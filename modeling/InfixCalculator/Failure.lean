import InfixCalculator.Fault

/-!
# Failures and their classes

An engine behind the keypad may fail with a calculator fault or with anything else.
Failures fall into classes that are ordered from the specific to the general, and the
order decides which failures are shown as a result and which ones pass through.

The most general class is that of all failures that a program is meant to handle.  What ends a
program instead, such as a request to exit or an interruption from the keyboard, lies outside of
it: no part of the calculator catches it, so it would end the worker of a window, which then
stays busy and has nothing posted.  It is not modelled.
-/

namespace InfixCalculator

/-- A class of failures that a program is meant to handle. -/
inductive FailureClass where
  /-- The class of all of them; exits and interruptions are no failures in this sense. -/
  | any
  | value
  | arithmetic
  | zeroDivision
  | overflow
  | calculator (kind : FaultKind)
  /-- A class that no part of the calculator expects. -/
  | unforeseen (name : String)
  /-- A class of the engine's own that specialises another one. -/
  | derived (name : String) (parent : FailureClass)
deriving DecidableEq, Repr

namespace FailureClass

def name : FailureClass → String
  | any => "Exception"
  | value => "ValueError"
  | arithmetic => "ArithmeticError"
  | zeroDivision => "ZeroDivisionError"
  | overflow => "OverflowError"
  | calculator kind => kind.name
  | unforeseen name => name
  | derived name _ => name

/-- The class of a name; a name that no class has is an unforeseen class of its own. -/
def ofName (name : String) : FailureClass :=
  match FaultKind.ofName? name with
  | some kind => calculator kind
  | none =>
      ([any, value, arithmetic, zeroDivision, overflow].find?
        fun foreseen => foreseen.name == name).getD (unforeseen name)

/-- The classes that a class specialises, itself and the class of all failures left out. -/
def generalizations : FailureClass → List FailureClass
  | calculator .general => [value]
  | calculator .divisionByZero =>
      [calculator .general, value, zeroDivision, arithmetic]
  | calculator .resultOverflow =>
      [calculator .general, value, overflow, arithmetic]
  | calculator _ => [calculator .general, value]
  | zeroDivision | overflow => [arithmetic]
  | derived _ parent => parent :: parent.generalizations
  | any | value | arithmetic | unforeseen _ => []

/-- Whether every failure of the first class is one of the second. -/
def isA (specific general : FailureClass) : Bool :=
  general == any || specific == general || specific.generalizations.contains general

/-- Whether a failure of this class is shown as a result. -/
def isShown (failureClass : FailureClass) : Bool :=
  failureClass.isA value || failureClass.isA arithmetic

/-- A fault of the calculator is a general one and a failure of a value, whatever its kind. -/
theorem isA_general (kind : FaultKind) :
    (calculator kind).isA (calculator .general) = true ∧
      (calculator kind).isA value = true := by
  cases kind <;> decide

/-- Every fault of the calculator is shown as a result. -/
theorem isShown_calculator (kind : FaultKind) : (calculator kind).isShown = true := by
  cases kind <;> decide

end FailureClass

/-- A failure of an engine: its class and its text, which may be empty.  Exits and interruptions,
which are not handled as failures, are none. -/
structure Failure where
  failureClass : FailureClass
  text : String
deriving DecidableEq, Repr

namespace Failure

def ofFault (fault : Fault) : Failure :=
  ⟨.calculator fault.kind, fault.text⟩

/-- What is shown for a failure: its text, or the name of its class if it has none. -/
def shown (failure : Failure) : String :=
  if failure.text.isEmpty then failure.failureClass.name else failure.text

end Failure

end InfixCalculator
