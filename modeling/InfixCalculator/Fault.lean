import InfixCalculator.Limits
import InfixCalculator.Text.Decimal
import InfixCalculator.Text.Quoted

/-!
# Faults of an evaluation

A fault has a cause and, where a place in the expression is to blame, a position.  Its
kind tells faults apart without reading a message; its message says in words what went
wrong; its text is the message followed by the position, if there is one.
-/

namespace InfixCalculator

/-- The kinds of fault, the unspecific one first. -/
inductive FaultKind where
  | general
  | invalidToken
  | unknownOperator
  | unmatchedGroup
  | stackUnderflow
  | divisionByZero
  | resultOverflow
deriving DecidableEq, Repr

namespace FaultKind

def all : List FaultKind :=
  [general, invalidToken, unknownOperator, unmatchedGroup, stackUnderflow,
    divisionByZero, resultOverflow]

theorem mem_all (kind : FaultKind) : kind ∈ all := by
  cases kind <;> decide

/-- The name that reports give to faults of this kind. -/
def name : FaultKind → String
  | general => "CalculatorError"
  | invalidToken => "InvalidToken"
  | unknownOperator => "UnknownOperator"
  | unmatchedGroup => "UnmatchedGroup"
  | stackUnderflow => "StackUnderflow"
  | divisionByZero => "DivisionByZero"
  | resultOverflow => "ResultOverflow"

/-- The label by which a program recognises faults of this kind. -/
def label : FaultKind → String
  | general => "error"
  | invalidToken => "invalid_token"
  | unknownOperator => "unknown_operator"
  | unmatchedGroup => "unmatched_group"
  | stackUnderflow => "stack_underflow"
  | divisionByZero => "division_by_zero"
  | resultOverflow => "overflow"

def ofName? (name : String) : Option FaultKind :=
  all.find? fun kind => kind.name == name

@[simp] theorem ofName?_name (kind : FaultKind) : ofName? kind.name = some kind := by
  cases kind <;> decide

end FaultKind

/-- What can go wrong between reading an expression and returning its value. -/
inductive Cause where
  | literalTooLong
  /-- A run of characters is neither a number nor a delimiter. -/
  | invalidRun (run : String)
  | unknownSymbol (symbol : String)
  /-- A closing symbol does not pair with the innermost open group. -/
  | closerWithoutOpener (closer : String) (opener : Option String)
  | groupLeftOpen (opener : String)
  | operatorDueBeforeNumber
  | operatorDueBefore (symbol : String)
  /-- An operator or a closing symbol stands where an operand is due. -/
  | operandDueBefore (symbol : String)
  | operandDueAtEnd
  | emptyExpression
  /-- The stacks do not come down to one value. -/
  | malformedExpression
  /-- A reduction finds no operator with a rule on top. -/
  | nothingToReduce
  | operandsMissing (symbol : String)
  | zeroDivisor
  | zeroToNegativePower
  /-- A power is refused before it is computed. -/
  | powerTooLarge
  | resultTooLarge (symbol : String)
  | operandTooLarge
  /-- A fault that its raiser puts in words of its own. -/
  | stated (kind : FaultKind) (message : String)
deriving DecidableEq, Repr

namespace Cause

/-- The kind that a cause belongs to. -/
def kind : Cause → FaultKind
  | literalTooLong | invalidRun _ => .invalidToken
  | unknownSymbol _ => .unknownOperator
  | closerWithoutOpener _ _ | groupLeftOpen _ => .unmatchedGroup
  | operatorDueBeforeNumber | operatorDueBefore _ | operandDueBefore _
  | operandDueAtEnd | emptyExpression | malformedExpression
  | nothingToReduce | operandsMissing _ => .stackUnderflow
  | zeroDivisor | zeroToNegativePower => .divisionByZero
  | powerTooLarge | resultTooLarge _ | operandTooLarge => .resultOverflow
  | stated kind _ => kind

def singleQuoted (symbol : String) : String :=
  "'" ++ symbol ++ "'"

/-- How a cause is told, without its position. -/
def message : Cause → String
  | literalTooLong =>
      "Número de más de " ++ Decimal.text maxLiteralDigits ++ " dígitos"
  | invalidRun run => "Token inválido: " ++ quote run
  | unknownSymbol symbol => "Operador desconocido: " ++ quote symbol
  | closerWithoutOpener closer opener =>
      singleQuoted closer ++ " sin " ++ singleQuoted (opener.getD "None") ++ " que lo abra"
  | groupLeftOpen opener => singleQuoted opener ++ " sin cerrar"
  | operatorDueBeforeNumber => "Falta un operador antes del número"
  | operatorDueBefore symbol => "Falta un operador antes de " ++ singleQuoted symbol
  | operandDueBefore symbol => "Falta un operando antes de " ++ singleQuoted symbol
  | operandDueAtEnd => "La expresión termina sin operando"
  | emptyExpression => "Expresión vacía"
  | malformedExpression => "Expresión mal formada"
  | nothingToReduce => "No hay operador que reducir"
  | operandsMissing symbol => "Faltan operandos para " ++ singleQuoted symbol
  | zeroDivisor => "División por cero"
  | zeroToNegativePower => "Cero elevado a un exponente negativo"
  | powerTooLarge => "Resultado demasiado grande"
  | resultTooLarge symbol => "Resultado demasiado grande en " ++ singleQuoted symbol
  | operandTooLarge => "Número demasiado grande"
  | stated _ message => message

end Cause

/-- A cause, and the offset in the expression that is to blame, if there is one. -/
structure Fault where
  cause : Cause
  position : Option Int
deriving DecidableEq, Repr

namespace Fault

def kind (fault : Fault) : FaultKind :=
  fault.cause.kind

/-- The cause in words, without the position. -/
def message (fault : Fault) : String :=
  fault.cause.message

/-- The text shown to a user: the message, and the position if there is one. -/
def text (fault : Fault) : String :=
  match fault.position with
  | none => fault.message
  | some position =>
      fault.message ++ " (posición " ++ Decimal.text position ++ ")"

end Fault

end InfixCalculator
