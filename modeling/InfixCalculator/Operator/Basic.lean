import InfixCalculator.Arithmetic
import InfixCalculator.Failure

/-!
# Operators and group delimiters

An operator is described by its symbol, its rank against its neighbours and, for a
binary operator, its rule.  The delimiters of groups are described in the same way:
an opener is marked as such, and a closer names the opener that it pairs with.
Two sentinels stand for the ends of the input; their symbols are reserved.
-/

namespace InfixCalculator

/-- Which of two operators of one priority takes the operand between them. -/
inductive Associativity where
  | left
  | right
  | none
deriving DecidableEq, Repr

/-- An operator or a group delimiter. -/
structure Operator where
  symbol : String
  priority : Int
  associativity : Associativity
  rule : Option Rule
  opensGroup : Bool
  pairedOpener : Option String

namespace Operator

/-- Whether this is a closing delimiter: one that names its opener. -/
def closesGroup (operator : Operator) : Bool :=
  operator.pairedOpener.isSome

/-- Whether an operator has a rule, so that it can be reduced. -/
def isBinary (operator : Operator) : Bool :=
  operator.rule.isSome

/-- The failure of applying an operator that has no rule, outside of any machine. -/
def ruleMissing : Failure :=
  ⟨.unforeseen "TypeError", "'NoneType' object is not callable"⟩

/-- Whether an operator delimits no group. -/
def isPlain (operator : Operator) : Bool :=
  !operator.opensGroup && !operator.closesGroup

/-- Whether this operator, waiting on the stack, is reduced before `incoming` is put on
it.  At equal priority a right-associative operator waits and any other is reduced. -/
def outranks (waiting incoming : Operator) : Bool :=
  if waiting.associativity = .right then incoming.priority < waiting.priority
  else incoming.priority ≤ waiting.priority

/-- An operator between two operands. -/
def binary (symbol : String) (priority : Int) (associativity : Associativity)
    (rule : Rule) : Operator :=
  ⟨symbol, priority, associativity, some rule, false, none⟩

/-- The symbol of the sentinel at the bottom of the operators. -/
def startSymbol : String := "#"

/-- The symbol of the sentinel that ends the input. -/
def endSymbol : String := "$"

/-- The sentinel below all operators; every operator outranks it. -/
def start : Operator :=
  ⟨startSymbol, 0, .none, none, false, none⟩

/-- The sentinel behind the last token. -/
def finish : Operator :=
  ⟨endSymbol, 1, .none, none, false, none⟩

/-- Whether a symbol belongs to a sentinel, so that no table may use it. -/
def isReserved (symbol : String) : Bool :=
  symbol == startSymbol || symbol == endSymbol

end Operator

end InfixCalculator
