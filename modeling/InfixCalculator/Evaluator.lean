import InfixCalculator.Machine.Transition
import InfixCalculator.Operator.Standard
import InfixCalculator.Token.Reader

/-!
# Evaluating expressions

An evaluator reads expressions with a set of delimiters and evaluates them with a table
of operators.  It keeps no state: every evaluation starts a machine of its own.  Tokens
are taken in as they are read, so a fault of the evaluation comes before a fault of
reading further on in the text.
-/

namespace InfixCalculator

/-- The operators and the delimiters of a calculator. -/
structure Evaluator where
  table : OperatorTable
  delimiters : Delimiters

namespace Evaluator

/-- The calculator's own evaluator: its delimiters and its table. -/
def standard : Evaluator :=
  ⟨.standard, .standard⟩

/-- The evaluation of a stream of tokens. -/
def runStream (evaluator : Evaluator) (stream : TokenStream) : Step Int :=
  Machine.start.run evaluator.table 0 stream

/-- Runs the machine over a list of tokens. -/
def runTokens (evaluator : Evaluator) (tokens : List Token) : Step Int :=
  evaluator.runStream (.ofList tokens)

/-- Runs the machine over the tokens of a text, which are read as they are needed. -/
def run (evaluator : Evaluator) (expression : String) : Step Int :=
  evaluator.runStream (evaluator.delimiters.tokenize expression)

/-- The value of a list of tokens, or the fault that comes first. -/
def evaluateTokens (evaluator : Evaluator) (tokens : List Token) : Except Fault Int :=
  (evaluator.runTokens tokens).outcome

/-- The value of a text, or the fault that comes first. -/
def evaluate (evaluator : Evaluator) (expression : String) : Except Fault Int :=
  (evaluator.run expression).outcome

/-- The value of an expression as a decimal text. -/
def calculate (evaluator : Evaluator) (expression : String) : Except Fault String :=
  (evaluator.evaluate expression).map Decimal.text

/-- The trace of an expression: its completed reductions, and its value if it has one. -/
def trace (evaluator : Evaluator) (expression : String) : List String :=
  let step := evaluator.run expression
  match step.outcome with
  | .ok value =>
      step.machine.trace ++ [quote expression ++ " -> " ++ Decimal.text value]
  | .error _ => step.machine.trace

/-- The trace of a list of tokens: its completed reductions. -/
def tokenTrace (evaluator : Evaluator) (tokens : List Token) : List String :=
  (evaluator.runTokens tokens).machine.trace

end Evaluator

end InfixCalculator
