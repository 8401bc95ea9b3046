import InfixCalculator.CommandLine.Program
import InfixCalculator.Failure

/-!
# Regression checks

A list of expressions with the results they must have, a list of expressions with the
failures they must end in, and two checks that the calculator keeps no state: an
evaluation gives the same result when it is repeated, and also after a failed one.  The
report lists every check, compares expected and actual results, and ends with the checks
that failed or with the note that all passed.
-/

namespace InfixCalculator

namespace Regression

/-- An expression and the text it must give: its value or the name of its fault. -/
structure ValueCase where
  expression : String
  expected : String
deriving DecidableEq, Repr

/-- The classes of failure that a case admits: one class, or any of a list. -/
inductive Expectation where
  | single (failureClass : FailureClass)
  | anyOf (failureClasses : List FailureClass)
deriving DecidableEq, Repr

/-- An expression and the failures in one of which it must end. -/
structure FailureCase where
  expression : String
  expected : Expectation
deriving DecidableEq, Repr

/-- How a list of classes shows one of them, with the module that it comes from.  Only the
built-in classes and those of the calculator are meant: a class of an engine's own would be shown
with a module of its own, which is not modelled, and no case expects one. -/
def classTitle (failureClass : FailureClass) : String :=
  match failureClass with
  | .calculator kind => "<class 'calculator_errors." ++ kind.name ++ "'>"
  | other => "<class '" ++ other.name ++ "'>"

namespace Expectation

/-- Whether a fault is one of the expected failures. -/
def admits (expectation : Expectation) (fault : Fault) : Bool :=
  let raised := FailureClass.calculator fault.kind
  match expectation with
  | single failureClass => raised.isA failureClass
  | anyOf failureClasses => failureClasses.any raised.isA

/-- The expectation as a check shows it: a class by name, a list in parentheses, with a
comma even behind a single class. -/
def title : Expectation → String
  | single failureClass => failureClass.name
  | anyOf [failureClass] => "(" ++ classTitle failureClass ++ ",)"
  | anyOf failureClasses =>
      "(" ++ ", ".intercalate (failureClasses.map classTitle) ++ ")"

end Expectation

/-- A check and whether it passed. -/
structure Check where
  name : String
  passed : Bool
deriving DecidableEq, Repr

/-- An expression with its expected and its actual result. -/
structure Comparison where
  expression : String
  expected : String
  actual : String
deriving DecidableEq, Repr

/-- What the checks found, in the order in which they were made. -/
structure Findings where
  comparisons : List Comparison
  failureChecks : List Check
  stabilityChecks : List Check
deriving DecidableEq, Repr

/-- A calculator that may keep a state of its own. -/
abbrev Calculator (m : Type → Type) := String → m (Except Fault String)

variable {m : Type → Type} [Monad m]

/-- What an evaluation gives: its text, or the name of its fault. -/
def outcome (calculator : Calculator m) (expression : String) : m String := do
  match ← calculator expression with
  | .ok text => return text
  | .error fault => return fault.kind.name

/-- Compares what an expression gives with what it must give. -/
def compare (calculator : Calculator m) (valueCase : ValueCase) : m Comparison := do
  let actual ← outcome calculator valueCase.expression
  return ⟨valueCase.expression, valueCase.expected, actual⟩

def Comparison.agrees (comparison : Comparison) : Bool :=
  comparison.actual == comparison.expected

/-- A comparison as a check with a name. -/
def Comparison.check (comparison : Comparison) : Check :=
  ⟨comparison.expression ++ " evaluates to " ++ comparison.expected, comparison.agrees⟩

/-- An expression as the name of a check shows it: quoted, and cut short if it has more
than twenty characters. -/
def excerpt (expression : String) : String :=
  if expression.length ≤ 20 then quote expression
  else quote (String.ofList (expression.toList.take 17) ++ "...")

/-- Checks that an expression ends in an expected failure. -/
def checkFailure (calculator : Calculator m) (failureCase : FailureCase) : m Check := do
  let name := excerpt failureCase.expression ++ " raises " ++ failureCase.expected.title
  match ← calculator failureCase.expression with
  | .ok _ => return ⟨name, false⟩
  | .error fault => return ⟨name, failureCase.expected.admits fault⟩

/-- The expression that is evaluated again and again. -/
def repeatedExpression : String := "((1+2)*(3+4))"

/-- An expression that fails, to be evaluated in between. -/
def brokenExpression : String := "(1+"

/-- Checks that the calculator keeps no state that shows. -/
def checkStability (calculator : Calculator m) : m (List Check) := do
  let first ← outcome calculator repeatedExpression
  let second ← outcome calculator repeatedExpression
  let third ← outcome calculator repeatedExpression
  let _ ← outcome calculator brokenExpression
  let afterFailure ← outcome calculator repeatedExpression
  return [⟨"repeated evaluation is stable", second == first && third == first⟩,
    ⟨"failed evaluation leaves no state behind", afterFailure == first⟩]

/-- Makes all checks in order. -/
def examine (calculator : Calculator m) (valueCases : List ValueCase)
    (failureCases : List FailureCase) : m Findings := do
  let comparisons ← valueCases.mapM (compare calculator)
  let failureChecks ← failureCases.mapM (checkFailure calculator)
  let stabilityChecks ← checkStability calculator
  return ⟨comparisons, failureChecks, stabilityChecks⟩

namespace Findings

/-- All checks in the order of the report. -/
def checks (findings : Findings) : List Check :=
  findings.comparisons.map Comparison.check ++ findings.failureChecks ++
    findings.stabilityChecks

/-- The names of the checks that failed. -/
def failedNames (findings : Findings) : List String :=
  (findings.checks.filter fun check => !check.passed).map Check.name

def verdict (passed : Bool) : String :=
  if passed then "OK" else "FAIL"

def checkLine (check : Check) : String :=
  check.name ++ ": " ++ verdict check.passed

def comparisonLines (comparison : Comparison) : List String :=
  ["- " ++ comparison.expression ++ ": " ++ verdict comparison.agrees,
    "  expected: " ++ comparison.expected,
    "  actual:   " ++ comparison.actual]

/-- The end of a report: the failed checks, or that there are none. -/
def closingLines (findings : Findings) : List String :=
  if findings.failedNames.isEmpty then ["", "All regression checks passed."]
  else "" :: "FAILED CHECKS:" :: findings.failedNames.map fun name => "- " ++ name

/-- The report line by line. -/
def lines (findings : Findings) : List String :=
  findings.checks.map checkLine ++ ["", "Expected vs Actual:"] ++
    findings.comparisons.flatMap comparisonLines ++ findings.closingLines

/-- The report as a program's result: the exit code tells whether a check failed. -/
def result (findings : Findings) : ProgramResult :=
  ⟨if findings.failedNames.isEmpty then 0 else 1, CommandLine.unlines findings.lines, ""⟩

end Findings

/-- The calculator's own cases with a value. -/
def valueCases : List ValueCase :=
  [⟨"8-3-2", "3"⟩, ⟨"2^3^2", "512"⟩, ⟨"1+2*3", "7"⟩, ⟨"(1+2)*3", "9"⟩,
    ⟨"((1+2)*(3+4))", "21"⟩, ⟨"7/2", "3"⟩, ⟨"(0-7)/2", "-3"⟩, ⟨"2*3^2", "18"⟩,
    ⟨"100/10/5", "2"⟩, ⟨"2^(1-3)", "0"⟩, ⟨" 12 +  30 ", "42"⟩, ⟨"6÷2×(1+2)", "9"⟩]

/-- The calculator's own cases with a failure. -/
def failureCases : List FailureCase :=
  [⟨"5/0", .single (.calculator .divisionByZero)⟩,
    ⟨"(1+2", .single (.calculator .unmatchedGroup)⟩,
    ⟨"1+2)", .single (.calculator .unmatchedGroup)⟩,
    ⟨"1+", .single (.calculator .stackUnderflow)⟩,
    ⟨"+1", .single (.calculator .stackUnderflow)⟩,
    ⟨"()", .single (.calculator .stackUnderflow)⟩,
    ⟨"", .single (.calculator .stackUnderflow)⟩,
    ⟨"1@2", .anyOf [.calculator .invalidToken, .calculator .unknownOperator]⟩,
    ⟨"9^9^9", .single (.calculator .resultOverflow)⟩,
    ⟨String.ofList (List.replicate 5000 '1'), .single (.calculator .invalidToken)⟩]

/-- Runs the checks of given cases on the calculator itself. -/
def run (valueCases : List ValueCase) (failureCases : List FailureCase) : ProgramResult :=
  (examine (m := Id) Evaluator.standard.calculate valueCases failureCases).run.result

end Regression

end InfixCalculator
