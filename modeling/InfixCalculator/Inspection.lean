import InfixCalculator.Regression

/-!
# Inspecting an expression

The regression program can show one expression instead of running its checks: the text
as it was given, all its tokens or the fault that keeps it from being read to the end,
and its result.
-/

namespace InfixCalculator

namespace Inspection

/-- How an inspection shows a token. -/
def tokenLine : Token → String
  | .number value position =>
      "  Number(value=" ++ Decimal.text value ++ ", position=" ++
        Decimal.text position ++ ")"
  | .symbol symbol position =>
      "  OperatorSymbol(symbol=" ++ quote symbol ++ ", position=" ++
        Decimal.text position ++ ")"

/-- The lines of a stream of tokens.  It is read to its end before anything is shown. -/
def streamLines (stream : TokenStream) : List String :=
  match stream.fault? with
  | some fault => ["tokens:   " ++ fault.kind.name ++ ": " ++ fault.text]
  | none => "tokens:" :: stream.tokens.map tokenLine

/-- The lines of an inspection: the expression, its tokens as far as they can be read, and what it
gives. -/
def lines (evaluator : Evaluator) (expression : String) : List String :=
  ["Expression inspection", "expr:     " ++ quote expression] ++
    streamLines (evaluator.delimiters.tokenize expression) ++
    ["result:   " ++ (Regression.outcome (m := Id) evaluator.calculate expression).run]

/-- The argument that asks for an inspection; the expression follows it. -/
def request : String := "--inspect"

end Inspection

/-- Runs the regression program on a command line. -/
def runRegressionProgram (arguments : List String) : ProgramResult :=
  match arguments.dropWhile (· != Inspection.request) with
  | [] => Regression.run Regression.valueCases Regression.failureCases
  | [_] => ⟨1, "", CommandLine.unlines ["Missing expression after " ++ Inspection.request]⟩
  | _ :: expression :: _ =>
      ⟨0, CommandLine.unlines (Inspection.lines .standard expression), ""⟩

end InfixCalculator
