import InfixCalculator.CommandLine.Request
import InfixCalculator.Evaluator
import InfixCalculator.Failure

/-!
# The calculator as a program

The program evaluates the expression that it is given and prints the value, or reports
the fault; without an expression it opens the window.  At the most detailed log level
the trace of the evaluation is written before its outcome.  Only a void setting makes the
program fail instead of ending with an exit code.
-/

namespace InfixCalculator

/-- What a run of a program leaves: its exit code and its two outputs. -/
structure ProgramResult where
  exitCode : Nat
  output : String
  errors : String
deriving DecidableEq, Repr

namespace CommandLine

/-- Lines as a program prints them, each with its line break. -/
def unlines (lines : List String) : String :=
  String.join (lines.map fun line => line ++ "\n")

/-- The name under which the program reports. -/
def programName : String := "main.py"

/-- The choice of log levels as usage and help show it. -/
def levelChoice : String :=
  "\x7b" ++ ",".intercalate (LogLevel.all.map LogLevel.name) ++ "\x7d"

/-- The line that goes before every usage error. -/
def usageLine : String :=
  "usage: " ++ programName ++ " [-h] [--expr EXPR] [--log-level " ++ levelChoice ++ "]"

/-- What is printed when help is asked for. -/
def helpText : String :=
  unlines
    [usageLine,
      "",
      "Calculadora de enteros",
      "",
      "options:",
      "  -h, --help            show this help message and exit",
      "  --expr EXPR           evalúa la expresión, imprime el resultado y termina",
      "                        sin abrir la ventana",
      "  --log-level " ++ levelChoice]

/-- The parts of the program that log. -/
inductive LogSource where
  | evaluator
  | program
deriving DecidableEq, Repr

def LogSource.name : LogSource → String
  | evaluator => "formula_evaluator"
  | program => "__main__"

/-- A line of the log: when, by whom, how urgent, and what. -/
def logLine (stamp : String) (source : LogSource) (level : LogLevel)
    (message : String) : String :=
  stamp ++ " - " ++ source.name ++ " - " ++ level.name ++ " - " ++ message

/-- The log lines of some messages of one source and level, if the threshold admits
them. -/
def logLines (threshold : LogLevel) (stamp : String) (source : LogSource)
    (level : LogLevel) (messages : List String) : List String :=
  if threshold.admits level then messages.map (logLine stamp source level) else []

/-- Evaluates an expression once: its value is printed, its fault is reported. -/
def runOnce (evaluator : Evaluator) (expression : String) : ProgramResult :=
  match evaluator.calculate expression with
  | .ok text => ⟨0, unlines [text], ""⟩
  | .error fault => ⟨1, "", unlines ["Error: " ++ fault.text]⟩

/-- Serves an expression: its trace goes to the log, before what evaluating it prints. -/
def serveExpression (stamp : String) (level : LogLevel) (expression : String) :
    ProgramResult :=
  let result := runOnce .standard expression
  let log := logLines level stamp .evaluator .debug (Evaluator.standard.trace expression)
  { result with errors := unlines log ++ result.errors }

/-- Serves a request without an expression.  A window that is opened and closed again
leaves no more than the note that it was opened. -/
def serveWindow (stamp : String) (level : LogLevel) : ProgramResult :=
  ⟨0, "", unlines (logLines level stamp .program .info ["Ventana iniciada"])⟩

/-- The failure of a program that has to log at a void level. -/
def voidLevelFailure : Failure :=
  ⟨.unforeseen "TypeError", "attribute name must be string, not 'list'"⟩

/-- The failure of a program that has to evaluate a void expression. -/
def voidExpressionFailure : Failure :=
  ⟨.unforeseen "AttributeError", "'list' object has no attribute 'replace'"⟩

/-- Serves a request, logging under a time stamp.  A void setting lets the program fail;
the level is needed before the expression. -/
def serve (stamp : String) (request : Request) : Except Failure ProgramResult :=
  match request.logLevel, request.expression with
  | .void, _ => .error voidLevelFailure
  | .to _, some .void => .error voidExpressionFailure
  | .to level, some (.to expression) => .ok (serveExpression stamp level expression)
  | .to level, none => .ok (serveWindow stamp level)

/-- Runs the program on a command line, logging under a time stamp. -/
def runProgram (stamp : String) (arguments : List String) :
    Except Failure ProgramResult :=
  match readRequest arguments with
  | .ok request => serve stamp request
  | .error .help => .ok ⟨0, helpText, ""⟩
  | .error (.usage error) =>
      .ok ⟨2, "", unlines [usageLine, programName ++ ": error: " ++ error.message]⟩

end CommandLine

end InfixCalculator
