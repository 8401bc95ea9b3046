import InfixCalculator.CommandLine.Program
import InfixCalculator.Inspection
import Std.Time

/-!
# The executable

The executable runs the calculator on its command line; under the name
`regressions` it runs the regression program instead.
-/

namespace InfixCalculator

/-- Writes the result of a program and gives its exit code. -/
def deliver (result : ProgramResult) : IO UInt32 := do
  (← IO.getStdout).putStr result.output
  (← IO.getStderr).putStr result.errors
  return result.exitCode.toUInt32

/-- The present time, as log lines show it. -/
def timeStamp : IO String := do
  let now ← Std.Time.PlainDateTime.now
  return now.format "uuuu-MM-dd HH:mm:ss,SSS"

/-- Reports a failure that ended the program. -/
def abandon (failure : Failure) : IO UInt32 := do
  (← IO.getStderr).putStrLn (failure.failureClass.name ++ ": " ++ failure.text)
  return 1

end InfixCalculator

/-- Runs the program that the executable's name asks for. -/
def main (arguments : List String) : IO UInt32 := do
  let name := (← IO.appPath).fileStem
  if name == some "regressions" then
    InfixCalculator.deliver (InfixCalculator.runRegressionProgram arguments)
  else
    let stamp ← InfixCalculator.timeStamp
    match InfixCalculator.CommandLine.runProgram stamp arguments with
    | .ok result => InfixCalculator.deliver result
    | .error failure => InfixCalculator.abandon failure
