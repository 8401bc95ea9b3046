import InfixCalculator.CommandLine.Argument
import InfixCalculator.Text.Quoted

/-!
# Requests

What a command line asks for: an expression to evaluate, if there is one, and how much to
log.  Options take effect from left to right, the last expression counts, and the first
error or call for help ends the reading.  Operands and unknown options are gathered and
rejected at the end.
-/

namespace InfixCalculator

namespace CommandLine

/-- How urgent a log line must be to be written. -/
inductive LogLevel where
  | debug
  | info
  | warning
  | error
deriving DecidableEq, Repr

namespace LogLevel

def all : List LogLevel :=
  [debug, info, warning, error]

def name : LogLevel → String
  | debug => "DEBUG"
  | info => "INFO"
  | warning => "WARNING"
  | error => "ERROR"

def ofName? (name : String) : Option LogLevel :=
  all.find? fun level => level.name == name

/-- How urgent a message of a level is; less urgent ones than the level asked for are left out. -/
def urgency : LogLevel → Nat
  | debug => 0
  | info => 1
  | warning => 2
  | error => 3

/-- Whether lines of the second level are written under the first. -/
def admits (threshold line : LogLevel) : Bool :=
  threshold.urgency ≤ line.urgency

end LogLevel

/-- What can be wrong with a command line. -/
inductive UsageError where
  | ambiguous (ambiguity : Ambiguity)
  | valueMissing (flag : Flag)
  | valueIgnored (flag : Flag) (value : String)
  | invalidLevel (value : String)
  | unrecognized (arguments : List String)
deriving DecidableEq, Repr

/-- How a usage error is told. -/
def UsageError.message : UsageError → String
  | ambiguous ambiguity =>
      "ambiguous option: " ++ ambiguity.argument ++ " could match " ++
        ", ".intercalate ambiguity.candidates
  | valueMissing flag => "argument " ++ flag.title ++ ": expected one argument"
  | valueIgnored flag value =>
      "argument " ++ flag.title ++ ": ignored explicit argument " ++ quote value
  | invalidLevel value =>
      "argument " ++ Flag.logLevel.title ++ ": invalid choice: " ++ quote value ++
        " (choose from " ++
        ", ".intercalate (LogLevel.all.map fun level => quote level.name) ++ ")"
  | unrecognized arguments => "unrecognized arguments: " ++ " ".intercalate arguments

/-- What an option with a value is set to. -/
inductive Setting (α : Type) where
  | to (value : α)
  /-- The value was the separator `--`: it is taken away, and no value is left. -/
  | void
deriving DecidableEq, Repr

/-- What a command line asks for. -/
structure Request where
  expression : Option (Setting String)
  logLevel : Setting LogLevel
deriving DecidableEq, Repr

/-- Why a command line is not carried out. -/
inductive Refusal where
  /-- The help text is asked for instead. -/
  | help
  | usage (error : UsageError)
deriving DecidableEq, Repr

namespace Request

/-- The request of an empty command line. -/
def default : Request :=
  ⟨none, .to .warning⟩

/-- Sets what an option with a value asks for. -/
def assign (request : Request) (flag : Flag) (value : String) :
    Except UsageError Request :=
  match flag with
  | .help => .error (.valueIgnored .help value)
  | .expression =>
      let setting := if value = separator then .void else .to value
      .ok { request with expression := some setting }
  | .logLevel =>
      if value = separator then .ok { request with logLevel := .void }
      else
        match LogLevel.ofName? value with
        | some level => .ok { request with logLevel := .to level }
        | none => .error (.invalidLevel value)

end Request

/-- What follows from characters put behind `-h`.  Each further `h` asks for the help text
again; anything else, and an empty value, is an error that names what is left. -/
def refusalOfLetters : List Char → Refusal
  | ['h'] => .help
  | 'h' :: rest => refusalOfLetters rest
  | letters => .usage (.valueIgnored .help (String.ofList letters))

/-- Interprets the arguments from left to right; `rejected` gathers the arguments that
nothing takes, the latest first. -/
def interpret (request : Request) (rejected : List String) :
    List (String × Argument) → Except Refusal Request
  | [] =>
      if rejected.isEmpty then .ok request
      else .error (.usage (.unrecognized rejected.reverse))
  | (_, .option .help .nothing) :: _ => .error .help
  | (_, .option _ (.letters letters)) :: _ => .error (refusalOfLetters letters)
  | (_, .option flag (.value value)) :: rest => do
      let next ← (request.assign flag value).mapError .usage
      interpret next rejected rest
  | (_, .option flag .nothing) :: (value, .operand) :: rest => do
      let next ← (request.assign flag value).mapError .usage
      interpret next rejected rest
  | (_, .option flag .nothing) :: _ => .error (.usage (.valueMissing flag))
  | (argument, _) :: rest => interpret request (argument :: rejected) rest

/-- Reads a command line: ambiguities are found before anything else is. -/
def readRequest (arguments : List String) : Except Refusal Request := do
  let classified ← (classifyAll arguments).mapError fun ambiguity =>
    .usage (.ambiguous ambiguity)
  interpret .default [] classified

end CommandLine

end InfixCalculator
