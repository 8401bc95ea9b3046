import InfixCalculator.Text.Digit

/-!
# Arguments of the command line

Every argument is classified before any of them takes effect.  An argument that begins
with a hyphen is an option if it spells one, or abbreviates exactly one long spelling,
possibly with a value attached; otherwise it is an unknown option.  A lone hyphen, what
looks like a negative number, and what holds a space are operands all the same.  After
the separator `--` everything is an operand.
-/

namespace InfixCalculator

namespace CommandLine

/-- The options of the program. -/
inductive Flag where
  | help
  | expression
  | logLevel
deriving DecidableEq, Repr

/-- The argument behind which every argument is an operand. -/
def separator : String := "--"

/-- The spellings of the options, in the order in which they are searched. -/
def spellings : List (String × Flag) :=
  [("-h", .help), ("--help", .help), ("--expr", .expression),
    ("--log-level", .logLevel)]

/-- How a usage error names an option. -/
def Flag.title : Flag → String
  | help => "-h/--help"
  | expression => "--expr"
  | logLevel => "--log-level"

/-- What is written in the same argument behind an option. -/
inductive Attached where
  | nothing
  /-- A value follows the equals sign of a long spelling. -/
  | value (text : String)
  /-- Characters follow a one-letter spelling, directly or behind an equals sign. -/
  | letters (text : List Char)
deriving DecidableEq, Repr

/-- What an argument is read as. -/
inductive Argument where
  | operand
  | separator
  | unknownOption
  | option (flag : Flag) (attached : Attached)
deriving DecidableEq, Repr

/-- An abbreviated option that several options begin with. -/
structure Ambiguity where
  argument : String
  candidates : List String
deriving DecidableEq, Repr

/-- The part of a text before its first equals sign, and the part behind it if there is
one. -/
def splitAtEquals (text : List Char) : List Char × Option (List Char) :=
  match text.span fun char => char != '=' with
  | (name, []) => (name, none)
  | (name, _ :: value) => (name, some value)

/-- Whether a text behind a hyphen is a number, with or without a decimal point.  One
line break at the end does not count. -/
def isNumeral (text : List Char) : Bool :=
  let line := if text.getLast? == some '\n' then text.dropLast else text
  match line.span isDecimalDigit with
  | (whole, []) => !whole.isEmpty
  | (_, point :: fraction) =>
      point == '.' && !fraction.isEmpty && fraction.all isDecimalDigit

/-- The long spellings that a name abbreviates. -/
def completions (name : List Char) : List (String × Flag) :=
  spellings.filter fun spelling => name.isPrefixOf spelling.1.toList

/-- What the part behind an equals sign attaches to a spelling. -/
def Attached.behind (spelling : String) : Option (List Char) → Attached
  | none => .nothing
  | some chars =>
      if spelling.length = 2 then .letters chars else .value (String.ofList chars)

/-- What an argument is that begins with a hyphen and spells no option. -/
def classifyUnspelled (argument : List Char) : Argument :=
  if isNumeral argument.tail || argument.contains ' ' then .operand else .unknownOption

/-- What an argument is, as long as no separator came before it. -/
def classify (argument : String) : Except Ambiguity Argument :=
  let chars := argument.toList
  let (name, value) := splitAtEquals chars
  match spellings.lookup argument, spellings.lookup (String.ofList name) with
  | some flag, _ => .ok (.option flag .nothing)
  | none, some flag => .ok (.option flag (.behind (String.ofList name) value))
  | none, none =>
      match chars with
      | '-' :: '-' :: _ =>
          match completions name with
          | [] => .ok (classifyUnspelled chars)
          | [spelling] => .ok (.option spelling.2 (.behind spelling.1 value))
          | several => .error ⟨argument, several.map Prod.fst⟩
      | '-' :: 'h' :: letters => .ok (.option .help (.letters letters))
      | '-' :: _ :: _ => .ok (classifyUnspelled chars)
      | _ => .ok .operand

/-- Reads the arguments one by one, up to the first ambiguity; behind a separator all are
operands. -/
def classifyAll : List String → Except Ambiguity (List (String × Argument))
  | [] => .ok []
  | argument :: rest =>
      if argument = separator then
        .ok ((argument, .separator) :: rest.map fun operand => (operand, .operand))
      else do
        let first ← classify argument
        let others ← classifyAll rest
        return (argument, first) :: others

end CommandLine

end InfixCalculator
