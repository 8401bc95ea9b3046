import InfixCalculator.Text.Printable

/-!
# Quoted text

Messages quote the text they complain about on one line: between single quotes, or
between double quotes when the text holds a single quote and no double one.  Inside,
a backslash and the delimiter are written with a backslash, the line and tab breaks
by a letter, and every other unprintable character by its code point in two, four or
eight hexadecimal digits.
-/

namespace InfixCalculator

namespace Quoted

/-- The quotation mark around a text: a single one, or a double one if only single ones occur. -/
def delimiter (text : List Char) : Char :=
  if text.contains '\'' && !text.contains '"' then '"' else '\''

/-- The digits of a code point in base sixteen, filled with zeros up to a width. -/
def hexadecimal (width code : Nat) : List Char :=
  let digits := Nat.toDigits 16 code
  List.replicate (width - digits.length) '0' ++ digits

/-- An unprintable character by the narrowest escape that holds its code point. -/
def escapeCode (code : Nat) : List Char :=
  if code < 0x100 then '\\' :: 'x' :: hexadecimal 2 code
  else if code < 0x10000 then '\\' :: 'u' :: hexadecimal 4 code
  else '\\' :: 'U' :: hexadecimal 8 code

/-- How a character is written inside quotes of the given kind. -/
def escape (delimiter char : Char) : List Char :=
  if char = '\\' || char = delimiter then ['\\', char]
  else if char = '\n' then ['\\', 'n']
  else if char = '\r' then ['\\', 'r']
  else if char = '\t' then ['\\', 't']
  else if isPrintable char then [char]
  else escapeCode char.toNat

end Quoted

/-- A text in quotes, as messages show it. -/
def quote (text : String) : String :=
  let chars := text.toList
  let delimiter := Quoted.delimiter chars
  String.ofList (delimiter :: chars.flatMap (Quoted.escape delimiter) ++ [delimiter])

end InfixCalculator
