import InfixCalculator.Token.Delimiters

/-!
# Lexemes

Every character belongs to one of four classes, and a text falls apart into lexemes:
maximal runs of digits, of blanks or of foreign characters, and single delimiters.  The
main statement is that the lexemes of a text, put together, are the text again
(`flatMap_chars_lexemes`).
-/

namespace InfixCalculator

/-- What a character can be part of. -/
inductive CharClass where
  | digit
  | delimiter
  | blank
  /-- Neither a digit, nor a delimiter, nor a blank. -/
  | foreign
deriving DecidableEq, Repr

/-- The class of a character.  No delimiter is a digit or a blank, so the order of the
questions does not matter. -/
def Delimiters.classify (delimiters : Delimiters) (char : Char) : CharClass :=
  if char.isDigit then .digit
  else if delimiters.contains char then .delimiter
  else if isBlank char then .blank
  else .foreign

/-- A piece of text whose characters have one class. -/
structure Lexeme where
  charClass : CharClass
  chars : List Char
deriving DecidableEq, Repr

namespace Lexeme

/-- Puts a character in front of a list of lexemes.  It joins the first lexeme if that is
a run of its class; delimiters never join. -/
def prepend (charClass : CharClass) (char : Char) : List Lexeme → List Lexeme
  | [] => [⟨charClass, [char]⟩]
  | first :: rest =>
      if charClass = first.charClass ∧ charClass ≠ .delimiter then
        ⟨charClass, char :: first.chars⟩ :: rest
      else ⟨charClass, [char]⟩ :: first :: rest

/-- Cutting a text into lexemes loses no character. -/
@[simp] theorem flatMap_chars_prepend (charClass : CharClass) (char : Char)
    (lexemes : List Lexeme) :
    (prepend charClass char lexemes).flatMap Lexeme.chars =
      char :: lexemes.flatMap Lexeme.chars := by
  cases lexemes with
  | nil => rfl
  | cons first rest =>
      rw [prepend]
      split <;> simp

end Lexeme

namespace Delimiters

/-- The lexemes of a text, in order. -/
def lexemes (delimiters : Delimiters) : List Char → List Lexeme
  | [] => []
  | char :: rest =>
      Lexeme.prepend (delimiters.classify char) char (delimiters.lexemes rest)

/-- Nothing of a text is lost between its lexemes. -/
theorem flatMap_chars_lexemes (delimiters : Delimiters) (text : List Char) :
    (delimiters.lexemes text).flatMap Lexeme.chars = text := by
  induction text with
  | nil => rfl
  | cons char rest ih => rw [lexemes, Lexeme.flatMap_chars_prepend, ih]

end Delimiters

end InfixCalculator
