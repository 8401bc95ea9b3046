import InfixCalculator.Evaluator
import InfixCalculator.Failure
import InfixCalculator.Text.Blank

/-!
# The expression buffer

The text that the keys have typed, and whether it is the result of an evaluation.  After
a result, a digit or an opening parenthesis starts a new expression, and so does any key
after an error; every other key goes on from the result.  There is no unary minus, so a
negative result goes on as a difference in parentheses.

The engine that evaluates may be anything that answers an expression with a text or a
failure, with effects of its own.  Failures of value and arithmetic are shown; others
leave the buffer as it was.
-/

namespace InfixCalculator

/-- Anything that turns an expression into a text to show, or fails. -/
abbrev Engine (m : Type → Type) := String → m (Except Failure String)

/-- The calculator itself as an engine: it keeps no state, and its faults are failures. -/
def Evaluator.engine (evaluator : Evaluator) : Engine Id := fun expression =>
  (evaluator.calculate expression).mapError Failure.ofFault

/-- What an error shown in the buffer begins with. -/
def errorLabel : String := "Error: "

/-- Whether a text shows a failure: it begins with the label of errors. -/
def isErrorText (text : String) : Bool :=
  errorLabel.toList.isPrefixOf text.toList

/-- Whether a text typed over a result starts a new expression. -/
def startsAnew (typed : String) : Bool :=
  typed.toList.head?.any fun char => isAnyDigit char || char == '('

/-- The text typed so far, or the result of the latest evaluation. -/
structure ExpressionBuffer where
  text : String
  showsResult : Bool
deriving DecidableEq, Repr

namespace ExpressionBuffer

/-- The buffer before the first command, and after it is cleared. -/
def empty : ExpressionBuffer :=
  ⟨"", false⟩

/-- What stays of the text when `typed` is put behind it. -/
def kept (buffer : ExpressionBuffer) (typed : String) : String :=
  if !buffer.showsResult then buffer.text
  else if isErrorText buffer.text || startsAnew typed then ""
  else if buffer.text.toList.head? == some '-' then "(0" ++ buffer.text ++ ")"
  else buffer.text

/-- Puts a text behind what is kept. -/
def insert (buffer : ExpressionBuffer) (typed : String) : ExpressionBuffer :=
  ⟨buffer.kept typed ++ typed, false⟩

/-- Removes the latest character, or a result as a whole. -/
def backspace (buffer : ExpressionBuffer) : ExpressionBuffer :=
  if buffer.showsResult then empty
  else ⟨String.ofList buffer.text.toList.dropLast, false⟩

/-- Whether an evaluation has nothing to do: a result is shown, or the text is blank. -/
def isSettled (buffer : ExpressionBuffer) : Bool :=
  buffer.showsResult || isBlankText buffer.text

/-- Takes an answer in: a text is shown as a result, and so is a failure that is shown; any other
failure passes through and leaves the buffer as it is. -/
def absorb (buffer : ExpressionBuffer) :
    Except Failure String → ExpressionBuffer × Except Failure String
  | .ok text => (⟨text, true⟩, .ok text)
  | .error failure =>
      if failure.failureClass.isShown then
        let text := errorLabel ++ failure.shown
        (⟨text, true⟩, .ok text)
      else (buffer, .error failure)

/-- Replaces the text by its result.  The engine is asked once, and only if there is
something to do; a failure that is not shown passes through. -/
def evaluate {m : Type → Type} [Monad m] (engine : Engine m) (buffer : ExpressionBuffer) :
    m (ExpressionBuffer × Except Failure String) :=
  if buffer.isSettled then pure (buffer, .ok buffer.text)
  else buffer.absorb <$> engine buffer.text

/-- What can be asked of a buffer. -/
inductive Command where
  | insert (typed : String)
  | backspace
  | clear
  | evaluate
deriving DecidableEq, Repr

/-- Performs a command; the result is the text that the buffer then holds, or the failure
that passed through. -/
def perform {m : Type → Type} [Monad m] (engine : Engine m) (buffer : ExpressionBuffer) :
    Command → m (ExpressionBuffer × Except Failure String)
  | .insert typed => pure (buffer.insert typed, .ok (buffer.insert typed).text)
  | .backspace => pure (buffer.backspace, .ok buffer.backspace.text)
  | .clear => pure (empty, .ok empty.text)
  | .evaluate => buffer.evaluate engine

end ExpressionBuffer

end InfixCalculator
