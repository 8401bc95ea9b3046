import InfixCalculator.Buffer
import InfixCalculator.Keypad.Layout

/-!
# The calculator window

A window passes the actions of its keys to an expression buffer and shows the buffer's
text.  An evaluation is done by a worker: while it is under way the window is busy and
ignores its keys, and what the worker has to show waits until the window is idle.

A worker is taken to be done before the next event.  A busy window touches neither its buffer nor
its display, so no event can tell; threads themselves are not modelled.  Nor are the fonts and the
geometry of the window, on which nothing depends.
-/

namespace InfixCalculator

/-- The title of the window. -/
def windowTitle : String := "Calculadora"

/-- What is shown for a failure that the buffer does not show itself. -/
def internalErrorText : String := errorLabel ++ "interno"

/-- The colours of the display: one for errors and one for everything else. -/
inductive DisplayColour where
  | expression
  | error
deriving DecidableEq, Repr

def DisplayColour.code : DisplayColour → String
  | expression => "#BAC2DE"
  | error => "#F38BA8"

/-- The window: the buffer, what the display shows, and whether an evaluation is under way. -/
structure Window where
  buffer : ExpressionBuffer
  display : String
  colour : DisplayColour
  busy : Bool
  /-- Texts that wait to be shown, the earliest first. -/
  posted : List String
deriving DecidableEq, Repr

/-- What can happen to a window. -/
inductive WindowEvent where
  | press (button : Button)
  /-- A key with an action of its own is pressed. -/
  | key (bound : BoundKey)
  | typed (text : String)
  | named (name : String)
  /-- The window has time to show what was posted. -/
  | idle
deriving DecidableEq, Repr

/-- The action that an event calls for, if it calls for any. -/
def WindowEvent.action? : WindowEvent → Option Action
  | press button => some button.action
  | key bound => some bound.action
  | typed text => typedAction? text
  | named name => Action.ofName? name
  | idle => none

namespace Window

/-- The window when it opens. -/
def initial : Window :=
  ⟨.empty, "", .expression, false, []⟩

/-- Shows a text, in the colour of errors if it begins like one. -/
def present (window : Window) (text : String) : Window :=
  { window with
    display := text
    colour := if isErrorText text then .error else .expression }

/-- Takes in a new buffer and shows its text. -/
def edit (window : Window) (buffer : ExpressionBuffer) : Window :=
  { window with buffer := buffer }.present buffer.text

/-- Posts what a worker's evaluation has to show.  A failure that passed through the
buffer empties it. -/
def post (window : Window) :
    ExpressionBuffer × Except Failure String → Window
  | (buffer, .ok text) =>
      { window with buffer := buffer, busy := true, posted := window.posted ++ [text] }
  | (_, .error _) =>
      { window with
        buffer := .empty
        busy := true
        posted := window.posted ++ [internalErrorText] }

/-- Has a worker evaluate the expression, unless it is blank. -/
def calculate {m : Type → Type} [Monad m] (engine : Engine m) (window : Window) :
    m Window :=
  if isBlankText window.buffer.text then pure window
  else window.post <$> window.buffer.evaluate engine

/-- Does what a key asks for, unless the window is busy. -/
def act {m : Type → Type} [Monad m] (engine : Engine m) (window : Window)
    (action : Action) : m Window :=
  if window.busy then pure window
  else
    match action with
    | .insert typed => pure (window.edit (window.buffer.insert typed))
    | .backspace => pure (window.edit window.buffer.backspace)
    | .clear => pure (window.edit .empty)
    | .equals => window.calculate engine

/-- Shows what was posted, the latest text last, and is ready for keys again. -/
def rest (window : Window) : Window :=
  window.posted.foldl (fun shown text => { shown.present text with busy := false })
    { window with posted := [] }

/-- What an event makes of a window.  An event that asks for nothing changes nothing. -/
def handle {m : Type → Type} [Monad m] (engine : Engine m) (window : Window)
    (event : WindowEvent) : m Window :=
  match event, event.action? with
  | .idle, _ => pure window.rest
  | _, some action => window.act engine action
  | _, none => pure window

end Window

end InfixCalculator
