/-!
# The keypad

The buttons of the window in rows, with what they do and how they are coloured, and the
keys of the keyboard that do the same.  Buttons show the glyphs of multiplication,
division and subtraction and insert them as they are.
-/

namespace InfixCalculator

/-- What a button or a key asks for. -/
inductive Action where
  | insert (typed : String)
  | backspace
  | clear
  | equals
deriving DecidableEq, Repr

namespace Action

/-- What the name of an insertion begins with; the text to insert follows. -/
def insertLabel : String := "insert:"

/-- The action of a name; what follows the label of insertions is the text to insert. -/
def ofName? (name : String) : Option Action :=
  if name = "clear" then some clear
  else if name = "backspace" then some backspace
  else if name = "equals" then some equals
  else if insertLabel.toList.isPrefixOf name.toList then
    some (insert (String.ofList (name.toList.drop insertLabel.length)))
  else none

end Action

/-- The groups of buttons that share colours. -/
inductive ButtonKind where
  | number
  | operator
  | function
  | special
  | equals
deriving DecidableEq, Repr

def ButtonKind.background : ButtonKind → String
  | number => "#313244"
  | operator => "#F38BA8"
  | function => "#45475A"
  | special => "#585B70"
  | equals => "#89B4FA"

def ButtonKind.foreground : ButtonKind → String
  | number | function | special => "#CDD6F4"
  | operator | equals => "#1E1E2E"

/-- A button of the keypad. -/
structure Button where
  label : String
  action : Action
  kind : ButtonKind
deriving DecidableEq, Repr

namespace Button

/-- A button that inserts its own label. -/
def typing (kind : ButtonKind) (label : String) : Button :=
  ⟨label, .insert label, kind⟩

/-- The rows of the keypad from top to bottom. -/
def rows : List (List Button) :=
  [[typing .function "(", typing .function ")", typing .function "^", typing .operator "÷"],
    [typing .number "7", typing .number "8", typing .number "9", typing .operator "×"],
    [typing .number "4", typing .number "5", typing .number "6", typing .operator "−"],
    [typing .number "1", typing .number "2", typing .number "3", typing .operator "+"],
    [⟨"C", .backspace, .special⟩, typing .number "0", ⟨"CE", .clear, .special⟩,
      ⟨"=", .equals, .equals⟩]]

def ofLabel? (label : String) : Option Button :=
  rows.flatten.find? fun button => button.label == label

end Button

/-- A key of the keyboard that acts like a button. -/
structure BoundKey where
  name : String
  action : Action
deriving DecidableEq, Repr

/-- The keys that act like a button. -/
def boundKeys : List BoundKey :=
  [⟨"BackSpace", .backspace⟩, ⟨"Escape", .clear⟩, ⟨"KP_Enter", .equals⟩,
    ⟨"Return", .equals⟩]

def BoundKey.ofName? (name : String) : Option BoundKey :=
  boundKeys.find? fun key => key.name == name

/-- The characters that may be typed, in one row. -/
def typedKeys : String := "0123456789+-*/^()"

/-- Whether a text stands in a row of characters, without a gap. -/
def occursIn (text : List Char) : List Char → Bool
  | [] => text.isEmpty
  | char :: rest => text.isPrefixOf (char :: rest) || occursIn text rest

/-- Standing in a row is being an infix of it. -/
theorem occursIn_eq_true_iff (text row : List Char) :
    occursIn text row = true ↔ text <:+: row := by
  induction row with
  | nil => simp [occursIn]
  | cons char rest ih =>
      rw [occursIn, Bool.or_eq_true, ih, List.isPrefixOf_iff_prefix, List.infix_cons_iff]

/-- The action of a typed text: it is inserted if it stands in the row of typed keys. -/
def typedAction? (typed : String) : Option Action :=
  if !typed.isEmpty && occursIn typed.toList typedKeys.toList then some (.insert typed)
  else none

end InfixCalculator
