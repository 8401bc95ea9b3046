import InfixCalculator.Text.Blank
import InfixCalculator.Text.Digit

/-!
# Delimiters

A delimiter is a single character that is a token by itself.  Any set of characters
that contains neither digits nor blanks will do, as long as it is not empty.  The glyphs
that the keypad shows for multiplication, division and subtraction stand for their ASCII
symbols wherever the symbol is a delimiter and the glyph is not.
-/

namespace InfixCalculator

/-- What keeps a text from being a set of delimiters. -/
inductive DelimiterConflict where
  | empty
  | digitOrBlank
deriving DecidableEq, Repr

def DelimiterConflict.message : DelimiterConflict → String
  | empty => "Se necesita al menos un delimitador"
  | digitOrBlank => "Los delimitadores no pueden ser dígitos ni espacios"

/-- Whether a character may be a delimiter: digits and blanks may not. -/
def mayDelimit (char : Char) : Bool :=
  !isAnyDigit char && !isBlank char

/-- A set of delimiters, listed as it was given. -/
structure Delimiters where
  chars : List Char
  nonempty : chars ≠ []
  admissible : ∀ char ∈ chars, mayDelimit char = true

/-- A displayed glyph and the ASCII symbol that it stands for. -/
structure Glyph where
  shown : Char
  symbol : Char
deriving DecidableEq, Repr

/-- The glyphs of multiplication, division and subtraction. -/
def glyphs : List Glyph :=
  [⟨'×', '*'⟩, ⟨'÷', '/'⟩, ⟨'−', '-'⟩]

namespace Delimiters

/-- The delimiters that a text lists, unless they are in conflict. -/
def ofString (text : String) : Except DelimiterConflict Delimiters :=
  if nonempty : text.toList.isEmpty = false then
    if admissible : text.toList.all mayDelimit = true then
      .ok ⟨text.toList, List.isEmpty_eq_false_iff.1 nonempty, List.all_eq_true.1 admissible⟩
    else .error .digitOrBlank
  else .error .empty

def standard : Delimiters :=
  ⟨['+', '-', '*', '/', '^', '(', ')'], List.cons_ne_nil _ _, List.all_eq_true.1 (by rfl)⟩

/-- Whether a character is one of the delimiters. -/
def contains (delimiters : Delimiters) (char : Char) : Bool :=
  delimiters.chars.contains char

/-- Whether a glyph stands for its symbol: the symbol must delimit, the glyph must not. -/
def admits (delimiters : Delimiters) (glyph : Glyph) : Bool :=
  delimiters.contains glyph.symbol && !delimiters.contains glyph.shown

/-- The character that is read in place of a character: the symbol of an admitted glyph,
and any other character itself. -/
def reading (delimiters : Delimiters) (char : Char) : Char :=
  match glyphs.find? fun glyph => glyph.shown == char && delimiters.admits glyph with
  | some glyph => glyph.symbol
  | none => char

/-- A text with its aliases read as what they stand for. -/
def normalize (delimiters : Delimiters) (text : String) : List Char :=
  text.toList.map delimiters.reading

/-- Reading aliases keeps every position. -/
@[simp] theorem length_normalize (delimiters : Delimiters) (text : String) :
    (delimiters.normalize text).length = text.length := by
  rw [normalize, List.length_map, String.length_toList]

end Delimiters

end InfixCalculator
