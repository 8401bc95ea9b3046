/-!
# Decimal numerals

Number literals are read from ASCII digits, and results are written back as an
optional minus sign and digits without superfluous zeros.  Long numbers are written in
blocks of eighteen digits, so that most divisions are by small numbers.
-/

namespace InfixCalculator

namespace Decimal

/-- The number that a run of ASCII digits denotes, most significant digit first. -/
def value (digits : List Char) : Nat :=
  Nat.ofDigitChars 10 digits 0

/-- The given number of last digits of a number, in front of other digits. -/
def lastDigits : (count number : Nat) → List Char → List Char
  | 0, _, following => following
  | count + 1, number, following =>
      lastDigits count (number / 10) (Nat.digitChar (number % 10) :: following)

/-- The number of digits that are read and written at a time. -/
def blockLength : Nat := 18

/-- The least number with more digits than a block. -/
def blockSize : Nat := 1000000000000000000

/-- The digits of a number in front of other digits.  Up to a given number of blocks is
split off; the digits are the same for every such number. -/
def digitsBefore : (blocks number : Nat) → List Char → List Char
  | 0, number, following => Nat.toDigits 10 number ++ following
  | blocks + 1, number, following =>
      if number < blockSize then Nat.toDigits 10 number ++ following
      else
        digitsBefore blocks (number / blockSize)
          (lastDigits blockLength (number % blockSize) following)

/-- The digits of a natural number, without superfluous zeros.  A block holds more than
fifty bits. -/
def digits (number : Nat) : List Char :=
  digitsBefore (number.log2 / 50) number []

/-- A number in decimal digits, with a minus sign if it is negative. -/
def text (number : Int) : String :=
  String.ofList
    (if 0 ≤ number then digits number.natAbs else '-' :: digits number.natAbs)

/-- The text of an integer is the digits of its magnitude, signed if it is negative. -/
theorem toList_text (number : Int) :
    (text number).toList =
      if 0 ≤ number then digits number.natAbs else '-' :: digits number.natAbs := by
  rw [text, String.toList_ofList]

end Decimal

end InfixCalculator
