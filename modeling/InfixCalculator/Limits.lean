/-!
# Size limits

Two limits keep every number that the calculator handles small enough to print: one
on the bits of a value, one on the digits of a literal.  The literal limit is the
stricter of the two, so every literal it admits is a value that the evaluator admits.
-/

namespace InfixCalculator

/-- The most bits that the magnitude of an operand or a result may have. -/
def maxResultBits : Nat := 14000

/-- The most digits that a number literal may have, zeros in front included. -/
def maxLiteralDigits : Nat := 4000

/-- The number of bits of an integer's magnitude; zero has none. -/
def bitLength (number : Int) : Nat :=
  if number = 0 then 0 else number.natAbs.log2 + 1

/-- Whether a value is short enough to be an operand or a result. -/
def fits (number : Int) : Bool :=
  bitLength number ≤ maxResultBits

end InfixCalculator
