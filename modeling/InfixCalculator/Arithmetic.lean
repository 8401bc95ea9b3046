import InfixCalculator.Fault

/-!
# Exact integer arithmetic

The five standard operations on integers of any size.  Division truncates toward zero;
a negative power is truncated toward zero too, so it vanishes for every base but one
and minus one.  A power whose size alone exceeds the limit is refused uncomputed.
-/

namespace InfixCalculator

/-- What an operator computes from its left and its right operand. -/
abbrev Rule := Int → Int → Except Fault Int

/-- The five binary operations of the calculator. -/
inductive Operation where
  | add
  | subtract
  | multiply
  | divide
  | power
deriving DecidableEq, Repr

namespace Operation

def all : List Operation :=
  [add, subtract, multiply, divide, power]

/-- The symbol that an operation is written with. -/
def symbol : Operation → String
  | add => "+"
  | subtract => "-"
  | multiply => "*"
  | divide => "/"
  | power => "^"

def ofSymbol? (symbol : String) : Option Operation :=
  all.find? fun operation => operation.symbol == symbol

@[simp] theorem ofSymbol?_symbol (operation : Operation) :
    ofSymbol? operation.symbol = some operation := by
  cases operation <;> decide

end Operation

/-- A fault of arithmetic carries no position: the rules do not know one. -/
def arithmeticFault (cause : Cause) : Except Fault Int :=
  .error ⟨cause, none⟩

/-- The quotient truncated toward zero. -/
def truncatedQuotient : Rule := fun dividend divisor =>
  if divisor = 0 then arithmeticFault .zeroDivisor
  else .ok (dividend.tdiv divisor)

/-- An exponent with the same power of zero, one and minus one, and at most two: for
these bases only its parity counts, and whether it is zero. -/
def reducedExponent (exponent : Nat) : Nat :=
  if exponent = 0 then 0 else 2 - exponent % 2

/-- A power with a natural exponent.  The bases zero, one and minus one have short
powers for every exponent, so their exponent is reduced first. -/
def naturalPower (base : Int) (exponent : Nat) : Int :=
  if base.natAbs ≤ 1 then base.pow (reducedExponent exponent) else base.pow exponent

/-- The reciprocal of a power, truncated toward zero. -/
def reciprocalPower (base : Int) (exponent : Nat) : Except Fault Int :=
  if base = 0 then arithmeticFault .zeroToNegativePower
  else if base.natAbs = 1 then .ok (naturalPower base exponent)
  else .ok 0

/-- The power truncated toward zero.  A magnitude of `bits` bits is at least
`2 ^ (bits - 1)`; if that bound already gives too long a power, it is refused. -/
def truncatedPower : Rule := fun base exponent =>
  if 0 ≤ exponent then
    if maxResultBits < (bitLength base - 1) * exponent.toNat then
      arithmeticFault .powerTooLarge
    else .ok (naturalPower base exponent.toNat)
  else reciprocalPower base exponent.natAbs

/-- What an operation does to its operands: sums, differences and products always have a value. -/
def Operation.rule : Operation → Rule
  | .add => fun left right => .ok (left + right)
  | .subtract => fun left right => .ok (left - right)
  | .multiply => fun left right => .ok (left * right)
  | .divide => truncatedQuotient
  | .power => truncatedPower

end InfixCalculator
