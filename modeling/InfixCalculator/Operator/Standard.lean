import InfixCalculator.Operator.Table

/-!
# The standard operators

Addition and subtraction bind least, multiplication and division more, powers most.
Powers associate to the right and the others to the left.  The standard table holds
these five operators and the round parentheses.
-/

namespace InfixCalculator

namespace Operation

/-- How strongly an operation binds: powers before products and quotients, these before sums and
differences. -/
def priority : Operation → Int
  | add | subtract => 2
  | multiply | divide => 3
  | power => 4

/-- Powers group from the right and all else from the left. -/
def associativity : Operation → Associativity
  | power => .right
  | add | subtract | multiply | divide => .left

/-- An operation as an operator of a table. -/
def operator (operation : Operation) : Operator :=
  .binary operation.symbol operation.priority operation.associativity operation.rule

end Operation

/-- The one pair of group delimiters of the calculator. -/
def parentheses : List Operator :=
  [⟨"(", 5, .right, none, true, none⟩, ⟨")", 5, .left, none, false, some "("⟩]

/-- The parentheses are what the constructor of group delimiters gives for their symbols. -/
theorem groupDelimiters_parentheses : groupDelimiters "(" ")" = .ok parentheses := by
  rfl

/-- The standard operators, in the order of their operations, and the parentheses. -/
def standardOperators : List Operator :=
  Operation.all.map Operation.operator ++ parentheses

/-- The operators of the calculator are in no conflict with each other. -/
theorem consistent_standardOperators : Consistent standardOperators :=
  (firstConflict?_eq_none_iff _).1 (by rfl)

/-- The table that is used unless another one is given. -/
def OperatorTable.standard : OperatorTable :=
  ⟨standardOperators, consistent_standardOperators⟩

end InfixCalculator
