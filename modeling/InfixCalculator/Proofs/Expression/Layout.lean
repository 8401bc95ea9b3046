import InfixCalculator.Operator.Standard
import InfixCalculator.Proofs.Exactness
import InfixCalculator.Proofs.Expression.Joining
import InfixCalculator.Proofs.Numerals

/-!
# Expressions and their layouts

An expression is a binary tree of operations on natural numbers; its value is computed from the
left operand, then the right one, then the exact result.  A layout writes it out: with white
space in front of each lexeme, zeros in front of a literal, a glyph in place of a symbol, and
parentheses wherever one likes, so long as they stand where precedence requires them
(`Layout.Adequate`).  One such layout has no more than the required ones
(`Expression.minimal_adequate`).

A layout is read as a phrase in which the parentheses are groups.  What carries the proof that
this phrase means the value of the expression (`Layout.meaning_phrase`): no operation that
stands outside parentheses binds less than the topmost one (`Layout.priority_le_of_exposed`).
-/

namespace InfixCalculator

/-- A literal, or an operation on two expressions. -/
inductive Expression where
  | literal (number : Nat)
  | binary (operation : Operation) (left right : Expression)

namespace Expression

/-- The left operand first, then the right one, then the exact result, if it is short enough. -/
def value : Expression → Outcome
  | literal number => .ok number
  | binary operation left right => do
      let first ← left.value
      let second ← right.value
      Outcome.ofExact (operation.exactResult first second)

/-- No literal has more digits than a literal may have. -/
def Short : Expression → Prop
  | literal number => (Decimal.digits number).length ≤ maxLiteralDigits
  | binary _ left right => left.Short ∧ right.Short

instance decidableShort : (expression : Expression) → Decidable expression.Short
  | literal number =>
      inferInstanceAs (Decidable ((Decimal.digits number).length ≤ maxLiteralDigits))
  | binary _ left right =>
      have := left.decidableShort
      have := right.decidableShort
      inferInstanceAs (Decidable (left.Short ∧ right.Short))

end Expression

/-! ## Lexemes as written -/

/-- White space between lexemes; there may be none. -/
structure Gap where
  chars : List Char
  blank : ∀ char ∈ chars, isBlank char = true

def Gap.none : Gap where
  chars := []
  blank := fun _ member => absurd member List.not_mem_nil

/-- A number as it is written, with zeros in front. -/
structure Numeral where
  zeros : Nat
  number : Nat
  short : zeros + (Decimal.digits number).length ≤ maxLiteralDigits

def Numeral.chars (numeral : Numeral) : List Char :=
  List.replicate numeral.zeros '0' ++ Decimal.digits numeral.number

namespace Operation

/-- The characters that an operation may be written with: its symbol, and its glyph. -/
def spellings : Operation → List Char
  | add => ['+']
  | subtract => ['-', '−']
  | multiply => ['*', '×']
  | divide => ['/', '÷']
  | power => ['^']

/-- Whether an operation must stand in parentheses as the left operand of another one: it binds
less, or equally if the other one is a power. -/
def enclosesLeft (parent child : Operation) : Bool :=
  child.priority < parent.priority || (child.priority == parent.priority && parent == power)

/-- Whether an operation must stand in parentheses as the right operand of another one: it binds
less, or equally if the other one is no power. -/
def enclosesRight (parent child : Operation) : Bool :=
  child.priority < parent.priority || (child.priority == parent.priority && parent != power)

end Operation

/-- An operation as it is written. -/
structure Sign where
  operation : Operation
  char : Char
  spells : char ∈ operation.spellings

def Operation.sign (operation : Operation) : Sign where
  operation := operation
  char := operation.spellings.head (by cases operation <;> exact List.cons_ne_nil _ _)
  spells := List.head_mem _

/-! ## Layouts -/

/-- An expression as it is written, each lexeme behind a gap. -/
inductive Layout where
  | literal (gap : Gap) (numeral : Numeral)
  | binary (left : Layout) (gap : Gap) (sign : Sign) (right : Layout)
  | group (opening : Gap) (inner : Layout) (closing : Gap)

namespace Layout

def chars : Layout → List Char
  | literal gap numeral => gap.chars ++ numeral.chars
  | binary left gap sign right => left.chars ++ (gap.chars ++ sign.char :: right.chars)
  | group opening inner closing =>
      opening.chars ++ '(' :: (inner.chars ++ (closing.chars ++ [')']))

/-- The written text, and a last gap behind it. -/
def text (layout : Layout) (trailing : Gap) : String :=
  String.ofList (layout.chars ++ trailing.chars)

/-- What is written.  Parentheses leave no trace in it. -/
def expression : Layout → Expression
  | literal _ numeral => .literal numeral.number
  | binary left _ sign right => .binary sign.operation left.expression right.expression
  | group _ inner _ => inner.expression

/-- The topmost operation, unless it stands in parentheses. -/
def bare? : Layout → Option Operation
  | binary _ _ sign _ => some sign.operation
  | literal _ _ | group _ _ _ => none

/-- Parentheses stand at least where precedence and associativity require them. -/
def Adequate : Layout → Prop
  | literal _ _ => True
  | binary left _ sign right =>
      (left.Adequate ∧ ∀ child ∈ left.bare?, sign.operation.enclosesLeft child = false) ∧
        (right.Adequate ∧ ∀ child ∈ right.bare?, sign.operation.enclosesRight child = false)
  | group _ inner _ => inner.Adequate

instance decidableAdequate : (layout : Layout) → Decidable layout.Adequate
  | literal _ _ => inferInstanceAs (Decidable True)
  | binary left _ sign right =>
      have := left.decidableAdequate
      have := right.decidableAdequate
      inferInstanceAs (Decidable
        ((left.Adequate ∧ ∀ child ∈ left.bare?, sign.operation.enclosesLeft child = false) ∧
          (right.Adequate ∧ ∀ child ∈ right.bare?, sign.operation.enclosesRight child = false)))
  | group _ inner _ => inner.decidableAdequate

/-- A layout, in parentheses if its topmost operation requires them. -/
def enclosedIf (encloses : Operation → Bool) (layout : Layout) : Layout :=
  if layout.bare?.any encloses then group .none layout .none else layout

end Layout

/-- The layout with no more parentheses than are required, and nothing else to spare. -/
def Expression.minimal : (expression : Expression) → expression.Short → Layout
  | literal number, short => .literal .none ⟨0, number, (Nat.zero_add _).symm ▸ short⟩
  | binary operation left right, short =>
      .binary ((left.minimal short.1).enclosedIf operation.enclosesLeft) .none operation.sign
        ((right.minimal short.2).enclosedIf operation.enclosesRight)

namespace Layout

variable {layout : Layout}

/-- A group does not change what is meant. -/
theorem expression_enclosedIf (encloses : Operation → Bool) (layout : Layout) :
    (layout.enclosedIf encloses).expression = layout.expression := by
  unfold enclosedIf
  split
  · rfl
  · rfl

/-- A group on demand is adequate and leaves no child bare that has to be enclosed. -/
theorem Adequate.enclosedIf (encloses : Operation → Bool) (adequate : layout.Adequate) :
    (layout.enclosedIf encloses).Adequate ∧
      ∀ child ∈ (layout.enclosedIf encloses).bare?, encloses child = false := by
  unfold Layout.enclosedIf
  split
  · exact ⟨adequate, fun child bare => by cases bare⟩
  · rename_i unneeded
    refine ⟨adequate, fun child bare => Bool.eq_false_iff.mpr fun needed => unneeded ?_⟩
    rw [Option.mem_def.mp bare]
    exact needed

end Layout

namespace Expression

/-- The minimal layout of an expression is a layout of it. -/
theorem expression_minimal (expression : Expression) (short : expression.Short) :
    (expression.minimal short).expression = expression := by
  induction expression with
  | literal number => rfl
  | binary operation left right ihLeft ihRight =>
      rw [minimal, Layout.expression, Layout.expression_enclosedIf,
        Layout.expression_enclosedIf, ihLeft short.1, ihRight short.2]
      rfl

/-- The required parentheses are enough. -/
theorem minimal_adequate (expression : Expression) (short : expression.Short) :
    (expression.minimal short).Adequate := by
  induction expression with
  | literal number => trivial
  | binary operation left right ihLeft ihRight =>
      exact ⟨(ihLeft short.1).enclosedIf operation.enclosesLeft,
        (ihRight short.2).enclosedIf operation.enclosesRight⟩

end Expression

/-! ## Layouts as phrases -/

namespace Operation

variable {parent child operation : Operation}

/-- Between standard operations, the one that waits goes first if it binds more, or as much and is
not a power. -/
theorem outranks_operator_iff (waiting incoming : Operation) :
    waiting.operator.outranks incoming.operator = true ↔
      incoming.priority < waiting.priority ∨
        (incoming.priority = waiting.priority ∧ waiting ≠ power) := by
  cases waiting <;> cases incoming <;> decide

/-- A left child that may stay bare binds at least as much. -/
theorem priority_le_of_enclosesLeft (bare : parent.enclosesLeft child = false) :
    parent.priority ≤ child.priority := by
  rw [enclosesLeft, Bool.or_eq_false_iff, decide_eq_false_iff_not] at bare
  exact not_lt.mp bare.1

/-- A right child that may stay bare binds at least as much. -/
theorem priority_le_of_enclosesRight (bare : parent.enclosesRight child = false) :
    parent.priority ≤ child.priority := by
  rw [enclosesRight, Bool.or_eq_false_iff, decide_eq_false_iff_not] at bare
  exact not_lt.mp bare.1

/-- A left operand that binds equally is no operand of a power. -/
theorem ne_power_of_enclosesLeft (bare : parent.enclosesLeft child = false)
    (same : child.priority = parent.priority) : parent ≠ power := by
  rw [enclosesLeft, same, beq_self_eq_true, Bool.true_and, Bool.or_eq_false_iff] at bare
  exact beq_eq_false_iff_ne.mp bare.2

/-- A right operand that binds equally is the operand of a power. -/
theorem eq_power_of_enclosesRight (bare : parent.enclosesRight child = false)
    (same : child.priority = parent.priority) : parent = power := by
  rw [enclosesRight, same, beq_self_eq_true, Bool.true_and, Bool.or_eq_false_iff] at bare
  exact bne_eq_false_iff_eq.mp bare.2

/-- No operation binds more than a power, and no other one equally. -/
theorem eq_power_of_priority_le (above : power.priority ≤ operation.priority) :
    operation = power := by
  cases operation with
  | power => rfl
  | add => exact absurd above (by decide)
  | subtract => exact absurd above (by decide)
  | multiply => exact absurd above (by decide)
  | divide => exact absurd above (by decide)

/-- What binds no less than a left operand outranks its parent. -/
theorem outranks_of_enclosesLeft (bare : parent.enclosesLeft child = false)
    (above : child.priority ≤ operation.priority) :
    operation.operator.outranks parent.operator = true := by
  have below := priority_le_of_enclosesLeft bare
  rw [outranks_operator_iff]
  by_cases less : parent.priority < operation.priority
  · exact Or.inl less
  · have same : child.priority = parent.priority := by omega
    refine Or.inr ⟨by omega, ?_⟩
    rintro rfl
    have top : parent = power := eq_power_of_priority_le (by omega)
    exact ne_power_of_enclosesLeft bare same top

/-- What binds no less than a right operand is not outranked by its parent. -/
theorem not_outranks_of_enclosesRight (bare : parent.enclosesRight child = false)
    (above : child.priority ≤ operation.priority) :
    parent.operator.outranks operation.operator = false := by
  have below := priority_le_of_enclosesRight bare
  rw [Bool.eq_false_iff, ne_eq, outranks_operator_iff]
  rintro (less | ⟨same, notPower⟩)
  · omega
  · exact notPower (eq_power_of_enclosesRight bare (by omega))

/-- Every operation binds more than the end of the input. -/
theorem outranks_finish (operation : Operation) :
    operation.operator.outranks .finish = true := by
  cases operation <;> rfl

end Operation

namespace Layout

variable {layout : Layout}

/-- The operations that stand in no parentheses of a layout. -/
def exposed : Layout → List Operation
  | binary left _ sign right => left.exposed ++ sign.operation :: right.exposed
  | literal _ _ | group _ _ _ => []

/-- A layout as a phrase, without regard to positions. -/
def phrase : Layout → Phrase
  | literal _ numeral => .chain (.number numeral.number 0) .done
  | binary left _ sign right => left.phrase.join sign.operation.operator right.phrase
  | group _ inner _ =>
      .chain (.group ⟨"(", 5, .right, none, true, none⟩ 0 inner.phrase
        ⟨")", 5, .left, none, false, some "("⟩ 0) .done

theorem derivable_phrase (layout : Layout) : layout.phrase.Derivable .standard := by
  induction layout with
  | literal gap numeral => exact ⟨trivial, trivial⟩
  | binary left gap sign right ihLeft ihRight =>
      exact ihLeft.join (OperatorTable.hasPlain_standard sign.operation) ihRight
  | group opening inner closing ih => exact ⟨⟨OperatorTable.hasPair_standard, ih⟩, trivial⟩

/-- The operators of a layout outside of all groups are those that it exposes. -/
theorem outermost_phrase (layout : Layout) :
    layout.phrase.outermost = layout.exposed.map Operation.operator := by
  induction layout with
  | literal gap numeral => rfl
  | binary left gap sign right ihLeft ihRight =>
      rw [phrase, exposed, Phrase.outermost_join, ihLeft, ihRight, List.map_append,
        List.map_cons]
  | group opening inner closing ih => rfl

/-- Where an operation stands outside parentheses, so does the topmost one. -/
theorem exists_bare_of_exposed {operation : Operation} (member : operation ∈ layout.exposed) :
    ∃ top, layout.bare? = some top := by
  cases layout with
  | binary left gap sign right => exact ⟨sign.operation, rfl⟩
  | literal gap numeral => exact absurd member List.not_mem_nil
  | group opening inner closing => exact absurd member List.not_mem_nil

/-- Outside parentheses nothing binds less than the topmost operation. -/
theorem priority_le_of_exposed (adequate : layout.Adequate) {top operation : Operation}
    (bare : layout.bare? = some top) (member : operation ∈ layout.exposed) :
    top.priority ≤ operation.priority := by
  induction layout generalizing top with
  | literal gap numeral => cases bare
  | group opening inner closing ih => cases bare
  | binary left gap sign right ihLeft ihRight =>
      obtain ⟨⟨adequateLeft, bareLeft⟩, ⟨adequateRight, bareRight⟩⟩ := adequate
      cases bare
      rcases List.mem_append.mp member with inLeft | rest
      · obtain ⟨child, childBare⟩ := exists_bare_of_exposed inLeft
        have below := ihLeft adequateLeft childBare inLeft
        exact le_trans (Operation.priority_le_of_enclosesLeft (bareLeft child childBare)) below
      · rcases List.mem_cons.mp rest with same | inRight
        · exact same ▸ le_rfl
        · obtain ⟨child, childBare⟩ := exists_bare_of_exposed inRight
          have below := ihRight adequateRight childBare inRight
          exact le_trans (Operation.priority_le_of_enclosesRight (bareRight child childBare)) below

/-- The phrase of an adequate layout means the value of its expression. -/
theorem meaning_phrase (adequate : layout.Adequate) :
    layout.phrase.meaning = layout.expression.value := by
  induction layout with
  | literal gap numeral =>
      have fewer : (Decimal.digits numeral.number).length ≤ maxLiteralDigits :=
        Nat.le_trans (Nat.le_add_left _ _) numeral.short
      have short : fits numeral.number = true := Decimal.fits_of_length_digits fewer
      rw [phrase, Phrase.meaning_single, Operand.meaning, if_pos short]
      rfl
  | group opening inner closing ih =>
      rw [phrase, Phrase.meaning_single, Operand.meaning, ih adequate]
      rfl
  | binary left gap sign right ihLeft ihRight =>
      obtain ⟨⟨adequateLeft, bareLeft⟩, ⟨adequateRight, bareRight⟩⟩ := adequate
      rw [phrase, Phrase.meaning_join, ihLeft adequateLeft, ihRight adequateRight]
      · simp only [Operation.combine_operator]
        rfl
      · intro other member
        rw [outermost_phrase] at member
        obtain ⟨operation, inLeft, rfl⟩ := List.mem_map.mp member
        obtain ⟨child, childBare⟩ := exists_bare_of_exposed inLeft
        exact Operation.outranks_of_enclosesLeft (bareLeft child childBare)
          (priority_le_of_exposed adequateLeft childBare inLeft)
      · intro other member
        rw [outermost_phrase] at member
        obtain ⟨operation, inRight, rfl⟩ := List.mem_map.mp member
        obtain ⟨child, childBare⟩ := exists_bare_of_exposed inRight
        exact Operation.not_outranks_of_enclosesRight (bareRight child childBare)
          (priority_le_of_exposed adequateRight childBare inRight)

/-- A reader of a layout that stands in parentheses, or is a literal, holds its value alone. -/
theorem held_phrase (closed : layout.bare? = none) (adequate : layout.Adequate) {value : Int}
    (means : layout.expression.value = .ok value) : layout.phrase.held = .ok ⟨[], value⟩ := by
  obtain ⟨operand, single⟩ : ∃ operand, layout.phrase = .chain operand .done := by
    cases layout with
    | literal gap numeral => exact ⟨_, rfl⟩
    | binary left gap sign right => cases closed
    | group opening inner closing => exact ⟨_, rfl⟩
  have meaning := meaning_phrase adequate
  rw [single, Phrase.meaning_single, means] at meaning
  rw [single, Phrase.held, meaning]
  rfl

/-- The tokens of the phrase of an adequate layout evaluate to the value of its expression. -/
theorem evaluateTokens_tokens_phrase (adequate : layout.Adequate) :
    (Evaluator.standard.evaluateTokens layout.phrase.tokens).mapError Fault.kind =
      layout.expression.value := by
  rw [← meaning_phrase adequate]
  apply Evaluator.standard.mapError_evaluateTokens_of_outranks layout.derivable_phrase
  intro operator member
  rw [outermost_phrase] at member
  obtain ⟨operation, _, rfl⟩ := List.mem_map.mp member
  exact operation.outranks_finish

end Layout

end InfixCalculator
