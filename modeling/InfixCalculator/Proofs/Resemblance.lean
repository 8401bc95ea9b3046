import Mathlib
import InfixCalculator.Proofs.Operators

/-!
# Tables that resemble each other

Two tables resemble each other if they have the same symbols, delimit the same groups, and give
their plain operators the same rules, priorities in the same order and the same side to associate
to (`OperatorTable.Resembles`).  Whatever else they say of delimiters is left open.  Every operator
then has a counterpart with the same symbol, and plain operators outrank each other as their
counterparts do (`OperatorTable.Resembles.outranks_counterpart`).  A table resembles itself on
another scale of priorities (`OperatorTable.resembles_rescale`).
-/

namespace InfixCalculator

/-- What an operator must have in common with its counterpart.  Of plain operators it is the rule,
the priority up to a change of scale, and whether they associate to the right. -/
structure Operator.Resembles (scale : Int → Int) (operator other : Operator) : Prop where
  opensGroup : other.opensGroup = operator.opensGroup
  pairedOpener : other.pairedOpener = operator.pairedOpener
  rule : operator.isPlain = true → other.rule = operator.rule
  priority : operator.isPlain = true → other.priority = scale operator.priority
  rightmost : operator.isPlain = true →
    (other.associativity = .right ↔ operator.associativity = .right)

namespace OperatorTable

/-- The priorities of the plain operators of a table. -/
def priorities (table : OperatorTable) : Set Int :=
  { priority | ∃ operator, table.HasPlain operator ∧ operator.priority = priority }

/-- Tables with the same symbols, whose operators resemble each other.  The change of scale keeps
the order of priorities, and on which side of the end of the input they are. -/
structure Resembles (scale : Int → Int) (first second : OperatorTable) : Prop where
  contains : ∀ symbol, second.contains symbol = first.contains symbol
  operators : ∀ operator ∈ first.operators, ∀ other ∈ second.operators,
    other.symbol = operator.symbol → operator.Resembles scale other
  increasing : StrictMonoOn scale first.priorities
  below : ∀ priority ∈ first.priorities,
    (scale priority < Operator.finish.priority ↔ priority < Operator.finish.priority)
  equal : ∀ priority ∈ first.priorities,
    (scale priority = Operator.finish.priority ↔ priority = Operator.finish.priority)

/-- The operator of a table that has the symbol of a given one.  An operator without a counterpart,
such as the sentinel, stands for itself. -/
def counterpart (table : OperatorTable) (operator : Operator) : Operator :=
  (table.find? operator.symbol).getD operator

@[simp] theorem symbol_counterpart (table : OperatorTable) (operator : Operator) :
    (table.counterpart operator).symbol = operator.symbol := by
  unfold counterpart
  cases found : table.find? operator.symbol with
  | none => rfl
  | some other => exact ((table.find?_eq_some_iff _ _).mp found).2

/-- The start sentinel is its own counterpart, since no table has its symbol. -/
@[simp] theorem counterpart_start (table : OperatorTable) :
    table.counterpart Operator.start = Operator.start := by
  unfold counterpart
  cases found : table.find? Operator.start.symbol with
  | none => rfl
  | some other =>
      obtain ⟨member, named⟩ := (table.find?_eq_some_iff _ _).mp found
      exact absurd named (table.symbol_ne_startSymbol member)

namespace Resembles

variable {scale : Int → Int} {first second : OperatorTable} {operator incoming : Operator}
  {symbol : String}

/-- An operator of the first table has a counterpart in the second. -/
theorem find?_symbol (resembles : first.Resembles scale second)
    (member : operator ∈ first.operators) :
    second.find? operator.symbol = some (second.counterpart operator) := by
  have known := resembles.contains operator.symbol
  rw [OperatorTable.contains, OperatorTable.contains,
    (first.find?_eq_some_iff _ _).mpr ⟨member, rfl⟩] at known
  obtain ⟨other, found⟩ := Option.isSome_iff_exists.mp known
  rw [counterpart, found, Option.getD_some]

/-- A symbol that one table lacks is lacking in the other. -/
theorem find?_eq_none (resembles : first.Resembles scale second)
    (unknown : first.find? symbol = none) : second.find? symbol = none := by
  have known := resembles.contains symbol
  rw [OperatorTable.contains, OperatorTable.contains, unknown] at known
  exact Option.isNone_iff_eq_none.mp (Option.isSome_eq_false_iff.mp known)

/-- An operator of the table resembles its counterpart. -/
theorem counterpart_resembles (resembles : first.Resembles scale second)
    (member : operator ∈ first.operators) :
    operator.Resembles scale (second.counterpart operator) := by
  have other := ((second.find?_eq_some_iff _ _).mp (resembles.find?_symbol member)).1
  exact resembles.operators operator member _ other (second.symbol_counterpart operator)

theorem closesGroup_counterpart (resembles : first.Resembles scale second)
    (member : operator ∈ first.operators) :
    (second.counterpart operator).closesGroup = operator.closesGroup := by
  rw [Operator.closesGroup, (resembles.counterpart_resembles member).pairedOpener,
    Operator.closesGroup]

/-- Plain operators outrank each other as their counterparts do. -/
theorem outranks_counterpart (resembles : first.Resembles scale second)
    (plain : first.HasPlain operator) (plainIncoming : first.HasPlain incoming) :
    (second.counterpart operator).outranks (second.counterpart incoming) =
      operator.outranks incoming := by
  have alike := resembles.counterpart_resembles plain.member
  have alikeIncoming := resembles.counterpart_resembles plainIncoming.member
  have member : operator.priority ∈ first.priorities := ⟨operator, plain, rfl⟩
  have memberIncoming : incoming.priority ∈ first.priorities := ⟨incoming, plainIncoming, rfl⟩
  unfold Operator.outranks
  simp only [alike.rightmost plain.isPlain, alike.priority plain.isPlain,
    alikeIncoming.priority plainIncoming.isPlain,
    resembles.increasing.lt_iff_lt memberIncoming member,
    resembles.increasing.le_iff_le memberIncoming member]

/-- A plain operator outranks the end of the input as its counterpart does. -/
theorem outranks_finish (resembles : first.Resembles scale second)
    (plain : first.HasPlain operator) :
    (second.counterpart operator).outranks Operator.finish =
      operator.outranks Operator.finish := by
  have alike := resembles.counterpart_resembles plain.member
  have below := resembles.below operator.priority ⟨operator, plain, rfl⟩
  have equal := resembles.equal operator.priority ⟨operator, plain, rfl⟩
  have above : Operator.finish.priority < scale operator.priority ↔
      Operator.finish.priority < operator.priority := by omega
  have atLeast : Operator.finish.priority ≤ scale operator.priority ↔
      Operator.finish.priority ≤ operator.priority := by omega
  unfold Operator.outranks
  simp only [alike.rightmost plain.isPlain, alike.priority plain.isPlain, above, atLeast]

end Resembles

end OperatorTable

/-! ## Tables on another scale -/

/-- An operator whose priority is on another scale.  It associates to no side where it associated
to the left, and a delimiter gets a priority and a rule that no evaluation asks for. -/
def Operator.rescale (scale : Int → Int) (operator : Operator) : Operator :=
  if operator.isPlain then
    { operator with
      priority := scale operator.priority
      associativity := if operator.associativity = .right then .right else .none }
  else
    { operator with
      priority := 0
      associativity := .none
      rule := some Operation.add.rule }

section Rescaling

variable (scale : Int → Int) (operator : Operator)

@[simp] theorem Operator.symbol_rescale : (operator.rescale scale).symbol = operator.symbol := by
  rw [rescale]
  split <;> rfl

@[simp] theorem Operator.opensGroup_rescale :
    (operator.rescale scale).opensGroup = operator.opensGroup := by
  rw [rescale]
  split <;> rfl

@[simp] theorem Operator.pairedOpener_rescale :
    (operator.rescale scale).pairedOpener = operator.pairedOpener := by
  rw [rescale]
  split <;> rfl

/-- An operator resembles itself with another priority. -/
theorem Operator.resembles_rescale : operator.Resembles scale (operator.rescale scale) where
  opensGroup := operator.opensGroup_rescale scale
  pairedOpener := operator.pairedOpener_rescale scale
  rule plain := by rw [rescale, if_pos plain]
  priority plain := by rw [rescale, if_pos plain]
  rightmost plain := by
    rw [rescale, if_pos plain]
    cases operator.associativity <;> simp

end Rescaling

namespace OperatorTable

/-- A table whose priorities are on another scale. -/
def rescale (scale : Int → Int) (table : OperatorTable) : OperatorTable where
  operators := table.operators.map (Operator.rescale scale)
  consistent := by
    obtain ⟨distinct, unreserved, paired⟩ := table.consistent
    constructor
    · simpa only [List.map_map, Function.comp_def, Operator.symbol_rescale] using distinct
    · simpa only [List.forall_mem_map, Operator.symbol_rescale] using unreserved
    · intro closer member opener pairing
      obtain ⟨origin, originMember, rfl⟩ := List.mem_map.mp member
      rw [Operator.pairedOpener_rescale] at pairing
      obtain ⟨operator, operatorMember, named, opens⟩ := paired origin originMember opener pairing
      refine ⟨operator.rescale scale, List.mem_map_of_mem operatorMember, ?_, ?_⟩
      · rw [Operator.symbol_rescale, named]
      · rw [Operator.opensGroup_rescale, opens]

/-- A table resembles itself on another scale that keeps what priorities are compared for. -/
theorem resembles_rescale {scale : Int → Int} (table : OperatorTable)
    (increasing : StrictMono scale)
    (fixes : scale Operator.finish.priority = Operator.finish.priority) :
    table.Resembles scale (table.rescale scale) where
  contains symbol := by
    simp only [contains, find?, rescale, List.find?_map, Function.comp_def, Option.isSome_map,
      Operator.symbol_rescale]
  operators := by
    intro operator member other otherMember same
    obtain ⟨origin, originMember, rfl⟩ := List.mem_map.mp otherMember
    rw [Operator.symbol_rescale] at same
    rw [table.eq_of_symbol_eq originMember member same]
    exact operator.resembles_rescale scale
  increasing := increasing.strictMonoOn _
  below priority _ := by
    conv_lhs => rw [← fixes]
    exact increasing.lt_iff_lt
  equal priority _ := by
    conv_lhs => rw [← fixes]
    exact increasing.injective.eq_iff

end OperatorTable

end InfixCalculator
