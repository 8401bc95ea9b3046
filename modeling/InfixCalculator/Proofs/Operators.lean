import Mathlib.Data.List.Nodup
import InfixCalculator.Machine.Transition
import InfixCalculator.Operator.Standard

/-!
# Operators of a table

A symbol determines its operator, and the start sentinel is not among the operators of a
table.  So looking up the symbol of a member gives the member back
(`OperatorTable.lookup_of_mem`), and only openers and the sentinel can be barriers
(`Machine.isBarrier_of_plain`).  The rules of the operations fail for three causes only, and
never name a place (`Operation.fault_of_rule`).
-/

namespace InfixCalculator

/-- Whether this operator waits on the stack for its right operand: it is neither the
start sentinel nor an opener. -/
def Operator.isWaiting (operator : Operator) : Bool :=
  operator.symbol != Operator.startSymbol && !operator.opensGroup

/-- A waiting operator is neither the sentinel nor an opener. -/
theorem Operator.of_isWaiting {operator : Operator} (waits : operator.isWaiting = true) :
    operator ≠ Operator.start ∧ operator.opensGroup = false := by
  rw [isWaiting, Bool.and_eq_true, Bool.not_eq_true'] at waits
  refine ⟨?_, waits.2⟩
  rintro rfl
  cases waits.1

/-- The rule of an operation fails for one of three causes, and it names no place. -/
theorem Operation.fault_of_rule {operation : Operation} {left right : Int} {fault : Fault}
    (fails : operation.rule left right = .error fault) :
    fault.position = none ∧ (fault.cause = .zeroDivisor ∨
      fault.cause = .zeroToNegativePower ∨ fault.cause = .powerTooLarge) := by
  cases operation with
  | add => cases fails
  | subtract => cases fails
  | multiply => cases fails
  | divide =>
      simp only [rule, truncatedQuotient, arithmeticFault] at fails
      split at fails
      · cases fails
        exact ⟨rfl, Or.inl rfl⟩
      · cases fails
  | power =>
      simp only [rule, truncatedPower, reciprocalPower, arithmeticFault] at fails
      split at fails
      · split at fails
        · cases fails
          exact ⟨rfl, Or.inr (Or.inr rfl)⟩
        · cases fails
      · split at fails
        · cases fails
          exact ⟨rfl, Or.inr (Or.inl rfl)⟩
        · split at fails
          · cases fails
          · cases fails

namespace OperatorTable

variable (table : OperatorTable) {operator first second : Operator} {symbol : String}

/-- A symbol determines its operator. -/
theorem eq_of_symbol_eq (firstMember : first ∈ table.operators)
    (secondMember : second ∈ table.operators) (same : first.symbol = second.symbol) :
    first = second :=
  List.inj_on_of_nodup_map table.consistent.distinct firstMember secondMember same

theorem symbol_ne_startSymbol (member : operator ∈ table.operators) :
    operator.symbol ≠ Operator.startSymbol := by
  intro same
  have unreserved := table.consistent.unreserved operator member
  rw [same] at unreserved
  exact absurd unreserved (by decide)

theorem ne_start (member : operator ∈ table.operators) : operator ≠ Operator.start := by
  rintro rfl
  exact table.symbol_ne_startSymbol member rfl

/-- An operator of a table waits exactly if it is no opener. -/
theorem isWaiting_of_mem (member : operator ∈ table.operators) :
    operator.isWaiting = !operator.opensGroup := by
  unfold Operator.isWaiting
  rw [bne_iff_ne.mpr (table.symbol_ne_startSymbol member), Bool.true_and]

/-- To look up a symbol gives the member that has it. -/
theorem lookup_eq_ok_iff :
    table.lookup symbol = .ok operator ↔
      operator ∈ table.operators ∧ operator.symbol = symbol := by
  rw [← table.find?_eq_some_iff]
  unfold lookup
  cases table.find? symbol with
  | none => simp only [reduceCtorEq]
  | some found => simp only [Except.ok.injEq, Option.some.injEq]

/-- To look up the symbol of a member gives the member. -/
theorem lookup_of_mem (member : operator ∈ table.operators) :
    table.lookup operator.symbol = .ok operator :=
  table.lookup_eq_ok_iff.mpr ⟨member, rfl⟩

/-- A symbol that is not looked up successfully has no member, and it gets the blame. -/
theorem lookup_cases (symbol : String) :
    (table.find? symbol = none ∧ table.lookup symbol = .error ⟨.unknownSymbol symbol, none⟩) ∨
      ∃ operator ∈ table.operators, operator.symbol = symbol ∧
        table.find? symbol = some operator ∧ table.lookup symbol = .ok operator := by
  unfold lookup
  cases found : table.find? symbol with
  | none => exact Or.inl ⟨rfl, rfl⟩
  | some operator =>
      obtain ⟨member, named⟩ := (table.find?_eq_some_iff symbol operator).mp found
      exact Or.inr ⟨operator, member, named, rfl, rfl⟩

/-- An operator of the table that delimits no group. -/
structure HasPlain (operator : Operator) : Prop where
  member : operator ∈ table.operators
  isPlain : operator.isPlain = true

/-- Two operators of the table that delimit a group.  The opener does not also close. -/
structure HasPair (opener closer : Operator) : Prop where
  openerMember : opener ∈ table.operators
  closerMember : closer ∈ table.operators
  opens : opener.opensGroup = true
  opensOnly : opener.closesGroup = false
  paired : closer.pairedOpener = some opener.symbol

variable {table} {opener closer : Operator}

/-- A plain operator neither opens nor closes a group. -/
theorem HasPlain.delimitsNothing (plain : table.HasPlain operator) :
    operator.opensGroup = false ∧ operator.closesGroup = false := by
  have both := plain.isPlain
  rw [Operator.isPlain, Bool.and_eq_true, Bool.not_eq_true', Bool.not_eq_true'] at both
  exact both

/-- An operator of the table that opens no group has another symbol than an opener. -/
theorem HasPair.symbol_ne (pair : table.HasPair opener closer)
    (member : operator ∈ table.operators) (opensNot : operator.opensGroup = false) :
    operator.symbol ≠ opener.symbol := by
  intro same
  have equal := table.eq_of_symbol_eq member pair.openerMember same
  rw [equal, pair.opens] at opensNot
  cases opensNot

theorem hasPlain_standard (operation : Operation) : standard.HasPlain operation.operator where
  member := by
    have listed : operation ∈ Operation.all := by
      cases operation <;> decide
    exact List.mem_append_left _ (List.mem_map_of_mem listed)
  isPlain := rfl

theorem hasPair_standard : standard.HasPair ⟨"(", 5, .right, none, true, none⟩
    ⟨")", 5, .left, none, false, some "("⟩ where
  openerMember := List.mem_append_right _ List.mem_cons_self
  closerMember := List.mem_append_right _ (List.mem_cons_of_mem _ List.mem_cons_self)
  opens := rfl
  opensOnly := rfl
  paired := rfl

end OperatorTable

namespace Machine

variable {table : OperatorTable} {machine : Machine} {operator opener closer : Operator}

/-- The openers that a machine holds open are operators of a table. -/
def OpensFrom (machine : Machine) (table : OperatorTable) : Prop :=
  ∀ opener ∈ machine.groups, opener ∈ table.operators ∧ opener.opensGroup = true

/-- An operator of the table that is no opener is no barrier. -/
theorem isBarrier_of_plain (opened : machine.OpensFrom table)
    (member : operator ∈ table.operators) (closed : operator.opensGroup = false) :
    machine.isBarrier operator = false := by
  unfold isBarrier
  rw [beq_eq_false_iff_ne.mpr (table.symbol_ne_startSymbol member), Bool.false_or]
  cases innermost : machine.groups with
  | nil => rfl
  | cons opener outer =>
      have openerMember := opened opener (innermost ▸ List.mem_cons_self)
      simp only [List.head?_cons, Option.any_some, beq_eq_false_iff_ne]
      intro same
      have equal := table.eq_of_symbol_eq openerMember.1 member same
      rw [← equal, openerMember.2] at closed
      cases closed

theorem pushSymbol_of_plain (plain : table.HasPlain operator) (machine : Machine)
    (position : Option Int) :
    machine.pushSymbol operator position = machine.pushBinary operator position := by
  obtain ⟨opensNot, closesNot⟩ := plain.delimitsNothing
  rw [pushSymbol, closesNot, if_neg Bool.false_ne_true, pushOperator, opensNot,
    if_neg Bool.false_ne_true]

theorem pushSymbol_of_opener (pair : table.HasPair opener closer) (machine : Machine)
    (position : Option Int) :
    machine.pushSymbol opener position = machine.openGroup opener position := by
  rw [pushSymbol, pair.opensOnly, if_neg Bool.false_ne_true, pushOperator, if_pos pair.opens]

theorem pushSymbol_of_closer (pair : table.HasPair opener closer) (machine : Machine)
    (position : Option Int) :
    machine.pushSymbol closer position = machine.closeGroup closer position := by
  rw [pushSymbol, Operator.closesGroup, pair.paired, Option.isSome_some, if_pos rfl]

/-- The opener of the innermost group is a barrier. -/
theorem isBarrier_of_innermost {outer : List Operator}
    (innermost : machine.groups = opener :: outer) : machine.isBarrier opener = true := by
  unfold isBarrier
  rw [innermost, List.head?_cons, Option.any_some, beq_self_eq_true, Bool.or_true]

/-- The start sentinel is a barrier. -/
theorem isBarrier_start (machine : Machine) : machine.isBarrier Operator.start = true := by
  rfl

end Machine

end InfixCalculator
