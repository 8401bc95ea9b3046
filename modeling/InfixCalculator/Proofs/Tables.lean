import Mathlib.Data.List.Duplicate
import InfixCalculator.Proofs.Operators

/-!
# Which lists of operators make a table

A list makes a table exactly if it is consistent (`OperatorTable.exists_ofList_iff`); otherwise it
has the conflict that is reported (`TableConflict.Occurs`).  The reading of the list accumulates the
symbols that it has seen, but consistency does not depend on the order (`Consistent.perm`), and
neither does what a table of distinct symbols finds (`OperatorTable.Serves`).  So the order of a
list of operators makes no difference (`OperatorTable.ofList_orderless`).
-/

namespace InfixCalculator

/-! ## Conflicts -/

/-- A conflict that a list of operators has. -/
inductive TableConflict.Occurs (operators : List Operator) : TableConflict → Prop
  | twice {symbol : String} (duplicate : List.Duplicate symbol (operators.map Operator.symbol)) :
      Occurs operators (.duplicateSymbol symbol)
  | reserved {operator : Operator} (member : operator ∈ operators)
      (sentinel : operator.symbol = "#" ∨ operator.symbol = "$") :
      Occurs operators (.reservedSymbol operator.symbol)
  | unpaired {closer : Operator} {opener : String} (member : closer ∈ operators)
      (names : closer.pairedOpener = some opener)
      (opensNot : ∀ operator ∈ operators, operator.symbol = opener → operator.opensGroup = false) :
      Occurs operators (.closerWithoutOpener closer.symbol opener)

theorem Operator.isReserved_iff (symbol : String) :
    isReserved symbol = true ↔ symbol = "#" ∨ symbol = "$" := by
  rw [isReserved, Bool.or_eq_true, beq_iff_eq, beq_iff_eq]
  rfl

theorem Operator.isReserved_eq_false_iff (symbol : String) :
    isReserved symbol = false ↔ symbol ≠ "#" ∧ symbol ≠ "$" := by
  rw [← Bool.not_eq_true, isReserved_iff, not_or]

/-- A symbol that clashes is reserved, was seen before or occurs twice. -/
theorem firstClash?_cases {seen : List String} {operators : List Operator}
    {conflict : TableConflict} (found : firstClash? seen operators = some conflict) :
    (∃ operator ∈ operators, conflict = .reservedSymbol operator.symbol ∧
        Operator.isReserved operator.symbol = true) ∨
      ∃ operator ∈ operators, conflict = .duplicateSymbol operator.symbol ∧
        (operator.symbol ∈ seen ∨
          List.Duplicate operator.symbol (operators.map Operator.symbol)) := by
  induction operators generalizing seen with
  | nil => cases found
  | cons first rest ih =>
      rw [firstClash?] at found
      split at found
      case isTrue known =>
        cases found
        exact Or.inr ⟨first, List.mem_cons_self, rfl, Or.inl (List.contains_iff_mem.mp known)⟩
      split at found
      case isTrue reserved =>
        cases found
        exact Or.inl ⟨first, List.mem_cons_self, rfl, reserved⟩
      rcases ih found with ⟨operator, member, same, reserved⟩ | ⟨operator, member, same, again⟩
      · exact Or.inl ⟨operator, List.mem_cons_of_mem _ member, same, reserved⟩
      · refine Or.inr ⟨operator, List.mem_cons_of_mem _ member, same, ?_⟩
        rw [List.map_cons]
        rcases again with seen | duplicate
        · rcases List.mem_cons.mp seen with named | earlier
          · rw [named]
            exact Or.inr (List.Mem.duplicate_cons_self
              (named ▸ List.mem_map_of_mem member))
          · exact Or.inl earlier
        · exact Or.inr (duplicate.duplicate_cons _)

/-- The conflict that is reported occurs. -/
theorem TableConflict.occurs_of_firstConflict? {operators : List Operator}
    {conflict : TableConflict} (found : firstConflict? operators = some conflict) :
    conflict.Occurs operators := by
  rcases Option.or_eq_some_iff.mp found with clash | ⟨_, unpaired⟩
  · rcases firstClash?_cases clash with
      ⟨operator, member, rfl, reserved⟩ | ⟨operator, member, rfl, known | duplicate⟩
    · exact .reserved member ((Operator.isReserved_iff _).mp reserved)
    · cases known
    · exact .twice duplicate
  · obtain ⟨closer, member, reports⟩ := List.exists_of_findSome?_eq_some unpaired
    cases names : closer.pairedOpener with
    | none =>
        rw [names] at reports
        cases reports
    | some opener =>
        rw [names] at reports
        dsimp only at reports
        split at reports
        case isTrue opens => cases reports
        case isFalse opensNot =>
          cases reports
          refine .unpaired member names fun operator listed named => ?_
          rw [hasOpener_eq_true_iff] at opensNot
          exact Bool.eq_false_iff.mpr fun opens => opensNot ⟨operator, listed, named, opens⟩

/-- Consistency does not depend on the order. -/
theorem Consistent.perm {operators shuffled : List Operator} (consistent : Consistent operators)
    (same : operators.Perm shuffled) : Consistent shuffled where
  distinct := (same.map Operator.symbol).nodup_iff.mp consistent.distinct
  unreserved operator member := consistent.unreserved operator (same.mem_iff.mpr member)
  paired closer member opener names := by
    obtain ⟨operator, listed, named, opens⟩ :=
      consistent.paired closer (same.mem_iff.mpr member) opener names
    exact ⟨operator, same.mem_iff.mp listed, named, opens⟩

namespace OperatorTable

variable {operators shuffled : List Operator} {table other : OperatorTable}

/-! ## Tables of lists -/

/-- A consistent list makes the table of its operators; any other has the conflict reported. -/
theorem ofList_cases (operators : List Operator) :
    (∃ consistent, ofList operators = .ok ⟨operators, consistent⟩) ∨
      ∃ conflict, conflict.Occurs operators ∧ ¬ Consistent operators ∧
        ofList operators = .error conflict := by
  unfold ofList
  split
  case h_1 conflict found =>
    refine Or.inr ⟨conflict, TableConflict.occurs_of_firstConflict? found, ?_, rfl⟩
    rw [← firstConflict?_eq_none_iff, found]
    exact Option.some_ne_none conflict
  case h_2 found => exact Or.inl ⟨(firstConflict?_eq_none_iff operators).mp found, rfl⟩

/-- A list of operators makes a table exactly if it is in no conflict. -/
theorem exists_ofList_iff (operators : List Operator) :
    (∃ table, ofList operators = .ok table) ↔ Consistent operators := by
  rcases ofList_cases operators with ⟨consistent, makes⟩ | ⟨conflict, _, inconsistent, fails⟩
  · exact ⟨fun _ => consistent, fun _ => ⟨_, makes⟩⟩
  · refine ⟨fun ⟨table, makes⟩ => ?_, fun consistent => absurd consistent inconsistent⟩
    cases fails.symm.trans makes

theorem operators_of_ofList (makes : ofList operators = .ok table) :
    table.operators = operators := by
  rcases ofList_cases operators with ⟨_, made⟩ | ⟨conflict, _, _, fails⟩
  · cases made.symm.trans makes
    rfl
  · cases fails.symm.trans makes

/-! ## What a table finds -/

/-- A table finds exactly the operators of a list, each by its symbol. -/
structure Serves (table : OperatorTable) (operators : List Operator) : Prop where
  lists : ∀ symbol, symbol ∈ table.symbols ↔ ∃ operator ∈ operators, operator.symbol = symbol
  contains : ∀ symbol,
    table.contains symbol = true ↔ ∃ operator ∈ operators, operator.symbol = symbol
  finds : ∀ symbol operator, table.lookup symbol = .ok operator ↔
    operator ∈ operators ∧ operator.symbol = symbol
  /-- An operator is unknown exactly if no operator of the list has its symbol. -/
  misses : ∀ symbol, (∃ fault, table.lookup symbol = .error fault ∧
      fault.kind = .unknownOperator) ↔ ∀ operator ∈ operators, operator.symbol ≠ symbol
  /-- Only one operator of the list has a symbol. -/
  unique : ∀ first ∈ operators, ∀ second ∈ operators, first.symbol = second.symbol → first = second
  /-- The sentinels are never found. -/
  unreserved : ∀ symbol operator, table.lookup symbol = .ok operator →
    operator ≠ .start ∧ operator ≠ .finish ∧ symbol ≠ "#" ∧ symbol ≠ "$"
  /-- With a closer, an opener is found that it pairs with. -/
  paired : ∀ symbol closer opener, table.lookup symbol = .ok closer →
    closer.pairedOpener = some opener →
      ∃ operator, table.lookup opener = .ok operator ∧ operator.opensGroup = true

theorem mem_symbols_iff (table : OperatorTable) (symbol : String) :
    symbol ∈ table.symbols ↔ ∃ operator ∈ table.operators, operator.symbol = symbol :=
  List.mem_map

/-- A table knows the symbols of its operators and no others. -/
theorem contains_iff (table : OperatorTable) (symbol : String) :
    table.contains symbol = true ↔ ∃ operator ∈ table.operators, operator.symbol = symbol := by
  rw [contains, Option.isSome_iff_exists]
  exact exists_congr fun operator => table.find?_eq_some_iff symbol operator

/-- A symbol that no operator has is unknown. -/
theorem lookup_unknown_iff (table : OperatorTable) (symbol : String) :
    (∃ fault, table.lookup symbol = .error fault ∧ fault.kind = .unknownOperator) ↔
      ∀ operator ∈ table.operators, operator.symbol ≠ symbol := by
  constructor
  · rintro ⟨fault, fails, _⟩ operator member rfl
    rw [table.lookup_of_mem member] at fails
    cases fails
  · intro absent
    rcases table.lookup_cases symbol with ⟨_, fails⟩ | ⟨operator, member, named, _⟩
    · exact ⟨_, fails, rfl⟩
    · exact absurd named (absent operator member)

/-- Every table serves its own operators. -/
theorem serves_operators (table : OperatorTable) : table.Serves table.operators where
  lists := table.mem_symbols_iff
  contains := table.contains_iff
  finds _ _ := table.lookup_eq_ok_iff
  misses := table.lookup_unknown_iff
  unique _ firstMember _ secondMember := table.eq_of_symbol_eq firstMember secondMember
  unreserved symbol operator found := by
    obtain ⟨member, rfl⟩ := table.lookup_eq_ok_iff.mp found
    obtain ⟨noStart, noFinish⟩ := (Operator.isReserved_eq_false_iff _).mp
      (table.consistent.unreserved operator member)
    exact ⟨table.ne_start member, fun same => noFinish (congrArg Operator.symbol same),
      noStart, noFinish⟩
  paired symbol closer opener found names := by
    obtain ⟨member, _⟩ := table.lookup_eq_ok_iff.mp found
    obtain ⟨operator, listed, rfl, opens⟩ := table.consistent.paired closer member opener names
    exact ⟨operator, table.lookup_of_mem listed, opens⟩

/-- Tables of the same operators find the same. -/
theorem find?_eq_of_perm (same : table.operators.Perm other.operators) (symbol : String) :
    table.find? symbol = other.find? symbol := by
  ext operator
  rw [find?_eq_some_iff, find?_eq_some_iff, same.mem_iff]

/-- **A list of operators makes a table exactly if it is consistent, in any order.** If it is not,
the conflict that is reported occurs in it.  The tables of a list and of its permutations hold and
find the same, which is what the list has. -/
theorem ofList_orderless (operators : List Operator) :
    ((∃ table, ofList operators = .ok table) ↔
        (operators.map Operator.symbol).Nodup ∧
          (∀ operator ∈ operators, operator.symbol ≠ "#" ∧ operator.symbol ≠ "$") ∧
          ∀ closer ∈ operators, ∀ opener, closer.pairedOpener = some opener →
            ∃ operator ∈ operators, operator.symbol = opener ∧ operator.opensGroup = true) ∧
      (∀ conflict, ofList operators = .error conflict → conflict.Occurs operators) ∧
      (∀ table, ofList operators = .ok table → table.Serves operators) ∧
      ∀ shuffled, operators.Perm shuffled →
        ((∃ other, ofList shuffled = .ok other) ↔ ∃ table, ofList operators = .ok table) ∧
          ∀ table other, ofList operators = .ok table → ofList shuffled = .ok other →
            table.symbols.Perm other.symbols ∧ ∀ symbol,
              table.contains symbol = other.contains symbol ∧
                table.lookup symbol = other.lookup symbol := by
  refine ⟨?_, fun conflict fails => ?_, fun table makes => ?_, fun shuffled same =>
    ⟨?_, fun table other makes remakes => ?_⟩⟩
  · rw [exists_ofList_iff]
    constructor
    · intro consistent
      exact ⟨consistent.distinct, fun operator member =>
        (Operator.isReserved_eq_false_iff _).mp (consistent.unreserved operator member),
        consistent.paired⟩
    · rintro ⟨distinct, unreserved, paired⟩
      exact ⟨distinct, fun operator member =>
        (Operator.isReserved_eq_false_iff _).mpr (unreserved operator member), paired⟩
  · rcases ofList_cases operators with ⟨_, makes⟩ | ⟨reported, occurs, _, reports⟩
    · cases makes.symm.trans fails
    · cases reports.symm.trans fails
      exact occurs
  · have serves := table.serves_operators
    rwa [operators_of_ofList makes] at serves
  · rw [exists_ofList_iff, exists_ofList_iff]
    exact ⟨fun consistent => consistent.perm same.symm, fun consistent => consistent.perm same⟩
  -- Symbols are distinct, so the operator of a symbol does not depend on the order.
  · rw [← operators_of_ofList makes, ← operators_of_ofList remakes] at same
    refine ⟨same.map Operator.symbol, fun symbol => ?_⟩
    rw [contains, contains, lookup, lookup, find?_eq_of_perm same symbol]
    exact ⟨rfl, rfl⟩

/-- A closer may stand before its opener, but not without it. -/
theorem ofList_orderless_brackets :
    let opener : Operator := ⟨"[", 5, .right, none, true, none⟩
    let closer : Operator := ⟨"]", 5, .left, none, false, some "["⟩
    (∃ table, ofList [closer, opener] = .ok table ∧ table.lookup "]" = .ok closer ∧
        table.lookup "[" = .ok opener ∧ table.contains "#" = false) ∧
      [opener, closer].Perm [closer, opener] ∧
      (∃ table, ofList [opener, closer] = .ok table) ∧
      ∀ table, ofList [closer] ≠ .ok table := by
  intro opener closer
  obtain ⟨accepts, _, serves, reorders⟩ := ofList_orderless [closer, opener]
  obtain ⟨table, makes⟩ := accepts.mpr ⟨by decide, by decide, by decide⟩
  have finds := (serves table makes).finds
  have swapped : [closer, opener].Perm [opener, closer] := .swap ..
  refine ⟨⟨table, makes, (finds _ _).mpr ⟨List.mem_cons_self, rfl⟩,
    (finds _ _).mpr ⟨List.mem_cons_of_mem _ List.mem_cons_self, rfl⟩, ?_⟩, swapped.symm,
    (reorders _ swapped).1.mpr ⟨table, makes⟩, fun single alone => ?_⟩
  · rw [Bool.eq_false_iff, ne_eq, (serves table makes).contains]
    decide
  · have consistent := (ofList_orderless [closer]).1.mp ⟨single, alone⟩
    obtain ⟨operator, member, _, opens⟩ := consistent.2.2 closer List.mem_cons_self "[" rfl
    cases List.mem_singleton.mp member
    cases opens

end OperatorTable

end InfixCalculator
