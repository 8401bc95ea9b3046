import InfixCalculator.Operator.Basic

/-!
# Operator tables

A table gives every symbol at most one meaning, leaves the symbols of the sentinels
alone and pairs every closing delimiter with an opening one.  `Consistent` states these
conditions without regard to order; `OperatorTable.ofList` checks them in the order of
the list and reports the first conflict.  The main statement is that it succeeds on the
consistent lists and on no others (`firstConflict?_eq_none_iff`).
-/

namespace InfixCalculator

/-- What keeps a list of operators from being a table. -/
inductive TableConflict where
  | duplicateSymbol (symbol : String)
  | reservedSymbol (symbol : String)
  /-- A closing delimiter names an opener that opens no group. -/
  | closerWithoutOpener (closer opener : String)
  /-- A pair of delimiters consists of one symbol twice. -/
  | equalDelimiters
deriving DecidableEq, Repr

def TableConflict.message : TableConflict → String
  | duplicateSymbol symbol => "Símbolo duplicado: " ++ symbol
  | reservedSymbol symbol => "Símbolo reservado: " ++ symbol
  | closerWithoutOpener closer opener =>
      "'" ++ closer ++ "' cierra '" ++ opener ++ "', que no abre grupo"
  | equalDelimiters => "La apertura y el cierre deben ser distintos"

/-- The two delimiters of a group. -/
def groupDelimiters (opener closer : String) : Except TableConflict (List Operator) :=
  if opener = closer then .error .equalDelimiters
  else .ok
    [⟨opener, 5, .right, none, true, none⟩,
      ⟨closer, 5, .left, none, false, some opener⟩]

/-- Operators that may stand together in one table. -/
structure Consistent (operators : List Operator) : Prop where
  distinct : (operators.map Operator.symbol).Nodup
  unreserved : ∀ operator ∈ operators, Operator.isReserved operator.symbol = false
  paired : ∀ closer ∈ operators, ∀ opener, closer.pairedOpener = some opener →
    ∃ operator ∈ operators, operator.symbol = opener ∧ operator.opensGroup = true

/-- The first operator whose symbol was seen before or is reserved. -/
def firstClash? (seen : List String) : List Operator → Option TableConflict
  | [] => none
  | operator :: rest =>
      if seen.contains operator.symbol then some (.duplicateSymbol operator.symbol)
      else if Operator.isReserved operator.symbol then
        some (.reservedSymbol operator.symbol)
      else firstClash? (operator.symbol :: seen) rest

/-- Whether an operator of a given symbol opens a group. -/
def hasOpener (operators : List Operator) (symbol : String) : Bool :=
  operators.any fun operator => operator.symbol == symbol && operator.opensGroup

/-- The first closing delimiter without its opener. -/
def firstUnpaired? (operators : List Operator) : Option TableConflict :=
  operators.findSome? fun closer =>
    match closer.pairedOpener with
    | none => none
    | some opener =>
        if hasOpener operators opener then none
        else some (.closerWithoutOpener closer.symbol opener)

/-- The conflict that is reported for a list of operators, if there is any. -/
def firstConflict? (operators : List Operator) : Option TableConflict :=
  (firstClash? [] operators).or (firstUnpaired? operators)

/-- No symbol clashes exactly if none is repeated, reserved or already seen. -/
theorem firstClash?_eq_none_iff (seen : List String) (operators : List Operator) :
    firstClash? seen operators = none ↔
      (operators.map Operator.symbol).Nodup ∧
        (∀ operator ∈ operators, Operator.isReserved operator.symbol = false) ∧
        ∀ operator ∈ operators, operator.symbol ∉ seen := by
  induction operators generalizing seen with
  | nil => simp [firstClash?]
  | cons operator rest ih =>
      by_cases known : operator.symbol ∈ seen
      · simp [firstClash?, known]
      · by_cases reserved : Operator.isReserved operator.symbol = true
        · simp [firstClash?, known, reserved]
        · rw [firstClash?, if_neg (by simpa using known), if_neg reserved, ih]
          simp only [List.map_cons, List.nodup_cons, List.mem_map, List.mem_cons,
            forall_eq_or_imp, not_or, Bool.not_eq_true] at reserved ⊢
          constructor
          · rintro ⟨distinct, unreserved, fresh⟩
            refine ⟨⟨?_, distinct⟩, ⟨reserved, unreserved⟩, known, ?_⟩
            · rintro ⟨other, member, same⟩
              exact (fresh other member).1 same
            · exact fun other member => (fresh other member).2
          · rintro ⟨⟨alone, distinct⟩, ⟨_, unreserved⟩, _, fresh⟩
            exact ⟨distinct, unreserved, fun other member =>
              ⟨fun same => alone ⟨other, member, same⟩, fresh other member⟩⟩

theorem hasOpener_eq_true_iff (operators : List Operator) (symbol : String) :
    hasOpener operators symbol = true ↔
      ∃ operator ∈ operators, operator.symbol = symbol ∧ operator.opensGroup = true := by
  simp [hasOpener]

/-- No closer is without its opener exactly if the opener of every closer is in the list. -/
theorem firstUnpaired?_eq_none_iff (operators : List Operator) :
    firstUnpaired? operators = none ↔
      ∀ closer ∈ operators, ∀ opener, closer.pairedOpener = some opener →
        ∃ operator ∈ operators, operator.symbol = opener ∧ operator.opensGroup = true := by
  simp only [firstUnpaired?, List.findSome?_eq_none_iff, ← hasOpener_eq_true_iff]
  refine forall_congr' fun closer => imp_congr_right fun _ => ?_
  cases closer.pairedOpener with
  | none => simp
  | some opener => simp

/-- A list of operators shows no conflict exactly when it is consistent. -/
theorem firstConflict?_eq_none_iff (operators : List Operator) :
    firstConflict? operators = none ↔ Consistent operators := by
  rw [firstConflict?, Option.or_eq_none_iff, firstClash?_eq_none_iff,
    firstUnpaired?_eq_none_iff]
  constructor
  · rintro ⟨⟨distinct, unreserved, _⟩, paired⟩
    exact ⟨distinct, unreserved, paired⟩
  · rintro ⟨distinct, unreserved, paired⟩
    exact ⟨⟨distinct, unreserved, by simp⟩, paired⟩

/-- Among operators with distinct symbols, a search by symbol finds the only match. -/
theorem find?_symbol_eq_some_iff {operators : List Operator}
    (distinct : (operators.map Operator.symbol).Nodup) (symbol : String)
    (operator : Operator) :
    (operators.find? fun candidate => candidate.symbol == symbol) = some operator ↔
      operator ∈ operators ∧ operator.symbol = symbol := by
  induction operators with
  | nil => simp
  | cons first rest ih =>
      rw [List.map_cons, List.nodup_cons] at distinct
      by_cases same : first.symbol = symbol
      · subst same
        simp only [List.find?_cons, beq_self_eq_true, Option.some.injEq, List.mem_cons]
        constructor
        · rintro rfl
          exact ⟨Or.inl rfl, rfl⟩
        · rintro ⟨rfl | member, shared⟩
          · rfl
          · exact absurd (List.mem_map.2 ⟨operator, member, shared⟩) distinct.1
      · simp only [List.find?_cons, beq_eq_false_iff_ne.2 same, List.mem_cons,
          ih distinct.2]
        constructor
        · exact fun ⟨member, shared⟩ => ⟨Or.inr member, shared⟩
        · rintro ⟨rfl | member, shared⟩
          · exact absurd shared same
          · exact ⟨member, shared⟩

/-- A table of operators, one for each of its symbols. -/
structure OperatorTable where
  operators : List Operator
  consistent : Consistent operators

namespace OperatorTable

/-- The table of a list of operators, or the first conflict in it. -/
def ofList (operators : List Operator) : Except TableConflict OperatorTable :=
  match found : firstConflict? operators with
  | some conflict => .error conflict
  | none => .ok ⟨operators, (firstConflict?_eq_none_iff operators).1 found⟩

/-- The symbols of a table in the order of its operators. -/
def symbols (table : OperatorTable) : List String :=
  table.operators.map Operator.symbol

/-- The operator of a symbol, if the table has one. -/
def find? (table : OperatorTable) (symbol : String) : Option Operator :=
  table.operators.find? fun operator => operator.symbol == symbol

/-- Whether a table knows a symbol. -/
def contains (table : OperatorTable) (symbol : String) : Bool :=
  (table.find? symbol).isSome

/-- The operator of a symbol; to look up an unknown symbol is a fault. -/
def lookup (table : OperatorTable) (symbol : String) : Except Fault Operator :=
  match table.find? symbol with
  | some operator => .ok operator
  | none => .error ⟨.unknownSymbol symbol, none⟩

/-- Looking a symbol up finds the only operator that has it. -/
theorem find?_eq_some_iff (table : OperatorTable) (symbol : String) (operator : Operator) :
    table.find? symbol = some operator ↔
      operator ∈ table.operators ∧ operator.symbol = symbol :=
  find?_symbol_eq_some_iff table.consistent.distinct symbol operator

end OperatorTable

end InfixCalculator
