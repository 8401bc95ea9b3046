import InfixCalculator.Keypad.Window
import InfixCalculator.Proofs.Growth
import InfixCalculator.Proofs.Machine.Blame
import InfixCalculator.Proofs.Token.Coverage

/-!
# Faults of the standard evaluator

Apart from what cannot be read, only finitely many things can go wrong in an expression
(`Evaluator.cause_of_calculate`), and an unknown operator is not among them: every delimiter is
one.  So the faults of the standard evaluator have messages that can be gone through, and a buffer
shows them as they are (`ExpressionBuffer.evaluate_standard`).
-/

namespace InfixCalculator

/-- Whether a fault's raiser puts it in words of its own. -/
def Cause.isStated : Cause → Bool
  | stated _ _ => true
  | _ => false

/-! ## How messages begin -/

section Beginnings

variable {text : String} {first : Char}

theorem head?_literal (first : Char) (rest : List Char) :
    (String.ofList (first :: rest)).toList.head? = some first := by
  rw [String.toList_ofList, List.head?_cons]

theorem head?_append (head : text.toList.head? = some first) (behind : String) :
    (text ++ behind).toList.head? = some first := by
  rw [String.toList_append, List.head?_append, head, Option.some_or]

theorem Cause.head?_singleQuoted (symbol : String) :
    (singleQuoted symbol).toList.head? = some '\'' :=
  head?_append (head?_append (head?_literal _ _) _) _

/-- Every message says something, and begins with a capital or a quotation mark. -/
theorem Cause.head?_message {cause : Cause} (unstated : cause.isStated = false) :
    ∃ first, cause.message.toList.head? = some first ∧ first ≠ 'i' := by
  cases cause with
  | stated kind message => cases unstated
  | operatorDueBeforeNumber | operandDueAtEnd | emptyExpression | malformedExpression
  | nothingToReduce | zeroDivisor | zeroToNegativePower | powerTooLarge | operandTooLarge =>
      exact ⟨_, head?_literal _ _, by decide⟩
  | invalidRun | unknownSymbol | operatorDueBefore | operandDueBefore | operandsMissing
  | resultTooLarge =>
      exact ⟨_, head?_append (head?_literal _ _) _, by decide⟩
  | literalTooLong => exact ⟨_, head?_append (head?_append (head?_literal _ _) _) _, by decide⟩
  | groupLeftOpen opener => exact ⟨_, head?_append (head?_singleQuoted opener) _, by decide⟩
  | closerWithoutOpener closer opener =>
      exact ⟨_, head?_append (head?_append (head?_append (head?_singleQuoted closer) _) _) _,
        by decide⟩

/-- The text of a fault begins with its message. -/
theorem Fault.head?_text {fault : Fault} (unstated : fault.cause.isStated = false) :
    ∃ first, fault.text.toList.head? = some first ∧ first ≠ 'i' := by
  obtain ⟨first, head, other⟩ := Cause.head?_message unstated
  refine ⟨first, ?_, other⟩
  unfold text
  cases fault.position with
  | none => exact head
  | some position => exact head?_append (head?_append (head?_append head _) _) _

end Beginnings

/-! ## Causes -/

/-- What can go wrong in the rules of the operations. -/
def Operation.causes : List Cause :=
  [.zeroDivisor, .zeroToNegativePower, .powerTooLarge]

/-- What can go wrong with a table whose rules are those of the operations. -/
def OperatorTable.allCauses (table : OperatorTable) : List Cause :=
  table.causes ++ .emptyExpression :: Operation.causes

/-- Where the table applies operations, the causes are the table's and those of the operations. -/
theorem Fault.Arises.cause_mem {table : OperatorTable} {position : Option Int} {fault : Fault}
    (applies : table.AppliesOperations) (arises : fault.Arises table position) :
    fault.cause ∈ table.allCauses := by
  cases arises with
  | found member => exact List.mem_append_left _ member
  | empty => exact List.mem_append_right _ List.mem_cons_self
  | @raised operator rule left right _ member ruled fails =>
      obtain ⟨operation, rfl⟩ := applies operator member rule ruled
      apply List.mem_append_right
      rcases (Operation.fault_of_rule fails).2 with cause | cause | cause <;> rw [cause] <;> decide

/-- The kinds of faults that an expression can have once it is read. -/
def FaultKind.beyondReading : List FaultKind :=
  [unmatchedGroup, stackUnderflow, divisionByZero, resultOverflow]

/-- No such cause is stated from outside or belongs to the reading of a text. -/
theorem OperatorTable.kind_of_mem_allCauses (table : OperatorTable) :
    ∀ cause ∈ table.allCauses,
      cause.isStated = false ∧ cause.kind ∈ FaultKind.beyondReading := by
  have ofMachine : ∀ cause ∈ Machine.causes,
      cause.isStated = false ∧ cause.kind ∈ FaultKind.beyondReading := by decide
  have ofOperator (operator : Operator) : ∀ cause ∈ operator.causes,
      cause.isStated = false ∧ cause.kind ∈ FaultKind.beyondReading := by
    simp [Operator.causes, Cause.isStated, Cause.kind, FaultKind.beyondReading]
  have unplaced : ∀ cause ∈ Cause.emptyExpression :: Operation.causes,
      cause.isStated = false ∧ cause.kind ∈ FaultKind.beyondReading := by decide
  intro cause member
  rcases List.mem_append.mp member with found | other
  · rcases List.mem_append.mp found with general | blames
    · exact ofMachine cause general
    · obtain ⟨operator, _, blamed⟩ := List.mem_flatMap.mp blames
      exact ofOperator operator cause blamed
  · exact unplaced cause other

namespace Evaluator

variable {expression : String} {fault : Fault}

/-- Every delimiter is the symbol of an operator. -/
theorem find?_of_tokenize {symbol : String} {position : Int}
    (member : .symbol symbol position ∈ (Delimiters.standard.tokenize expression).tokens) :
    OperatorTable.standard.find? symbol ≠ none := by
  have known : ∀ char ∈ Delimiters.standard.chars,
      (OperatorTable.standard.find? (String.singleton char)).isSome = true :=
    List.all_eq_true.mp (by decide)
  obtain ⟨chars, spells⟩ :=
    (Delimiters.standard.accountsFrom_tokenize expression).spelled _ member
  cases spells with
  | symbol written delimits =>
      exact Option.isSome_iff_ne_none.mp (known _ (List.contains_iff_mem.mp delimits))

/-- The faults of an expression are those of its evaluation. -/
theorem calculate_eq_error_iff {evaluator : Evaluator} :
    evaluator.calculate expression = .error fault ↔
      evaluator.evaluate expression = .error fault := by
  unfold calculate
  cases evaluator.evaluate expression with
  | ok value => simp only [Except.map, reduceCtorEq]
  | error raised => simp only [Except.map, Except.error.injEq]

/-- An expression is refused by the reader, or it is faulty for one of finitely many causes. -/
theorem cause_of_calculate (fails : standard.calculate expression = .error fault) :
    fault.cause ∈ OperatorTable.standard.allCauses ∨
      ∃ place, Delimiters.standard.Refuses (Delimiters.standard.normalize expression) place
        fault.cause := by
  have applies := OperatorTable.appliesOperations_standard
  cases origin_of_runStream (calculate_eq_error_iff.mp fails) with
  | broken breaks =>
      obtain ⟨place, _, _, refuses⟩ :=
        (Delimiters.standard.accountsFrom_tokenize expression).refused fault breaks
      exact Or.inr ⟨place, refuses⟩
  | unknown member absent => exact absurd absent (find?_of_tokenize member)
  | token member arises => exact Or.inl (arises.cause_mem applies)
  | ended arises => exact Or.inl (arises.cause_mem applies)

/-- No fault is stated in words of its own. -/
theorem isStated_of_calculate (fails : standard.calculate expression = .error fault) :
    fault.cause.isStated = false := by
  rcases cause_of_calculate fails with member | ⟨place, refuses⟩
  · exact (OperatorTable.standard.kind_of_mem_allCauses _ member).1
  · generalize fault.cause = cause at refuses ⊢
    cases refuses with
    | foreign written isRun => rfl
    | tooLong written isRun long => rfl

/-- The text of a fault is not empty, and it is not that of a failure that is not shown. -/
theorem text_of_calculate (fails : standard.calculate expression = .error fault) :
    fault.text ≠ "" ∧ errorLabel ++ fault.text ≠ internalErrorText := by
  obtain ⟨first, head, other⟩ := Fault.head?_text (isStated_of_calculate fails)
  constructor
  · intro empty
    rw [empty] at head
    cases head
  · intro same
    rw [internalErrorText, String.append_right_inj] at same
    rw [same] at head
    cases head
    exact other rfl

/-- What a buffer shows of an expression: its value, or the text of its fault as an error. -/
def answer (evaluator : Evaluator) (expression : String) : String :=
  match evaluator.calculate expression with
  | .ok text => text
  | .error fault => errorLabel ++ fault.text

end Evaluator

/-- An evaluation shows what the expression is answered with. -/
theorem ExpressionBuffer.evaluate_standard (buffer : ExpressionBuffer) :
    buffer.evaluate (m := Id) Evaluator.standard.engine =
      if buffer.isSettled then (buffer, .ok buffer.text)
      else
        let answer := Evaluator.standard.answer buffer.text
        (⟨answer, true⟩, .ok answer) := by
  unfold evaluate
  split
  · rfl
  · unfold Evaluator.answer
    change buffer.absorb ((Evaluator.standard.calculate buffer.text).mapError Failure.ofFault) = _
    cases calculated : Evaluator.standard.calculate buffer.text with
    | ok text => rfl
    | error fault =>
        have shown : (Failure.ofFault fault).shown = fault.text := by
          rw [Failure.shown, if_neg]
          · rfl
          · exact fun empty =>
              (Evaluator.text_of_calculate calculated).1 (String.isEmpty_iff.mp empty)
        rw [Except.mapError, absorb, shown]
        exact if_pos (FailureClass.isShown_calculator fault.kind)

end InfixCalculator
