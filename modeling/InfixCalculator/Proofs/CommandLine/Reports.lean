import InfixCalculator.CommandLine.Program
import InfixCalculator.Proofs.Faults
import InfixCalculator.Proofs.Location
import InfixCalculator.Proofs.Numerals

/-!
# What the program and a buffer report

The program prints the value of an expression and reports its fault; a buffer shows both as one
text, and the label of errors tells them apart, because no number begins like it
(`Decimal.isErrorText_text`).  So the program reports what a buffer shows
(`CommandLine.runOnce_eq`), unless the expression is blank: a buffer leaves blanks alone, and for
the program they are an empty expression (`Evaluator.calculate_empty_iff`).  Nothing else is one,
since blanks are exactly the texts without tokens and without refusal
(`Delimiters.tokenize_eq_done_iff`).
-/

namespace InfixCalculator

/-! ## Blank texts -/

namespace Delimiters

variable {delimiters : Delimiters}

/-- Aliases stand for delimiters, so a text is blank whether or not they are read. -/
theorem isBlankText_iff (delimiters : Delimiters) (text : String) :
    isBlankText text = true ↔ ∀ char ∈ delimiters.normalize text, isBlank char = true := by
  rw [isBlankText, normalize, List.all_eq_true, List.forall_mem_map]
  simp only [isBlank_reading]

/-- A text is blank exactly if it holds no token and nothing that is refused. -/
theorem tokenize_eq_done_iff (delimiters : Delimiters) (text : String) :
    delimiters.tokenize text = .done ↔ isBlankText text = true := by
  rw [delimiters.isBlankText_iff]
  constructor
  · intro nothing char member
    obtain ⟨index, found⟩ := List.mem_iff_getElem?.mp member
    have account := delimiters.accountsFrom_tokenize text
    rw [nothing] at account
    rcases account.covered index char (Nat.zero_le _) found (fun _ breaks => by cases breaks) with
      blank | ⟨token, absent, _⟩
    · exact blank
    · cases absent
  · exact tokensFrom_of_blank 0

end Delimiters

/-! ## Empty expressions -/

/-- Only one message says that an expression is empty. -/
theorem Cause.eq_emptyExpression_of_message {cause : Cause} (unstated : cause.isStated = false)
    (same : cause.message = "Expresión vacía") : cause = .emptyExpression := by
  have begins {first : Char} (head : cause.message.toList.head? = some first) : first = 'E' := by
    rw [same] at head
    exact (Option.some.inj head).symm
  cases cause with
  | emptyExpression => rfl
  | stated kind message => cases unstated
  | operatorDueBeforeNumber | operandDueAtEnd | malformedExpression | nothingToReduce | zeroDivisor
  | zeroToNegativePower | powerTooLarge | operandTooLarge => exact absurd same (by decide)
  | invalidRun | unknownSymbol | operatorDueBefore | operandDueBefore | operandsMissing
  | resultTooLarge => exact absurd (begins (head?_append (head?_literal _ _) _)) (by decide)
  | literalTooLong =>
      exact absurd (begins (head?_append (head?_append (head?_literal _ _) _) _)) (by decide)
  | groupLeftOpen opener =>
      exact absurd (begins (head?_append (head?_singleQuoted opener) _)) (by decide)
  | closerWithoutOpener closer opener =>
      exact absurd (begins (head?_append (head?_append (head?_append
        (head?_singleQuoted closer) _) _) _)) (by decide)

/-- An empty expression is found without a position, for no rule reports one. -/
theorem Fault.Arises.position_of_empty {table : OperatorTable} {position : Option Int}
    {fault : Fault} (applies : table.AppliesOperations) (arises : fault.Arises table position)
    (empty : fault.cause = .emptyExpression) : fault.position = none := by
  cases arises with
  | @found cause member =>
      cases empty
      rcases List.mem_append.mp member with general | blames
      · exact absurd general (by decide)
      · obtain ⟨operator, _, blamed⟩ := List.mem_flatMap.mp blames
        simp [Operator.causes] at blamed
  | empty => rfl
  | @raised operator rule left right _ member ruled fails =>
      obtain ⟨operation, rfl⟩ := applies operator member rule ruled
      exact (Operation.fault_of_rule fails).1

namespace Evaluator

variable {expression : String} {fault : Fault}

/-- Blanks are an empty expression. -/
theorem calculate_of_isBlankText (blank : isBlankText expression = true) :
    standard.calculate expression = .error ⟨.emptyExpression, none⟩ := by
  have nothing := (standard.delimiters.tokenize_eq_done_iff expression).mpr blank
  rw [calculate, evaluate, run, nothing]
  rfl

/-- Only blanks are an empty expression. -/
theorem isBlankText_of_empty (fails : standard.evaluate expression = .error fault)
    (empty : fault.cause = .emptyExpression) : isBlankText expression = true := by
  have applies := OperatorTable.appliesOperations_standard
  have unbroken : (standard.delimiters.tokenize expression).fault? ≠ some fault := by
    intro breaks
    obtain ⟨place, _, _, refuses⟩ :=
      (standard.delimiters.accountsFrom_tokenize expression).refused fault breaks
    have kind := refuses.kind_eq.1
    rw [empty] at kind
    cases kind
  have unplaced : fault.position = none := by
    cases origin_of_runStream fails with
    | broken breaks => exact absurd breaks unbroken
    | unknown member absent => cases empty
    | token member arises => exact arises.position_of_empty applies empty
    | ended arises => exact arises.position_of_empty applies empty
  obtain ⟨locates, absent⟩ := locates_of_evaluate isAssembled_standard fails
  rcases absent.mp unplaced with placeless | ⟨_, none⟩
  · rw [empty] at placeless
    cases placeless
  · cases locates with
    | @token before rest token machine split taken fails placed =>
        rw [none] at split
        exact absurd split.symm (List.append_ne_nil_of_right_ne_nil _ (List.cons_ne_nil _ _))
    | run taken breaks placed refuses => exact absurd breaks unbroken
    | ending taken complete fails placed =>
        rw [← standard.delimiters.tokenize_eq_done_iff, ← TokenStream.ofList_tokens complete, none]
        rfl

/-- The engine calls exactly the blanks an empty expression. -/
theorem calculate_empty_iff (expression : String) :
    (∃ fault, standard.calculate expression = .error fault ∧
        fault.message = "Expresión vacía") ↔ isBlankText expression = true := by
  constructor
  · rintro ⟨fault, fails, message⟩
    exact isBlankText_of_empty (calculate_eq_error_iff.mp fails)
      (Cause.eq_emptyExpression_of_message (isStated_of_calculate fails) message)
  · exact fun blank => ⟨_, calculate_of_isBlankText blank, rfl⟩

end Evaluator

/-! ## Answers -/

/-- No number begins like an error. -/
theorem Decimal.isErrorText_text (number : Int) : isErrorText (Decimal.text number) = false := by
  have canonical := Decimal.isCanonical_text number
  unfold isErrorText
  generalize (Decimal.text number).toList = chars at canonical
  cases canonical with
  | zero => rfl
  | @natural first rest leading digits =>
      have other : ('E' == first) = false := by
        rw [beq_eq_false_iff_ne]
        rintro rfl
        exact absurd (digits 'E' List.mem_cons_self) (by decide)
      change ('E' == first && _) = false
      rw [other, Bool.false_and]
  | negative leading digits => rfl

theorem isErrorText_append (text : String) : isErrorText (errorLabel ++ text) = true := by
  rw [isErrorText, String.toList_append, List.isPrefixOf_iff_prefix]
  exact List.prefix_append _ _

namespace CommandLine

/-- The program prints what is answered, as an error if it looks like one. -/
theorem runOnce_eq (evaluator : Evaluator) (expression : String) :
    runOnce evaluator expression =
      if isErrorText (evaluator.answer expression) then
        ⟨1, "", evaluator.answer expression ++ "\n"⟩
      else ⟨0, evaluator.answer expression ++ "\n", ""⟩ := by
  have line (text : String) : unlines [text] = text ++ "\n" := String.empty_append
  rw [runOnce, Evaluator.answer, Evaluator.calculate]
  cases evaluator.evaluate expression with
  | ok value =>
      rw [Except.map, if_neg (Bool.eq_false_iff.mp (Decimal.isErrorText_text value))]
      simp only [line]
  | error fault =>
      rw [Except.map, if_pos (isErrorText_append fault.text)]
      simp only [line, errorLabel]

end CommandLine

/-- An expression is typed into a fresh buffer and evaluated by the standard engine. -/
def ExpressionBuffer.answering (expression : String) :
    ExpressionBuffer × Except Failure String :=
  (empty.insert expression).evaluate (m := Id) Evaluator.standard.engine

/-- A fresh buffer holds what is typed into it. -/
theorem ExpressionBuffer.insert_empty (typed : String) : empty.insert typed = ⟨typed, false⟩ := by
  rw [insert, kept]
  exact congrArg (mk · false) String.empty_append

/-- A fresh buffer shows what is answered, unless it is blank. -/
theorem ExpressionBuffer.answering_eq (expression : String) :
    answering expression =
      if isBlankText expression then (⟨expression, false⟩, .ok expression)
      else
        let answer := Evaluator.standard.answer expression
        (⟨answer, true⟩, .ok answer) := by
  rw [answering, evaluate_standard, insert_empty, isSettled, Bool.false_or]

namespace CommandLine

/-- **The program and a buffer report the same.** For an expression that is not blank, the program
prints a text and ends with 0 exactly if a fresh buffer shows this text as a result, and it reports
a text and ends with 1 exactly if the buffer shows it as an error.  A blank expression is empty for
the program and left alone by the buffer, and no other expression is empty. -/
theorem runOnce_reports (expression : String) :
    (isBlankText expression = false → ∀ shown,
      (runOnce .standard expression = ⟨0, shown ++ "\n", ""⟩ ↔
          ExpressionBuffer.answering expression = (⟨shown, true⟩, .ok shown) ∧
            isErrorText shown = false) ∧
        (runOnce .standard expression = ⟨1, "", shown ++ "\n"⟩ ↔
          ExpressionBuffer.answering expression = (⟨shown, true⟩, .ok shown) ∧
            isErrorText shown = true)) ∧
      (isBlankText expression = true →
        runOnce .standard expression = ⟨1, "", "Error: Expresión vacía\n"⟩ ∧
          ExpressionBuffer.answering expression =
            (ExpressionBuffer.empty.insert expression, .ok expression)) ∧
      ((∃ fault, Evaluator.standard.calculate expression = .error fault ∧
          fault.message = "Expresión vacía") ↔ isBlankText expression = true) ∧
      (Delimiters.standard.tokenize expression = .done ↔ isBlankText expression = true) := by
  refine ⟨fun nonblank shown => ?_, fun blank => ?_, Evaluator.calculate_empty_iff expression,
    Delimiters.standard.tokenize_eq_done_iff expression⟩
  · rw [ExpressionBuffer.answering_eq, nonblank, runOnce_eq, if_neg Bool.false_ne_true]
    generalize Evaluator.standard.answer expression = answer
    simp only [Prod.mk.injEq, ExpressionBuffer.mk.injEq, Except.ok.injEq, and_true, and_self]
    cases labelled : isErrorText answer with
    | true =>
        simp only [↓reduceIte, ProgramResult.mk.injEq, String.append_left_inj, Nat.one_ne_zero,
          true_and, false_and, false_iff]
        refine ⟨?_, fun same => ⟨same, same ▸ labelled⟩, And.left⟩
        rintro ⟨rfl, unlabelled⟩
        cases labelled.symm.trans unlabelled
    | false =>
        simp only [Bool.false_eq_true, ↓reduceIte, ProgramResult.mk.injEq, String.append_left_inj,
          Nat.zero_ne_one, and_true, true_and, false_and, false_iff]
        refine ⟨⟨fun same => ⟨same, same ▸ labelled⟩, And.left⟩, ?_⟩
        rintro ⟨rfl, label⟩
        cases labelled.symm.trans label
  · rw [ExpressionBuffer.answering_eq, if_pos blank, ExpressionBuffer.insert_empty, runOnce,
      Evaluator.calculate_of_isBlankText blank]
    exact ⟨rfl, rfl⟩

/-- `6÷4` is `1` for both, `5/0` an error for both, and a blank one for the program alone. -/
theorem runOnce_reports_division :
    isBlankText "6÷4" = false ∧
      runOnce .standard "6÷4" = ⟨0, "1\n", ""⟩ ∧
      ExpressionBuffer.answering "6÷4" = (⟨"1", true⟩, .ok "1") ∧
      isBlankText "5/0" = false ∧
      runOnce .standard "5/0" = ⟨1, "", "Error: División por cero\n"⟩ ∧
      ExpressionBuffer.answering "5/0" =
        (⟨"Error: División por cero", true⟩, .ok "Error: División por cero") ∧
      isBlankText "\u2003" = true ∧
      runOnce .standard "\u2003" = ⟨1, "", "Error: Expresión vacía\n"⟩ ∧
      ExpressionBuffer.answering "\u2003" = (⟨"\u2003", false⟩, .ok "\u2003") := by
  have quotient : runOnce .standard "6÷4" = ⟨0, "1\n", ""⟩ := by decide +kernel
  have undefined :
      runOnce .standard "5/0" = ⟨1, "", "Error: División por cero\n"⟩ := by decide +kernel
  have written : isBlankText "6÷4" = false ∧ isBlankText "5/0" = false ∧
      isBlankText "\u2003" = true := by decide +kernel
  have blank := (runOnce_reports "\u2003").2.1 written.2.2
  exact ⟨written.1, quotient, (((runOnce_reports "6÷4").1 written.1 "1").1.mp quotient).1,
    written.2.1, undefined,
    (((runOnce_reports "5/0").1 written.2.1 "Error: División por cero").2.mp undefined).1,
    written.2.2, blank⟩

end CommandLine

end InfixCalculator
