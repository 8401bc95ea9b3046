import InfixCalculator.Proofs.Expression.Layout
import InfixCalculator.Proofs.Token.Scanning

/-!
# Evaluating what is written

The text of a layout scans to the tokens of its phrase, whatever stands behind it, so long as
that does not lengthen the last literal (`Layout.exists_tokensFrom`).  So an evaluation of the
text gives the value of the expression that is written, however it is laid out
(`Evaluator.evaluate_layout`).
-/

namespace InfixCalculator

variable {delimiters : Delimiters} {rest : List Char}

/-! ## Lexemes -/

theorem Delimiters.map_reading_eq_self {chars : List Char}
    (plain : ∀ char ∈ chars, delimiters.reading char = char) :
    chars.map delimiters.reading = chars :=
  (List.map_congr_left plain).trans (List.map_id' chars)

namespace Gap

theorem map_reading (gap : Gap) (delimiters : Delimiters) :
    gap.chars.map delimiters.reading = gap.chars :=
  Delimiters.map_reading_eq_self fun char member =>
    Delimiters.reading_of_isBlank (gap.blank char member)

/-- A gap in front of a text changes nothing about whether digits go on. -/
theorem endsDigits (gap : Gap) (ends : Delimiters.EndsDigits rest) :
    Delimiters.EndsDigits (gap.chars ++ rest) := by
  rcases gap with ⟨_ | ⟨first, later⟩, blank⟩
  · exact ends
  · exact Delimiters.endsDigits_cons
      (Delimiters.isDigit_eq_false_of_isBlank (blank first List.mem_cons_self)) _

end Gap

namespace Numeral

/-- A numeral holds nothing but digits. -/
theorem isDigit_of_mem_chars {numeral : Numeral} {char : Char}
    (member : char ∈ numeral.chars) : char.isDigit = true := by
  rcases List.mem_append.mp member with zero | digit
  · rw [List.eq_of_mem_replicate zero]
    rfl
  · exact Decimal.isDigit_of_mem_digits digit

theorem chars_ne_nil (numeral : Numeral) : numeral.chars ≠ [] :=
  List.append_ne_nil_of_right_ne_nil _ (Decimal.digits_ne_nil numeral.number)

@[simp] theorem value_chars (numeral : Numeral) :
    Decimal.value numeral.chars = numeral.number := by
  rw [chars, Decimal.value_leadingZeros, Decimal.value_digits]

/-- A numeral has no more digits than a literal may have. -/
theorem length_chars_le (numeral : Numeral) : numeral.chars.length ≤ maxLiteralDigits := by
  rw [chars, List.length_append, List.length_replicate]
  exact numeral.short

theorem map_reading (numeral : Numeral) (delimiters : Delimiters) :
    numeral.chars.map delimiters.reading = numeral.chars :=
  Delimiters.map_reading_eq_self fun _ member =>
    Delimiters.reading_of_isDigit (isDigit_of_mem_chars member)

/-- A numeral that no digit follows gives its number. -/
theorem tokensFrom_chars (numeral : Numeral) (delimiters : Delimiters) (position : Int)
    (ends : Delimiters.EndsDigits rest) :
    delimiters.tokensFrom position (numeral.chars ++ rest) =
      .token (.number numeral.number position)
        (delimiters.tokensFrom (position + numeral.chars.length) rest) := by
  rw [Delimiters.tokensFrom_digits position numeral.chars_ne_nil
    (fun _ member => isDigit_of_mem_chars member) ends, if_neg, value_chars]
  exact Nat.not_lt.mpr numeral.length_chars_le

end Numeral

namespace Sign

/-- However an operation is written, its symbol is read. -/
theorem reading_char (sign : Sign) :
    Delimiters.standard.classify (Delimiters.standard.reading sign.char) = .delimiter ∧
      String.singleton (Delimiters.standard.reading sign.char) = sign.operation.symbol := by
  have all : (sign.operation.spellings.all fun char =>
      Delimiters.standard.classify (Delimiters.standard.reading char) = .delimiter ∧
        String.singleton (Delimiters.standard.reading char) = sign.operation.symbol) = true := by
    cases sign.operation <;> decide
  exact of_decide_eq_true (List.all_eq_true.mp all sign.char sign.spells)

/-- Nothing that writes an operation goes on with a literal in front of it. -/
theorem isDigit_reading_char (sign : Sign) :
    (Delimiters.standard.reading sign.char).isDigit = false := by
  apply Bool.eq_false_iff.mpr
  intro digit
  have delimits := sign.reading_char.1
  rw [Delimiters.classify_of_isDigit digit] at delimits
  cases delimits

end Sign

/-! ## Layouts -/

namespace Layout

/-- A layout scans to the tokens of its phrase, if the text behind it begins with no digit. -/
theorem exists_tokensFrom (layout : Layout) (position : Int)
    (ends : Delimiters.EndsDigits rest) :
    ∃ tokens, tokens.map Token.unplaced = layout.phrase.tokens.map Token.unplaced ∧
      Delimiters.standard.tokensFrom position
          (layout.chars.map Delimiters.standard.reading ++ rest) =
        .prepend tokens
          (Delimiters.standard.tokensFrom (position + layout.chars.length) rest) := by
  induction layout generalizing position rest with
  | literal gap numeral =>
      refine ⟨[.number numeral.number (position + gap.chars.length)], rfl, ?_⟩
      rw [chars, List.map_append, gap.map_reading, numeral.map_reading, List.append_assoc,
        Delimiters.tokensFrom_blanks position gap.blank, numeral.tokensFrom_chars _ _ ends,
        List.length_append, Int.natCast_add, ← Int.add_assoc]
      rfl
  | binary left gap sign right ihLeft ihRight =>
      obtain ⟨delimits, symbol⟩ := sign.reading_char
      have between := gap.endsDigits (Delimiters.endsDigits_cons sign.isDigit_reading_char
        (right.chars.map Delimiters.standard.reading ++ rest))
      -- The sign stands where the left operand and the gap behind it end.
      let placed : Int := position + left.chars.length + gap.chars.length
      have length : position + (left.binary gap sign right).chars.length =
          placed + 1 + right.chars.length := by
        simp only [chars, List.length_append, List.length_cons, Int.natCast_add,
          Int.natCast_succ, placed]
        omega
      -- A gap or the sign itself keeps the last number of the left operand from going on.
      obtain ⟨leftTokens, leftPhrase, leftReads⟩ := ihLeft position between
      obtain ⟨rightTokens, rightPhrase, rightReads⟩ := ihRight (placed + 1) ends
      refine ⟨leftTokens ++ .symbol sign.operation.symbol placed :: rightTokens, ?_, ?_⟩
      · rw [phrase, Phrase.tokens_join, List.map_append, List.map_append, List.map_cons,
          List.map_cons, leftPhrase, rightPhrase]
        rfl
      · rw [length, chars, List.map_append, List.map_append, List.map_cons, gap.map_reading,
          List.append_assoc, List.append_assoc, List.cons_append, leftReads,
          Delimiters.tokensFrom_blanks _ gap.blank, Delimiters.tokensFrom_delimiter _ delimits,
          symbol, rightReads, TokenStream.prepend_append]
        rfl
  | group opening inner closing ih =>
      have opens := Delimiters.standard_classify_opener
      have closes := Delimiters.standard_classify_closer
      have plainOpener : Delimiters.standard.reading '(' = '(' := by decide
      have plainCloser : Delimiters.standard.reading ')' = ')' := by decide
      have apart : Char.isDigit ')' = false := rfl
      have behind := closing.endsDigits (Delimiters.endsDigits_cons apart rest)
      let opened : Int := position + opening.chars.length
      let closed : Int := opened + 1 + inner.chars.length + closing.chars.length
      have length : position + (group opening inner closing).chars.length = closed + 1 := by
        simp only [chars, List.length_append, List.length_cons, List.length_nil, Int.natCast_add,
          Int.natCast_succ, closed, opened]
        omega
      obtain ⟨tokens, phraseTokens, reads⟩ := ih (opened + 1) behind
      refine ⟨.symbol "(" opened :: (tokens ++ [.symbol ")" closed]), ?_, ?_⟩
      · rw [phrase, Phrase.tokens, Tail.tokens, List.append_nil, Operand.tokens, List.map_cons,
          List.map_cons, List.map_append, List.map_append, phraseTokens]
        rfl
      · rw [length, chars, List.map_append, List.map_cons, List.map_append, List.map_append,
          opening.map_reading, closing.map_reading, plainOpener, List.map_singleton, plainCloser,
          List.append_assoc, List.cons_append, List.append_assoc, List.append_assoc,
          List.singleton_append, Delimiters.tokensFrom_blanks position opening.blank,
          Delimiters.tokensFrom_delimiter _ opens, reads,
          Delimiters.tokensFrom_blanks _ closing.blank,
          Delimiters.tokensFrom_delimiter _ closes, TokenStream.prepend_cons,
          TokenStream.prepend_append]
        rfl

/-- The text of a layout evaluates as the tokens of its phrase do. -/
theorem evaluate_text (layout : Layout) (trailing : Gap) :
    (Evaluator.standard.evaluate (layout.text trailing)).mapError Fault.kind =
      (Evaluator.standard.evaluateTokens layout.phrase.tokens).mapError Fault.kind := by
  have ends : Delimiters.EndsDigits trailing.chars := by
    rw [← List.append_nil trailing.chars]
    exact trailing.endsDigits Delimiters.endsDigits_nil
  obtain ⟨tokens, phraseTokens, reads⟩ := layout.exists_tokensFrom 0 ends
  have stream : Delimiters.standard.tokenize (layout.text trailing) = .ofList tokens := by
    rw [Delimiters.tokenize_eq, Delimiters.normalize, text, String.toList_ofList, List.map_append,
      trailing.map_reading, reads, Delimiters.tokensFrom_of_blank _ trailing.blank,
      TokenStream.prepend_done]
  have evaluated : Evaluator.standard.evaluate (layout.text trailing) =
      Evaluator.standard.evaluateTokens tokens := by
    rw [Evaluator.evaluate, Evaluator.run]
    exact congrArg (fun stream => (Evaluator.standard.runStream stream).outcome) stream
  rw [evaluated]
  exact Evaluator.standard.mapError_evaluateTokens_congr phraseTokens

end Layout

/-- However an expression is laid out, its text evaluates to its value.  Faults agree in their
kinds.  The layout with no more than the required parentheses is one of them. -/
theorem Evaluator.evaluate_layout (expression : Expression) (short : expression.Short) :
    ((expression.minimal short).Adequate ∧
        (expression.minimal short).expression = expression) ∧
      ∀ (layout : Layout) (trailing : Gap), layout.Adequate → layout.expression = expression →
        (Evaluator.standard.evaluate (layout.text trailing)).mapError Fault.kind =
          expression.value := by
  refine ⟨⟨expression.minimal_adequate short, expression.expression_minimal short⟩, ?_⟩
  intro layout trailing adequate same
  rw [layout.evaluate_text trailing, Layout.evaluateTokens_tokens_phrase adequate, same]

/-- In `8 −((2-03)^2)^1×3 ` the glyphs are a difference and a product, the outer parentheses are
required by the second power, and the zero counts for nothing. -/
theorem evaluate_layout_difference :
    let expression : Expression := .binary .subtract (.literal 8)
      (.binary .multiply (.binary .power (.binary .power (.binary .subtract (.literal 2)
        (.literal 3)) (.literal 2)) (.literal 1)) (.literal 3))
    expression.Short ∧
      (Evaluator.standard.evaluate "8 −((2-03)^2)^1×3 ").mapError Fault.kind =
        expression.value ∧
      expression.value = .ok 5 := by
  intro expression
  have short : expression.Short := by decide
  let space : Gap := ⟨[' '], List.all_eq_true.mp (by decide)⟩
  let difference : Layout := .group .none
    (.binary (.literal .none ⟨0, 2, by decide⟩) .none Operation.subtract.sign
      (.literal .none ⟨1, 3, by decide⟩)) .none
  let square : Layout := .group .none
    (.binary difference .none Operation.power.sign (.literal .none ⟨0, 2, by decide⟩)) .none
  let product : Layout :=
    .binary (.binary square .none Operation.power.sign (.literal .none ⟨0, 1, by decide⟩)) .none
      ⟨.multiply, '×', by decide⟩ (.literal .none ⟨0, 3, by decide⟩)
  let layout : Layout :=
    .binary (.literal .none ⟨0, 8, by decide⟩) space ⟨.subtract, '−', by decide⟩ product
  have written : layout.text space = "8 −((2-03)^2)^1×3 " := by decide
  refine ⟨short, ?_, by decide⟩
  rw [← written]
  exact (Evaluator.evaluate_layout expression short).2 layout space (by decide) rfl

end InfixCalculator
