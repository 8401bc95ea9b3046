import InfixCalculator.Proofs.Expression.Printing

/-!
# Reading a result back

A result can be written down again: as it is shown, or, since there is no unary minus, as a
difference in parentheses if it is negative (`Decimal.resumed`).  What is written has a layout
(`Layout.resumed`), so it evaluates to the result, provided that its digits make a literal
(`Evaluator.evaluate_resumed`).  The size limit lets through results that have more digits than
a literal may have, and these are not read back (`Evaluator.calculate_shown`).
-/

namespace InfixCalculator

namespace Decimal

/-- A number as an expression goes on from it. -/
def resumed (value : Int) : String :=
  if 0 ≤ value then text value else "(0" ++ text value ++ ")"

/-- A value goes on as its digits, and a negative one as a difference in parentheses. -/
theorem toList_resumed (value : Int) :
    (resumed value).toList =
      if 0 ≤ value then digits value.natAbs
      else '(' :: '0' :: '-' :: (digits value.natAbs ++ [')']) := by
  unfold resumed
  split
  · rename_i natural
    rw [toList_text, if_pos natural]
  · rename_i negative
    rw [String.toList_append, String.toList_append, toList_text, if_neg negative]
    rfl

/-- The text of a number begins with a minus sign exactly if the number is negative. -/
theorem head?_text_eq_minus_iff (value : Int) :
    (text value).toList.head? = some '-' ↔ value < 0 := by
  rw [toList_text]
  split
  · rename_i natural
    refine ⟨fun head => ?_, fun negative => absurd natural (Int.not_le.mpr negative)⟩
    have digit := isDigit_of_mem_digits (List.mem_of_mem_head? head)
    cases digit
  · rename_i negative
    exact ⟨fun _ => Int.not_le.mp negative, fun _ => rfl⟩

theorem length_text (value : Int) :
    (text value).length =
      if 0 ≤ value then (digits value.natAbs).length else (digits value.natAbs).length + 1 := by
  rw [← String.length_toList, toList_text]
  split
  · rfl
  · rfl

end Decimal

/-! ## Layouts of results -/

namespace Layout

/-- A result as it is written down again. -/
def resumed (value : Int) (short : (Decimal.digits value.natAbs).length ≤ maxLiteralDigits) :
    Layout :=
  let magnitude : Layout := literal .none ⟨0, value.natAbs, (Nat.zero_add _).symm ▸ short⟩
  if 0 ≤ value then magnitude
  else
    group .none (binary (literal .none ⟨0, 0, by decide⟩) .none Operation.subtract.sign magnitude)
      .none

variable {value : Int} (short : (Decimal.digits value.natAbs).length ≤ maxLiteralDigits)

theorem chars_resumed : (resumed value short).chars = (Decimal.resumed value).toList := by
  rw [Decimal.toList_resumed, resumed]
  split
  · rfl
  · rfl

theorem bare?_resumed : (resumed value short).bare? = none := by
  unfold resumed
  split
  · rfl
  · rfl

theorem adequate_resumed : (resumed value short).Adequate := by
  unfold resumed
  split
  · trivial
  · exact ⟨⟨trivial, fun _ bare => by cases bare⟩, trivial, fun _ bare => by cases bare⟩

/-- What is written down again is an expression with the same value. -/
theorem value_resumed : (resumed value short).expression.value = .ok value := by
  unfold resumed
  split
  · rename_i natural
    exact congrArg Except.ok (Int.natAbs_of_nonneg natural)
  · rename_i negative
    have difference : (0 : Int) - (value.natAbs : Int) = value := by omega
    have fitting : fits value = true := Decimal.fits_of_length_digits short
    change Outcome.ofExact (some ((0 : Int) - (value.natAbs : Int))) = .ok value
    rw [difference, Outcome.ofExact, if_pos fitting]

end Layout

/-! ## Long results -/

namespace Delimiters

theorem map_reading_digits (delimiters : Delimiters) (number : Nat) :
    (Decimal.digits number).map delimiters.reading = Decimal.digits number :=
  map_reading_eq_self fun _ member => reading_of_isDigit (Decimal.isDigit_of_mem_digits member)

/-- A number with more digits than a literal may have breaks the text off. -/
theorem tokensFrom_of_long (delimiters : Delimiters) {number : Nat}
    (long : maxLiteralDigits < (Decimal.digits number).length) (position : Int)
    {rest : List Char} (ends : EndsDigits rest) :
    delimiters.tokensFrom position (Decimal.digits number ++ rest) =
      .failed ⟨.literalTooLong, some position⟩ := by
  rw [tokensFrom_digits position (Decimal.digits_ne_nil _)
    (fun _ member => Decimal.isDigit_of_mem_digits member) ends, if_pos long]

/-- A value with too many digits is refused where its digits begin. -/
theorem tokenize_resumed_of_long {value : Int}
    (long : maxLiteralDigits < (Decimal.digits value.natAbs).length) :
    standard.tokenize (Decimal.resumed value) =
      if 0 ≤ value then .failed ⟨.literalTooLong, some 0⟩
      else .token (.symbol "(" 0) (.token (.number 0 1) (.token (.symbol "-" 2)
        (.failed ⟨.literalTooLong, some 3⟩))) := by
  rw [tokenize_eq, normalize, Decimal.toList_resumed]
  split
  · have stream := standard.tokensFrom_of_long long 0 endsDigits_nil
    rw [List.append_nil] at stream
    rw [map_reading_digits, stream]
  · have subtracts : standard.classify '-' = .delimiter := by decide
    have zero : ∀ char ∈ ['0'], char.isDigit = true := List.all_eq_true.mp (by decide)
    have minus : Char.isDigit '-' = false := rfl
    have closer : Char.isDigit ')' = false := rfl
    rw [List.map_cons, List.map_cons, List.map_cons, List.map_append, map_reading_digits]
    change standard.tokensFrom 0
      ('(' :: (['0'] ++ '-' :: (Decimal.digits value.natAbs ++ [')']))) = _
    rw [tokensFrom_delimiter 0 standard_classify_opener,
      tokensFrom_digits _ (List.cons_ne_nil _ _) zero (endsDigits_cons minus _),
      if_neg (by decide), tokensFrom_delimiter _ subtracts,
      standard.tokensFrom_of_long long _ (endsDigits_cons closer [])]
    rfl

end Delimiters

/-! ## Evaluation -/

/-- An outcome with a value has it whatever becomes of faults. -/
theorem eq_ok_of_mapError {ε δ α : Type} {result : Except ε α} {change : ε → δ} {value : α}
    (same : result.mapError change = .ok value) : result = .ok value := by
  cases result with
  | error fault => cases same
  | ok other =>
      cases same
      rfl

namespace Evaluator

/-- The text of a layout evaluates to the value of its expression. -/
theorem evaluate_of_value {layout : Layout} {value : Int} (adequate : layout.Adequate)
    (means : layout.expression.value = .ok value) :
    standard.evaluate (layout.text .none) = .ok value := by
  have same : (standard.evaluate (layout.text .none)).mapError Fault.kind = .ok value := by
    rw [layout.evaluate_text, Layout.evaluateTokens_tokens_phrase adequate, means]
  exact eq_ok_of_mapError same

/-- A result with no more digits than a literal may have is read back. -/
theorem evaluate_resumed {value : Int}
    (short : (Decimal.digits value.natAbs).length ≤ maxLiteralDigits) :
    standard.evaluate (Decimal.resumed value) = .ok value := by
  have written : (Layout.resumed value short).text .none = Decimal.resumed value := by
    rw [Layout.text, Layout.chars_resumed, Gap.none, List.append_nil, String.ofList_toList]
  rw [← written]
  exact evaluate_of_value (Layout.adequate_resumed short) (Layout.value_resumed short)

/-- A result with more digits is not. -/
theorem evaluate_resumed_of_long {value : Int}
    (long : maxLiteralDigits < (Decimal.digits value.natAbs).length) :
    standard.evaluate (Decimal.resumed value) =
      .error ⟨.literalTooLong, some (if 0 ≤ value then 0 else 3)⟩ := by
  change (standard.runStream (Delimiters.standard.tokenize (Decimal.resumed value))).outcome = _
  rw [Delimiters.tokenize_resumed_of_long long]
  split
  · rfl
  · rfl

/-- A result is read back exactly if it has no more digits than a literal may have. -/
theorem calculate_resumed (value : Int) :
    standard.calculate (Decimal.resumed value) =
      if maxLiteralDigits < (Decimal.digits value.natAbs).length then
        .error ⟨.literalTooLong, some (if 0 ≤ value then 0 else 3)⟩
      else .ok (Decimal.text value) := by
  rw [calculate]
  split
  · rename_i long
    rw [evaluate_resumed_of_long long]
    rfl
  · rename_i short
    rw [evaluate_resumed (Nat.not_lt.mp short)]
    rfl

/-- What is shown is the text of a value. -/
theorem exists_value_of_calculate {expression shown : String}
    (calculated : standard.calculate expression = .ok shown) :
    ∃ value, standard.evaluate expression = .ok value ∧ Decimal.text value = shown := by
  rw [calculate] at calculated
  cases evaluated : standard.evaluate expression with
  | error fault =>
      rw [evaluated] at calculated
      cases calculated
  | ok value =>
      rw [evaluated] at calculated
      exact ⟨value, rfl, Except.ok.inj calculated⟩

/-- What is shown for an expression can be read back, as a difference in parentheses if it is
negative, exactly if it has no more digits than a literal may have. -/
theorem calculate_shown {expression shown : String}
    (calculated : standard.calculate expression = .ok shown) :
    (shown.toList.head? ≠ some '-' →
      standard.calculate shown =
        if maxLiteralDigits < shown.length then .error ⟨.literalTooLong, some 0⟩
        else .ok shown) ∧
      (shown.toList.head? = some '-' →
        standard.calculate ("(0" ++ shown ++ ")") =
          if maxLiteralDigits + 1 < shown.length then .error ⟨.literalTooLong, some 3⟩
          else .ok shown) := by
  obtain ⟨value, _, rfl⟩ := exists_value_of_calculate calculated
  have again := calculate_resumed value
  rw [ne_eq, Decimal.head?_text_eq_minus_iff, Decimal.length_text]
  refine ⟨fun notNegative => ?_, fun negative => ?_⟩
  · have natural : 0 ≤ value := Int.not_lt.mp notNegative
    rw [Decimal.resumed, if_pos natural, if_pos natural] at again
    rw [again, if_pos natural]
  · have signed : ¬ 0 ≤ value := Int.not_le.mpr negative
    rw [Decimal.resumed, if_neg signed, if_neg signed] at again
    rw [again, if_neg signed]
    simp only [Nat.add_lt_add_iff_right]

/-- `2-5` is shown as `-3`, and `(0-3)` gives that again. -/
theorem calculate_shown_difference :
    standard.calculate "2-5" = .ok "-3" ∧ standard.calculate "(0-3)" = .ok "-3" := by
  have calculated : standard.calculate "2-5" = .ok "-3" := by rfl
  exact ⟨calculated, (calculate_shown calculated).2 rfl⟩

/-- A power of ten has its value if that is short enough. -/
theorem evaluate_powerOfTen {zeros : Nat}
    (short : (Decimal.digits zeros).length ≤ maxLiteralDigits)
    (fitting : 10 ^ zeros < 2 ^ maxResultBits) :
    standard.evaluate (String.ofList ('1' :: '0' :: '^' :: Decimal.digits zeros)) =
      .ok (10 ^ zeros) := by
  let layout : Layout :=
    .binary (.literal .none ⟨0, 10, by decide⟩) .none Operation.power.sign
      (.literal .none ⟨0, zeros, (Nat.zero_add _).symm ▸ short⟩)
  have written :
      layout.text .none = String.ofList ('1' :: '0' :: '^' :: Decimal.digits zeros) := by
    have ten : Decimal.digits 10 = ['1', '0'] := by decide
    rw [Layout.text, Gap.none, List.append_nil]
    change String.ofList (Decimal.digits 10 ++ '^' :: Decimal.digits zeros) = _
    rw [ten]
    rfl
  have adequate : layout.Adequate :=
    ⟨⟨trivial, fun _ bare => by cases bare⟩, trivial, fun _ bare => by cases bare⟩
  have means : layout.expression.value = .ok (10 ^ zeros) := by
    have limited : fits (10 ^ zeros) = true := by
      rw [fits_eq_true_iff, Int.natAbs_pow]
      exact fitting
    change Outcome.ofExact (some (10 ^ zeros)) = .ok (10 ^ zeros)
    rw [Outcome.ofExact, if_pos limited]
  rw [← written]
  exact evaluate_of_value adequate means

/-- A power of ten with as many zeros as a literal may have digits, or more, is not read back,
though it is shown if it is short enough. -/
theorem calculate_powerOfTen {zeros : Nat}
    (short : (Decimal.digits zeros).length ≤ maxLiteralDigits)
    (fitting : 10 ^ zeros < 2 ^ maxResultBits) (many : maxLiteralDigits ≤ zeros) :
    standard.calculate (String.ofList ('1' :: '0' :: '^' :: Decimal.digits zeros)) =
        .ok (Decimal.text (10 ^ zeros)) ∧
      (Decimal.text (10 ^ zeros)).toList.head? ≠ some '-' ∧
      standard.calculate (Decimal.text (10 ^ zeros)) = .error ⟨.literalTooLong, some 0⟩ := by
  have natural : (0 : Int) ≤ 10 ^ zeros := Int.pow_nonneg (by decide)
  have long : maxLiteralDigits < (Decimal.digits ((10 : Int) ^ zeros).natAbs).length := by
    rw [Int.natAbs_pow, ← Nat.not_le, Decimal.length_digits_le_iff (by decide), Nat.not_lt]
    exact Nat.pow_le_pow_right (by decide) many
  have again := calculate_resumed (10 ^ zeros)
  rw [Decimal.resumed, if_pos natural, if_pos natural, if_pos long] at again
  refine ⟨?_, ?_, again⟩
  · rw [calculate, evaluate_powerOfTen short fitting]
    rfl
  · rw [ne_eq, Decimal.head?_text_eq_minus_iff]
    exact Int.not_lt.mpr natural

/-- One followed by four thousand zeros is shown for a short expression and cannot be typed. -/
theorem calculate_powerOfTen_fourThousand :
    standard.calculate "10^4000" = .ok (Decimal.text (10 ^ 4000)) ∧
      (Decimal.text (10 ^ 4000)).toList.head? ≠ some '-' ∧
      standard.calculate (Decimal.text (10 ^ 4000)) = .error ⟨.literalTooLong, some 0⟩ := by
  have fitting : 10 ^ 4000 < 2 ^ maxResultBits := by decide +kernel
  have written : String.ofList ('1' :: '0' :: '^' :: Decimal.digits 4000) = "10^4000" := by decide
  rw [← written]
  exact calculate_powerOfTen (by decide) fitting (by decide)

end Evaluator

end InfixCalculator
