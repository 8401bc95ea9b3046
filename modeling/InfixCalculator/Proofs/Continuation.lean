import InfixCalculator.Buffer
import InfixCalculator.Proofs.Machine.Displacement
import InfixCalculator.Proofs.Machine.Isolation
import InfixCalculator.Proofs.Readback

/-!
# Going on from a result

A buffer that shows the result of an expression goes on from it as from the expression in
parentheses (`ExpressionBuffer.evaluate_insert`).  The reason: whether the parentheses are taken
in or the result that is kept, the machine that is reached differs in its record of attempts
alone (`Machine.effect_parenthesized`, `Machine.effect_resumed`).  What is typed behind it then
stands at another place, and it comes to the same value or to the same fault at that place
(`Machine.outcome_run_moved`).
-/

namespace InfixCalculator

/-! ## Streams -/

namespace Machine

variable {table : OperatorTable} {machine reached : Machine} {tokens : List Token}

/-- A run that gives a value has read a stream that does not break off. -/
theorem complete_of_run {position : Int} {stream : TokenStream} {value : Int}
    (evaluated : (machine.run table position stream).outcome = .ok value) :
    stream.fault? = none := by
  induction stream generalizing machine position with
  | done => rfl
  | failed fault => cases evaluated
  | token first rest ih =>
      rw [run] at evaluated
      rcases consumed : machine.consume table first with ⟨next, fault | _⟩
      · rw [consumed] at evaluated
        cases evaluated
      · rw [consumed] at evaluated
        exact ih evaluated

/-- Behind tokens whose effect is known, a run goes on from the machine that they lead to. -/
theorem exists_run_prepend (reads : (machine.consumeAll table tokens).effect = .ok (reached, ()))
    (position : Int) (stream : TokenStream) :
    ∃ next : Machine, next.Alike reached ∧ machine.run table position (.prepend tokens stream) =
      next.run table (lastPosition position tokens) stream := by
  rw [run_prepend]
  rcases consumed : machine.consumeAll table tokens with ⟨next, fault | _⟩
  · rw [consumed] at reads
    cases reads
  · rw [consumed] at reads
    have same : next.unrecorded = reached := Step.unrecorded_of_effect reads
    refine ⟨next, ?_, rfl⟩
    rw [Alike, ← same]
    rfl

/-! ## Behind a result -/

/-- A machine that has taken in nothing but an operand. -/
def result (value : Int) : Machine :=
  start.holding ⟨[], value⟩

/-- A machine with nothing but a value ends with it. -/
theorem outcome_finish_of_result {value : Int} (alike : machine.Alike (result value))
    (position : Option Int) : (machine.finish position).outcome = .ok value := by
  have ends : (machine.finish position).effect = .ok (result value, value) :=
    (alike.finish position none).trans rfl
  have same := (machine.finish position).mapError_outcome
  rw [ends] at same
  exact eq_ok_of_mapError same

/-- On a machine that has taken in nothing but an operand only the start sentinel waits, and it
has no rule. -/
theorem twin_of_result {relates : Fault → Fault → Prop} {value : Int} {other : Machine}
    (alike : machine.Alike (result value)) (otherAlike : other.Alike (result value)) :
    machine.Twin relates other where
  alike := alike.trans otherAlike.symm
  respects := by
    rw [alike.operators]
    intro operator member rule ruled
    cases List.mem_singleton.mp member
    cases ruled

/-- Tokens behind a result come to the same value or the same fault wherever they stand. -/
theorem outcome_run_moved {value distance : Int} {other : Machine}
    (alike : machine.Alike (result value)) (otherAlike : other.Alike (result value))
    (respects : table.Respects (IsMoved distance)) (position otherPosition : Int)
    (stream : TokenStream) :
    (other.run table otherPosition (stream.moved distance)).outcome =
      (machine.run table position stream).outcome.mapError (Fault.moved distance) := by
  cases stream with
  | done =>
      -- no token follows, so the places where the results end do not matter
      change (other.finish _).outcome = (machine.finish _).outcome.mapError _
      rw [outcome_finish_of_result otherAlike, outcome_finish_of_result alike]
      rfl
  | failed fault => rfl
  | token first rest =>
      have related := (twin_of_result alike otherAlike).run respects position (.token first rest)
      exact related.outcome_eq

/-- An expression in parentheses leads to its value. -/
theorem effect_parenthesized {tokens : List Token} {value : Int} (fitting : fits value = true)
    (evaluated : (start.run .standard 0 (.ofList tokens)).outcome = .ok value) :
    (start.consumeAll .standard (.symbol "(" 0 :: (tokens ++ [.symbol ")" 0]))).effect =
      .ok (result value, ()) := by
  rw [run_ofList] at evaluated
  have grouped := effect_group (sound_start .standard).opensFrom OperatorTable.hasPair_standard
    evaluated 0 0 0
  rw [consume, effect_pushOperand rfl, if_pos fitting] at grouped
  exact grouped

/-- A result that is written down again leads to it. -/
theorem effect_resumed {value : Int}
    (short : (Decimal.digits value.natAbs).length ≤ maxLiteralDigits) :
    (start.consumeAll .standard (Layout.resumed value short).phrase.tokens).effect =
      .ok (result value, ()) := by
  let layout := Layout.resumed value short
  have reads := effect_phrase layout.phrase (ground_start .standard) layout.derivable_phrase
  have held := Layout.held_phrase (Layout.bare?_resumed short) (Layout.adequate_resumed short)
    (Layout.value_resumed short)
  rw [held] at reads
  exact reads

end Machine

/-! ## Texts -/

namespace Delimiters

/-- The tokens of a text in parentheses, and then those of what follows it. -/
theorem exists_tokenize_parenthesized {expression : String}
    (complete : (standard.tokenize expression).fault? = none) (suffix : String) :
    ∃ tokens, tokens.map Token.unplaced =
        (.symbol "(" 0 :: ((standard.tokenize expression).tokens ++ [.symbol ")" 0])).map
          Token.unplaced ∧
      standard.tokenize ("(" ++ expression ++ ")" ++ suffix) =
        .prepend tokens
          (standard.tokensFrom (expression.length + 2) (standard.normalize suffix)) := by
  have opens := standard_classify_opener
  have closes := standard_classify_closer
  have chars : standard.normalize ("(" ++ expression ++ ")" ++ suffix) =
      '(' :: (standard.normalize expression ++ ')' :: standard.normalize suffix) := by
    simp only [normalize, String.toList_append, List.map_append, List.append_assoc]
    rfl
  have moved : standard.tokensFrom 1 (standard.normalize expression) =
      (standard.tokenize expression).moved 1 := standard.tokensFrom_add 0 1 _
  have whole : (standard.tokensFrom 1 (standard.normalize expression)).fault? = none := by
    rw [moved, TokenStream.fault?_moved, complete]
    rfl
  have closed : (1 : Int) + expression.length + 1 = expression.length + 2 := by omega
  refine ⟨.symbol "(" 0 :: (((standard.tokenize expression).moved 1).tokens ++
    [.symbol ")" (1 + expression.length)]), ?_, ?_⟩
  · simp only [TokenStream.tokens_moved, List.map_cons, List.map_append, List.map_map,
      Token.unplaced_comp_moved]
    rfl
  · rw [tokenize_eq, chars, tokensFrom_delimiter 0 opens, Int.zero_add,
      tokensFrom_append_delimiter whole closes, moved, tokensFrom_delimiter _ closes,
      length_normalize, closed, TokenStream.prepend_cons, TokenStream.prepend_append]
    rfl

/-- What goes on from a result does not begin with a digit. -/
theorem endsDigits_normalize {suffix : String} (goesOn : startsAnew suffix = false) :
    EndsDigits (standard.normalize suffix) := by
  intro char head
  rw [normalize, List.head?_map] at head
  obtain ⟨typed, first, rfl⟩ := Option.map_eq_some_iff.mp head
  rw [isDigit_reading]
  apply Bool.eq_false_iff.mpr
  intro digit
  rw [startsAnew, first, Option.any_some, isAnyDigit_of_isDigit digit] at goesOn
  cases goesOn

/-- The tokens of a result that is written down again, and then those of what follows it. -/
theorem exists_tokenize_resumed {value : Int}
    (short : (Decimal.digits value.natAbs).length ≤ maxLiteralDigits) {suffix : String}
    (goesOn : startsAnew suffix = false) :
    ∃ tokens, tokens.map Token.unplaced =
        (Layout.resumed value short).phrase.tokens.map Token.unplaced ∧
      standard.tokenize (Decimal.resumed value ++ suffix) =
        .prepend tokens (standard.tokensFrom (Decimal.resumed value).length
          (standard.normalize suffix)) := by
  obtain ⟨tokens, phraseTokens, reads⟩ :=
    (Layout.resumed value short).exists_tokensFrom 0 (endsDigits_normalize goesOn)
  refine ⟨tokens, phraseTokens, ?_⟩
  rw [Layout.chars_resumed, Int.zero_add, String.length_toList] at reads
  rw [tokenize_eq, normalize, String.toList_append, List.map_append]
  exact reads

end Delimiters

namespace Evaluator

/-- Behind tokens that lead to a result, an evaluation goes on from that result. -/
theorem exists_run_of_tokenize {text : String} {tokens : List Token} {stream : TokenStream}
    {value : Int} (reads : Delimiters.standard.tokenize text = .prepend tokens stream)
    (leads : (Machine.start.consumeAll .standard tokens).effect = .ok (.result value, ())) :
    ∃ (machine : Machine) (last : Int), machine.Alike (.result value) ∧
      standard.evaluate text = (machine.run .standard last stream).outcome := by
  obtain ⟨machine, alike, runs⟩ := Machine.exists_run_prepend leads 0 stream
  refine ⟨machine, lastPosition 0 tokens, alike, ?_⟩
  change (Machine.start.run .standard 0 (Delimiters.standard.tokenize text)).outcome = _
  rw [reads, runs]

/-- Behind an expression in parentheses, an evaluation goes on from its value. -/
theorem exists_run_parenthesized {expression : String} {value : Int}
    (evaluated : standard.evaluate expression = .ok value) (fitting : fits value = true)
    (suffix : String) :
    ∃ (machine : Machine) (last : Int), machine.Alike (.result value) ∧
      standard.evaluate ("(" ++ expression ++ ")" ++ suffix) =
        (machine.run .standard last (Delimiters.standard.tokensFrom (expression.length + 2)
          (Delimiters.standard.normalize suffix))).outcome := by
  have complete : (Delimiters.standard.tokenize expression).fault? = none :=
    Machine.complete_of_run evaluated
  have inside : (Machine.start.run .standard 0
      (.ofList (Delimiters.standard.tokenize expression).tokens)).outcome = .ok value := by
    rw [TokenStream.ofList_tokens complete]
    exact evaluated
  obtain ⟨tokens, same, reads⟩ := Delimiters.exists_tokenize_parenthesized complete suffix
  exact exists_run_of_tokenize reads (((Machine.alike_refl _).consumeAll same).trans
    (Machine.effect_parenthesized fitting inside))

/-- Behind a result that is written down again, an evaluation goes on from it. -/
theorem exists_run_resumed {value : Int}
    (short : (Decimal.digits value.natAbs).length ≤ maxLiteralDigits) {suffix : String}
    (goesOn : startsAnew suffix = false) :
    ∃ (machine : Machine) (last : Int), machine.Alike (.result value) ∧
      standard.evaluate (Decimal.resumed value ++ suffix) =
        (machine.run .standard last (Delimiters.standard.tokensFrom (Decimal.resumed value).length
          (Delimiters.standard.normalize suffix))).outcome := by
  obtain ⟨tokens, same, reads⟩ := Delimiters.exists_tokenize_resumed short goesOn
  exact exists_run_of_tokenize reads (((Machine.alike_refl _).consumeAll same).trans
    (Machine.effect_resumed short))

/-- What follows a result evaluates as what follows the expression in parentheses, at another
place. -/
theorem evaluate_resumed_append {expression suffix : String} {value : Int}
    (evaluated : standard.evaluate expression = .ok value)
    (short : (Decimal.digits value.natAbs).length ≤ maxLiteralDigits)
    (goesOn : startsAnew suffix = false) :
    standard.evaluate (Decimal.resumed value ++ suffix) =
      (standard.evaluate ("(" ++ expression ++ ")" ++ suffix)).mapError
        (Fault.moved ((Decimal.resumed value).length - (expression.length + 2))) := by
  have fitting : fits value = true := Decimal.fits_of_length_digits short
  obtain ⟨machine, last, alike, runs⟩ := exists_run_parenthesized evaluated fitting suffix
  obtain ⟨other, otherLast, otherAlike, otherRuns⟩ := exists_run_resumed short goesOn
  have displaced := Delimiters.standard.tokensFrom_add (expression.length + 2)
    ((Decimal.resumed value).length - (expression.length + 2))
    (Delimiters.standard.normalize suffix)
  rw [add_sub_cancel] at displaced
  rw [runs, otherRuns, displaced]
  exact Machine.outcome_run_moved alike otherAlike (OperatorTable.respects_isMoved _) _ _ _

/-- A shown value goes on as the parenthesised expression does, but for its shift. -/
theorem calculate_resumed_append {expression suffix : String} {value : Int}
    (evaluated : standard.evaluate expression = .ok value)
    (short : (Decimal.digits value.natAbs).length ≤ maxLiteralDigits)
    (goesOn : startsAnew suffix = false) :
    standard.calculate (Decimal.resumed value ++ suffix) =
      (standard.calculate ("(" ++ expression ++ ")" ++ suffix)).mapError
        (Fault.moved ((Decimal.resumed value).length - (expression.length + 2))) := by
  rw [calculate, calculate, evaluate_resumed_append evaluated short goesOn]
  cases standard.evaluate ("(" ++ expression ++ ")" ++ suffix) with
  | ok result => rfl
  | error fault => rfl

/-- An expression with a value is not blank. -/
theorem isBlankText_eq_false {expression : String} {value : Int}
    (evaluated : standard.evaluate expression = .ok value) : isBlankText expression = false := by
  apply Bool.eq_false_iff.mpr
  intro blank
  have blanks : ∀ char ∈ expression.toList, isBlank char = true := List.all_eq_true.mp blank
  have unread : Delimiters.standard.tokenize expression = .done := by
    have plain := Delimiters.map_reading_eq_self fun char member =>
      Delimiters.standard.reading_of_isBlank (blanks char member)
    rw [Delimiters.tokenize_eq, Delimiters.normalize, plain,
      Delimiters.tokensFrom_of_blank 0 blanks]
  change (Machine.start.run .standard 0 (Delimiters.standard.tokenize _)).outcome = _ at evaluated
  rw [unread] at evaluated
  cases evaluated

/-- What goes on from a value is not blank. -/
theorem isBlankText_resumed_append {value : Int}
    (short : (Decimal.digits value.natAbs).length ≤ maxLiteralDigits) (suffix : String) :
    isBlankText (Decimal.resumed value ++ suffix) = false := by
  have resumed := isBlankText_eq_false (evaluate_resumed short)
  rw [isBlankText] at resumed ⊢
  rw [String.toList_append, List.all_append, resumed, Bool.false_and]

end Evaluator

/-! ## The buffer -/

namespace ExpressionBuffer

/-- No result looks like an error. -/
theorem isErrorText_text (value : Int) : isErrorText (Decimal.text value) = false := by
  have label : errorLabel.toList = 'E' :: "rror: ".toList := by decide
  rw [isErrorText, label, Decimal.toList_text]
  split
  · cases shape : Decimal.digits value.natAbs with
    | nil => rfl
    | cons first rest =>
        have digit : first.isDigit = true :=
          Decimal.isDigit_of_mem_digits (shape ▸ List.mem_cons_self)
        have apart : 'E' ≠ first := by
          rintro rfl
          cases digit
        rw [List.isPrefixOf_cons_cons, beq_eq_false_iff_ne.mpr apart, Bool.false_and]
  · rfl

/-- What is kept of a result that is gone on from. -/
theorem kept_result (value : Int) {suffix : String} (goesOn : startsAnew suffix = false) :
    kept ⟨Decimal.text value, true⟩ suffix = Decimal.resumed value := by
  have minus := Decimal.head?_text_eq_minus_iff value
  simp only [kept, isErrorText_text, goesOn, Bool.not_true, Bool.or_false, Bool.false_eq_true,
    ↓reduceIte]
  rw [Decimal.resumed]
  by_cases natural : 0 ≤ value
  · have unsigned : ¬ ((Decimal.text value).toList.head? == some '-') = true := by
      rw [beq_iff_eq, minus]
      exact Int.not_lt.mpr natural
    rw [if_neg unsigned, if_pos natural]
  · have signed : ((Decimal.text value).toList.head? == some '-') = true := by
      rw [beq_iff_eq, minus]
      exact Int.not_le.mp natural
    rw [if_pos signed, if_neg natural]

/-- What a buffer shows once its expression has been evaluated. -/
theorem evaluate_typed {expression : String} (nonblank : isBlankText expression = false) :
    evaluate (m := Id) Evaluator.standard.engine ⟨expression, false⟩ =
      match Evaluator.standard.calculate expression with
      | .ok text => (⟨text, true⟩, .ok text)
      | .error fault =>
          let text := errorLabel ++ (Failure.ofFault fault).shown
          (⟨text, true⟩, .ok text) := by
  have unsettled : isSettled ⟨expression, false⟩ = false := nonblank
  rw [evaluate, unsettled, if_neg Bool.false_ne_true]
  change absorb _ ((Evaluator.standard.calculate expression).mapError Failure.ofFault) = _
  cases Evaluator.standard.calculate expression with
  | ok text => rfl
  | error fault => exact if_pos (FailureClass.isShown_calculator fault.kind)

/-- A buffer goes on from the result of an expression as from the expression in parentheses: it
shows the same value, or the same fault moved by the distance between the two. -/
theorem evaluate_insert {expression suffix : String} {value : Int}
    (evaluated : Evaluator.standard.evaluate expression = .ok value)
    (short : (Decimal.digits value.natAbs).length ≤ maxLiteralDigits)
    (goesOn : startsAnew suffix = false) :
    let engine := Evaluator.standard.engine
    let shown := (evaluate (m := Id) engine ⟨expression, false⟩).1
    let continued := shown.insert suffix
    let grouped := "(" ++ expression ++ ")" ++ suffix
    let distance : Int := (shown.kept suffix).length - ("(" ++ expression ++ ")").length
    shown = ⟨Decimal.text value, true⟩ ∧
      Evaluator.standard.calculate continued.text =
        (Evaluator.standard.calculate grouped).mapError (Fault.moved distance) ∧
      evaluate (m := Id) engine continued =
        match Evaluator.standard.calculate grouped with
        | .ok text => (⟨text, true⟩, .ok text)
        | .error fault =>
            let text := errorLabel ++ (Failure.ofFault (fault.moved distance)).shown
            (⟨text, true⟩, .ok text) := by
  intro engine shown continued grouped distance
  have calculated : Evaluator.standard.calculate expression = .ok (Decimal.text value) := by
    rw [Evaluator.calculate, evaluated]
    rfl
  have shows : shown = ⟨Decimal.text value, true⟩ := by
    have first := evaluate_typed (Evaluator.isBlankText_eq_false evaluated)
    rw [calculated] at first
    exact congrArg Prod.fst first
  have keeps : shown.kept suffix = Decimal.resumed value := by
    rw [shows, kept_result value goesOn]
  have typed : continued = ⟨Decimal.resumed value ++ suffix, false⟩ := by
    change shown.insert suffix = _
    rw [insert, keeps]
  have distances : distance = (Decimal.resumed value).length - (expression.length + 2) := by
    have parentheses : ("(".length : Int) = 1 ∧ (")".length : Int) = 1 := ⟨rfl, rfl⟩
    simp only [distance, keeps, String.length_append, Int.natCast_add]
    omega
  -- What is kept of the result is evaluated like the group, but for the distance.
  have displaced := Evaluator.calculate_resumed_append evaluated short goesOn
  rw [← distances] at displaced
  rw [typed]
  refine ⟨shows, displaced, ?_⟩
  rw [evaluate_typed (Evaluator.isBlankText_resumed_append short suffix), displaced]
  cases Evaluator.standard.calculate grouped with
  | ok text => rfl
  | error fault => rfl

/-- Behind the result of `10-30` a closing parenthesis is one place further to the left than
behind `(10-30)`, and it is reported there. -/
theorem evaluate_insert_difference :
    let engine := Evaluator.standard.engine
    let shown := (evaluate (m := Id) engine ⟨"10-30", false⟩).1
    Evaluator.standard.evaluate "10-30" = .ok (-20) ∧
      Evaluator.standard.calculate "(10-30)^2)" =
        .error ⟨.closerWithoutOpener ")" (some "("), some 9⟩ ∧
      (evaluate (m := Id) engine (shown.insert "^2)")).1.text =
        "Error: ')' sin '(' que lo abra (posición 8)" := by
  intro engine shown
  have evaluated : Evaluator.standard.evaluate "10-30" = .ok (-20) := by rfl
  have unmatched : Evaluator.standard.calculate "(10-30)^2)" =
      .error ⟨.closerWithoutOpener ")" (some "("), some 9⟩ := by rfl
  have goesOn : startsAnew "^2)" = false := by decide
  have continues := (evaluate_insert evaluated (by decide) goesOn).2.2
  have grouped : "(" ++ "10-30" ++ ")" ++ "^2)" = "(10-30)^2)" := by decide
  rw [grouped, unmatched] at continues
  refine ⟨evaluated, unmatched, ?_⟩
  rw [continues]
  decide

end ExpressionBuffer

end InfixCalculator
