import InfixCalculator.Evaluator
import InfixCalculator.Proofs.Machine.Calls
import InfixCalculator.Proofs.Numerals
import InfixCalculator.Proofs.Token.Coverage

/-!
# Conversions that may give up

Numerals are converted to numbers and numbers to texts by conversions that may give up on too many
digits.  A text is evaluated through them as it is read: a numeral is converted when its turn comes,
and the value when there is one (`Evaluator.calculateThrough`).

Nothing long is ever converted (`Evaluator.Converts`).  A literal is short, so its value is never
refused for its size; operands and values are within the size limit, so they have few digits.
Therefore conversions that work up to 4300 digits never give up, and no failure but a fault of the
calculator escapes (`Evaluator.converts`).
-/

namespace InfixCalculator

/-- The most digits for which conversions are relied upon. -/
def maxConvertedDigits : Nat := 4300

/-- Conversions from numerals to numbers, and from numbers to texts. -/
structure Conversions where
  value : List Char → Except Failure Nat
  text : Int → Except Failure String

namespace Conversions

/-- Conversions work up to a number of digits. -/
structure WorkTo (conversions : Conversions) (limit : Nat) : Prop where
  value : ∀ numeral, numeral ≠ [] → (∀ char ∈ numeral, char.isDigit = true) →
    numeral.length ≤ limit → conversions.value numeral = .ok (Decimal.value numeral)
  text : ∀ number, (Decimal.digits number.natAbs).length ≤ limit →
    conversions.text number = .ok (toString number)

/-- The failure of a conversion that gives up. -/
def tooManyDigits (limit : Nat) : Failure :=
  ⟨.value, "Exceeds the limit (" ++ toString limit ++ " digits) for integer string conversion"⟩

/-- Conversions that give up beyond a number of digits. -/
def limited (limit : Nat) : Conversions where
  value numeral :=
    if numeral.length ≤ limit then .ok (Decimal.value numeral) else .error (tooManyDigits limit)
  text number :=
    if (Decimal.digits number.natAbs).length ≤ limit then .ok (Decimal.text number)
    else .error (tooManyDigits limit)

/-- Conversions that are limited to a number of digits work up to it. -/
theorem workTo_limited (limit : Nat) : (limited limit).WorkTo limit where
  value _ _ _ short := if_pos short
  text number short := by
    rw [← Decimal.text_eq_toString]
    exact if_pos short

end Conversions

/-- The token that a lexeme at an offset gives, if it gives any. -/
def Lexeme.read (conversions : Conversions) (offset : Int) (lexeme : Lexeme) :
    Except Failure (Option Token) :=
  match lexeme.charClass with
  | .digit =>
      if maxLiteralDigits < lexeme.chars.length then
        .error (.ofFault ⟨.literalTooLong, some offset⟩)
      else do
        let value ← conversions.value lexeme.chars
        return some (.number value offset)
  | .delimiter => .ok (some (.symbol (String.ofList lexeme.chars) offset))
  | .blank => .ok none
  | .foreign => .error (.ofFault ⟨.invalidRun (String.ofList lexeme.chars), some offset⟩)

/-- Takes in lexemes that stand at an offset, each as it is read, and ends the input. -/
def Machine.runThrough (conversions : Conversions) (table : OperatorTable) (machine : Machine)
    (latest offset : Int) : List Lexeme → Except Failure Int
  | [] => (machine.finish (some latest)).outcome.mapError .ofFault
  | lexeme :: rest => do
      let behind := offset + lexeme.chars.length
      match ← lexeme.read conversions offset with
      | none => machine.runThrough conversions table latest behind rest
      | some token =>
          let step := machine.consume table token
          let _ ← step.outcome.mapError .ofFault
          step.machine.runThrough conversions table token.position behind rest

/-- The value of an expression as a decimal text, by conversions that may give up. -/
def Evaluator.calculateThrough (conversions : Conversions) (evaluator : Evaluator)
    (expression : String) : Except Failure String := do
  let lexemes := evaluator.delimiters.lexemes (evaluator.delimiters.normalize expression)
  let value ← Machine.start.runThrough conversions evaluator.table 0 0 lexemes
  conversions.text value

variable {conversions : Conversions}

/-! ## Reading lexemes -/

/-- A lexeme has characters, and they have its class. -/
structure Lexeme.Uniform (delimiters : Delimiters) (lexeme : Lexeme) : Prop where
  nonempty : lexeme.chars ≠ []
  within : ∀ char ∈ lexeme.chars, delimiters.classify char = lexeme.charClass

/-- Every lexeme of a text has characters, and all of them are of its class. -/
theorem Delimiters.uniform_of_mem_lexemes (delimiters : Delimiters) (chars : List Char) :
    ∀ lexeme ∈ delimiters.lexemes chars, lexeme.Uniform delimiters := by
  induction chars with
  | nil => exact fun _ member => absurd member List.not_mem_nil
  | cons char rest ih =>
      have single : Lexeme.Uniform delimiters ⟨delimiters.classify char, [char]⟩ :=
        ⟨List.cons_ne_nil _ _, fun other inside => by rw [List.mem_singleton.mp inside]⟩
      rw [lexemes]
      cases shape : delimiters.lexemes rest with
      | nil => exact List.forall_mem_singleton.mpr single
      | cons first others =>
          rw [shape] at ih
          rw [Lexeme.prepend]
          split
          · rename_i joins
            obtain ⟨firstUniform, othersUniform⟩ := List.forall_mem_cons.mp ih
            refine List.forall_mem_cons.mpr ⟨⟨List.cons_ne_nil _ _, ?_⟩, othersUniform⟩
            exact List.forall_mem_cons.mpr ⟨rfl, fun other inside =>
              (firstUniform.within other inside).trans joins.1.symm⟩
          · exact List.forall_mem_cons.mpr ⟨single, ih⟩

/-- A fault of the first of two steps is a fault of both. -/
theorem Step.mapError_outcome_andThen {α β : Type} (step : Step α)
    (next : Machine → α → Step β) :
    (step.andThen next).outcome.mapError Failure.ofFault =
      step.outcome.mapError Failure.ofFault >>= fun value =>
        (next step.machine value).outcome.mapError Failure.ofFault := by
  rcases step with ⟨machine, fault | value⟩
  · rfl
  · rfl

/-- Conversions that work do not show. -/
theorem Machine.runThrough_eq (works : conversions.WorkTo maxConvertedDigits)
    (delimiters : Delimiters) (table : OperatorTable) (machine : Machine) (latest offset : Int)
    {lexemes : List Lexeme} (uniform : ∀ lexeme ∈ lexemes, lexeme.Uniform delimiters) :
    machine.runThrough conversions table latest offset lexemes =
      (machine.run table latest (.ofLexemes offset lexemes)).outcome.mapError .ofFault := by
  induction lexemes generalizing machine latest offset with
  | nil => rfl
  | cons lexeme rest ih =>
      obtain ⟨firstUniform, restUniform⟩ := List.forall_mem_cons.mp uniform
      rw [runThrough, TokenStream.ofLexemes, Lexeme.read]
      cases shape : lexeme.charClass with
      | digit =>
          simp only
          by_cases long : maxLiteralDigits < lexeme.chars.length
          · rw [if_pos long, if_pos long]
            rfl
          · have digits : ∀ char ∈ lexeme.chars, char.isDigit = true := fun char inside =>
              Delimiters.isDigit_of_classify ((firstUniform.within char inside).trans shape)
            have room : maxLiteralDigits ≤ maxConvertedDigits := by decide
            have converted := works.value lexeme.chars firstUniform.nonempty digits
              (Nat.le_trans (Nat.le_of_not_lt long) room)
            rw [if_neg long, if_neg long, converted, run, Step.mapError_outcome_andThen]
            exact bind_congr fun _ => ih _ _ _ restUniform
      | delimiter =>
          simp only
          rw [run, Step.mapError_outcome_andThen]
          exact bind_congr fun _ => ih _ _ _ restUniform
      | blank => exact ih machine latest _ restUniform
      | foreign => rfl

/-! ## Evaluating texts -/

/-- A number in a text has few digits and is within the size limit. -/
theorem Delimiters.Spells.number_short {delimiters : Delimiters} {text numeral : List Char}
    {value position : Int} (spells : delimiters.Spells text numeral (.number value position)) :
    numeral.length ≤ maxLiteralDigits ∧ fits value = true := by
  cases spells with
  | number written isRun short => exact ⟨short, Decimal.fits_value isRun.uniform short⟩

namespace Evaluator

/-- The run of a text leaves a lawful machine behind.  No number of the text is refused for its
size, because every literal is short. -/
theorem lawful_run (evaluator : Evaluator) (expression : String) :
    (evaluator.run expression).Lawful evaluator.table fun fault =>
      fault.cause ≠ .operandTooLarge := by
  have accounts := evaluator.delimiters.accountsFrom_tokenize expression
  refine (Machine.lawful_start evaluator.table).run 0 ?_ ?_ ?_
  · exact fun place => ⟨fun cause other => other, fun symbol => Cause.noConfusion,
      Cause.noConfusion⟩
  · rintro (⟨value, position⟩ | ⟨symbol, position⟩) member
    · obtain ⟨numeral, spells⟩ := accounts.spelled _ member
      exact Or.inl spells.number_short.2
    · trivial
  · intro fault fails
    obtain ⟨place, _, _, refuses⟩ := accounts.refused fault fails
    generalize fault.cause = cause at refuses ⊢
    cases refuses with
    | foreign written isRun => exact Cause.noConfusion
    | tooLong written isRun long => exact Cause.noConfusion

/-- Conversions that work do not show in the result either, because every value is short. -/
theorem calculateThrough_eq (works : conversions.WorkTo maxConvertedDigits)
    (evaluator : Evaluator) (expression : String) :
    evaluator.calculateThrough conversions expression =
      (evaluator.calculate expression).mapError .ofFault := by
  have uniform := evaluator.delimiters.uniform_of_mem_lexemes
    (evaluator.delimiters.normalize expression)
  have lawful := (evaluator.lawful_run expression).machine
  rw [calculateThrough, Machine.runThrough_eq works evaluator.delimiters _ _ _ _ uniform,
    calculate]
  change (evaluator.run expression).outcome.mapError Failure.ofFault >>= conversions.text =
    ((evaluator.run expression).outcome.map Decimal.text).mapError Failure.ofFault
  cases returned : (evaluator.run expression).outcome with
  | error fault => rfl
  | ok value =>
      have room : maxResultDigits ≤ maxConvertedDigits := by decide
      have short := Decimal.length_digits_of_fits (lawful.fits_of_run returned)
      have converted := works.text value (Nat.le_trans short room)
      rw [← Decimal.text_eq_toString] at converted
      exact converted

/-- The conversions that the evaluation of a text takes, and what it comes to through them. -/
structure Converts (evaluator : Evaluator) (expression : String) (conversions : Conversions) :
    Prop where
  /-- A number stands for a longest run of digits, and neither the run nor the number is long. -/
  literals : ∀ value position,
    .number value position ∈ (evaluator.delimiters.tokenize expression).tokens →
      ∃ numeral, evaluator.delimiters.Spells (evaluator.delimiters.normalize expression) numeral
          (.number value position) ∧
        numeral.length ≤ maxLiteralDigits ∧ bitLength value ≤ maxResultBits
  /-- Only a rule can say that a number is too large to be an operand. -/
  operands : ∀ fault, (evaluator.run expression).outcome = .error fault →
    fault.cause = .operandTooLarge → (evaluator.run expression).machine.Raised fault
  /-- No line of the trace shows a long number. -/
  reductions : ∀ attempt ∈ (evaluator.run expression).machine.attempts,
    ∀ value ∈ attempt.value?, ∀ number ∈ [attempt.left, attempt.right, value],
      (Decimal.digits number.natAbs).length ≤ maxResultDigits
  values : ∀ value, (evaluator.run expression).outcome = .ok value →
    (Decimal.digits value.natAbs).length ≤ maxResultDigits
  /-- The conversions do not show. -/
  through : evaluator.calculateThrough conversions expression =
    (evaluator.calculate expression).mapError .ofFault
  /-- Nothing fails but the calculator itself. -/
  returns : (∃ value, (evaluator.run expression).outcome = .ok value ∧
      value.natAbs < 2 ^ maxResultBits ∧
      evaluator.calculateThrough conversions expression = .ok (toString value)) ∨
    ∃ fault, (evaluator.run expression).outcome = .error fault ∧
      (Failure.ofFault fault).failureClass.isA (.calculator .general) = true ∧
      evaluator.calculateThrough conversions expression = .error (.ofFault fault)

/-- **Conversions never give up.** If conversions work up to 4300 digits, then every text comes to
the decimal text of its value, or fails with a fault of the calculator. -/
theorem converts (evaluator : Evaluator) (expression : String) (conversions : Conversions)
    (works : conversions.WorkTo maxConvertedDigits) :
    evaluator.Converts expression conversions := by
  have run := evaluator.lawful_run expression
  have through := calculateThrough_eq works evaluator expression
  constructor
  · intro value position member
    obtain ⟨numeral, spells⟩ :=
      (evaluator.delimiters.accountsFrom_tokenize expression).spelled _ member
    obtain ⟨short, small⟩ := spells.number_short
    exact ⟨numeral, spells, short, of_decide_eq_true small⟩
  · intro fault fails tooLarge
    exact (run.fault fault fails).resolve_left fun other => other tooLarge
  · intro attempt member value returned number shown
    have isCall := run.machine.calls attempt member
    apply Decimal.length_digits_of_fits
    rcases List.mem_cons.mp shown with rfl | shown
    · exact isCall.left
    · rcases List.mem_pair.mp shown with rfl | rfl
      · exact isCall.right
      · exact Attempt.fits_of_value? returned
  · intro value returned
    exact Decimal.length_digits_of_fits (run.machine.fits_of_run returned)
  · exact through
  · rw [through, calculate, evaluate]
    cases returned : (evaluator.run expression).outcome with
    | error fault => exact Or.inr ⟨fault, rfl, (FailureClass.isA_general fault.kind).1, rfl⟩
    | ok value =>
        have short := (fits_eq_true_iff value).mp (run.machine.fits_of_run returned)
        refine Or.inl ⟨value, rfl, short, ?_⟩
        rw [← Decimal.text_eq_toString]
        rfl

/-- Through conversions that give up beyond 4300 digits, a difference comes to its text. -/
theorem converts_difference :
    (Conversions.limited maxConvertedDigits).WorkTo maxConvertedDigits ∧
      Evaluator.standard.Converts "7-2^5" (.limited maxConvertedDigits) ∧
      Evaluator.standard.calculateThrough (.limited maxConvertedDigits) "7-2^5" = .ok "-25" := by
  have works := Conversions.workTo_limited maxConvertedDigits
  exact ⟨works, standard.converts "7-2^5" _ works, by decide⟩

end Evaluator

end InfixCalculator
