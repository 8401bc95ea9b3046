import InfixCalculator.Proofs.Faults
import InfixCalculator.Proofs.Readback

/-!
# Glyphs and the symbols they stand for

An expression reads the same with symbols in place of its glyphs
(`Delimiters.normalize_spelledOut`), so it is answered the same (`Evaluator.answer_spelledOut`).
The answer holds no glyph either (`Evaluator.isSpelledOut_answer`): messages quote what was read and
name symbols of the table, and beside them they hold numbers and words of their own
(`IsSpelledOut.message`).
-/

namespace InfixCalculator

/-! ## Spelling -/

/-- The symbol in place of a glyph of the keypad, and any other character itself. -/
def spelled (char : Char) : Char :=
  if char = '×' then '*'
  else if char = '÷' then '/'
  else if char = '−' then '-'
  else char

/-- A text with symbols in place of glyphs. -/
def spelledOut (text : String) : String :=
  String.ofList (text.toList.map spelled)

/-- A text that holds no glyph. -/
def IsSpelledOut (text : String) : Prop :=
  ∀ char ∈ text.toList, spelled char = char

theorem toList_spelledOut (text : String) : (spelledOut text).toList = text.toList.map spelled := by
  rw [spelledOut, String.toList_ofList]

theorem spelledOut_append (first second : String) :
    spelledOut (first ++ second) = spelledOut first ++ spelledOut second := by
  rw [spelledOut, String.toList_append, List.map_append, String.ofList_append]
  rfl

/-- A character is spelled out as itself unless it is a glyph. -/
theorem spelled_cases (char : Char) :
    spelled char = char ∨ ∃ glyph ∈ glyphs, glyph.shown = char ∧ glyph.symbol = spelled char := by
  unfold spelled
  split
  · rename_i same
    exact Or.inr ⟨⟨'×', '*'⟩, by decide, same.symm, rfl⟩
  · split
    · rename_i same
      exact Or.inr ⟨⟨'÷', '/'⟩, by decide, same.symm, rfl⟩
    · split
      · rename_i same
        exact Or.inr ⟨⟨'−', '-'⟩, by decide, same.symm, rfl⟩
      · exact Or.inl rfl

/-- A standard delimiter stands for each glyph. -/
theorem Delimiters.reading_standard (char : Char) : standard.reading char = spelled char := by
  rcases spelled_cases char with plain | ⟨glyph, member, shown, symbol⟩
  · have replaced : ∀ glyph ∈ glyphs, spelled glyph.shown ≠ glyph.shown := by decide
    rw [plain]
    refine reading_eq_self fun glyph member shows => ?_
    exact replaced glyph member (shows ▸ plain)
  · have reads : ∀ glyph ∈ glyphs, standard.reading glyph.shown = glyph.symbol := by decide
    rw [← symbol, ← shown]
    exact reads glyph member

/-- What does not tell a glyph from its symbol does not tell a text from its spelling. -/
theorem apply_spelled {α : Type} (kind : Char → α)
    (same : ∀ glyph ∈ glyphs, kind glyph.symbol = kind glyph.shown) (char : Char) :
    kind (spelled char) = kind char := by
  rw [← Delimiters.reading_standard]
  exact Delimiters.standard.apply_reading kind same char

/-- Nothing that is spelled out is a glyph. -/
theorem spelled_spelled (char : Char) : spelled (spelled char) = spelled char :=
  apply_spelled _ (by decide) char

namespace IsSpelledOut

variable {text first second : String}

/-- A text without glyphs is spelled out as itself. -/
theorem spelledOut_eq (plain : IsSpelledOut text) : spelledOut text = text := by
  rw [spelledOut, List.map_congr_left plain, List.map_id', String.ofList_toList]

theorem append (left : IsSpelledOut first) (right : IsSpelledOut second) :
    IsSpelledOut (first ++ second) := by
  intro char member
  rw [String.toList_append] at member
  exact (List.mem_append.mp member).elim (left char) (right char)

theorem ofList {chars : List Char} (plain : ∀ char ∈ chars, spelled char = char) :
    IsSpelledOut (String.ofList chars) := by
  intro char member
  rw [String.toList_ofList] at member
  exact plain char member

/-- A text that is given by its characters, so that they can be gone through. -/
theorem literal {chars : List Char} (plain : chars.all (fun char => spelled char == char) = true) :
    IsSpelledOut (String.ofList chars) :=
  ofList fun char member => eq_of_beq (List.all_eq_true.mp plain char member)

end IsSpelledOut

/-! ## Reading -/

/-- The calculator reads a text as it reads the text spelled out. -/
theorem Delimiters.normalize_spelledOut (text : String) :
    standard.normalize (spelledOut text) = standard.normalize text := by
  rw [normalize, normalize, toList_spelledOut, List.map_map]
  exact List.map_congr_left fun char _ => apply_spelled _ (by decide) char

/-- What is read holds no glyph. -/
theorem Delimiters.spelled_of_mem_normalize {text : String} {char : Char}
    (member : char ∈ standard.normalize text) : spelled char = char := by
  obtain ⟨written, _, rfl⟩ := List.mem_map.mp member
  rw [reading_standard, spelled_spelled]

/-- The calculator gives for a text what it gives for the text spelled out. -/
theorem Evaluator.calculate_spelledOut (expression : String) :
    standard.calculate (spelledOut expression) = standard.calculate expression := by
  have same : standard.run (spelledOut expression) = standard.run expression := by
    unfold run
    rw [Delimiters.tokenize, Delimiters.tokenize, show standard.delimiters = .standard from rfl,
      Delimiters.normalize_spelledOut]
  rw [calculate, calculate, evaluate, evaluate, same]

/-! ## Texts without glyphs -/

/-- The digits of a number in any base are of the characters that stand for a digit. -/
theorem exists_digit_of_mem_toDigits {base number : Nat} (several : 1 < base) {char : Char}
    (member : char ∈ Nat.toDigits base number) : ∃ digit < base, char = Nat.digitChar digit := by
  induction number using Nat.strongRecOn with
  | ind number ih =>
      rw [Nat.toDigits_eq_if several] at member
      split at member
      · rename_i single
        exact ⟨number, single, List.mem_singleton.mp member⟩
      · rename_i long
        rcases List.mem_append.mp member with front | last
        · exact ih _ (Nat.div_lt_self (by omega) several) front
        · exact ⟨number % base, Nat.mod_lt _ (by omega), List.mem_singleton.mp last⟩

/-- No digit is a glyph. -/
theorem spelled_of_mem_toDigits {base number : Nat} (several : 1 < base) (short : base ≤ 16)
    {char : Char} (member : char ∈ Nat.toDigits base number) : spelled char = char := by
  have digits : ∀ digit < 16, spelled (Nat.digitChar digit) = Nat.digitChar digit := by decide
  obtain ⟨digit, below, rfl⟩ := exists_digit_of_mem_toDigits several member
  exact digits digit (by omega)

namespace IsSpelledOut

theorem decimal (number : Int) : IsSpelledOut (Decimal.text number) := by
  intro char member
  have digits : char ∈ Decimal.digits number.natAbs → spelled char = char := by
    rw [Decimal.digits_eq_toDigits]
    exact spelled_of_mem_toDigits (by decide) (by decide)
  rw [Decimal.toList_text] at member
  split at member
  · exact digits member
  · rcases List.mem_cons.mp member with rfl | digit
    · decide
    · exact digits digit

theorem escapeCode (code : Nat) : ∀ char ∈ Quoted.escapeCode code, spelled char = char := by
  have digits (width : Nat) : ∀ char ∈ Quoted.hexadecimal width code, spelled char = char := by
    intro char member
    rcases List.mem_append.mp member with zero | digit
    · rw [(List.mem_replicate.mp zero).2]
      decide
    · exact spelled_of_mem_toDigits (by decide) (by decide) digit
  have labelled (label : Char) (width : Nat) (plain : spelled label = label) :
      ∀ char ∈ '\\' :: label :: Quoted.hexadecimal width code, spelled char = char :=
    List.forall_mem_cons.mpr ⟨by decide, List.forall_mem_cons.mpr ⟨plain, digits width⟩⟩
  unfold Quoted.escapeCode
  split
  · exact labelled 'x' 2 (by decide)
  · split
    · exact labelled 'u' 4 (by decide)
    · exact labelled 'U' 8 (by decide)

/-- A character that is no glyph is written without one. -/
theorem escape {delimiter char : Char} (plain : spelled char = char) :
    ∀ written ∈ Quoted.escape delimiter char, spelled written = written := by
  have escaped (letter : Char) (letterPlain : spelled letter = letter) :
      ∀ written ∈ ['\\', letter], spelled written = written :=
    List.forall_mem_cons.mpr ⟨by decide, List.forall_mem_singleton.mpr letterPlain⟩
  unfold Quoted.escape
  split
  · exact escaped char plain
  · split
    · exact escaped 'n' (by decide)
    · split
      · exact escaped 'r' (by decide)
      · split
        · exact escaped 't' (by decide)
        · split
          · exact List.forall_mem_singleton.mpr plain
          · exact escapeCode char.toNat

/-- Quoting brings no glyph in. -/
theorem quote {text : String} (plain : IsSpelledOut text) : IsSpelledOut (quote text) := by
  have mark : spelled (Quoted.delimiter text.toList) = Quoted.delimiter text.toList := by
    unfold Quoted.delimiter
    split <;> decide
  apply ofList
  rw [List.cons_append]
  refine List.forall_mem_cons.mpr ⟨mark, List.forall_mem_append.mpr ⟨?_, ?_⟩⟩
  · intro written member
    obtain ⟨char, quoted, escaped⟩ := List.mem_flatMap.mp member
    exact escape (plain char quoted) written escaped
  · exact List.forall_mem_singleton.mpr mark

end IsSpelledOut

/-! ## Messages -/

/-- The texts that a message is put together from, beside words of its own. -/
def Cause.texts : Cause → List String
  | invalidRun run => [quote run]
  | unknownSymbol symbol => [quote symbol]
  | closerWithoutOpener closer opener => [closer, opener.getD "None"]
  | groupLeftOpen symbol | operatorDueBefore symbol | operandDueBefore symbol
  | operandsMissing symbol | resultTooLarge symbol => [symbol]
  | stated _ message => [message]
  | literalTooLong | operatorDueBeforeNumber | operandDueAtEnd | emptyExpression
  | malformedExpression | nothingToReduce | zeroDivisor | zeroToNegativePower | powerTooLarge
  | operandTooLarge => []

namespace IsSpelledOut

theorem singleQuoted {symbol : String} (plain : IsSpelledOut symbol) :
    IsSpelledOut (Cause.singleQuoted symbol) :=
  ((literal rfl).append plain).append (literal rfl)

/-- A message adds no glyph. -/
theorem message {cause : Cause} (plain : ∀ text ∈ cause.texts, IsSpelledOut text) :
    IsSpelledOut cause.message := by
  cases cause with
  | stated kind message => exact plain _ List.mem_cons_self
  | operatorDueBeforeNumber | operandDueAtEnd | emptyExpression | malformedExpression
  | nothingToReduce | zeroDivisor | zeroToNegativePower | powerTooLarge | operandTooLarge =>
      exact literal rfl
  | invalidRun | unknownSymbol => exact (literal rfl).append (plain _ List.mem_cons_self)
  | operatorDueBefore | operandDueBefore | operandsMissing | resultTooLarge =>
      exact (literal rfl).append (singleQuoted (plain _ List.mem_cons_self))
  | literalTooLong => exact ((literal rfl).append (decimal _)).append (literal rfl)
  | groupLeftOpen opener =>
      exact (singleQuoted (plain _ List.mem_cons_self)).append (literal rfl)
  | closerWithoutOpener closer opener =>
      obtain ⟨first, second⟩ := List.forall_mem_cons.mp plain
      exact (((singleQuoted first).append (literal rfl)).append
        (singleQuoted (second _ List.mem_cons_self))).append (literal rfl)

/-- A fault holds a glyph only if a text that it cites does. -/
theorem fault {fault : Fault} (plain : ∀ text ∈ fault.cause.texts, IsSpelledOut text) :
    IsSpelledOut fault.text := by
  unfold Fault.text
  cases fault.position with
  | none => exact message plain
  | some position =>
      exact (((message plain).append (literal rfl)).append (decimal position)).append (literal rfl)

end IsSpelledOut

/-- The standard table has no glyph to name. -/
theorem OperatorTable.isSpelledOut_of_mem_texts {cause : Cause}
    (member : cause ∈ standard.allCauses) : ∀ text ∈ cause.texts, IsSpelledOut text := by
  have symbols : ∀ operator ∈ standard.operators,
      ∀ text ∈ [operator.symbol, operator.pairedOpener.getD "None"], IsSpelledOut text := by
    have plain : ∀ operator ∈ standard.operators,
        ∀ text ∈ [operator.symbol, operator.pairedOpener.getD "None"],
          (text.toList.all fun char => spelled char == char) = true := by decide
    intro operator listed text named char written
    exact eq_of_beq (List.all_eq_true.mp (plain operator listed text named) char written)
  have named (operator : Operator) : ∀ cause ∈ operator.causes, ∀ text ∈ cause.texts,
      text ∈ [operator.symbol, operator.pairedOpener.getD "None"] := by
    simp [Operator.causes, Cause.texts]
  have ofMachine : ∀ cause ∈ Machine.causes, cause.texts = [] := by decide
  have unplaced : ∀ cause ∈ Cause.emptyExpression :: Operation.causes, cause.texts = [] := by
    decide
  intro text mentioned
  rcases List.mem_append.mp member with found | other
  · rcases List.mem_append.mp found with general | blames
    · rw [ofMachine cause general] at mentioned
      cases mentioned
    · obtain ⟨operator, listed, blamed⟩ := List.mem_flatMap.mp blames
      exact symbols operator listed text (named operator cause blamed text mentioned)
  · rw [unplaced cause other] at mentioned
    cases mentioned

namespace Evaluator

/-- What the calculator says of a fault holds no glyph, for glyphs are read before anything is
cited. -/
theorem isSpelledOut_of_calculate {expression : String} {fault : Fault}
    (fails : standard.calculate expression = .error fault) : IsSpelledOut fault.text := by
  apply IsSpelledOut.fault
  rcases cause_of_calculate fails with member | ⟨place, refuses⟩
  · exact OperatorTable.isSpelledOut_of_mem_texts member
  · generalize fault.cause = cause at refuses
    cases refuses with
    | @foreign before run after written isRun =>
        refine List.forall_mem_singleton.mpr (.quote (.ofList fun char member => ?_))
        apply Delimiters.spelled_of_mem_normalize
        rw [written]
        exact List.mem_append_right _ (List.mem_append_left _ member)
    | tooLong written isRun long => exact fun _ member => absurd member List.not_mem_nil

/-- An engine cannot tell a text from the text spelled out. -/
theorem answer_spelledOut (expression : String) :
    standard.answer (spelledOut expression) = standard.answer expression := by
  rw [answer, answer, calculate_spelledOut]

/-- No answer holds a glyph, whatever it has to quote. -/
theorem isSpelledOut_answer (expression : String) : IsSpelledOut (standard.answer expression) := by
  unfold answer
  cases calculated : standard.calculate expression with
  | ok shown =>
      obtain ⟨value, _, rfl⟩ := exists_value_of_calculate calculated
      exact .decimal value
  | error fault => exact IsSpelledOut.append (.literal rfl) (isSpelledOut_of_calculate calculated)

end Evaluator

end InfixCalculator
