import InfixCalculator.Token.Reader

/-!
# Scanning a text piece by piece

A text scans from the left: a blank gives nothing, a delimiter gives a symbol, and a run of
digits that no digit follows (`Delimiters.EndsDigits`) gives a number, unless it is too long
(`Delimiters.tokensFrom_blanks`, `Delimiters.tokensFrom_delimiter`,
`Delimiters.tokensFrom_digits`).  What carries them: the lexemes of a text can be cut in front
of any delimiter (`Delimiters.lexemes_append_delimiter`) and behind any run that the next
character does not lengthen (`Delimiters.lexemes_run`).
-/

namespace InfixCalculator

namespace TokenStream

/-- The stream that delivers some tokens first. -/
def prepend (tokens : List Token) (stream : TokenStream) : TokenStream :=
  tokens.foldr token stream

@[simp] theorem prepend_nil (stream : TokenStream) : prepend [] stream = stream := rfl

@[simp] theorem prepend_cons (first : Token) (tokens : List Token) (stream : TokenStream) :
    prepend (first :: tokens) stream = token first (prepend tokens stream) := rfl

@[simp] theorem prepend_append (first second : List Token) (stream : TokenStream) :
    prepend (first ++ second) stream = prepend first (prepend second stream) :=
  List.foldr_append

theorem prepend_done (tokens : List Token) : prepend tokens done = ofList tokens := by
  induction tokens with
  | nil => rfl
  | cons first rest ih => rw [prepend_cons, ofList, ih]

/-- A stream of lexemes that does not break off goes on with the lexemes behind them. -/
theorem ofLexemes_append {position : Int} {lexemes : List Lexeme} (behind : List Lexeme)
    (complete : (ofLexemes position lexemes).fault? = none) :
    ofLexemes position (lexemes ++ behind) =
      prepend (ofLexemes position lexemes).tokens
        (ofLexemes (position + (lexemes.flatMap Lexeme.chars).length) behind) := by
  induction lexemes generalizing position with
  | nil =>
      rw [List.flatMap_nil, List.length_nil, Int.natCast_zero, Int.add_zero]
      rfl
  | cons lexeme rest ih =>
      rw [List.flatMap_cons, List.length_append, Int.natCast_add, ← Int.add_assoc]
      rw [List.cons_append, ofLexemes]
      rw [ofLexemes] at complete ⊢
      cases shape : lexeme.charClass with
      | digit =>
          simp only [shape] at complete ⊢
          split at complete
          · cases complete
          · rename_i short
            rw [if_neg short, if_neg short, ih complete]
            rfl
      | delimiter =>
          simp only [shape] at complete ⊢
          rw [ih complete]
          rfl
      | blank =>
          simp only [shape] at complete ⊢
          exact ih complete
      | foreign =>
          simp only [shape] at complete
          cases complete

end TokenStream

namespace Delimiters

variable {delimiters : Delimiters} {char : Char} {run rest before : List Char}
  {charClass : CharClass}

/-- The tokens of characters that stand at an offset. -/
def tokensFrom (delimiters : Delimiters) (position : Int) (chars : List Char) : TokenStream :=
  .ofLexemes position (delimiters.lexemes chars)

/-- Tokens are read from the first position of the text as it is normalized. -/
theorem tokenize_eq (delimiters : Delimiters) (text : String) :
    delimiters.tokenize text = delimiters.tokensFrom 0 (delimiters.normalize text) := rfl

theorem tokensFrom_nil (delimiters : Delimiters) (position : Int) :
    delimiters.tokensFrom position [] = .done := rfl

/-! ## Lexemes -/

/-- The first lexeme of a text begins with its first character and has its class. -/
theorem exists_lexemes_cons (delimiters : Delimiters) (char : Char) (rest : List Char) :
    ∃ chars others, delimiters.lexemes (char :: rest) =
      ⟨delimiters.classify char, char :: chars⟩ :: others := by
  rw [lexemes]
  cases delimiters.lexemes rest with
  | nil => exact ⟨[], [], rfl⟩
  | cons first others =>
      rw [Lexeme.prepend]
      split
      · exact ⟨first.chars, others, rfl⟩
      · exact ⟨[], first :: others, rfl⟩

/-- A delimiter is a lexeme by itself. -/
theorem lexemes_delimiter (delimits : delimiters.classify char = .delimiter)
    (rest : List Char) :
    delimiters.lexemes (char :: rest) = ⟨.delimiter, [char]⟩ :: delimiters.lexemes rest := by
  rw [lexemes, delimits]
  cases delimiters.lexemes rest with
  | nil => rfl
  | cons first others =>
      rw [Lexeme.prepend, if_neg]
      exact fun joins => joins.2 rfl

/-- A run that the next character does not lengthen is a lexeme. -/
theorem lexemes_run (nonempty : run ≠ []) (joins : charClass ≠ .delimiter)
    (within : ∀ char ∈ run, delimiters.classify char = charClass)
    (ends : ∀ char ∈ rest.head?, delimiters.classify char ≠ charClass) :
    delimiters.lexemes (run ++ rest) = ⟨charClass, run⟩ :: delimiters.lexemes rest := by
  induction run with
  | nil => exact absurd rfl nonempty
  | cons first later ih =>
      obtain ⟨firstClass, laterClass⟩ := List.forall_mem_cons.mp within
      rw [List.cons_append, lexemes, firstClass]
      cases later with
      | nil =>
          rw [List.nil_append]
          cases rest with
          | nil => rfl
          | cons next others =>
              obtain ⟨chars, lexemes, shape⟩ := delimiters.exists_lexemes_cons next others
              have apart := ends next rfl
              rw [shape, Lexeme.prepend, if_neg]
              exact fun same => apart same.1.symm
      | cons second others =>
          rw [ih (List.cons_ne_nil _ _) laterClass, Lexeme.prepend, if_pos ⟨rfl, joins⟩]

/-- Lexemes can be cut in front of a delimiter. -/
theorem lexemes_append_delimiter (delimits : delimiters.classify char = .delimiter)
    (before rest : List Char) :
    delimiters.lexemes (before ++ char :: rest) =
      delimiters.lexemes before ++ delimiters.lexemes (char :: rest) := by
  induction before with
  | nil => rfl
  | cons first later ih =>
      rw [List.cons_append, lexemes, lexemes, ih]
      cases later with
      | nil =>
          rw [lexemes_delimiter delimits]
          simp only [lexemes, List.nil_append, Lexeme.prepend]
          rw [if_neg]
          · rfl
          · rintro ⟨same, joins⟩
            exact joins same
      | cons second others =>
          obtain ⟨chars, lexemes, shape⟩ := delimiters.exists_lexemes_cons second others
          rw [shape, List.cons_append, Lexeme.prepend, Lexeme.prepend]
          split
          · rfl
          · rfl

/-! ## Classes and readings -/

theorem classify_of_isDigit (digit : char.isDigit = true) :
    delimiters.classify char = .digit := by
  rw [classify, if_pos digit]

theorem isDigit_of_classify (digit : delimiters.classify char = .digit) :
    char.isDigit = true := by
  unfold classify at digit
  split at digit
  · assumption
  · split at digit
    · cases digit
    · split at digit
      · cases digit
      · cases digit

theorem standard_classify_opener : standard.classify '(' = .delimiter := by decide

theorem standard_classify_closer : standard.classify ')' = .delimiter := by decide

theorem isDigit_eq_false_of_isBlank (blank : isBlank char = true) : char.isDigit = false := by
  apply Bool.eq_false_iff.mpr
  intro digit
  rw [isBlank_eq_false_of_isDigit digit] at blank
  cases blank

/-- A blank is no delimiter, since no delimiter is a blank. -/
theorem classify_of_isBlank (blank : isBlank char = true) :
    delimiters.classify char = .blank := by
  have noDelimiter : ¬ delimiters.contains char = true := by
    intro member
    have admissible := delimiters.admissible char (List.contains_iff_mem.mp member)
    rw [mayDelimit, blank, Bool.not_true, Bool.and_false] at admissible
    cases admissible
  rw [classify, isDigit_eq_false_of_isBlank blank, if_neg Bool.false_ne_true,
    if_neg noDelimiter, if_pos blank]

/-- A character that is no glyph is read as it is. -/
theorem reading_eq_self (plain : ∀ glyph ∈ glyphs, glyph.shown ≠ char) :
    delimiters.reading char = char := by
  have absent : (glyphs.find? fun glyph => glyph.shown == char && delimiters.admits glyph) =
      none := by
    apply List.find?_eq_none.mpr
    intro glyph member shows
    rw [Bool.and_eq_true, beq_iff_eq] at shows
    exact plain glyph member shows.1
  rw [reading, absent]

/-- What holds alike of the glyphs and of their symbols holds alike of a character and of what is
read in its place. -/
theorem apply_reading {α : Type} (delimiters : Delimiters) (kind : Char → α)
    (same : ∀ glyph ∈ glyphs, kind glyph.symbol = kind glyph.shown) (char : Char) :
    kind (delimiters.reading char) = kind char := by
  cases found : glyphs.find? fun glyph => glyph.shown == char && delimiters.admits glyph with
  | none => rw [reading, found]
  | some glyph =>
      have shows := List.find?_some found
      rw [Bool.and_eq_true, beq_iff_eq] at shows
      rw [reading, found, ← shows.1]
      exact same glyph (List.mem_of_find?_eq_some found)

/-- A glyph is read as a symbol, and no symbol is a digit. -/
theorem isDigit_reading (delimiters : Delimiters) (char : Char) :
    (delimiters.reading char).isDigit = char.isDigit :=
  delimiters.apply_reading Char.isDigit (by decide) char

/-- Reading an alias neither makes a blank nor removes one. -/
theorem isBlank_reading (delimiters : Delimiters) (char : Char) :
    isBlank (delimiters.reading char) = isBlank char :=
  delimiters.apply_reading isBlank (by decide) char

/-- A digit is no alias. -/
theorem reading_of_isDigit (digit : char.isDigit = true) : delimiters.reading char = char := by
  have shown : ∀ glyph ∈ glyphs, glyph.shown.isDigit = false := by decide
  apply reading_eq_self
  rintro glyph member rfl
  rw [shown glyph member] at digit
  cases digit

/-- A blank is no alias. -/
theorem reading_of_isBlank (blank : isBlank char = true) : delimiters.reading char = char := by
  have shown : ∀ glyph ∈ glyphs, isBlank glyph.shown = false := by decide
  apply reading_eq_self
  rintro glyph member rfl
  rw [shown glyph member] at blank
  cases blank

/-! ## Tokens -/

/-- What does not lengthen the digits in front of it. -/
def EndsDigits (following : List Char) : Prop :=
  ∀ char ∈ following.head?, char.isDigit = false

theorem endsDigits_nil : EndsDigits [] := fun _ head => by cases head

theorem endsDigits_cons (apart : char.isDigit = false) (rest : List Char) :
    EndsDigits (char :: rest) := by
  rintro first head
  cases head
  exact apart

/-- A blank gives no token. -/
theorem tokensFrom_blank (position : Int) (blank : isBlank char = true) (rest : List Char) :
    delimiters.tokensFrom position (char :: rest) =
      delimiters.tokensFrom (position + 1) rest := by
  rw [tokensFrom, tokensFrom, lexemes, classify_of_isBlank blank]
  cases delimiters.lexemes rest with
  | nil => rfl
  | cons first others =>
      rw [Lexeme.prepend]
      split
      · rename_i joins
        simp only [TokenStream.ofLexemes, ← joins.1]
        rw [List.length_cons, Int.natCast_succ, Int.add_comm first.chars.length 1,
          Int.add_assoc]
      · rfl

/-- Blanks give no token. -/
theorem tokensFrom_blanks (position : Int) {gap : List Char}
    (blank : ∀ char ∈ gap, isBlank char = true) (rest : List Char) :
    delimiters.tokensFrom position (gap ++ rest) =
      delimiters.tokensFrom (position + gap.length) rest := by
  induction gap generalizing position with
  | nil =>
      rw [List.length_nil, Int.natCast_zero, Int.add_zero]
      rfl
  | cons first later ih =>
      obtain ⟨firstBlank, laterBlank⟩ := List.forall_mem_cons.mp blank
      rw [List.cons_append, tokensFrom_blank position firstBlank, ih _ laterBlank,
        List.length_cons, Int.natCast_succ, Int.add_comm later.length 1, Int.add_assoc]

/-- A text of blanks gives no token at all. -/
theorem tokensFrom_of_blank (position : Int) {gap : List Char}
    (blank : ∀ char ∈ gap, isBlank char = true) :
    delimiters.tokensFrom position gap = .done := by
  rw [← List.append_nil gap, tokensFrom_blanks position blank, tokensFrom_nil]

/-- A delimiter gives a symbol. -/
theorem tokensFrom_delimiter (position : Int)
    (delimits : delimiters.classify char = .delimiter) (rest : List Char) :
    delimiters.tokensFrom position (char :: rest) =
      .token (.symbol (String.singleton char) position)
        (delimiters.tokensFrom (position + 1) rest) := by
  rw [tokensFrom, lexemes_delimiter delimits]
  rfl

/-- A run of digits that no digit follows gives its value, unless it is too long. -/
theorem tokensFrom_digits (position : Int) (nonempty : run ≠ [])
    (digits : ∀ char ∈ run, char.isDigit = true)
    (ends : EndsDigits rest) :
    delimiters.tokensFrom position (run ++ rest) =
      if maxLiteralDigits < run.length then .failed ⟨.literalTooLong, some position⟩
      else .token (.number (Decimal.value run) position)
        (delimiters.tokensFrom (position + run.length) rest) := by
  have within : ∀ char ∈ run, delimiters.classify char = .digit :=
    fun char member => classify_of_isDigit (digits char member)
  rw [tokensFrom, lexemes_run nonempty (by decide) within]
  · rfl
  · intro char head digit
    exact absurd (isDigit_of_classify digit) (Bool.eq_false_iff.mp (ends char head))

/-- A text that does not break off goes on with the delimiter behind it. -/
theorem tokensFrom_append_delimiter {position : Int}
    (complete : (delimiters.tokensFrom position before).fault? = none)
    (delimits : delimiters.classify char = .delimiter) (rest : List Char) :
    delimiters.tokensFrom position (before ++ char :: rest) =
      .prepend (delimiters.tokensFrom position before).tokens
        (delimiters.tokensFrom (position + before.length) (char :: rest)) := by
  rw [tokensFrom, lexemes_append_delimiter delimits, TokenStream.ofLexemes_append _ complete,
    flatMap_chars_lexemes]
  rfl

end Delimiters

end InfixCalculator
