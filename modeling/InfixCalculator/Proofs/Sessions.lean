import InfixCalculator.Proofs.Glyphs

/-!
# Sessions with and without glyphs

A session is a list of commands for a buffer.  Each command does to a buffer that is spelled out
what it does to the buffer (`ExpressionBuffer.perform_spelledOut`), because a result that is shown
holds no glyph (`ExpressionBuffer.ShowsSpelledOut`) and nothing else depends on one.  So it makes no
difference to a session whether glyphs or their symbols are typed
(`ExpressionBuffer.performAll_spelledOut`).
-/

namespace InfixCalculator

/-- Glyphs start an expression no more than their symbols do. -/
theorem startsAnew_spelledOut (typed : String) :
    startsAnew (spelledOut typed) = startsAnew typed := by
  unfold startsAnew
  rw [toList_spelledOut, List.head?_map, Option.any_map]
  congr 1
  funext char
  exact apply_spelled (fun char => isAnyDigit char || char == '(') (by decide) char

/-- Glyphs and what they stand for are no blanks. -/
theorem isBlankText_spelledOut (text : String) :
    isBlankText (spelledOut text) = isBlankText text := by
  unfold isBlankText
  rw [toList_spelledOut, List.all_map]
  congr 1
  funext char
  exact apply_spelled isBlank (by decide) char

namespace ExpressionBuffer

/-- A command, with symbols in place of the glyphs that it inserts. -/
def Command.spelledOut : Command → Command
  | insert typed => insert (InfixCalculator.spelledOut typed)
  | backspace => backspace
  | clear => clear
  | evaluate => evaluate

/-- A buffer, with symbols in place of the glyphs that it holds. -/
def spelledOut (buffer : ExpressionBuffer) : ExpressionBuffer :=
  ⟨InfixCalculator.spelledOut buffer.text, buffer.showsResult⟩

/-- If a buffer shows a result, the result holds no glyph. -/
def ShowsSpelledOut (buffer : ExpressionBuffer) : Prop :=
  buffer.showsResult = true → IsSpelledOut buffer.text

/-- Performs commands in order, each on the buffer that the one before it left. -/
def performAll {m : Type → Type} [Monad m] (engine : Engine m) (buffer : ExpressionBuffer)
    (commands : List Command) : m ExpressionBuffer :=
  commands.foldlM (fun held command => Prod.fst <$> held.perform engine command) buffer

/-- Without effects, commands are performed one after the other. -/
theorem performAll_cons (engine : Engine Id) (buffer : ExpressionBuffer) (command : Command)
    (rest : List Command) :
    buffer.performAll (m := Id) engine (command :: rest) =
      (buffer.perform (m := Id) engine command).1.performAll (m := Id) engine rest :=
  rfl

variable {buffer : ExpressionBuffer}

/-! ## Commands -/

/-- No command makes a buffer show a result with a glyph. -/
theorem showsSpelledOut_perform (shows : buffer.ShowsSpelledOut) (command : Command) :
    (buffer.perform (m := Id) Evaluator.standard.engine command).1.ShowsSpelledOut := by
  cases command with
  | insert typed => exact nofun
  | backspace =>
      rw [perform, backspace]
      split <;> exact nofun
  | clear => exact nofun
  | evaluate =>
      rw [perform, evaluate_standard]
      split
      · exact shows
      · exact fun _ => Evaluator.isSpelledOut_answer buffer.text

theorem spelledOut_eq (plain : IsSpelledOut buffer.text) : buffer.spelledOut = buffer := by
  rw [spelledOut, plain.spelledOut_eq]

/-- What is kept of a result has no glyphs. -/
theorem isSpelledOut_kept (shown : buffer.showsResult = true) (plain : IsSpelledOut buffer.text)
    (typed : String) : IsSpelledOut (buffer.kept typed) := by
  rw [kept, shown, Bool.not_true, if_neg Bool.false_ne_true]
  split
  · exact .literal rfl
  · split
    · exact (IsSpelledOut.append (.literal rfl) plain).append (.literal rfl)
    · exact plain

/-- What stays of a text is spelled out like the text. -/
theorem kept_spelledOut (shows : buffer.ShowsSpelledOut) (typed : String) :
    buffer.spelledOut.kept (InfixCalculator.spelledOut typed) =
      InfixCalculator.spelledOut (buffer.kept typed) := by
  cases shown : buffer.showsResult with
  | false =>
      rw [kept, kept, show buffer.spelledOut.showsResult = false from shown, shown]
      rfl
  | true =>
      have plain := shows shown
      rw [(isSpelledOut_kept shown plain typed).spelledOut_eq, spelledOut_eq plain, kept, kept,
        startsAnew_spelledOut]

/-- Typing can be spelled out before or after. -/
theorem insert_spelledOut (shows : buffer.ShowsSpelledOut) (typed : String) :
    buffer.spelledOut.insert (InfixCalculator.spelledOut typed) =
      (buffer.insert typed).spelledOut := by
  rw [insert, kept_spelledOut shows, ← spelledOut_append]
  rfl

/-- Taking back can be spelled out before or after, for a glyph is one character. -/
theorem backspace_spelledOut (buffer : ExpressionBuffer) :
    buffer.spelledOut.backspace = buffer.backspace.spelledOut := by
  cases shown : buffer.showsResult with
  | true =>
      rw [backspace, backspace, show buffer.spelledOut.showsResult = true from shown, shown]
      rfl
  | false =>
      rw [backspace, backspace, show buffer.spelledOut.showsResult = false from shown, shown]
      simp only [spelledOut, InfixCalculator.spelledOut, String.toList_ofList, List.map_dropLast,
        Bool.false_eq_true, ↓reduceIte]

/-- Whether there is something to evaluate does not depend on glyphs. -/
theorem isSettled_spelledOut (buffer : ExpressionBuffer) :
    buffer.spelledOut.isSettled = buffer.isSettled := by
  unfold isSettled
  change (buffer.showsResult || isBlankText (InfixCalculator.spelledOut buffer.text)) = _
  rw [isBlankText_spelledOut]

/-- A command does to a buffer that is spelled out what it does to the buffer. -/
theorem perform_spelledOut (shows : buffer.ShowsSpelledOut) (command : Command) :
    (buffer.spelledOut.perform (m := Id) Evaluator.standard.engine command.spelledOut).1 =
      (buffer.perform (m := Id) Evaluator.standard.engine command).1.spelledOut := by
  cases command with
  | insert typed => exact insert_spelledOut shows typed
  | backspace => exact backspace_spelledOut buffer
  | clear => rfl
  | evaluate =>
      rw [Command.spelledOut, perform, perform, evaluate_standard, evaluate_standard,
        isSettled_spelledOut]
      split
      · rfl
      · have same : Evaluator.standard.answer buffer.spelledOut.text =
            Evaluator.standard.answer buffer.text := Evaluator.answer_spelledOut buffer.text
        have plain : IsSpelledOut (mk (Evaluator.standard.answer buffer.text) true).text :=
          Evaluator.isSpelledOut_answer buffer.text
        rw [same]
        exact (spelledOut_eq plain).symm

/-! ## Runs -/

/-- A whole session does to a buffer that is spelled out what it does to the buffer. -/
theorem performAll_spelledOut_of_shows (shows : buffer.ShowsSpelledOut)
    (commands : List Command) :
    (buffer.performAll (m := Id) Evaluator.standard.engine commands).ShowsSpelledOut ∧
      buffer.spelledOut.performAll (m := Id) Evaluator.standard.engine
          (commands.map Command.spelledOut) =
        (buffer.performAll (m := Id) Evaluator.standard.engine commands).spelledOut := by
  induction commands generalizing buffer with
  | nil => exact ⟨shows, rfl⟩
  | cons command rest ih =>
      rw [List.map_cons, performAll_cons, performAll_cons, perform_spelledOut shows command]
      exact ih (showsSpelledOut_perform shows command)

/-- **Glyphs and their symbols are interchangeable.** After a session, the buffer shows a result
exactly if it does after the session with symbols in place of glyphs, the two texts differ in glyphs
only, and a result or an error that is shown is the same, position included. -/
theorem performAll_spelledOut (commands : List Command) :
    let engine := Evaluator.standard.engine
    let glyphed : ExpressionBuffer := performAll (m := Id) engine .empty commands
    let spelled : ExpressionBuffer :=
      performAll (m := Id) engine .empty (commands.map Command.spelledOut)
    spelled.showsResult = glyphed.showsResult ∧
      spelled.text = InfixCalculator.spelledOut glyphed.text ∧
      (glyphed.showsResult = true → spelled.text = glyphed.text) := by
  intro engine glyphed spelled
  have empty : ExpressionBuffer.empty.ShowsSpelledOut := nofun
  obtain ⟨shows, same⟩ := performAll_spelledOut_of_shows empty commands
  have whole : spelled = glyphed.spelledOut := same
  rw [whole]
  exact ⟨rfl, rfl, fun shown => (shows shown).spelledOut_eq⟩

end ExpressionBuffer

end InfixCalculator
