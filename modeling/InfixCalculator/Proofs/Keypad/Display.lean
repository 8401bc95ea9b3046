import InfixCalculator.Proofs.Faults
import InfixCalculator.Proofs.Keypad.Events
import InfixCalculator.Proofs.Readback

/-!
# What a window can show

The keys type digits, operators and parentheses, and the standard evaluator answers such a text
with a number or with a fault that is neither a foreign character nor an unknown operator
(`Evaluator.isAnswer_answer`).  A number goes on in the same characters, and nothing goes on from an
error (`ExpressionBuffer.IsProper.insert`).  So whatever the keys do, a window shows what they type,
an answer, or nothing at all, and never that a failure has emptied it (`Window.handleAll_legible`).
-/

namespace InfixCalculator

open ExpressionBuffer (Command)

/-! ## Typed texts -/

/-- The characters of the keys, on the keypad or on the keyboard. -/
def keyChars : List Char :=
  "0123456789+-*/^()×÷−".toList

/-- A text that the keys can type. -/
def IsTyped (text : String) : Prop :=
  ∀ char ∈ text.toList, char ∈ keyChars

theorem IsTyped.append {first second : String} (left : IsTyped first) (right : IsTyped second) :
    IsTyped (first ++ second) := by
  intro char member
  rw [String.toList_append] at member
  exact (List.mem_append.mp member).elim (left char) (right char)

/-- A text that is given by its characters, so that they can be gone through. -/
theorem isTyped_literal {chars : List Char} (listed : chars.all keyChars.contains = true) :
    IsTyped (String.ofList chars) := by
  intro char member
  rw [String.toList_ofList] at member
  exact List.contains_iff_mem.mp (List.all_eq_true.mp listed char member)

/-- A character that is typed is read as a digit or as a delimiter. -/
theorem isForeign_reading_of_mem_keyChars {char : Char} (member : char ∈ keyChars) :
    Delimiters.standard.isForeign (Delimiters.standard.reading char) = false := by
  have known : (keyChars.all fun char =>
      !Delimiters.standard.isForeign (Delimiters.standard.reading char)) = true := by decide
  exact (Bool.not_eq_true' _).mp (List.all_eq_true.mp known char member)

/-- There is a key for every digit. -/
theorem mem_keyChars_of_isDigit {char : Char} (digit : char.isDigit = true) : char ∈ keyChars := by
  have digits : ∀ code ≤ 57, 48 ≤ code → Char.ofNat code ∈ keyChars := by decide
  obtain ⟨lower, upper⟩ := Char.isDigit_iff_toNat.mp digit
  rw [← Char.ofNat_toNat char]
  exact digits char.toNat upper lower

/-- A number can be typed as it is written. -/
theorem isTyped_of_isCanonical {text : String} (canonical : Decimal.IsCanonical text.toList) :
    IsTyped text := by
  intro char member
  generalize text.toList = chars at canonical member
  cases canonical with
  | zero =>
      rw [List.mem_singleton.mp member]
      decide
  | natural leading digits => exact mem_keyChars_of_isDigit (digits char member)
  | negative leading digits =>
      rcases List.mem_cons.mp member with rfl | digit
      · decide
      · exact mem_keyChars_of_isDigit (digits char digit)

/-! ## Answers -/

/-- What is shown once a text of the keys has been evaluated: a number, or an error. -/
inductive IsAnswer (text : String) : Prop
  | number (canonical : Decimal.IsCanonical text.toList)
  | error {expression : String} {fault : Fault} (typed : IsTyped expression)
      (fails : Evaluator.standard.calculate expression = .error fault)
      (shown : text = errorLabel ++ fault.text)

/-- A text that a window can show: it is typed, or it is an answer. -/
def IsShowable (text : String) : Prop :=
  IsTyped text ∨ IsAnswer text

namespace Evaluator

variable {expression : String} {fault : Fault}

/-- What the keys type can always be read, except for a number with too many digits. -/
theorem kind_of_typed (typed : IsTyped expression)
    (fails : standard.calculate expression = .error fault) :
    fault.kind ∈ FaultKind.beyondReading ∨ fault.cause = .literalTooLong := by
  rcases cause_of_calculate fails with member | ⟨place, refuses⟩
  · exact Or.inl (OperatorTable.standard.kind_of_mem_allCauses _ member).2
  · right
    generalize fault.cause = cause at refuses ⊢
    cases refuses with
    | tooLong written isRun long => rfl
    | @foreign before run after written isRun =>
        obtain ⟨first, rest, rfl⟩ := List.exists_cons_of_ne_nil isRun.nonempty
        have foreign := isRun.uniform first List.mem_cons_self
        have read : first ∈ Delimiters.standard.normalize expression := by
          rw [written]
          exact List.mem_append_right _ (List.mem_append_left _ List.mem_cons_self)
        obtain ⟨char, member, rfl⟩ := List.mem_map.mp read
        rw [isForeign_reading_of_mem_keyChars (typed char member)] at foreign
        cases foreign

/-- What the calculator answers to a typed text is one of its answers. -/
theorem isAnswer_answer (typed : IsTyped expression) : IsAnswer (standard.answer expression) := by
  unfold answer
  cases calculated : standard.calculate expression with
  | ok shown =>
      obtain ⟨value, _, rfl⟩ := exists_value_of_calculate calculated
      exact .number (Decimal.isCanonical_text value)
  | error fault => exact .error typed calculated rfl

end Evaluator

/-- Nothing that is typed or computed looks like an error. -/
theorem IsShowable.exists_fault {text : String} (showable : IsShowable text)
    (labelled : errorLabel.toList <+: text.toList) :
    ∃ expression fault, IsTyped expression ∧
      Evaluator.standard.calculate expression = .error fault ∧ text = errorLabel ++ fault.text ∧
      (fault.kind ∈ FaultKind.beyondReading ∨ fault.cause = .literalTooLong) := by
  -- No key types a capital letter, and no number holds one.
  have untyped : ¬ IsTyped text := by
    intro typed
    have member : 'E' ∈ text.toList := labelled.subset (by decide)
    exact absurd (typed 'E' member) (by decide)
  rcases showable with typed | canonical | ⟨typed, fails, shown⟩
  · exact absurd typed untyped
  · exact absurd (isTyped_of_isCanonical canonical) untyped
  · exact ⟨_, _, typed, fails, shown, Evaluator.kind_of_typed typed fails⟩

/-! ## Buffers -/

namespace ExpressionBuffer

/-- A command that inserts, if it does, what the keys can type. -/
def Command.IsTyped : Command → Prop
  | insert typed => InfixCalculator.IsTyped typed
  | backspace | clear | evaluate => True

/-- A buffer that holds what the keys have typed, or shows an answer to it. -/
structure IsProper (buffer : ExpressionBuffer) : Prop where
  typed : buffer.showsResult = false → InfixCalculator.IsTyped buffer.text
  answered : buffer.showsResult = true → IsAnswer buffer.text

theorem isProper_empty : empty.IsProper where
  typed _ := nofun
  answered := nofun

/-- A buffer that holds what was typed is proper. -/
theorem isProper_of_typed {text : String} (typed : InfixCalculator.IsTyped text) :
    IsProper ⟨text, false⟩ where
  typed _ := typed
  answered := nofun

namespace IsProper

variable {buffer : ExpressionBuffer}

/-- What a proper buffer holds can be shown. -/
theorem isShowable (proper : buffer.IsProper) : IsShowable buffer.text := by
  cases shown : buffer.showsResult with
  | false => exact Or.inl (proper.typed shown)
  | true => exact Or.inr (proper.answered shown)

/-- What stays of a text could have been typed. -/
theorem kept (proper : buffer.IsProper) (typed : String) :
    InfixCalculator.IsTyped (buffer.kept typed) := by
  unfold ExpressionBuffer.kept
  cases shown : buffer.showsResult with
  | false => exact proper.typed shown
  | true =>
      rw [Bool.not_true, if_neg Bool.false_ne_true]
      split
      · exact isTyped_literal rfl
      · rename_i goesOn
        -- Nothing is kept of an error, so this is a number.
        have number : InfixCalculator.IsTyped buffer.text := by
          rcases proper.answered shown with canonical | ⟨_, _, error⟩
          · exact isTyped_of_isCanonical canonical
          · have labelled : isErrorText buffer.text = true := by
              rw [error, isErrorText, List.isPrefixOf_iff_prefix, String.toList_append]
              exact List.prefix_append _ _
            rw [labelled, Bool.true_or] at goesOn
            exact absurd rfl goesOn
        split
        · exact ((isTyped_literal rfl).append number).append (isTyped_literal rfl)
        · exact number

/-- Typing on keeps a buffer proper. -/
theorem insert (proper : buffer.IsProper) {typed : String}
    (fromKeys : InfixCalculator.IsTyped typed) : (buffer.insert typed).IsProper :=
  isProper_of_typed ((proper.kept typed).append fromKeys)

/-- Taking back keeps a buffer proper: it clears a result and shortens what was typed. -/
theorem backspace (proper : buffer.IsProper) : buffer.backspace.IsProper := by
  unfold ExpressionBuffer.backspace
  split
  · exact isProper_empty
  · rename_i notShown
    refine isProper_of_typed fun char member => ?_
    rw [String.toList_ofList] at member
    exact proper.typed (Bool.eq_false_iff.mpr notShown) char (List.dropLast_subset _ member)

/-- The evaluation of a proper buffer gives no failure that passes through, and leaves it proper.
-/
theorem evaluate (proper : buffer.IsProper) :
    ∃ next : ExpressionBuffer, next.IsProper ∧
      buffer.evaluate (m := Id) Evaluator.standard.engine = (next, .ok next.text) := by
  rw [evaluate_standard]
  split
  · exact ⟨buffer, proper, rfl⟩
  · rename_i unsettled
    have notShown : buffer.showsResult = false := by
      rw [isSettled, Bool.or_eq_true, not_or] at unsettled
      exact Bool.eq_false_iff.mpr unsettled.1
    refine ⟨⟨_, true⟩, ⟨nofun, fun _ => ?_⟩, rfl⟩
    exact Evaluator.isAnswer_answer (proper.typed notShown)

end IsProper

end ExpressionBuffer

/-! ## Windows -/

/-- An event of the window's own keys, or idle time: no action is asked for by its name. -/
def WindowEvent.IsManual : WindowEvent → Prop
  | press button => button ∈ Button.rows.flatten
  | key bound => bound ∈ boundKeys
  | typed _ | idle => True
  | named _ => False

instance : DecidablePred WindowEvent.IsManual
  | .press button => inferInstanceAs (Decidable (button ∈ Button.rows.flatten))
  | .key bound => inferInstanceAs (Decidable (bound ∈ boundKeys))
  | .typed _ | .idle => .isTrue trivial
  | .named _ => .isFalse id

/-- The text that an action inserts, if it inserts any. -/
def Action.text : Action → String
  | insert typed => typed
  | backspace | clear | equals => ""

/-- The keys insert what they can type. -/
theorem WindowEvent.isTyped_of_asks {event : WindowEvent} {action : Action}
    (manual : event.IsManual) (asks : event.Asks action) : IsTyped action.text := by
  have buttons : ∀ button ∈ Button.rows.flatten,
      button.action.text.toList.all keyChars.contains = true := by decide
  have keys : ∀ bound ∈ boundKeys, bound.action.text.toList.all keyChars.contains = true := by
    decide
  have typing : typedKeys.toList.all keyChars.contains = true := by decide
  intro char member
  apply List.contains_iff_mem.mp
  cases asks with
  | press button => exact List.all_eq_true.mp (buttons button manual) char member
  | key bound => exact List.all_eq_true.mp (keys bound manual) char member
  | typed nonempty stands => exact List.all_eq_true.mp typing char (stands.subset member)
  | clear | backspace | equals | insert => exact False.elim manual

/-- The requests of the keys are commands that insert what they can type. -/
theorem Window.isTyped_of_request {window : Window} {event : WindowEvent} {command : Command}
    (manual : event.IsManual) (requests : window.request? event = some command) :
    command.IsTyped := by
  obtain ⟨_, action, asks, commands⟩ := (window.request?_eq_some_iff event command).mp requests
  have typed := WindowEvent.isTyped_of_asks manual asks
  cases action with
  | insert text =>
      cases commands
      exact typed
  | backspace =>
      cases commands
      trivial
  | clear =>
      cases commands
      trivial
  | equals =>
      rw [Action.command?] at commands
      split at commands
      · cases commands
      · cases commands
        trivial

namespace Window

/-- A window whose buffer is proper, and which shows and posts nothing else. -/
structure IsProper (window : Window) : Prop where
  buffer : window.buffer.IsProper
  display : IsShowable window.display
  posted : ∀ text ∈ window.posted, IsShowable text

theorem isProper_initial : initial.IsProper where
  buffer := ExpressionBuffer.isProper_empty
  display := Or.inl nofun
  posted := nofun

namespace IsProper

variable {window : Window}

theorem edit (proper : window.IsProper) {buffer : ExpressionBuffer}
    (bufferProper : buffer.IsProper) : (window.edit buffer).IsProper where
  buffer := bufferProper
  display := bufferProper.isShowable
  posted := proper.posted

theorem rest (proper : window.IsProper) : window.rest.IsProper := by
  refine rest_keeps IsProper (fun text posted shown shownProper => ?_) ?_
  · exact ⟨shownProper.buffer, proper.posted text posted, shownProper.posted⟩
  · exact ⟨proper.buffer, proper.display, nofun⟩

/-- A command from the keys keeps a window proper. -/
theorem carryOut (proper : window.IsProper) {command : Command} (typed : command.IsTyped) :
    IsProper (window.carryOut (m := Id) Evaluator.standard.engine command) := by
  cases command with
  | insert text => exact proper.edit (proper.buffer.insert typed)
  | backspace => exact proper.edit proper.buffer.backspace
  | clear => exact proper.edit ExpressionBuffer.isProper_empty
  | evaluate =>
      obtain ⟨next, nextProper, evaluates⟩ := proper.buffer.evaluate
      have posts : window.carryOut (m := Id) Evaluator.standard.engine .evaluate =
          { window with buffer := next, busy := true, posted := window.posted ++ [next.text] } := by
        change window.post (window.buffer.evaluate (m := Id) Evaluator.standard.engine) = _
        rw [evaluates]
        rfl
      rw [posts]
      refine ⟨nextProper, proper.display, List.forall_mem_append.mpr ⟨proper.posted, ?_⟩⟩
      exact List.forall_mem_singleton.mpr nextProper.isShowable

/-- An event by hand keeps a window proper. -/
theorem handle (proper : window.IsProper) {event : WindowEvent} (manual : event.IsManual) :
    IsProper (window.handle (m := Id) Evaluator.standard.engine event) := by
  rw [handle_eq]
  split
  · exact proper.rest
  · cases requested : window.request? event with
    | none => exact proper
    | some command => exact proper.carryOut (isTyped_of_request manual requested)

/-- Whatever the keys do, a window stays proper. -/
theorem handleAll (proper : window.IsProper) {events : List WindowEvent}
    (manual : ∀ event ∈ events, event.IsManual) :
    IsProper (window.handleAll (m := Id) Evaluator.standard.engine events) := by
  induction events generalizing window with
  | nil => exact proper
  | cons event rest ih =>
      obtain ⟨first, later⟩ := List.forall_mem_cons.mp manual
      exact ih (proper.handle first) later

end IsProper

/-- What can be said of the texts of a window that only its keys have changed. -/
structure Legible (window : Window) : Prop where
  typed : window.buffer.showsResult = false →
    ∀ char ∈ window.buffer.text.toList, char ∈ "0123456789+-*/^()×÷−".toList
  answered : window.buffer.showsResult = true →
    Decimal.IsCanonical window.buffer.text.toList ∨
      "Error: ".toList <+: window.buffer.text.toList
  expected : window.display ≠ "Error: interno"
  /-- An error that is shown is that of a text that the keys can type, and it is structural or
  arithmetic, unless a number has too many digits. -/
  blamed : ∀ text ∈ [window.buffer.text, window.display], "Error: ".toList <+: text.toList →
    ∃ expression fault, (∀ char ∈ expression.toList, char ∈ "0123456789+-*/^()×÷−".toList) ∧
      Evaluator.standard.calculate expression = .error fault ∧
      text = "Error: " ++ fault.text ∧
      (fault.kind ∈ [.unmatchedGroup, .stackUnderflow, .divisionByZero, .resultOverflow] ∨
        fault.cause = .literalTooLong)

/-- A proper window is legible: what it shows was typed, is a number or tells a fault. -/
theorem IsProper.legible {window : Window} (proper : window.IsProper) : window.Legible where
  typed := proper.buffer.typed
  answered shown := by
    rcases proper.buffer.answered shown with canonical | ⟨_, _, error⟩
    · exact Or.inl canonical
    · rw [error, String.toList_append]
      exact Or.inr (List.prefix_append _ _)
  expected emptied := by
    have labelled : errorLabel.toList <+: window.display.toList := by
      rw [emptied]
      exact List.isPrefixOf_iff_prefix.mp (by decide)
    obtain ⟨_, fault, _, fails, error, _⟩ := proper.display.exists_fault labelled
    exact (Evaluator.text_of_calculate fails).2 (error.symm.trans emptied)
  blamed := List.forall_mem_cons.mpr ⟨proper.buffer.isShowable.exists_fault,
    List.forall_mem_singleton.mpr proper.display.exists_fault⟩

/-- **What a window can show.** Behind the standard evaluator, whatever buttons and keys are
pressed and whatever is typed, the buffer holds a text of the keys, a number or an error, and no
error that is shown is that of a foreign character or an unknown operator. -/
theorem handleAll_legible (events : List WindowEvent)
    (manual : ∀ event ∈ events, event.IsManual) :
    Legible (initial.handleAll (m := Id) Evaluator.standard.engine events) :=
  (isProper_initial.handleAll manual).legible

/-- The buttons and the keyboard work together, and a division by zero is shown as such. -/
theorem handleAll_legible_division :
    let events : List WindowEvent :=
      [.typed "1", .press (.typing .operator "÷"), .typed "0", .key ⟨"Return", .equals⟩, .idle]
    let window : Window := initial.handleAll (m := Id) Evaluator.standard.engine events
    (∀ event ∈ events, event.IsManual) ∧ window.display = "Error: División por cero" ∧
      window.Legible := by
  intro events window
  have manual : ∀ event ∈ events, event.IsManual := by decide
  exact ⟨manual, by rfl, handleAll_legible events manual⟩

end Window

end InfixCalculator
