import Mathlib.Data.List.Induction
import InfixCalculator.Proofs.Sessions

/-!
# What a buffer asks its engine

A buffer asks its engine only when it is evaluated, shows no result and is not blank, and then it
asks for its text.  An engine can keep a record of this (`Engine.recording`) without being noticed
(`ExpressionBuffer.performAll_recording`), so the record says what a whole session asks.

What becomes of the buffer depends on the answer alone (`ExpressionBuffer.Concludes`).  A result is
shown exactly since an evaluation that asked and was answered by something to show
(`ExpressionBuffer.showsResult_iff`): every other command hides it, and to evaluate again changes
nothing.  All of this holds after every session and for every engine
(`ExpressionBuffer.session_lawful`).
-/

namespace InfixCalculator

variable {σ : Type}

/-- An engine that also keeps a record of what it is asked for, the earliest first. -/
def Engine.recording (engine : Engine (StateM σ)) : Engine (StateM (σ × List String)) :=
  fun expression known =>
    let (answer, later) := (engine expression).run known.1
    (answer, later, known.2 ++ [expression])

/-- An engine that records its calls answers as before and remembers each call. -/
theorem Engine.run_recording (engine : Engine (StateM σ)) (expression : String)
    (known : σ × List String) :
    (engine.recording expression).run known =
      (((engine expression).run known.1).1, ((engine expression).run known.1).2,
        known.2 ++ [expression]) :=
  rfl

namespace ExpressionBuffer

variable {held next : ExpressionBuffer}

/-! ## Evaluations -/

/-- What an answer of the engine makes of a buffer, and what the evaluation returns. -/
inductive Concludes (held : ExpressionBuffer) :
    Except Failure String → ExpressionBuffer × Except Failure String → Prop
  | result (text : String) : held.Concludes (.ok text) (⟨text, true⟩, .ok text)
  /-- A failure of value or arithmetic is shown by its text, or by its class if it has none. -/
  | shown {failure : Failure} {shown : String}
      (expected : failure.failureClass.isA .value = true ∨
        failure.failureClass.isA .arithmetic = true)
      (same : shown =
        "Error: " ++ if failure.text = "" then failure.failureClass.name else failure.text) :
      held.Concludes (.error failure) (⟨shown, true⟩, .ok shown)
  /-- Any other failure passes through and leaves the buffer as it was. -/
  | passed {failure : Failure} (noValue : failure.failureClass.isA .value = false)
      (noArithmetic : failure.failureClass.isA .arithmetic = false) :
      held.Concludes (.error failure) (held, .error failure)

theorem concludes_absorb (held : ExpressionBuffer) (answer : Except Failure String) :
    held.Concludes answer (held.absorb answer) := by
  cases answer with
  | ok text => exact .result text
  | error failure =>
      rw [absorb]
      cases shown : failure.failureClass.isShown with
      | true =>
          rw [FailureClass.isShown, Bool.or_eq_true] at shown
          have same : failure.shown =
              if failure.text = "" then failure.failureClass.name else failure.text := by
            simp only [Failure.shown, String.isEmpty_iff]
          exact .shown shown (congrArg (errorLabel ++ ·) same)
      | false =>
          rw [FailureClass.isShown, Bool.or_eq_false_iff] at shown
          exact .passed shown.1 shown.2

/-- An evaluation that returns a text shows it. -/
theorem Concludes.eq_of_ok {answer : Except Failure String} {text : String}
    (concludes : held.Concludes answer (next, .ok text)) : next = ⟨text, true⟩ := by
  cases concludes with
  | result => rfl
  | shown => rfl

/-- An evaluation after which a result is shown has returned it, unless one was shown before. -/
theorem Concludes.exists_ok {answer : Except Failure String}
    {outcome : ExpressionBuffer × Except Failure String}
    (concludes : held.Concludes answer outcome) (hidden : held.showsResult = false)
    (shown : outcome.1.showsResult = true) : ∃ text, outcome = (outcome.1, .ok text) := by
  cases concludes with
  | result text => exact ⟨text, rfl⟩
  | shown expected same => exact ⟨_, rfl⟩
  | passed noValue noArithmetic => cases hidden.symm.trans shown

theorem isSettled_eq_false_iff (held : ExpressionBuffer) :
    held.isSettled = false ↔ held.showsResult = false ∧ isBlankText held.text = false :=
  Bool.or_eq_false_iff

/-- A settled buffer asks nothing. -/
theorem run_evaluate_of_settled (engine : Engine (StateM σ)) (memory : σ)
    (settled : held.isSettled = true) :
    (held.evaluate engine).run memory = ((held, .ok held.text), memory) := by
  rw [evaluate, if_pos settled]
  rfl

/-- Any other buffer asks once, with its text, and takes the answer in. -/
theorem run_evaluate_of_unsettled (engine : Engine (StateM σ)) (memory : σ)
    (unsettled : held.isSettled = false) :
    (held.evaluate engine).run memory =
      (held.absorb ((engine held.text).run memory).1, ((engine held.text).run memory).2) := by
  rw [evaluate, unsettled, if_neg Bool.false_ne_true]
  rfl

/-- An evaluation that has something to do asks once, and concludes from the answer. -/
theorem exists_concludes (engine : Engine (StateM σ)) (known : σ × List String)
    (unsettled : held.isSettled = false) :
    ∃ outcome, held.Concludes ((engine held.text).run known.1).1 outcome ∧
      (held.evaluate engine.recording).run known =
        (outcome, ((engine held.text).run known.1).2, known.2 ++ [held.text]) :=
  ⟨_, held.concludes_absorb _, run_evaluate_of_unsettled engine.recording known unsettled⟩

/-- After an evaluation that returned, another one has nothing to do. -/
theorem run_evaluate_again {engine : Engine (StateM σ)} {memory later : σ} {text : String}
    (returns : (held.evaluate engine).run memory = ((next, .ok text), later)) :
    next.text = text ∧ (next.evaluate engine).run later = ((next, .ok text), later) := by
  cases settled : held.isSettled with
  | true =>
      rw [run_evaluate_of_settled engine memory settled] at returns
      cases returns
      exact ⟨rfl, run_evaluate_of_settled engine memory settled⟩
  | false =>
      rw [run_evaluate_of_unsettled engine memory settled] at returns
      obtain ⟨absorbs, rfl⟩ := Prod.mk.inj returns
      have concludes := held.concludes_absorb ((engine held.text).run memory).1
      rw [absorbs] at concludes
      obtain rfl := concludes.eq_of_ok
      exact ⟨rfl, run_evaluate_of_settled engine _ rfl⟩

/-! ## Edits -/

/-- A command other than an evaluation asks nothing, and no result is shown after it. -/
theorem run_perform_of_edit {command : Command} (edits : command ≠ .evaluate)
    (engine : Engine (StateM σ)) (memory : σ) :
    ((held.perform engine command).run memory).1.1.showsResult = false ∧
      ((held.perform engine command).run memory).2 = memory := by
  cases command with
  | insert typed => exact ⟨rfl, rfl⟩
  | backspace =>
      refine ⟨?_, rfl⟩
      change held.backspace.showsResult = false
      rw [backspace]
      split
      · rfl
      · rfl
  | clear => exact ⟨rfl, rfl⟩
  | evaluate => exact absurd rfl edits

/-- A result is taken back as a whole. -/
theorem backspace_of_showsResult (shown : held.showsResult = true) : held.backspace = empty :=
  if_pos shown

/-- Over an error that is shown, a new expression starts. -/
theorem insert_of_isErrorText (shown : held.showsResult = true)
    (error : isErrorText held.text = true) (typed : String) :
    held.insert typed = ⟨typed, false⟩ := by
  rw [insert, kept, shown, error, Bool.true_or, Bool.not_true, if_neg Bool.false_ne_true,
    if_pos rfl, String.empty_append]

/-! ## Sessions -/

/-- The buffer that a session leaves, with the memory of its engine and the record of what the
engine was asked for. -/
def session (engine : Engine (StateM σ)) (memory : σ) (commands : List Command) :
    ExpressionBuffer × σ × List String :=
  (performAll engine.recording .empty commands).run (memory, [])

/-- The last command of a session is obeyed by the buffer that the others lead to. -/
theorem session_concat (engine : Engine (StateM σ)) (memory : σ) (before : List Command)
    (command : Command) :
    session engine memory (before ++ [command]) =
      let earlier := session engine memory before
      let reply := (earlier.1.perform engine.recording command).run earlier.2
      (reply.1.1, reply.2) := by
  unfold session performAll
  rw [List.foldlM_append, StateT.run_bind]
  rfl

/-- The record of an engine goes unnoticed by a command. -/
theorem perform_recording (engine : Engine (StateM σ)) (held : ExpressionBuffer)
    (known : σ × List String) (command : Command) :
    (held.perform engine command).run known.1 =
      (((held.perform engine.recording command).run known).1,
        ((held.perform engine.recording command).run known).2.1) := by
  cases command with
  | insert typed => rfl
  | backspace => rfl
  | clear => rfl
  | evaluate =>
      change (held.evaluate engine).run known.1 =
        (((held.evaluate engine.recording).run known).1,
          ((held.evaluate engine.recording).run known).2.1)
      cases settled : held.isSettled with
      | true =>
          rw [run_evaluate_of_settled engine known.1 settled,
            run_evaluate_of_settled engine.recording known settled]
      | false =>
          rw [run_evaluate_of_unsettled engine known.1 settled,
            run_evaluate_of_unsettled engine.recording known settled, engine.run_recording]

/-- The record of an engine goes unnoticed by a session. -/
theorem performAll_recording (engine : Engine (StateM σ)) (memory : σ)
    (commands : List Command) :
    (performAll engine .empty commands).run memory =
      ((session engine memory commands).1, (session engine memory commands).2.1) := by
  induction commands using List.reverseRecOn with
  | nil => rfl
  | append_singleton before command ih =>
      rw [session_concat]
      have step := perform_recording engine (session engine memory before).1
        (session engine memory before).2 command
      unfold performAll at ih ⊢
      rw [List.foldlM_append, StateT.run_bind, ih]
      exact congrArg (fun reply => (reply.1.1, reply.2)) step

/-- A session goes on with what the next evaluation replies. -/
theorem session_of_evaluate {engine : Engine (StateM σ)} {memory : σ} {before : List Command}
    {outcome : ExpressionBuffer × Except Failure String} {later : σ × List String}
    (replies : ((session engine memory before).1.evaluate engine.recording).run
      (session engine memory before).2 = (outcome, later)) :
    session engine memory (before ++ [.evaluate]) = (outcome.1, later) :=
  (session_concat engine memory before .evaluate).trans
    (congrArg (fun reply => (reply.1.1, reply.2)) replies)

/-- A result is shown exactly since an evaluation that asked the engine: no command but evaluations
has followed it, and they have changed nothing. -/
theorem showsResult_iff (engine : Engine (StateM σ)) (memory : σ) (commands : List Command) :
    (session engine memory commands).1.showsResult = true ↔
      ∃ before count, commands = before ++ .evaluate :: List.replicate count .evaluate ∧
        let earlier := session engine memory before
        earlier.1.showsResult = false ∧ isBlankText earlier.1.text = false ∧
          ∃ text, (earlier.1.evaluate engine.recording).run earlier.2 =
            (((session engine memory commands).1, .ok text),
              (session engine memory commands).2) := by
  constructor
  · intro shown
    induction commands using List.reverseRecOn with
    | nil => cases shown
    | append_singleton before command ih =>
        by_cases edits : command ≠ .evaluate
        · rw [session_concat, (run_perform_of_edit edits engine.recording _).1] at shown
          cases shown
        obtain rfl := not_ne_iff.mp edits
        cases settled : (session engine memory before).1.isSettled with
        -- Nothing is asked, so the result was there before.
        | true =>
            rw [session_of_evaluate (run_evaluate_of_settled _ _ settled)] at shown ⊢
            obtain ⟨earlier, count, rfl, asked⟩ := ih shown
            refine ⟨earlier, count + 1, ?_, asked⟩
            rw [List.append_assoc, List.cons_append, ← List.replicate_succ']
        -- This evaluation asked the engine.
        | false =>
            obtain ⟨outcome, concludes, asks⟩ :=
              exists_concludes engine (session engine memory before).2 settled
            rw [session_of_evaluate asks] at shown ⊢
            obtain ⟨hidden, nonblank⟩ := (isSettled_eq_false_iff _).mp settled
            obtain ⟨text, returned⟩ := concludes.exists_ok hidden shown
            rw [returned] at asks
            exact ⟨before, 0, rfl, hidden, nonblank, text, asks⟩
  · rintro ⟨before, count, _, hidden, nonblank, text, returns⟩
    have unsettled := (isSettled_eq_false_iff _).mpr ⟨hidden, nonblank⟩
    obtain ⟨outcome, concludes, asks⟩ := exists_concludes engine _ unsettled
    obtain ⟨rfl, _⟩ := Prod.mk.inj (asks.symm.trans returns)
    rw [concludes.eq_of_ok]

/-- How the buffer that a session left goes on, with the memory and the record of its engine. -/
structure Lawful (engine : Engine (StateM σ)) (memory : σ) (commands : List Command)
    (held : ExpressionBuffer) (known : σ × List String) : Prop where
  /-- The record makes no difference. -/
  unnoticed : (performAll engine .empty commands).run memory = (held, known.1)
  /-- Only an evaluation of a text that is not blank and no result asks the engine. -/
  silent : ∀ command,
    ¬ (command = .evaluate ∧ held.showsResult = false ∧ isBlankText held.text = false) →
      ((held.perform engine.recording command).run known).2 = known
  /-- It asks once, for the text, and the answer decides what becomes of the buffer. -/
  asks : held.showsResult = false → isBlankText held.text = false →
    ∃ outcome, held.Concludes ((engine held.text).run known.1).1 outcome ∧
      (held.evaluate engine.recording).run known =
        (outcome, ((engine held.text).run known.1).2, known.2 ++ [held.text])
  /-- Any other evaluation returns the text and changes nothing. -/
  settled : held.showsResult = true ∨ isBlankText held.text = true →
    (held.evaluate engine.recording).run known = ((held, .ok held.text), known)
  /-- An evaluation behind one that returned returns the same text and changes nothing. -/
  repeats : ∀ next text later,
    (held.evaluate engine.recording).run known = ((next, .ok text), later) →
      next.text = text ∧ (next.evaluate engine.recording).run later = ((next, .ok text), later)
  /-- A result is shown exactly since an evaluation that asked the engine. -/
  shows : held.showsResult = true ↔
    ∃ before count, commands = before ++ .evaluate :: List.replicate count .evaluate ∧
      let earlier := session engine memory before
      earlier.1.showsResult = false ∧ isBlankText earlier.1.text = false ∧
        ∃ text, (earlier.1.evaluate engine.recording).run earlier.2 = ((held, .ok text), known)
  /-- Every other command hides it. -/
  hides : ∀ command, command ≠ .evaluate →
    ((held.perform engine.recording command).run known).1.1.showsResult = false
  /-- A result is erased as a whole. -/
  erases : held.showsResult = true → held.backspace = ⟨"", false⟩
  /-- Over an error that is shown, a new expression starts. -/
  restarts : held.showsResult = true → "Error: ".toList <+: held.text.toList →
    ∀ typed, held.insert typed = ⟨typed, false⟩

/-- **Buffers are lawful after every session and with every engine.** -/
theorem session_lawful (engine : Engine (StateM σ)) (memory : σ) (commands : List Command) :
    Lawful engine memory commands (session engine memory commands).1
      (session engine memory commands).2 where
  unnoticed := performAll_recording engine memory commands
  silent command idle := by
    by_cases edits : command ≠ .evaluate
    · exact (run_perform_of_edit edits engine.recording _).2
    obtain rfl := not_ne_iff.mp edits
    cases settled : (session engine memory commands).1.isSettled with
    | true =>
        exact congrArg Prod.snd (run_evaluate_of_settled engine.recording
          (session engine memory commands).2 settled)
    | false => exact absurd ⟨rfl, (isSettled_eq_false_iff _).mp settled⟩ idle
  asks hidden nonblank :=
    exists_concludes engine _ ((isSettled_eq_false_iff _).mpr ⟨hidden, nonblank⟩)
  settled nothing := run_evaluate_of_settled engine.recording _ (Bool.or_eq_true _ _ ▸ nothing)
  repeats _ _ _ returns := run_evaluate_again returns
  shows := showsResult_iff engine memory commands
  hides _ edits := (run_perform_of_edit edits engine.recording _).1
  erases := backspace_of_showsResult
  restarts shown error := insert_of_isErrorText shown (List.isPrefixOf_iff_prefix.mpr error)

end ExpressionBuffer

end InfixCalculator
