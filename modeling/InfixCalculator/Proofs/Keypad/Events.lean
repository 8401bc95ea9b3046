import InfixCalculator.Keypad.Window

/-!
# Events of a window

An event asks for an action or for nothing (`WindowEvent.Asks`).  Where it reaches a window that is
not busy, the action is a command for the window's buffer, unless it is an evaluation of a blank
text (`Window.request?`).  A window does what this command says, and nothing else: idle time apart,
an event that is no command changes nothing (`Window.handle_eq`).

The engine behind a window may keep a memory of its own, so the results on runs are about engines
in a state monad: such an engine may answer every evaluation with any text and with any failure.
-/

namespace InfixCalculator

open ExpressionBuffer (Command)

/-- What an event asks for. -/
inductive WindowEvent.Asks : WindowEvent → Action → Prop
  | press (button : Button) : Asks (.press button) button.action
  | key (bound : BoundKey) : Asks (.key bound) bound.action
  /-- A typed text is inserted if it stands in the row of typed keys and is not empty. -/
  | typed {text : String} (nonempty : text ≠ "")
      (stands : text.toList <:+: typedKeys.toList) : Asks (.typed text) (.insert text)
  | clear : Asks (.named "clear") .clear
  | backspace : Asks (.named "backspace") .backspace
  | equals : Asks (.named "equals") .equals
  | insert (text : String) : Asks (.named ("insert:" ++ text)) (.insert text)

/-! ## Actions of events -/

/-- A typed text acts as it is asked to, and else it does nothing. -/
theorem typedAction?_eq_some_iff (text : String) (action : Action) :
    typedAction? text = some action ↔ WindowEvent.Asks (.typed text) action := by
  have empty : text.isEmpty = true ↔ text = "" := String.isEmpty_iff
  unfold typedAction?
  constructor
  · intro found
    split at found
    · rename_i accepted
      cases found
      rw [Bool.and_eq_true, Bool.not_eq_true', occursIn_eq_true_iff] at accepted
      exact .typed (fun same => Bool.eq_false_iff.mp accepted.1 (empty.mpr same)) accepted.2
    · cases found
  · intro asks
    cases asks with
    | typed nonempty stands =>
        have accepted : (!text.isEmpty && occursIn text.toList typedKeys.toList) = true := by
          rw [Bool.and_eq_true, Bool.not_eq_true', occursIn_eq_true_iff, Bool.eq_false_iff]
          exact ⟨fun same => nonempty (empty.mp same), stands⟩
        rw [if_pos accepted]

namespace Action

/-- The name of an insertion is the label with the text behind it. -/
theorem isPrefixOf_insertLabel_iff (name : String) :
    insertLabel.toList.isPrefixOf name.toList = true ↔ ∃ text, name = insertLabel ++ text := by
  rw [List.isPrefixOf_iff_prefix]
  constructor
  · rintro ⟨text, written⟩
    refine ⟨String.ofList text, ?_⟩
    rw [← String.toList_inj, String.toList_append, String.toList_ofList, written]
  · rintro ⟨text, rfl⟩
    rw [String.toList_append]
    exact List.prefix_append _ _

theorem drop_insertLabel (text : String) :
    String.ofList ((insertLabel ++ text).toList.drop insertLabel.length) = text := by
  rw [String.toList_append, ← String.length_toList, List.drop_left, String.ofList_toList]

/-- A name that begins like that of an insertion is no other name. -/
theorem insertLabel_append_ne {name : String} (begins : name.toList.head? ≠ some 'i')
    (text : String) : insertLabel ++ text ≠ name := by
  rintro rfl
  rw [String.toList_append] at begins
  exact begins rfl

/-- A name acts as it is asked to, and else it does nothing. -/
theorem ofName?_eq_some_iff (name : String) (action : Action) :
    ofName? name = some action ↔ WindowEvent.Asks (.named name) action := by
  unfold ofName?
  constructor
  · intro found
    split at found
    · rename_i same
      cases found
      exact same ▸ .clear
    · split at found
      · rename_i same
        cases found
        exact same ▸ .backspace
      · split at found
        · rename_i same
          cases found
          exact same ▸ .equals
        · split at found
          · rename_i labelled
            obtain ⟨text, rfl⟩ := (isPrefixOf_insertLabel_iff name).mp labelled
            rw [drop_insertLabel] at found
            cases found
            exact .insert text
          · cases found
  · intro asks
    cases asks with
    | clear => rfl
    | backspace => rfl
    | equals => rfl
    | insert text =>
        have labelled : insertLabel.toList.isPrefixOf (insertLabel ++ text).toList = true :=
          (isPrefixOf_insertLabel_iff _).mpr ⟨text, rfl⟩
        rw [← insertLabel, if_neg (insertLabel_append_ne (by decide) text),
          if_neg (insertLabel_append_ne (by decide) text),
          if_neg (insertLabel_append_ne (by decide) text), if_pos labelled, drop_insertLabel]

end Action

namespace WindowEvent

/-- What an event asks for is its action. -/
theorem action?_eq_some_iff (event : WindowEvent) (action : Action) :
    event.action? = some action ↔ event.Asks action := by
  cases event with
  | press button =>
      constructor
      · intro found
        cases found
        exact .press button
      · rintro ⟨⟩
        rfl
  | key bound =>
      constructor
      · intro found
        cases found
        exact .key bound
      · rintro ⟨⟩
        rfl
  | typed text => exact typedAction?_eq_some_iff text action
  | named name => exact Action.ofName?_eq_some_iff name action
  | idle =>
      constructor
      · rintro ⟨⟩
      · rintro ⟨⟩

end WindowEvent

/-! ## Commands for the buffer -/

/-- The command that an action is for a buffer.  A blank text is not evaluated. -/
def Action.command? (buffer : ExpressionBuffer) : Action → Option Command
  | .insert typed => some (.insert typed)
  | .backspace => some .backspace
  | .clear => some .clear
  | .equals => if isBlankText buffer.text then none else some .evaluate

namespace Window

/-- The command that an event is for the buffer of a window.  A busy window passes nothing on. -/
def request? (window : Window) (event : WindowEvent) : Option Command :=
  if window.busy then none else event.action?.bind (Action.command? window.buffer)

/-- A request is a command that an event asks for while the window is not busy. -/
theorem request?_eq_some_iff (window : Window) (event : WindowEvent) (command : Command) :
    window.request? event = some command ↔
      window.busy = false ∧
        ∃ action, event.Asks action ∧ action.command? window.buffer = some command := by
  unfold request?
  cases window.busy with
  | true => exact ⟨nofun, fun ready => by cases ready.1⟩
  | false =>
      rw [if_neg Bool.false_ne_true, Option.bind_eq_some_iff]
      simp only [WindowEvent.action?_eq_some_iff, true_and]

/-- A busy window has no requests. -/
theorem ready_of_request {window : Window} {event : WindowEvent} {command : Command}
    (requests : window.request? event = some command) : window.busy = false :=
  ((window.request?_eq_some_iff event command).mp requests).1

/-- Carries out a command: its result is shown at once, but that of an evaluation is posted. -/
def carryOut {m : Type → Type} [Monad m] (engine : Engine m) (window : Window) :
    Command → m Window
  | .insert typed => pure (window.edit (window.buffer.insert typed))
  | .backspace => pure (window.edit window.buffer.backspace)
  | .clear => pure (window.edit .empty)
  | .evaluate => window.post <$> window.buffer.evaluate engine

variable {m : Type → Type} [Monad m]

/-- A window acts unless it is busy or the action is no command for its buffer. -/
theorem act_eq (engine : Engine m) (window : Window) (action : Action) :
    window.act engine action =
      if window.busy then pure window
      else
        match action.command? window.buffer with
        | none => pure window
        | some command => window.carryOut engine command := by
  unfold act
  cases window.busy with
  | true => rfl
  | false =>
      cases action with
      | insert typed => rfl
      | backspace => rfl
      | clear => rfl
      | equals =>
          simp only [Action.command?, calculate]
          cases isBlankText window.buffer.text with
          | true => rfl
          | false => rfl

/-- A window carries out the command that an event is, and does nothing else. -/
theorem handle_eq (engine : Engine m) (window : Window) (event : WindowEvent) :
    window.handle engine event =
      if event = .idle then pure window.rest
      else
        match window.request? event with
        | none => pure window
        | some command => window.carryOut engine command := by
  by_cases idle : event = .idle
  · rw [if_pos idle, idle]
    rfl
  · have acts : window.handle engine event =
        match event.action? with
        | none => pure window
        | some action => window.act engine action := by
      unfold handle
      cases event with
      | idle => exact absurd rfl idle
      | press button => rfl
      | key bound => rfl
      | typed text => cases WindowEvent.action? (.typed text) <;> rfl
      | named name => cases WindowEvent.action? (.named name) <;> rfl
    rw [if_neg idle, acts, request?]
    cases asked : event.action? with
    | none => cases window.busy <;> rfl
    | some action =>
        simp only [act_eq, Option.bind_some]
        cases window.busy <;> rfl

/-- What holds once the posted texts are taken, and is kept when one of them is shown, holds of an
idle window. -/
theorem rest_keeps {window : Window} (kept : Window → Prop)
    (shows : ∀ text ∈ window.posted, ∀ shown, kept shown →
      kept { shown.present text with busy := false })
    (taken : kept { window with posted := [] }) : kept window.rest := by
  unfold rest
  generalize window.posted = texts at shows
  generalize { window with posted := [] } = shown at taken
  induction texts generalizing shown with
  | nil => exact taken
  | cons text rest ih =>
      obtain ⟨first, later⟩ := List.forall_mem_cons.mp shows
      exact ih later _ (first shown taken)

/-! ## Runs -/

/-- Handles events in order. -/
def handleAll (engine : Engine m) (window : Window) (events : List WindowEvent) : m Window :=
  events.foldlM (handle engine) window

variable {σ : Type}

/-- The window after some events, and the memory of the engine behind it. -/
def reached (engine : Engine (StateM σ)) (memory : σ) (events : List WindowEvent) : Window × σ :=
  (initial.handleAll engine events).run memory

end Window

end InfixCalculator
