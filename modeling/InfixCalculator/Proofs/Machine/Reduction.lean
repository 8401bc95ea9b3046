import InfixCalculator.Machine.Transition

/-!
# Reductions and reducing loops

A reduction either changes nothing or makes the attempt that the stacks offer
(`Machine.reduce_cases`, `Machine.reduce_of_offers`).  A reducing loop is a while loop over
the operator on top (`Machine.reduceWhile_of_due`, `Machine.reduceWhile_of_not_due`); what
each of its reductions keeps, the loop keeps, whether it succeeds or fails
(`Machine.reduceWhile_keeps`).
-/

namespace InfixCalculator

/-- An attempt puts its value back unless its outcome is a fault. -/
theorem Attempt.toOption_outcome (attempt : Attempt) (position : Option Int) :
    (attempt.outcome position).toOption = attempt.value? := by
  unfold value? outcome
  cases attempt.result with
  | error fault => rfl
  | ok value =>
      by_cases short : fits value = true
      · simp only [short, ↓reduceIte]
      · simp only [short]
        rfl

/-- A value that is put back is within the size limit. -/
theorem Attempt.fits_of_value? {attempt : Attempt} {value : Int}
    (returned : attempt.value? = some value) : fits value = true := by
  unfold value? outcome at returned
  cases result : attempt.result with
  | error fault =>
      rw [result] at returned
      cases returned
  | ok computed =>
      rw [result] at returned
      by_cases short : fits computed = true
      · simp only [short, ↓reduceIte, Except.toOption, Option.some.injEq] at returned
        exact returned ▸ short
      · simp only [short] at returned
        cases returned

namespace Step

variable {α β : Type} {step : Step α} {kept : Machine → α → Prop}
  {keptNext : Machine → β → Prop} {blamed : Fault → Prop}

/-- Two steps in turn fail as the first does. -/
theorem andThen_outcome_of_error {fault : Fault} (fails : step.outcome = .error fault)
    (next : Machine → α → Step β) : (step.andThen next).outcome = .error fault := by
  rw [andThen, fails]

/-- Two steps in turn keep what the first keeps and what the second keeps if it is taken. -/
theorem andThen_keeps (holds : Machine → Prop) {next : Machine → α → Step β}
    (first : holds step.machine)
    (second : ∀ value, step.outcome = .ok value → holds (next step.machine value).machine) :
    holds (step.andThen next).machine := by
  rcases step with ⟨machine, fault | value⟩
  · exact first
  · exact second value rfl

/-- A step ends with a machine and a value that satisfy `kept`, or with a fault that
satisfies `blamed`. -/
def Ends (step : Step α) (kept : Machine → α → Prop) (blamed : Fault → Prop) : Prop :=
  match step.outcome with
  | .ok value => kept step.machine value
  | .error fault => blamed fault

theorem ends_trivially (step : Step α) : step.Ends (fun _ _ => True) fun _ => True := by
  rcases step with ⟨machine, fault | value⟩
  · trivial
  · trivial

/-- What two steps in turn come to. -/
theorem Ends.andThen {next : Machine → α → Step β} (first : step.Ends kept blamed)
    (second : ∀ machine value, kept machine value → (next machine value).Ends keptNext blamed) :
    (step.andThen next).Ends keptNext blamed := by
  rcases step with ⟨machine, fault | value⟩
  · exact first
  · exact second machine value first

/-- A step that ends well has the outcome of a value or of a blamed fault. -/
theorem Ends.outcome (ends : step.Ends kept blamed) :
    (∃ value, step.outcome = .ok value) ∨ ∃ fault, blamed fault ∧ step.outcome = .error fault := by
  rcases step with ⟨machine, fault | value⟩
  · exact Or.inr ⟨fault, ends, rfl⟩
  · exact Or.inl ⟨value, rfl⟩

end Step

namespace Machine

variable {machine : Machine} {attempt : Attempt} {operator : Operator}
  {waiting : List Operator} {operands : List Int} {due : Operator → Bool}
  {position : Option Int}

/-- The stacks offer an attempt: its operator lies on `waiting`, its operands lie on
`operands`, and the operator's rule gives its result. -/
structure Offers (machine : Machine) (attempt : Attempt) (waiting : List Operator)
    (operands : List Int) : Prop where
  operators : machine.operators = attempt.operator :: waiting
  operands : machine.operands = attempt.right :: attempt.left :: operands
  result : (attempt.operator.rule.map fun rule => rule attempt.left attempt.right) =
    some attempt.result

/-- The machine that an attempt leaves behind: its operator and operands are gone, and its
value is put back if there is one. -/
def afterAttempt (machine : Machine) (attempt : Attempt) (waiting : List Operator)
    (operands : List Int) : Machine :=
  { machine with
    operands := attempt.value?.toList ++ operands
    operators := waiting
    attempts := attempt :: machine.attempts }

/-- A reduction makes the attempt that the stacks offer. -/
theorem reduce_of_offers (offers : machine.Offers attempt waiting operands)
    (position : Option Int) :
    machine.reduce position =
      ⟨machine.afterAttempt attempt waiting operands,
        (attempt.outcome position).map fun _ => ()⟩ := by
  obtain ⟨operators, pair, result⟩ := offers
  obtain ⟨rule, ruled, applied⟩ := Option.map_eq_some_iff.mp result
  unfold reduce
  simp only [operators, ruled, pair, applied]
  have returned := attempt.toOption_outcome position
  cases outcome : attempt.outcome position with
  | ok value =>
      rw [outcome] at returned
      unfold afterAttempt
      rw [← returned]
      rfl
  | error fault =>
      rw [outcome] at returned
      unfold afterAttempt
      rw [← returned]
      rfl

/-- The stacks offer an attempt exactly when the operator on top has a rule and two operands
wait for it. -/
theorem offers_of_ready {rule : Rule} {left right : Int}
    (top : machine.operators = operator :: waiting) (ruled : operator.rule = some rule)
    (pair : machine.operands = right :: left :: operands) :
    machine.Offers ⟨operator, left, right, rule left right⟩ waiting operands where
  operators := top
  operands := pair
  result := by rw [ruled]; rfl

/-- A reduction is refused and changes nothing, or makes the attempt that the stacks
offer. -/
theorem reduce_cases (machine : Machine) (position : Option Int) :
    (∃ cause, machine.reduce position = .failed machine cause position) ∨
      ∃ attempt waiting operands, machine.Offers attempt waiting operands := by
  cases top : machine.operators with
  | nil =>
      left
      refine ⟨.nothingToReduce, ?_⟩
      simp only [reduce, top]
  | cons operator waiting =>
      cases ruled : operator.rule with
      | none =>
          left
          refine ⟨.nothingToReduce, ?_⟩
          simp only [reduce, top, ruled]
      | some rule =>
          match pair : machine.operands with
          | [] | [_] =>
              left
              refine ⟨.operandsMissing operator.symbol, ?_⟩
              simp only [reduce, top, ruled, pair]
          | right :: left :: operands =>
              right
              exact ⟨_, waiting, operands, offers_of_ready top ruled pair⟩

/-- A reduction that succeeds takes exactly one operator. -/
theorem operators_of_reduce (top : machine.operators = operator :: waiting)
    (succeeds : (machine.reduce position).outcome = .ok ()) :
    (machine.reduce position).machine.operators = waiting := by
  rcases machine.reduce_cases position with ⟨cause, refused⟩ | ⟨attempt, rest, operands, offers⟩
  · rw [refused] at succeeds
    cases succeeds
  · have same := offers.operators
    rw [top, List.cons.injEq] at same
    rw [reduce_of_offers offers, same.2]
    rfl

theorem reduce_groups (machine : Machine) (position : Option Int) :
    (machine.reduce position).machine.groups = machine.groups := by
  rcases machine.reduce_cases position with ⟨cause, refused⟩ | ⟨attempt, rest, operands, offers⟩
  · rw [refused]
    rfl
  · rw [reduce_of_offers offers]
    rfl

theorem reduce_expectsOperand (machine : Machine) (position : Option Int) :
    (machine.reduce position).machine.expectsOperand = machine.expectsOperand := by
  rcases machine.reduce_cases position with ⟨cause, refused⟩ | ⟨attempt, rest, operands, offers⟩
  · rw [refused]
    rfl
  · rw [reduce_of_offers offers]
    rfl

/-! ## Loops -/

/-- A loop without operators does nothing. -/
theorem reduceWhile_of_empty (empty : machine.operators = []) :
    machine.reduceWhile due position = .done machine := by
  unfold reduceWhile
  rw [empty, reduceThrough]

/-- A loop whose condition fails does nothing. -/
theorem reduceWhile_of_not_due (top : machine.operators = operator :: waiting)
    (fails : due operator = false) :
    machine.reduceWhile due position = .done machine := by
  unfold reduceWhile
  rw [top, reduceThrough, fails]
  rfl

/-- A loop whose condition holds reduces once and goes on. -/
theorem reduceWhile_of_due (top : machine.operators = operator :: waiting)
    (holds : due operator = true) :
    machine.reduceWhile due position =
      (machine.reduce position).andThen fun next _ => next.reduceWhile due position := by
  unfold reduceWhile
  rw [top, reduceThrough, if_pos holds]
  unfold Step.andThen
  cases outcome : (machine.reduce position).outcome with
  | error fault => rfl
  | ok value =>
      simp only
      rw [operators_of_reduce top outcome]

/-- What every reduction of a loop keeps, the loop keeps, even if it fails. -/
theorem reduceWhile_keeps (kept : Machine → Prop)
    (keeps : ∀ {current : Machine} {operator : Operator} {waiting : List Operator},
      current.operators = operator :: waiting → due operator = true → kept current →
        kept (current.reduce position).machine)
    (before : kept machine) : kept (machine.reduceWhile due position).machine := by
  generalize stacked : machine.operators = stack
  induction stack generalizing machine with
  | nil =>
      rw [reduceWhile_of_empty stacked]
      exact before
  | cons operator waiting ih =>
      by_cases holds : due operator = true
      · rw [reduceWhile_of_due stacked holds]
        have after := keeps stacked holds before
        apply Step.andThen_keeps kept after
        intro value succeeds
        exact ih after (operators_of_reduce stacked succeeds)
      · rw [reduceWhile_of_not_due stacked (Bool.eq_false_iff.mpr holds)]
        exact before

/-- A loop that ends without a fault ends where its condition fails. -/
theorem reduceWhile_stops
    (succeeds : (machine.reduceWhile due position).outcome = .ok ()) :
    ∀ operator waiting,
      (machine.reduceWhile due position).machine.operators = operator :: waiting →
        due operator = false := by
  generalize stacked : machine.operators = stack
  induction stack generalizing machine with
  | nil =>
      rw [reduceWhile_of_empty stacked]
      intro operator waiting same
      rw [Step.done, stacked] at same
      cases same
  | cons first rest ih =>
      by_cases holds : due first = true
      · rw [reduceWhile_of_due stacked holds] at succeeds ⊢
        unfold Step.andThen at succeeds ⊢
        cases outcome : (machine.reduce position).outcome with
        | error fault =>
            rw [outcome] at succeeds
            cases succeeds
        | ok value =>
            rw [outcome] at succeeds
            exact ih succeeds (operators_of_reduce stacked outcome)
      · have fails : due first = false := Bool.eq_false_iff.mpr holds
        rw [reduceWhile_of_not_due stacked fails]
        intro operator waiting same
        rw [Step.done, stacked, List.cons.injEq] at same
        exact same.1 ▸ fails

/-- If every reduction of a loop ends well, the loop ends well. -/
theorem reduceWhile_ends (kept : Machine → Prop) {blamed : Fault → Prop}
    (reduces : ∀ {current : Machine} {operator : Operator} {waiting : List Operator},
      current.operators = operator :: waiting → due operator = true → kept current →
        (current.reduce position).Ends (fun next _ => kept next) blamed)
    (before : kept machine) :
    (machine.reduceWhile due position).Ends (fun next _ => kept next) blamed := by
  generalize stacked : machine.operators = stack
  induction stack generalizing machine with
  | nil =>
      rw [reduceWhile_of_empty stacked]
      exact before
  | cons operator waiting ih =>
      by_cases holds : due operator = true
      · rw [reduceWhile_of_due stacked holds]
        have first := reduces stacked holds before
        have shorter : (machine.reduce position).outcome = .ok () → _ :=
          operators_of_reduce stacked
        generalize machine.reduce position = step at first shorter ⊢
        rcases step with ⟨next, fault | value⟩
        · exact first
        · exact ih first (shorter rfl)
      · rw [reduceWhile_of_not_due stacked (Bool.eq_false_iff.mpr holds)]
        exact before

theorem reduceWhile_groups (machine : Machine) (due : Operator → Bool)
    (position : Option Int) :
    (machine.reduceWhile due position).machine.groups = machine.groups := by
  refine reduceWhile_keeps (fun current => current.groups = machine.groups) ?_ rfl
  intro current operator waiting _ _ same
  rw [reduce_groups, same]

theorem reduceWhile_expectsOperand (machine : Machine) (due : Operator → Bool)
    (position : Option Int) :
    (machine.reduceWhile due position).machine.expectsOperand = machine.expectsOperand := by
  refine reduceWhile_keeps
    (fun current => current.expectsOperand = machine.expectsOperand) ?_ rfl
  intro current operator waiting _ _ same
  rw [reduce_expectsOperand, same]

end Machine

end InfixCalculator
