import InfixCalculator.Proofs.Machine.Comparison
import InfixCalculator.Proofs.Magnitude

/-!
# Calls of rules

A machine is lawful when its operands are within the size limit, its operators come from a table,
and every attempt was a call of one of the table's rules with operands within the limit
(`Machine.Lawful`).  Every transition leaves a lawful machine behind, whether it succeeds or fails,
and it fails only with a fault of its own or with one that a rule raised (`Step.Lawful`).  So does
a whole run (`Machine.Lawful.run`), and the value that a run returns is within the limit too
(`Machine.Lawful.fits_of_run`).

Which faults a transition may call its own is left open (`Admits`): every cause at the place of
the token will do, but for an operand that is too large, which only a number can bring about.
-/

namespace InfixCalculator

namespace Attempt

/-- An application of a rule of a table to operands within the size limit. -/
structure IsCall (table : OperatorTable) (attempt : Attempt) : Prop where
  member : attempt.operator ∈ table.operators
  applied : (attempt.operator.rule.map fun rule => rule attempt.left attempt.right) =
    some attempt.result
  left : fits attempt.left = true
  right : fits attempt.right = true

/-- A reduction fails because its rule does, or because the result is too large. -/
theorem fault_of_outcome {attempt : Attempt} {position : Option Int} {fault : Fault}
    (fails : ((attempt.outcome position).map fun _ => ()) = .error fault) :
    attempt.result = .error fault ∨
      fault = ⟨.resultTooLarge attempt.operator.symbol, position⟩ := by
  unfold outcome at fails
  cases result : attempt.result with
  | error raised =>
      rw [result] at fails
      exact Or.inl (congrArg Except.error (Except.error.inj fails))
  | ok value =>
      rw [result] at fails
      simp only at fails
      split at fails
      · cases fails
      · exact Or.inr (Except.error.inj fails).symm

end Attempt

namespace Machine

/-- A machine whose operands are short, whose operators come from a table, and whose attempts were
calls of the table's rules. -/
structure Lawful (table : OperatorTable) (machine : Machine) : Prop where
  short : ∀ operand ∈ machine.operands, fits operand = true
  known : ∀ operator ∈ machine.operators, operator ≠ Operator.start →
    operator ∈ table.operators
  calls : ∀ attempt ∈ machine.attempts, attempt.IsCall table

/-- A fault comes from a rule: a call of it failed with this fault. -/
def Raised (machine : Machine) (fault : Fault) : Prop :=
  ∃ attempt ∈ machine.attempts, attempt.result = .error fault

theorem lawful_start (table : OperatorTable) : Machine.start.Lawful table where
  short _ member := absurd member List.not_mem_nil
  known _ member other := absurd (List.mem_singleton.mp member) other
  calls _ member := absurd member List.not_mem_nil

end Machine

/-- The faults that a transition at a position may call its own. -/
structure Admits (own : Fault → Prop) (position : Option Int) : Prop where
  placed : ∀ cause, cause ≠ .operandTooLarge → own ⟨cause, position⟩
  unknown : ∀ symbol, own ⟨.unknownSymbol symbol, none⟩
  empty : own ⟨.emptyExpression, none⟩

/-- A number that is within the size limit, unless it may be refused. -/
def Token.Admitted (own : Fault → Prop) : Token → Prop
  | number value position => fits value = true ∨ own ⟨.operandTooLarge, some position⟩
  | symbol _ _ => True

namespace Step

variable {α β : Type} {table : OperatorTable} {own : Fault → Prop} {step : Step α}
  {machine : Machine}

/-- A step leaves a lawful machine behind, and it fails only with a fault of its own or with one
that comes from a rule. -/
structure Lawful (table : OperatorTable) (own : Fault → Prop) (step : Step α) : Prop where
  machine : step.machine.Lawful table
  fault : ∀ fault, step.outcome = .error fault → own fault ∨ step.machine.Raised fault

/-- Two steps in turn are lawful if the second is on the machine that the first leaves. -/
theorem Lawful.andThen {next : Machine → α → Step β} (first : step.Lawful table own)
    (second : ∀ value, step.outcome = .ok value → step.machine.Lawful table →
      (next step.machine value).Lawful table own) :
    (step.andThen next).Lawful table own := by
  rcases step with ⟨machine, fault | value⟩
  · exact ⟨first.machine, fun other fails => first.fault other (congrArg _ (Except.error.inj fails))⟩
  · exact second value rfl first.machine

/-- A step that succeeds. -/
theorem lawful_ok (lawful : machine.Lawful table) (value : α) :
    Step.Lawful table own ⟨machine, .ok value⟩ where
  machine := lawful
  fault _ fails := by cases fails

/-- A step that fails with a fault of its own. -/
theorem lawful_error {fault : Fault} (lawful : machine.Lawful table) (owned : own fault) :
    Step.Lawful (α := α) table own ⟨machine, .error fault⟩ where
  machine := lawful
  fault _ fails := Or.inl (Except.error.inj fails ▸ owned)

end Step

/-! ## Transitions -/

namespace Machine

namespace Lawful

variable {table : OperatorTable} {own : Fault → Prop} {machine : Machine} {attempt : Attempt}
  {waiting : List Operator} {operands : List Int} {operator : Operator} {position : Option Int}

/-- The attempt that the stacks of a lawful machine offer is a call of a rule. -/
theorem isCall (lawful : machine.Lawful table)
    (offers : machine.Offers attempt waiting operands) : attempt.IsCall table where
  member := by
    refine lawful.known attempt.operator (offers.operators ▸ List.mem_cons_self) ?_
    intro same
    have applied := offers.result
    rw [same] at applied
    cases applied
  applied := offers.result
  left := lawful.short attempt.left
    (offers.operands ▸ List.mem_cons_of_mem _ List.mem_cons_self)
  right := lawful.short attempt.right (offers.operands ▸ List.mem_cons_self)

/-- An attempt takes its operator and operands away and puts back a short value. -/
theorem afterAttempt (lawful : machine.Lawful table)
    (offers : machine.Offers attempt waiting operands) :
    (machine.afterAttempt attempt waiting operands).Lawful table where
  short operand member := by
    rcases List.mem_append.mp member with new | old
    · exact Attempt.fits_of_value? (Option.mem_toList.mp new)
    · exact lawful.short operand
        (offers.operands ▸ List.mem_cons_of_mem _ (List.mem_cons_of_mem _ old))
  known operator member :=
    lawful.known operator (offers.operators ▸ List.mem_cons_of_mem _ member)
  calls := List.forall_mem_cons.mpr ⟨lawful.isCall offers, lawful.calls⟩

/-- A reduction that is not refused is a call of a rule, and its fault is the rule's or that of a
result that is too large. -/
theorem reduce (lawful : machine.Lawful table) (admits : Admits own position) :
    (machine.reduce position).Lawful table own := by
  cases stacked : machine.operators with
  | nil =>
      rw [Machine.reduce, stacked]
      exact Step.lawful_error lawful (admits.placed _ (by decide))
  | cons operator waiting =>
      cases ruled : operator.rule with
      | none =>
          simp only [Machine.reduce, stacked, ruled]
          exact Step.lawful_error lawful (admits.placed _ (by decide))
      | some rule =>
          cases pair : machine.operands with
          | nil =>
              simp only [Machine.reduce, stacked, ruled, pair]
              exact Step.lawful_error lawful (admits.placed _ Cause.noConfusion)
          | cons right below =>
              cases below with
              | nil =>
                  simp only [Machine.reduce, stacked, ruled, pair]
                  exact Step.lawful_error lawful (admits.placed _ Cause.noConfusion)
              | cons left operands =>
                  have offers := offers_of_ready stacked ruled pair
                  rw [reduce_of_offers offers]
                  refine ⟨lawful.afterAttempt offers, fun fault fails => ?_⟩
                  rcases Attempt.fault_of_outcome fails with raised | tooLarge
                  · exact Or.inr ⟨_, List.mem_cons_self, raised⟩
                  · exact Or.inl (tooLarge ▸ admits.placed _ Cause.noConfusion)

/-- Every reduction of a loop is a call of a rule, up to the one that fails. -/
theorem reduceWhile (lawful : machine.Lawful table) (admits : Admits own position)
    (due : Operator → Bool) : (machine.reduceWhile due position).Lawful table own := by
  generalize stacked : machine.operators = stack
  induction stack generalizing machine with
  | nil =>
      rw [reduceWhile_of_empty stacked]
      exact Step.lawful_ok lawful ()
  | cons operator waiting ih =>
      by_cases holds : due operator = true
      · rw [reduceWhile_of_due stacked holds]
        refine (lawful.reduce admits).andThen fun _ succeeds after => ?_
        exact ih after (operators_of_reduce stacked succeeds)
      · rw [reduceWhile_of_not_due stacked (Bool.eq_false_iff.mpr holds)]
        exact Step.lawful_ok lawful ()

theorem yieldTo (lawful : machine.Lawful table) (admits : Admits own position)
    (incoming : Operator) : (machine.yieldTo incoming position).Lawful table own :=
  lawful.reduceWhile admits _

/-- A number is taken in only if it is within the size limit. -/
theorem pushOperand (lawful : machine.Lawful table) (admits : Admits own position) {value : Int}
    (admitted : fits value = true ∨ own ⟨.operandTooLarge, position⟩) :
    (machine.pushOperand value position).Lawful table own := by
  unfold Machine.pushOperand
  split
  · split
    · rename_i small
      refine Step.lawful_ok ?_ ()
      exact ⟨List.forall_mem_cons.mpr ⟨small, lawful.short⟩, lawful.known, lawful.calls⟩
    · rename_i large
      exact Step.lawful_error lawful (admitted.resolve_left large)
  · exact Step.lawful_error lawful (admits.placed _ (by decide))

theorem openGroup (lawful : machine.Lawful table) (admits : Admits own position)
    (member : operator ∈ table.operators) :
    (machine.openGroup operator position).Lawful table own := by
  unfold Machine.openGroup
  split
  · refine Step.lawful_ok ?_ ()
    exact ⟨lawful.short, List.forall_mem_cons.mpr ⟨fun _ => member, lawful.known⟩, lawful.calls⟩
  · exact Step.lawful_error lawful (admits.placed _ Cause.noConfusion)

/-- A binary operator of the table is added after the calls that it brings about. -/
theorem pushBinary (lawful : machine.Lawful table) (admits : Admits own position)
    (member : operator ∈ table.operators) :
    (machine.pushBinary operator position).Lawful table own := by
  unfold Machine.pushBinary
  split
  · exact Step.lawful_error lawful (admits.placed _ Cause.noConfusion)
  · refine (lawful.yieldTo admits operator).andThen fun _ _ after => ?_
    refine Step.lawful_ok ?_ ()
    exact ⟨after.short, List.forall_mem_cons.mpr ⟨fun _ => member, after.known⟩, after.calls⟩

theorem pushOperator (lawful : machine.Lawful table) (admits : Admits own position)
    (member : operator ∈ table.operators) :
    (machine.pushOperator operator position).Lawful table own := by
  unfold Machine.pushOperator
  split
  · exact lawful.openGroup admits member
  · exact lawful.pushBinary admits member

/-- A closer brings calls about and takes its opener away. -/
theorem closeGroup (lawful : machine.Lawful table) (admits : Admits own position)
    (closer : Operator) : (machine.closeGroup closer position).Lawful table own := by
  unfold Machine.closeGroup
  split
  · exact Step.lawful_error lawful (admits.placed _ Cause.noConfusion)
  · split
    · exact Step.lawful_error lawful (admits.placed _ Cause.noConfusion)
    · split
      · exact Step.lawful_error lawful (admits.placed _ Cause.noConfusion)
      · refine (lawful.reduceWhile admits _).andThen fun _ _ after => ?_
        refine Step.lawful_ok ?_ ()
        exact ⟨after.short, fun operator member =>
          after.known operator (List.mem_of_mem_tail member), after.calls⟩

theorem pushSymbol (lawful : machine.Lawful table) (admits : Admits own position)
    (member : operator ∈ table.operators) :
    (machine.pushSymbol operator position).Lawful table own := by
  unfold Machine.pushSymbol
  split
  · exact lawful.closeGroup admits operator
  · exact lawful.pushOperator admits member

/-- A token keeps the law; one that is refused for its size is a number. -/
theorem consume (lawful : machine.Lawful table) {token : Token}
    (admits : Admits own (some token.position)) (admitted : token.Admitted own) :
    (machine.consume table token).Lawful table own := by
  cases token with
  | number value place => exact lawful.pushOperand admits admitted
  | symbol name place =>
      rw [Machine.consume, withOperator]
      rcases table.lookup_cases name with ⟨_, unknown⟩ | ⟨operator, member, _, _, found⟩
      · rw [unknown]
        exact Step.lawful_error lawful (admits.unknown name)
      · rw [found]
        exact lawful.pushSymbol admits member

theorem conclude (lawful : machine.Lawful table) (admits : Admits own position) :
    (machine.conclude position).Lawful table own := by
  unfold Machine.conclude
  split
  · exact Step.lawful_error lawful (admits.placed _ Cause.noConfusion)
  · split
    · split
      · exact Step.lawful_ok lawful _
      · exact Step.lawful_error lawful (admits.placed _ (by decide))
    · exact Step.lawful_error lawful (admits.placed _ (by decide))

/-- The end of the input calls the rules of all operators that wait. -/
theorem finish (lawful : machine.Lawful table) (admits : Admits own position) :
    (machine.finish position).Lawful table own := by
  rw [Machine.finish]
  split
  · exact Step.lawful_error lawful admits.empty
  · split
    · exact Step.lawful_error lawful (admits.placed _ (by decide))
    · exact (lawful.yieldTo admits _).andThen fun _ _ after => after.conclude admits

/-- A run leaves a lawful machine behind, whether it succeeds or fails, if every number of the
stream is admitted and the stream breaks off only with faults of its own. -/
theorem run (lawful : machine.Lawful table) (place : Int) {stream : TokenStream}
    (admits : ∀ place, Admits own (some place))
    (admitted : ∀ token ∈ stream.tokens, token.Admitted own)
    (breaks : ∀ fault ∈ stream.fault?, own fault) :
    (machine.run table place stream).Lawful table own := by
  induction stream generalizing machine place with
  | done => exact lawful.finish (admits place)
  | failed fault => exact Step.lawful_error lawful (breaks fault rfl)
  | token first rest ih =>
      obtain ⟨firstAdmitted, restAdmitted⟩ := List.forall_mem_cons.mp admitted
      exact (lawful.consume (admits first.position) firstAdmitted).andThen fun _ _ after =>
        ih after first.position restAdmitted breaks

end Lawful

/-! ## Values -/

variable {table : OperatorTable}

/-- The end of the input returns the only operand that is left. -/
theorem conclude_ends (machine : Machine) (position : Option Int) :
    (machine.conclude position).Ends (fun next value => next.operands = [value])
      fun _ => True := by
  unfold conclude
  split
  · trivial
  · split
    · rename_i single
      split
      · exact single
      · trivial
    · trivial

/-- The end of the input returns the only operand that is left after its reductions. -/
theorem finish_ends (machine : Machine) (position : Option Int) :
    (machine.finish position).Ends (fun next value => next.operands = [value])
      fun _ => True := by
  rw [Machine.finish]
  split
  · trivial
  · split
    · trivial
    · exact (Step.ends_trivially _).andThen fun next _ _ => next.conclude_ends position

/-- A run that succeeds returns the only operand that is left. -/
theorem run_ends (table : OperatorTable) (machine : Machine) (place : Int)
    (stream : TokenStream) :
    (machine.run table place stream).Ends (fun next value => next.operands = [value])
      fun _ => True := by
  induction stream generalizing machine place with
  | done => exact machine.finish_ends (some place)
  | failed fault => trivial
  | token first rest ih =>
      exact (Step.ends_trivially _).andThen fun next _ _ => ih next first.position

/-- The value of a run that leaves a lawful machine behind is within the size limit. -/
theorem Lawful.fits_of_run {machine : Machine} {place value : Int} {stream : TokenStream}
    (lawful : (machine.run table place stream).machine.Lawful table)
    (returns : (machine.run table place stream).outcome = .ok value) : fits value = true := by
  have ends := machine.run_ends table place stream
  rw [Step.Ends, returns] at ends
  exact lawful.short value (ends ▸ List.mem_singleton_self value)

end Machine

end InfixCalculator
