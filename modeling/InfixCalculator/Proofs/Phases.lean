import InfixCalculator.Proofs.Location
import InfixCalculator.Proofs.Token.Cutting

/-!
# Reading and evaluating in turn

An evaluation takes in each token as soon as it is read.  Nothing changes if the whole text is read
first: a text that can be read to its end is evaluated as the list of its tokens is, and in a text
that is refused somewhere the tokens in front of that place are taken in before the refusal counts
(`Evaluator.run_of_breaks`).  The end of the input is not reached then, so its faults do not occur
(`Machine.consumeAll_sparesEnd`), and what follows in the text makes no difference to a fault that
comes earlier (`Evaluator.evaluate_of_frontOf`).
-/

namespace InfixCalculator

/-! ## Faults of the end -/

/-- The causes that only the end of the input has. -/
def Cause.isFinal : Cause → Bool
  | emptyExpression | operandDueAtEnd | groupLeftOpen _ | malformedExpression => true
  | _ => false

/-- What cannot be read is not a fault of the end. -/
theorem Cause.isFinal_of_kind {cause : Cause} (invalid : cause.kind = .invalidToken) :
    cause.isFinal = false := by
  cases cause <;> first | rfl | cases invalid

namespace Step

variable {α β : Type} {step : Step α} {next : Machine → α → Step β}

/-- A step does not blame the end of the input, unless a rule raised such a fault. -/
def SparesEnd (step : Step α) : Prop :=
  ∀ fault, step.outcome = .error fault → fault.cause.isFinal = true →
    step.machine.Raised fault

theorem sparesEnd_ok (machine : Machine) (value : α) : SparesEnd ⟨machine, .ok value⟩ :=
  fun _ fails => by cases fails

theorem sparesEnd_error {fault : Fault} (machine : Machine) (other : fault.cause.isFinal = false) :
    SparesEnd (α := α) ⟨machine, .error fault⟩ := by
  intro raised fails final
  cases fails
  rw [other] at final
  cases final

/-- Two steps in turn spare the end of the input if each of them does. -/
theorem SparesEnd.andThen (first : step.SparesEnd)
    (second : ∀ machine value, (next machine value).SparesEnd) : (step.andThen next).SparesEnd := by
  rcases step with ⟨machine, fault | value⟩
  · intro raised fails final
    cases fails
    exact first fault rfl final
  · exact second machine value

end Step

namespace Machine

variable {table : OperatorTable} {machine after : Machine} {stream : TokenStream}
  {tokens : List Token} {fault : Fault}

/-- A reduction itself finds other faults than the end of the input does. -/
theorem reduce_sparesEnd (machine : Machine) (position : Option Int) :
    (machine.reduce position).SparesEnd := by
  unfold reduce
  split
  · exact Step.sparesEnd_error machine rfl
  · split
    · exact Step.sparesEnd_error machine rfl
    · split
      · dsimp only
        split
        · exact Step.sparesEnd_ok _ ()
        · rename_i fault fails
          rcases Attempt.fault_of_outcome (congrArg (Except.map fun _ => ()) fails) with
            raised | rfl
          · intro other same _
            cases same
            exact ⟨_, List.mem_cons_self, raised⟩
          · exact Step.sparesEnd_error _ rfl
      · exact Step.sparesEnd_error machine rfl

theorem reduceThrough_sparesEnd (due : Operator → Bool) (position : Option Int)
    (waiting : List Operator) (machine : Machine) :
    (reduceThrough due position waiting machine).SparesEnd := by
  induction waiting generalizing machine with
  | nil => exact Step.sparesEnd_ok machine ()
  | cons operator waiting ih =>
      rw [reduceThrough]
      split
      · exact (machine.reduce_sparesEnd position).andThen fun next _ => ih next
      · exact Step.sparesEnd_ok machine ()

/-- A closer blames itself, not the end of the input. -/
theorem closeGroup_sparesEnd (machine : Machine) (closer : Operator) (position : Option Int) :
    (machine.closeGroup closer position).SparesEnd := by
  unfold closeGroup
  split
  · exact Step.sparesEnd_error machine rfl
  · split
    · exact Step.sparesEnd_error machine rfl
    · split
      · exact Step.sparesEnd_error machine rfl
      · exact (reduceThrough_sparesEnd _ position _ machine).andThen
          fun next _ => Step.sparesEnd_ok _ ()

theorem pushOperator_sparesEnd (machine : Machine) (operator : Operator)
    (position : Option Int) : (machine.pushOperator operator position).SparesEnd := by
  unfold pushOperator openGroup pushBinary
  split
  · split
    · exact Step.sparesEnd_ok _ ()
    · exact Step.sparesEnd_error machine rfl
  · split
    · exact Step.sparesEnd_error machine rfl
    · exact (reduceThrough_sparesEnd _ position _ machine).andThen
        fun next _ => Step.sparesEnd_ok _ ()

/-- No token is blamed for what only the end of the input can lack. -/
theorem consume_sparesEnd (table : OperatorTable) (machine : Machine) (token : Token) :
    (machine.consume table token).SparesEnd := by
  cases token with
  | number value position =>
      rw [consume, pushOperand]
      split
      · split
        · exact Step.sparesEnd_ok _ ()
        · exact Step.sparesEnd_error machine rfl
      · exact Step.sparesEnd_error machine rfl
  | symbol symbol position =>
      rw [consume, withOperator]
      rcases table.lookup_cases symbol with ⟨_, unknown⟩ | ⟨operator, _, _, _, found⟩
      · rw [unknown]
        exact Step.sparesEnd_error machine rfl
      · rw [found]
        dsimp only
        unfold pushSymbol
        split
        · exact machine.closeGroup_sparesEnd operator _
        · exact machine.pushOperator_sparesEnd operator _

/-- To take in tokens does not blame the end of the input. -/
theorem consumeAll_sparesEnd (table : OperatorTable) (machine : Machine) (tokens : List Token) :
    (machine.consumeAll table tokens).SparesEnd := by
  induction tokens generalizing machine with
  | nil => exact Step.sparesEnd_ok machine ()
  | cons first rest ih =>
      exact (machine.consume_sparesEnd table first).andThen fun next _ => ih next

/-! ## Streams that break off -/

/-- A stream that breaks off delivers its tokens first. -/
theorem run_of_breaks (table : OperatorTable) (machine : Machine) (position : Int)
    (breaks : stream.fault? = some fault) :
    machine.run table position stream =
      (machine.consumeAll table stream.tokens).andThen fun next _ => ⟨next, .error fault⟩ := by
  induction stream generalizing machine position with
  | done => cases breaks
  | failed other =>
      cases breaks
      rfl
  | token first rest ih =>
      rw [run, TokenStream.tokens, consumeAll, Step.andThen_assoc]
      congr
      funext next _
      exact ih next first.position breaks

/-- Tokens that are not all taken in decide over a run, whatever follows them. -/
theorem run_prepend_of_error (position : Int) (stream : TokenStream)
    (fails : machine.consumeAll table tokens = ⟨after, .error fault⟩) :
    machine.run table position (.prepend tokens stream) = ⟨after, .error fault⟩ := by
  rw [run_prepend, fails, Step.andThen_error]

/-- If a number that is short enough is refused, then so is any other in its place. -/
theorem consume_number_of_error {value place : Int} (other : Int) (short : fits value = true)
    (fails : machine.consume table (.number value place) = ⟨after, .error fault⟩) :
    machine.consume table (.number other place) = ⟨after, .error fault⟩ := by
  rw [consume, pushOperand] at fails ⊢
  by_cases due : machine.expectsOperand = true
  · rw [if_pos due, if_pos short] at fails
    cases fails
  · rw [if_neg due] at fails ⊢
    exact fails

/-- If tokens are not taken in, then neither are they with another number at their end. -/
theorem consumeAll_number_of_error {value place : Int} (other : Int) (short : fits value = true)
    (fails : machine.consumeAll table (tokens ++ [.number value place]) =
      ⟨after, .error fault⟩) :
    machine.consumeAll table (tokens ++ [.number other place]) = ⟨after, .error fault⟩ := by
  rw [consumeAll_append] at fails ⊢
  rcases Step.andThen_eq_error fails with earlier | ⟨reached, _, before, last⟩
  · rw [earlier, Step.andThen_error]
  · rw [before, Step.andThen_ok]
    rcases Step.andThen_eq_error last with refused | ⟨_, _, _, done⟩
    · rw [consumeAll, consume_number_of_error other short refused, Step.andThen_error]
    · cases done

end Machine

namespace Evaluator

variable {evaluator : Evaluator} {text : String} {broken : Fault}

/-- A text that can be read to its end is evaluated as its tokens are. -/
theorem run_of_complete (complete : (evaluator.delimiters.tokenize text).fault? = none) :
    evaluator.run text = evaluator.runTokens (evaluator.delimiters.tokenize text).tokens := by
  rw [runTokens, TokenStream.ofList_tokens complete, run]

/-- A text that is refused has its tokens taken in first: the run ends with their fault, or with
that of the refusal. -/
theorem run_of_breaks (breaks : (evaluator.delimiters.tokenize text).fault? = some broken) :
    let taken := Machine.start.consumeAll evaluator.table
      (evaluator.delimiters.tokenize text).tokens
    (∃ fault, taken.outcome = .error fault ∧
        evaluator.run text = ⟨taken.machine, .error fault⟩) ∨
      taken.outcome = .ok () ∧ evaluator.run text = ⟨taken.machine, .error broken⟩ := by
  intro taken
  have phases := Machine.run_of_breaks evaluator.table .start 0 breaks
  change evaluator.run text = taken.andThen _ at phases
  rw [phases]
  rcases taken with ⟨reached, fault | value⟩
  · exact Or.inl ⟨fault, rfl, rfl⟩
  · exact Or.inr ⟨rfl, rfl⟩

/-- What stands behind the front of a text makes no difference to a fault in its front, but for
digits that make the last number of the front too long. -/
theorem evaluate_of_frontOf {before rest : List Char} {fault : Fault} {other : String}
    (front : evaluator.delimiters.FrontOf text broken before)
    (begins : evaluator.delimiters.normalize other = before ++ rest)
    (fails : (Machine.start.consumeAll evaluator.table
      (evaluator.delimiters.tokenize text).tokens).outcome = .error fault) :
    evaluator.evaluate other = .error fault ∨
      (∃ digit ∈ rest.head?, digit.isDigit = true) ∧
        evaluator.evaluate other = .error ⟨.literalTooLong,
          (evaluator.delimiters.tokenize text).tokens.getLast?.map Token.position⟩ := by
  have taken := Step.eq_of_outcome fails
  have read : evaluator.evaluate other = (Machine.start.run evaluator.table 0
      (evaluator.delimiters.tokensFrom 0 (before ++ rest))).outcome := by
    rw [← begins]
    rfl
  rw [read]
  cases front.resumes rest with
  -- The front is read as before, so it fails as before.
  | tokens delivers =>
      rw [delivers, Machine.run_prepend_of_error 0 _ taken]
      exact Or.inl rfl
  -- Its last number goes on, and what made the front fail did not depend on its value.
  | @number earlier value another place following split short delivers =>
      rw [split] at taken
      have refused := Machine.consumeAll_number_of_error another short taken
      have joined := TokenStream.prepend_append earlier [.number another place] following
      rw [delivers, show TokenStream.prepend earlier (.token (.number another place) following) = _
        from joined.symm, Machine.run_prepend_of_error 0 _ refused]
      exact Or.inl rfl
  -- Its last number becomes too long and is refused instead, unless an earlier token fails.
  | tooLong split goesOn delivers =>
      rw [split, Machine.consumeAll_append] at taken
      rw [delivers, split, List.getLast?_concat]
      rcases Step.andThen_eq_error taken with sooner | ⟨reached, _, before, _⟩
      · rw [Machine.run_prepend_of_error 0 _ sooner]
        exact Or.inl rfl
      · rw [Machine.run_prepend, before]
        exact Or.inr ⟨goesOn, rfl⟩

/-- What becomes of the evaluation of a text that cannot be read to its end. -/
structure Interrupted (evaluator : Evaluator) (text : String) (broken : Fault) : Prop where
  kind : broken.kind = .invalidToken
  /-- The tokens in front of the refusal are taken in, and their fault comes first. -/
  earlier : ∀ fault, (Machine.start.consumeAll evaluator.table
    (evaluator.delimiters.tokenize text).tokens).outcome = .error fault →
      evaluator.evaluate text = .error fault
  otherwise : (Machine.start.consumeAll evaluator.table
    (evaluator.delimiters.tokenize text).tokens).outcome = .ok () →
      evaluator.evaluate text = .error broken
  noValue : ∀ value, evaluator.evaluate text ≠ .ok value
  /-- The end of the input is not to blame, unless a rule of the table raises such a fault. -/
  noEnd : ∀ fault, evaluator.evaluate text = .error fault → fault.cause.isFinal = true →
    (evaluator.run text).machine.Raised fault
  /-- What stands from the refusal on makes no difference to any other fault.  Only a digit there
  could make the number in front of it too long. -/
  ahead : ∃ place : Nat, broken.position = some (place : Int) ∧
    ∀ other : String, other.toList.take place = text.toList.take place →
      evaluator.evaluate text = .error broken ∨
        evaluator.evaluate other = evaluator.evaluate text ∨
          (∃ digit ∈ other.toList[place]?, digit.isDigit = true) ∧
            evaluator.evaluate other = .error ⟨.literalTooLong,
              (evaluator.delimiters.tokenize text).tokens.getLast?.map Token.position⟩

/-- A text that begins like another one as far as its front reads as the front first. -/
theorem normalize_of_take {before : List Char} {other : String}
    (front : evaluator.delimiters.FrontOf text broken before)
    (same : other.toList.take before.length = text.toList.take before.length) :
    evaluator.delimiters.normalize other =
      before ++ (other.toList.drop before.length).map evaluator.delimiters.reading := by
  have begins : before = (other.toList.take before.length).map evaluator.delimiters.reading := by
    rw [same, List.map_take]
    exact List.prefix_iff_eq_take.mp front.isPrefix
  calc evaluator.delimiters.normalize other
      = (other.toList.take before.length ++ other.toList.drop before.length).map
          evaluator.delimiters.reading := by rw [List.take_append_drop]; rfl
    _ = _ := by rw [List.map_append, ← begins]

/-- A text with the same front has the fault of the front, but for a number that goes on. -/
theorem evaluate_of_take {before : List Char} {fault : Fault} {other : String}
    (front : evaluator.delimiters.FrontOf text broken before)
    (fails : (Machine.start.consumeAll evaluator.table
      (evaluator.delimiters.tokenize text).tokens).outcome = .error fault)
    (same : other.toList.take before.length = text.toList.take before.length) :
    evaluator.evaluate other = .error fault ∨
      (∃ digit ∈ other.toList[before.length]?, digit.isDigit = true) ∧
        evaluator.evaluate other = .error ⟨.literalTooLong,
          (evaluator.delimiters.tokenize text).tokens.getLast?.map Token.position⟩ := by
  refine (evaluate_of_frontOf front (normalize_of_take front same) fails).imp_right ?_
  rintro ⟨⟨digit, head, isDigit⟩, tooLong⟩
  refine ⟨?_, tooLong⟩
  rw [List.head?_map, List.head?_drop] at head
  obtain ⟨shown, found, rfl⟩ := Option.map_eq_some_iff.mp head
  exact ⟨shown, found, (evaluator.delimiters.isDigit_reading shown).symm.trans isDigit⟩

section

variable {before : List Char} {fault : Fault}
  (front : evaluator.delimiters.FrontOf text broken before)
  (invalid : broken.kind = .invalidToken)

include front invalid

/-- A text whose tokens are not all taken in has their fault. -/
theorem interrupted_of_error
    (fails : (Machine.start.consumeAll evaluator.table
      (evaluator.delimiters.tokenize text).tokens).outcome = .error fault)
    (runs : evaluator.run text = ⟨(Machine.start.consumeAll evaluator.table
      (evaluator.delimiters.tokenize text).tokens).machine, .error fault⟩) :
    evaluator.Interrupted text broken := by
  have evaluates : evaluator.evaluate text = .error fault := congrArg Step.outcome runs
  constructor
  case kind => exact invalid
  case earlier =>
    intro other failed
    cases failed.symm.trans fails
    exact evaluates
  case otherwise =>
    intro succeeds
    cases succeeds.symm.trans fails
  case noValue =>
    intro value returns
    cases returns.symm.trans evaluates
  case noEnd =>
    intro other failed final
    cases failed.symm.trans evaluates
    rw [runs]
    exact Machine.consumeAll_sparesEnd evaluator.table .start _ fault fails final
  case ahead =>
    refine ⟨before.length, front.position, fun other same => Or.inr ?_⟩
    rw [evaluates]
    exact evaluate_of_take front fails same

/-- A text whose tokens are all taken in has the fault of its refusal. -/
theorem interrupted_of_ok
    (succeeds : (Machine.start.consumeAll evaluator.table
      (evaluator.delimiters.tokenize text).tokens).outcome = .ok ())
    (evaluates : evaluator.evaluate text = .error broken) :
    evaluator.Interrupted text broken := by
  constructor
  case kind => exact invalid
  case earlier =>
    intro other failed
    cases succeeds.symm.trans failed
  case otherwise => exact fun _ => evaluates
  case noValue =>
    intro value returns
    cases returns.symm.trans evaluates
  case noEnd =>
    intro other failed final
    cases failed.symm.trans evaluates
    rw [Cause.isFinal_of_kind invalid] at final
    cases final
  case ahead => exact ⟨before.length, front.position, fun _ _ => Or.inl evaluates⟩

end

/-- A text that cannot be read to its end is interrupted there. -/
theorem interrupted_of_breaks
    (breaks : (evaluator.delimiters.tokenize text).fault? = some broken) :
    evaluator.Interrupted text broken := by
  obtain ⟨place, _, _, refuses⟩ :=
    (evaluator.delimiters.accountsFrom_tokenize text).refused broken breaks
  obtain ⟨before, front⟩ := Delimiters.exists_frontOf breaks
  rcases run_of_breaks breaks with ⟨fault, fails, runs⟩ | ⟨succeeds, runs⟩
  · exact interrupted_of_error front refuses.kind_eq.1 fails runs
  · exact interrupted_of_ok front refuses.kind_eq.1 succeeds (congrArg Step.outcome runs)

/-- **Reading ahead makes no difference.** A text that can be read to its end is evaluated as the
list of its tokens is.  In a text that is refused somewhere, the tokens in front of the refusal are
taken in first: the evaluation has their fault if there is one, and otherwise that of the
refusal. -/
theorem evaluate_phases (evaluator : Evaluator) (text : String) :
    ((evaluator.delimiters.tokenize text).fault? = none →
        evaluator.evaluate text =
          evaluator.evaluateTokens (evaluator.delimiters.tokenize text).tokens) ∧
      ∀ broken ∈ (evaluator.delimiters.tokenize text).fault?,
        evaluator.Interrupted text broken := by
  refine ⟨fun complete => ?_, fun broken breaks => interrupted_of_breaks breaks⟩
  rw [evaluate, run_of_complete complete, evaluateTokens]

/-- In `8/0+1@` the sum makes the division due before the run is read, in `8/0@` nothing does. -/
theorem evaluate_phases_division :
    let evaluator := Evaluator.standard
    (evaluator.delimiters.tokenize "8/0+1@").fault? = some ⟨.invalidRun "@", some 5⟩ ∧
      evaluator.Interrupted "8/0+1@" ⟨.invalidRun "@", some 5⟩ ∧
      evaluator.evaluate "8/0+1@" = .error ⟨.zeroDivisor, none⟩ ∧
      (evaluator.delimiters.tokenize "8/0@").fault? = some ⟨.invalidRun "@", some 3⟩ ∧
      evaluator.Interrupted "8/0@" ⟨.invalidRun "@", some 3⟩ ∧
      evaluator.evaluate "8/0@" = .error ⟨.invalidRun "@", some 3⟩ ∧
      (evaluator.delimiters.tokenize "8/2").fault? = none ∧
      evaluator.evaluate "8/2" =
        evaluator.evaluateTokens [.number 8 0, .symbol "/" 1, .number 2 2] := by
  intro evaluator
  have due : (evaluator.delimiters.tokenize "8/0+1@").fault? = some ⟨.invalidRun "@", some 5⟩ := by
    decide +kernel
  have waiting : (evaluator.delimiters.tokenize "8/0@").fault? =
      some ⟨.invalidRun "@", some 3⟩ := by
    decide +kernel
  have complete : (evaluator.delimiters.tokenize "8/2").fault? = none := by decide +kernel
  have tokens : (evaluator.delimiters.tokenize "8/2").tokens =
      [.number 8 0, .symbol "/" 1, .number 2 2] := by
    decide +kernel
  exact ⟨due, (evaluator.evaluate_phases _).2 _ due, by decide +kernel, waiting,
    (evaluator.evaluate_phases _).2 _ waiting, by decide +kernel, complete,
    tokens ▸ (evaluator.evaluate_phases _).1 complete⟩

end Evaluator

end InfixCalculator
