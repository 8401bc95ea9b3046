import InfixCalculator.Proofs.Machine.Calls
import InfixCalculator.Proofs.Machine.Consumption

/-!
# Where faults come from

What a machine finds wrong, it finds wrong with an operator of its table or with no operator at all
(`OperatorTable.causes`), and the fault carries the position of the token that is taken in.  The
other faults are that of an empty expression and those that the rules of the table raise
(`Fault.Arises`).  Hence a run that fails blames a token of its stream, the end of the stream or a
symbol that the table lacks, or the stream has broken off (`Evaluator.origin_of_runStream`).
-/

namespace InfixCalculator

/-! ## Causes -/

/-- What a machine may find wrong with an operator. -/
def Operator.causes (operator : Operator) : List Cause :=
  [.closerWithoutOpener operator.symbol operator.pairedOpener, .groupLeftOpen operator.symbol,
    .operatorDueBefore operator.symbol, .operandDueBefore operator.symbol,
    .operandsMissing operator.symbol, .resultTooLarge operator.symbol]

/-- What a machine may find wrong without an operator to blame. -/
def Machine.causes : List Cause :=
  [.operatorDueBeforeNumber, .operandDueAtEnd, .malformedExpression, .nothingToReduce,
    .operandTooLarge]

/-- What a machine may find wrong that draws on a table. -/
def OperatorTable.causes (table : OperatorTable) : List Cause :=
  Machine.causes ++ table.operators.flatMap Operator.causes

namespace Fault

/-- A fault that a transition at a position may have. -/
inductive Arises (table : OperatorTable) (position : Option Int) : Fault → Prop
  | found {cause : Cause} (member : cause ∈ table.causes) : Arises table position ⟨cause, position⟩
  | empty : Arises table position ⟨.emptyExpression, none⟩
  | raised {operator : Operator} {rule : Rule} {left right : Int} {fault : Fault}
      (member : operator ∈ table.operators) (ruled : operator.rule = some rule)
      (fails : rule left right = .error fault) : Arises table position fault

/-- A fault that a run over a stream of tokens may have, the latest token before them being at a
given position. -/
inductive Origin (table : OperatorTable) (position : Int) (stream : TokenStream) : Fault → Prop
  | broken {fault : Fault} (breaks : fault ∈ stream.fault?) : Origin table position stream fault
  | unknown {symbol : String} {place : Int} (member : .symbol symbol place ∈ stream.tokens)
      (absent : table.find? symbol = none) :
      Origin table position stream ⟨.unknownSymbol symbol, none⟩
  | token {token : Token} {fault : Fault} (member : token ∈ stream.tokens)
      (arises : fault.Arises table (some token.position)) : Origin table position stream fault
  | ended {fault : Fault}
      (arises : fault.Arises table (some (lastPosition position stream.tokens))) :
      Origin table position stream fault

variable {table : OperatorTable} {position : Option Int} {operator : Operator} {cause : Cause}

theorem Arises.ofOperator (member : operator ∈ table.operators) (blames : cause ∈ operator.causes) :
    Arises table position ⟨cause, position⟩ :=
  .found (List.mem_append_right _ (List.mem_flatMap.mpr ⟨operator, member, blames⟩))

theorem Arises.ofMachine (blames : cause ∈ Machine.causes) :
    Arises table position ⟨cause, position⟩ :=
  .found (List.mem_append_left _ blames)

/-- What a run over the rest of a stream may blame, a run over the stream may blame. -/
theorem Origin.cons {first : Token} {rest : TokenStream} {place : Int} {fault : Fault}
    (origin : fault.Origin table first.position rest) :
    fault.Origin table place (.token first rest) := by
  cases origin with
  | broken breaks => exact .broken breaks
  | unknown member absent => exact .unknown (List.mem_cons_of_mem _ member) absent
  | token member arises => exact .token (List.mem_cons_of_mem _ member) arises
  | ended arises => exact .ended arises

end Fault

/-! ## Transitions -/

/-- Both the operators of a machine and its open groups come from a table. -/
structure Machine.DrawsOn (table : OperatorTable) (machine : Machine) : Prop where
  operators : ∀ operator ∈ machine.operators, operator ≠ Operator.start →
    operator ∈ table.operators
  groups : ∀ opener ∈ machine.groups, opener ∈ table.operators

/-- A step draws on a table, and its faults are among those to be expected. -/
abbrev Step.DrawsOn {α : Type} (table : OperatorTable) (blamed : Fault → Prop) (step : Step α) :
    Prop :=
  step.Ends (fun machine _ => machine.DrawsOn table) blamed

/-- A step that blames certain faults blames every wider range of faults. -/
theorem Step.DrawsOn.blaming {α : Type} {table : OperatorTable} {blamed other : Fault → Prop}
    {step : Step α} (draws : step.DrawsOn table blamed)
    (blames : ∀ fault, blamed fault → other fault) : step.DrawsOn table other := by
  rcases step with ⟨machine, fault | value⟩
  · exact blames fault draws
  · exact draws

namespace Machine

theorem drawsOn_start (table : OperatorTable) : Machine.start.DrawsOn table where
  operators _ member other := absurd (List.mem_singleton.mp member) other
  groups _ member := absurd member List.not_mem_nil

namespace DrawsOn

variable {table : OperatorTable} {machine : Machine} {operator : Operator} {waiting : List Operator}

/-- An operator with a rule is not the sentinel, so it is one of the table's. -/
theorem mem_of_rule {rule : Rule} (draws : machine.DrawsOn table)
    (stacked : machine.operators = operator :: waiting) (ruled : operator.rule = some rule) :
    operator ∈ table.operators := by
  refine draws.operators operator (stacked ▸ List.mem_cons_self) ?_
  rintro rfl
  cases ruled

theorem afterAttempt {attempt : Attempt} {operands : List Int} (draws : machine.DrawsOn table)
    (offers : machine.Offers attempt waiting operands) :
    (machine.afterAttempt attempt waiting operands).DrawsOn table where
  operators operator member :=
    draws.operators operator (offers.operators ▸ List.mem_cons_of_mem _ member)
  groups := draws.groups

/-- A reduction that applies a rule fails because the rule does, or the result is too large. -/
theorem reduce_of_pair {rule : Rule} {left right : Int} {operands : List Int}
    (draws : machine.DrawsOn table) (stacked : machine.operators = operator :: waiting)
    (ruled : operator.rule = some rule) (pair : machine.operands = right :: left :: operands)
    (position : Option Int) :
    (machine.reduce position).DrawsOn table (Fault.Arises table position) := by
  have member := draws.mem_of_rule stacked ruled
  have offers := offers_of_ready stacked ruled pair
  rw [reduce_of_offers offers, Step.DrawsOn, Step.Ends]
  cases outcome : (Attempt.mk operator left right (rule left right)).outcome position with
  | ok value => exact draws.afterAttempt offers
  | error fault =>
      rcases Attempt.fault_of_outcome (congrArg (Except.map _) outcome) with raised | rfl
      · exact .raised member ruled raised
      · exact .ofOperator member (by simp [Operator.causes])

/-- A reduction finds nothing to reduce, lacks an operand, or applies the rule of an operator of
the table. -/
theorem reduce (draws : machine.DrawsOn table) (position : Option Int) :
    (machine.reduce position).DrawsOn table (Fault.Arises table position) := by
  cases stacked : machine.operators with
  | nil =>
      rw [Machine.reduce, stacked]
      exact .ofMachine (by decide)
  | cons operator waiting =>
      cases ruled : operator.rule with
      | none =>
          simp only [Machine.reduce, stacked, ruled]
          exact .ofMachine (by decide)
      | some rule =>
          have member := draws.mem_of_rule stacked ruled
          cases pair : machine.operands with
          | nil =>
              simp only [Machine.reduce, stacked, ruled, pair]
              exact .ofOperator member (by simp [Operator.causes])
          | cons right below =>
              cases below with
              | nil =>
                  simp only [Machine.reduce, stacked, ruled, pair]
                  exact .ofOperator member (by simp [Operator.causes])
              | cons left operands => exact draws.reduce_of_pair stacked ruled pair position

theorem reduceWhile (draws : machine.DrawsOn table) (due : Operator → Bool)
    (position : Option Int) :
    (machine.reduceWhile due position).DrawsOn table (Fault.Arises table position) :=
  reduceWhile_ends (DrawsOn table) (fun _ _ current => current.reduce position) draws

theorem yieldTo (draws : machine.DrawsOn table) (incoming : Operator) (position : Option Int) :
    (machine.yieldTo incoming position).DrawsOn table (Fault.Arises table position) :=
  draws.reduceWhile _ position

/-- A number is refused for its place or its size, and neither blames an operator. -/
theorem pushOperand (draws : machine.DrawsOn table) (value : Int) (position : Option Int) :
    (machine.pushOperand value position).DrawsOn table (Fault.Arises table position) := by
  unfold Machine.pushOperand
  split
  · split
    · exact ⟨draws.operators, draws.groups⟩
    · exact .ofMachine (by decide)
  · exact .ofMachine (by decide)

/-- An opener is refused for its place alone, and the group that it opens is the table's. -/
theorem openGroup (draws : machine.DrawsOn table) (member : operator ∈ table.operators)
    (position : Option Int) :
    (machine.openGroup operator position).DrawsOn table (Fault.Arises table position) := by
  unfold Machine.openGroup
  split
  · exact ⟨List.forall_mem_cons.mpr ⟨fun _ => member, draws.operators⟩,
      List.forall_mem_cons.mpr ⟨member, draws.groups⟩⟩
  · exact .ofOperator member (by simp [Operator.causes])

/-- A binary operator is refused for its place; else the faults are those of the reductions. -/
theorem pushBinary (draws : machine.DrawsOn table) (member : operator ∈ table.operators)
    (position : Option Int) :
    (machine.pushBinary operator position).DrawsOn table (Fault.Arises table position) := by
  unfold Machine.pushBinary
  split
  · exact .ofOperator member (by simp [Operator.causes])
  · refine (draws.yieldTo operator position).andThen fun next _ after => ?_
    exact ⟨List.forall_mem_cons.mpr ⟨fun _ => member, after.operators⟩, after.groups⟩

/-- A closer is refused if no group of its own is open or an operand is due; else the faults are
those of the reductions. -/
theorem closeGroup (draws : machine.DrawsOn table) (member : operator ∈ table.operators)
    (position : Option Int) :
    (machine.closeGroup operator position).DrawsOn table (Fault.Arises table position) := by
  unfold Machine.closeGroup
  split
  · exact .ofOperator member (by simp [Operator.causes])
  · split
    · exact .ofOperator member (by simp [Operator.causes])
    · split
      · exact .ofOperator member (by simp [Operator.causes])
      · refine (draws.reduceWhile _ position).andThen fun next _ after => ?_
        exact ⟨fun operator member => after.operators operator (List.mem_of_mem_tail member),
          fun opener member => after.groups opener (List.mem_of_mem_tail member)⟩

/-- An operator of the table is blamed for its place, or a reduction fails. -/
theorem pushSymbol (draws : machine.DrawsOn table) (member : operator ∈ table.operators)
    (position : Option Int) :
    (machine.pushSymbol operator position).DrawsOn table (Fault.Arises table position) := by
  unfold Machine.pushSymbol Machine.pushOperator
  split
  · exact draws.closeGroup member position
  · split
    · exact draws.openGroup member position
    · exact draws.pushBinary member position

/-- A token is blamed for what goes wrong when it is taken in, unless its symbol is unknown. -/
theorem consume (draws : machine.DrawsOn table) {first : Token} {rest : TokenStream}
    (place : Int) :
    (machine.consume table first).DrawsOn table (Fault.Origin table place (.token first rest)) := by
  have blamed : ∀ fault : Fault, fault.Arises table (some first.position) →
      fault.Origin table place (.token first rest) :=
    fun _ arises => .token List.mem_cons_self arises
  cases first with
  | number value position => exact (draws.pushOperand value position).blaming blamed
  | symbol name position =>
      rw [Machine.consume, withOperator]
      rcases table.lookup_cases name with ⟨absent, unknown⟩ | ⟨operator, member, _, _, found⟩
      · rw [unknown]
        exact .unknown List.mem_cons_self absent
      · rw [found]
        exact (draws.pushSymbol member position).blaming blamed

/-- What is left at the end is a group of the table's, a value, or neither. -/
theorem conclude (draws : machine.DrawsOn table) (position : Option Int) :
    (machine.conclude position).DrawsOn table (Fault.Arises table position) := by
  unfold Machine.conclude
  split
  · rename_i opener outer opened
    exact .ofOperator (draws.groups opener (opened ▸ List.mem_cons_self))
      (by simp [Operator.causes])
  · split
    · split
      · exact draws
      · exact .ofMachine (by decide)
    · exact .ofMachine (by decide)

/-- The end of the input blames the place that it is given, unless the input is empty. -/
theorem finish (draws : machine.DrawsOn table) (position : Option Int) :
    (machine.finish position).DrawsOn table (Fault.Arises table position) := by
  rw [Machine.finish]
  split
  · exact .empty
  · split
    · exact .ofMachine (by decide)
    · exact (draws.yieldTo _ position).andThen fun next _ after => after.conclude position

/-- A run that fails blames what its fault comes from. -/
theorem run (draws : machine.DrawsOn table) (position : Int) (stream : TokenStream) :
    (machine.run table position stream).DrawsOn table (Fault.Origin table position stream) := by
  induction stream generalizing machine position with
  | done => exact (draws.finish position).blaming fun _ arises => .ended arises
  | failed fault => exact .broken rfl
  | token first rest ih =>
      refine (draws.consume position).andThen fun next _ after => ?_
      exact (ih after first.position).blaming fun _ origin => origin.cons

end DrawsOn

end Machine

/-- A fault of an evaluation has an origin in the stream of tokens. -/
theorem Evaluator.origin_of_runStream {evaluator : Evaluator} {stream : TokenStream}
    {fault : Fault} (fails : (evaluator.runStream stream).outcome = .error fault) :
    fault.Origin evaluator.table 0 stream := by
  have ends := (Machine.drawsOn_start evaluator.table).run 0 stream
  change (evaluator.runStream stream).DrawsOn _ _ at ends
  rw [Step.DrawsOn, Step.Ends, fails] at ends
  exact ends

end InfixCalculator
