import InfixCalculator.Proofs.Machine.Comparison
import InfixCalculator.Proofs.Machine.Fluency
import InfixCalculator.Proofs.Resemblance

/-!
# What a table decides

Tables that resemble each other evaluate alike (`Evaluator.evaluateTokens_resembling`): exchanging
the operators of a machine for their counterparts commutes with taking in a token
(`Machine.Fluent.consume_exchange`).  Only plain operators are ever compared or reduced, because an
opener on top of the operators opens the innermost group and so is a barrier.  Hence nothing counts
of a delimiter but its symbol and which group it opens or closes.
-/

namespace InfixCalculator

/-! ## Exchanging operators -/

/-- An attempt whose operator is exchanged; its operands and its result stay. -/
def Attempt.exchange (exchange : Operator → Operator) (attempt : Attempt) : Attempt :=
  { attempt with operator := exchange attempt.operator }

/-- Faults name operators by their symbols only. -/
theorem Attempt.outcome_exchange (table : OperatorTable) (attempt : Attempt)
    (position : Option Int) :
    (attempt.exchange table.counterpart).outcome position = attempt.outcome position := by
  simp only [outcome, exchange, OperatorTable.symbol_counterpart]

/-- An exchange of operators keeps the values that attempts put back. -/
theorem Attempt.value?_exchange (table : OperatorTable) (attempt : Attempt) :
    (attempt.exchange table.counterpart).value? = attempt.value? := by
  rw [value?, outcome_exchange, value?]

/-- A machine with other operators in place of its own. -/
def Machine.exchange (exchange : Operator → Operator) (machine : Machine) : Machine where
  operands := machine.operands
  operators := machine.operators.map exchange
  groups := machine.groups.map exchange
  expectsOperand := machine.expectsOperand
  attempts := machine.attempts.map (Attempt.exchange exchange)

/-- A step whose machine has its operators exchanged; its outcome stays. -/
def Step.exchange {α : Type} (exchange : Operator → Operator) (step : Step α) : Step α :=
  ⟨step.machine.exchange exchange, step.outcome⟩

/-- Steps in turn are exchanged in turn, if what is taken second is. -/
theorem Step.exchange_andThen {α β : Type} {exchange : Operator → Operator} {step : Step α}
    {next other : Machine → α → Step β}
    (agrees : ∀ value, step.outcome = .ok value →
      other (step.machine.exchange exchange) value = (next step.machine value).exchange exchange) :
    (step.exchange exchange).andThen other = (step.andThen next).exchange exchange := by
  rcases step with ⟨machine, fault | value⟩
  · rfl
  · exact agrees value rfl

namespace Machine

section Symbols

variable {table : OperatorTable} {machine : Machine}

/-- The trace shows operators by their symbols only. -/
theorem trace_exchange (table : OperatorTable) (machine : Machine) :
    (machine.exchange table.counterpart).trace = machine.trace := by
  have entry (attempt : Attempt) :
      Attempt.entry? (attempt.exchange table.counterpart) = Attempt.entry? attempt := by
    unfold Attempt.entry?
    rw [Attempt.value?_exchange]
    simp only [Attempt.exchange, OperatorTable.symbol_counterpart]
  unfold trace
  rw [exchange, ← List.map_reverse, List.filterMap_map]
  exact List.filterMap_congr fun attempt _ => entry attempt

/-- Counterparts are barriers where the operators are, because they have the same symbols. -/
theorem isBarrier_exchange (table : OperatorTable) (machine : Machine) (operator : Operator) :
    (machine.exchange table.counterpart).isBarrier (table.counterpart operator) =
      machine.isBarrier operator := by
  unfold isBarrier exchange
  cases machine.groups with
  | nil => simp
  | cons opener outer => simp

theorem isAtStart_exchange (table : OperatorTable) (machine : Machine) :
    (machine.exchange table.counterpart).isAtStart = machine.isAtStart := by
  unfold isAtStart exchange
  cases machine.operators with
  | nil => rfl
  | cons operator waiting => simp

theorem start_exchange (table : OperatorTable) :
    Machine.start.exchange table.counterpart = Machine.start := by
  simp only [exchange, start, List.map_cons, List.map_nil, OperatorTable.counterpart_start]

end Symbols

/-! ## Reductions -/

variable {scale : Int → Int} {first second : OperatorTable} {machine : Machine}
  {operator incoming : Operator} {waiting : List Operator} {due otherDue : Operator → Bool}
  {position : Option Int}

/-- A counterpart with the same rule is offered the same operands. -/
theorem Offers.exchange {attempt : Attempt} {operands : List Int}
    (offers : machine.Offers attempt waiting operands)
    (sameRule : (second.counterpart attempt.operator).rule = attempt.operator.rule) :
    (machine.exchange second.counterpart).Offers (attempt.exchange second.counterpart)
      (waiting.map second.counterpart) operands where
  operators := by rw [Machine.exchange, offers.operators, List.map_cons, Attempt.exchange]
  operands := offers.operands
  result := by rw [Attempt.exchange, sameRule, offers.result]

/-- What an attempt leaves behind can be exchanged before or after it. -/
theorem afterAttempt_exchange (table : OperatorTable) (machine : Machine) (attempt : Attempt)
    (waiting : List Operator) (operands : List Int) :
    (machine.exchange table.counterpart).afterAttempt (attempt.exchange table.counterpart)
        (waiting.map table.counterpart) operands =
      (machine.afterAttempt attempt waiting operands).exchange table.counterpart := by
  rw [afterAttempt, Attempt.value?_exchange]
  rfl

/-- A plain operator is reduced as its counterpart is. -/
theorem reduce_exchange (resembles : first.Resembles scale second)
    (top : machine.operators = operator :: waiting) (plain : first.HasPlain operator)
    (position : Option Int) :
    (machine.exchange second.counterpart).reduce position =
      (machine.reduce position).exchange second.counterpart := by
  have sameRule := (resembles.counterpart_resembles plain.member).rule plain.isPlain
  have otherTop : (machine.exchange second.counterpart).operators =
      second.counterpart operator :: waiting.map second.counterpart := by
    rw [exchange, top, List.map_cons]
  have sameOperands : (machine.exchange second.counterpart).operands = machine.operands := rfl
  cases ruled : operator.rule with
  | none =>
      have otherRuled := sameRule.trans ruled
      simp only [reduce, top, otherTop, ruled, otherRuled]
      rfl
  | some rule =>
      have otherRuled := sameRule.trans ruled
      cases pair : machine.operands with
      | nil =>
          simp only [reduce, top, otherTop, ruled, otherRuled, sameOperands, pair,
            OperatorTable.symbol_counterpart]
          rfl
      | cons right below =>
          cases below with
          | nil =>
              simp only [reduce, top, otherTop, ruled, otherRuled, sameOperands, pair,
                OperatorTable.symbol_counterpart]
              rfl
          | cons left operands =>
              have offers := offers_of_ready top ruled pair
              rw [reduce_of_offers offers, reduce_of_offers (offers.exchange sameRule),
                afterAttempt_exchange, Attempt.outcome_exchange]
              rfl

namespace Fluent

/-- Loops over waiting operators reduce the same ones, if their conditions agree. -/
theorem reduceWhile_exchange (fluent : machine.Fluent first)
    (resembles : first.Resembles scale second) (spares : machine.Spares first due)
    (agrees : ∀ (current : Machine) (operator : Operator) (waiting : List Operator),
      current.Fluent first → current.groups = machine.groups →
        current.operators = operator :: waiting →
          otherDue (second.counterpart operator) = due operator) :
    (machine.exchange second.counterpart).reduceWhile otherDue position =
      (machine.reduceWhile due position).exchange second.counterpart := by
  generalize stacked : machine.operators = stack
  induction stack generalizing machine with
  | nil => exact absurd stacked fluent.bottomed.ne_nil
  | cons operator waiting ih =>
      have same := agrees machine operator waiting fluent rfl stacked
      have otherStacked : (machine.exchange second.counterpart).operators =
          second.counterpart operator :: waiting.map second.counterpart := by
        rw [exchange, stacked, List.map_cons]
      by_cases holds : due operator = true
      · have waits := spares machine operator waiting fluent.toSound rfl stacked holds
        rw [reduceWhile_of_due stacked holds, reduceWhile_of_due otherStacked (same.trans holds),
          reduce_exchange resembles stacked (fluent.hasPlain_top stacked waits)]
        refine Step.exchange_andThen fun _ succeeds => ?_
        have sameGroups := machine.reduce_groups position
        refine ih (fluent.of_reduce stacked waits succeeds) ?_ ?_
          (operators_of_reduce stacked succeeds)
        · rwa [Spares, sameGroups]
        · rwa [sameGroups]
      · have fails : due operator = false := Bool.eq_false_iff.mpr holds
        rw [reduceWhile_of_not_due stacked fails,
          reduceWhile_of_not_due otherStacked (same.trans fails)]
        rfl

/-- The same operators yield to incoming operators that are outranked alike. -/
theorem yieldTo_exchange (fluent : machine.Fluent first)
    (resembles : first.Resembles scale second) {other : Operator}
    (agrees : ∀ operator, first.HasPlain operator →
      (second.counterpart operator).outranks other = operator.outranks incoming)
    (position : Option Int) :
    (machine.exchange second.counterpart).yieldTo other position =
      (machine.yieldTo incoming position).exchange second.counterpart := by
  refine fluent.reduceWhile_exchange resembles (spares_yielding first machine incoming) ?_
  intro current operator waiting currentFluent sameGroups top
  rw [isBarrier_exchange]
  -- A barrier is never compared; anything else on top is plain.
  cases barred : machine.isBarrier operator with
  | true => rfl
  | false =>
      have spares : machine.Spares first fun operator => !machine.isBarrier operator :=
        spares_of_unbarred fun _ holds => Bool.not_inj holds
      have waits := spares current operator waiting currentFluent.toSound sameGroups top
        (congrArg not barred)
      rw [agrees operator (currentFluent.hasPlain_top top waits)]

/-! ## Transitions -/

/-- A number is taken in alike, for it meets no operator. -/
theorem pushOperand_exchange (table : OperatorTable) (machine : Machine) (value : Int)
    (position : Option Int) :
    (machine.exchange table.counterpart).pushOperand value position =
      (machine.pushOperand value position).exchange table.counterpart := by
  unfold Machine.pushOperand
  rw [show (machine.exchange table.counterpart).expectsOperand = machine.expectsOperand from rfl]
  split
  · split
    · rfl
    · rfl
  · rfl

/-- Openers are not looked at beyond their symbols when they are pushed. -/
theorem openGroup_exchange (table : OperatorTable) (machine : Machine) (opener : Operator)
    (position : Option Int) :
    (machine.exchange table.counterpart).openGroup (table.counterpart opener) position =
      (machine.openGroup opener position).exchange table.counterpart := by
  unfold Machine.openGroup
  rw [show (machine.exchange table.counterpart).expectsOperand = machine.expectsOperand from rfl,
    OperatorTable.symbol_counterpart]
  split
  · rfl
  · rfl

/-- Counterparts yield to a counterpart just as the operators do, so the same are reduced. -/
theorem pushBinary_exchange (fluent : machine.Fluent first)
    (resembles : first.Resembles scale second) (plain : first.HasPlain operator)
    (position : Option Int) :
    (machine.exchange second.counterpart).pushBinary (second.counterpart operator) position =
      (machine.pushBinary operator position).exchange second.counterpart := by
  unfold Machine.pushBinary
  rw [show (machine.exchange second.counterpart).expectsOperand = machine.expectsOperand from rfl,
    OperatorTable.symbol_counterpart]
  split
  · rfl
  · rw [fluent.yieldTo_exchange resembles
      (fun waiting other => resembles.outranks_counterpart other plain)]
    exact Step.exchange_andThen fun _ _ => rfl

theorem removeOpener_exchange (table : OperatorTable) (machine : Machine) :
    { machine.exchange table.counterpart with
      operators := (machine.exchange table.counterpart).operators.tail
      groups := (machine.exchange table.counterpart).groups.tail } =
      Machine.exchange table.counterpart { machine with
        operators := machine.operators.tail
        groups := machine.groups.tail } := by
  simp only [exchange, List.map_tail]

/-- A closer reduces down to the symbol of its opener, and symbols are the same. -/
theorem closeGroup_exchange (fluent : machine.Fluent first)
    (resembles : first.Resembles scale second) {closer : Operator}
    (member : closer ∈ first.operators) (position : Option Int) :
    (machine.exchange second.counterpart).closeGroup (second.counterpart closer) position =
      (machine.closeGroup closer position).exchange second.counterpart := by
  have samePairing := (resembles.counterpart_resembles member).pairedOpener
  unfold Machine.closeGroup
  rw [show (machine.exchange second.counterpart).expectsOperand = machine.expectsOperand from rfl,
    show (machine.exchange second.counterpart).groups =
      machine.groups.map second.counterpart from rfl, samePairing]
  cases innermost : machine.groups with
  | nil =>
      simp only [List.map_nil, OperatorTable.symbol_counterpart]
      rfl
  | cons opener outer =>
      simp only [List.map_cons, OperatorTable.symbol_counterpart]
      split
      · rfl
      · split
        · rfl
        · rw [fluent.reduceWhile_exchange resembles (spares_closing innermost)]
          · exact Step.exchange_andThen fun _ _ =>
              congrArg Step.done (removeOpener_exchange second _)
          · intro current operator waiting _ _ _
            simp only [OperatorTable.symbol_counterpart]

/-- Any operator of the table is taken in alike. -/
theorem pushSymbol_exchange (fluent : machine.Fluent first)
    (resembles : first.Resembles scale second) (member : operator ∈ first.operators)
    (position : Option Int) :
    (machine.exchange second.counterpart).pushSymbol (second.counterpart operator) position =
      (machine.pushSymbol operator position).exchange second.counterpart := by
  unfold Machine.pushSymbol Machine.pushOperator
  rw [resembles.closesGroup_counterpart member,
    (resembles.counterpart_resembles member).opensGroup]
  split
  · exact fluent.closeGroup_exchange resembles member position
  · rename_i closes
    rw [Bool.not_eq_true] at closes
    split
    · exact openGroup_exchange second machine operator position
    · rename_i opens
      rw [Bool.not_eq_true] at opens
      exact fluent.pushBinary_exchange resembles
        ⟨member, by rw [Operator.isPlain, opens, closes]; rfl⟩ position

/-- A token is taken in with either table alike. -/
theorem consume_exchange (fluent : machine.Fluent first)
    (resembles : first.Resembles scale second) (token : Token) :
    (machine.exchange second.counterpart).consume second token =
      (machine.consume first token).exchange second.counterpart := by
  cases token with
  | number value place => exact pushOperand_exchange second machine value (some place)
  | symbol name place =>
      rw [Machine.consume, Machine.consume, withOperator, withOperator]
      rcases first.lookup_cases name with ⟨absent, unknown⟩ | ⟨operator, member, rfl, _, found⟩
      · rw [unknown, OperatorTable.lookup, resembles.find?_eq_none absent]
        rfl
      · rw [found, OperatorTable.lookup, resembles.find?_symbol member]
        exact fluent.pushSymbol_exchange resembles member (some place)

/-- What is left at the end is judged by symbols alone. -/
theorem conclude_exchange (table : OperatorTable) (machine : Machine) (position : Option Int) :
    (machine.exchange table.counterpart).conclude position =
      (machine.conclude position).exchange table.counterpart := by
  unfold Machine.conclude
  rw [isAtStart_exchange, show (machine.exchange table.counterpart).groups =
    machine.groups.map table.counterpart from rfl,
    show (machine.exchange table.counterpart).operands = machine.operands from rfl]
  cases machine.groups with
  | nil =>
      simp only [List.map_nil]
      split
      · split
        · rfl
        · rfl
      · rfl
  | cons opener outer =>
      simp only [List.map_cons, OperatorTable.symbol_counterpart]
      rfl

/-- The end of the input reduces counterparts where it reduces operators. -/
theorem finish_exchange (fluent : machine.Fluent first)
    (resembles : first.Resembles scale second) (position : Option Int) :
    (machine.exchange second.counterpart).finish position =
      (machine.finish position).exchange second.counterpart := by
  rw [Machine.finish, Machine.finish,
    show (machine.exchange second.counterpart).expectsOperand = machine.expectsOperand from rfl,
    show (machine.exchange second.counterpart).operands = machine.operands from rfl,
    show (machine.exchange second.counterpart).operators.length = machine.operators.length from
      List.length_map _]
  split
  · rfl
  · split
    · rfl
    · rw [fluent.yieldTo_exchange resembles fun _ plain => resembles.outranks_finish plain]
      exact Step.exchange_andThen fun _ _ => conclude_exchange second _ position

/-- A run goes alike with either table. -/
theorem run_exchange (fluent : machine.Fluent first) (resembles : first.Resembles scale second)
    (place : Int) (stream : TokenStream) :
    (machine.exchange second.counterpart).run second place stream =
      (machine.run first place stream).exchange second.counterpart := by
  induction stream generalizing machine place with
  | done => exact fluent.finish_exchange resembles (some place)
  | failed fault => rfl
  | token token rest ih =>
      have ends := fluent.consume token
      rw [Machine.run, Machine.run, fluent.consume_exchange resembles token]
      refine Step.exchange_andThen fun _ succeeds => ?_
      rw [Step.Ends, succeeds] at ends
      exact ih ends token.position

end Fluent

end Machine

/-! ## Evaluations -/

/-- **What a table decides.** Tables that resemble each other evaluate every list of tokens alike:
with the same value or the same fault, its message and position included, and with the same trace.
So priorities count only in their order, `none` is as good as `left`, and nothing counts of a
delimiter but which group it opens or closes. -/
theorem Evaluator.evaluateTokens_resembling {scale : Int → Int} {first second : OperatorTable}
    (resembles : first.Resembles scale second) (delimiters : Delimiters) (tokens : List Token) :
    (Evaluator.mk second delimiters).evaluateTokens tokens =
        (Evaluator.mk first delimiters).evaluateTokens tokens ∧
      (Evaluator.mk second delimiters).tokenTrace tokens =
        (Evaluator.mk first delimiters).tokenTrace tokens := by
  have alike : (Evaluator.mk second delimiters).runTokens tokens =
      ((Evaluator.mk first delimiters).runTokens tokens).exchange second.counterpart := by
    have run := (Machine.fluent_start first).run_exchange resembles 0 (.ofList tokens)
    rwa [Machine.start_exchange] at run
  constructor
  · rw [evaluateTokens, alike]
    rfl
  · rw [tokenTrace, alike]
    exact Machine.trace_exchange second _

/-- Powers still bind most and differences still go from left to right when priorities are ten
times as far apart: `9-4-(1+1)^2` is one. -/
theorem evaluateTokens_resembling_rescaled :
    let scale : Int → Int := fun priority => 10 * priority - 9
    OperatorTable.standard.Resembles scale (OperatorTable.standard.rescale scale) ∧
      (Evaluator.mk (OperatorTable.standard.rescale scale) .standard).evaluateTokens
        [.number 9 0, .symbol "-" 1, .number 4 2, .symbol "-" 3, .symbol "(" 4, .number 1 5,
          .symbol "+" 6, .number 1 7, .symbol ")" 8, .symbol "^" 9, .number 2 10] = .ok 1 := by
  intro scale
  have increasing : StrictMono scale := fun lower upper less => by
    change 10 * lower - 9 < 10 * upper - 9
    omega
  have resembles := OperatorTable.standard.resembles_rescale increasing rfl
  refine ⟨resembles, ?_⟩
  rw [(Evaluator.evaluateTokens_resembling resembles .standard _).1]
  decide

end InfixCalculator
