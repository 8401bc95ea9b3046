import InfixCalculator.Proofs.Machine.Aftermath

/-!
# Structural faults

Where a token may not stand, a fault is found without looking at any value: it is enough to
know whether an operand is due and which groups are open.  An `Outline` keeps just that, and
`Outline.verdict` reads a list of tokens with it.

On tables whose binary operators are the standard ones and bind more than the end of the
input, only arithmetic can forestall the verdict, and only the arithmetic that comes before
it (`Machine.beforeVerdict`): that of the tokens before the first fault and, if all tokens may
stand and no operand is due behind them, that of the last reductions.  If it succeeds, the
evaluation raises the fault of the verdict, or returns a value if there is none
(`Evaluator.evaluateTokens_of_verdict`).

The invariant is that of fluent machines: they are sound, hold no closer and have never
failed, so every waiting operator has its two operands when it is reduced.
-/

namespace InfixCalculator

/-- What a list of tokens leaves open, whatever the values. -/
structure Outline where
  expectsOperand : Bool
  /-- The symbols of the open groups, the innermost first. -/
  openers : List String
deriving DecidableEq, Repr

namespace Outline

/-- The outline before the first token. -/
def start : Outline :=
  ⟨true, []⟩

/-- Takes in an operator of the table. -/
def scanOperator (outline : Outline) (operator : Operator) (position : Int) :
    Except Fault Outline :=
  if operator.closesGroup then
    if operator.pairedOpener ≠ outline.openers.head? then
      .error ⟨.closerWithoutOpener operator.symbol operator.pairedOpener, some position⟩
    else if outline.expectsOperand then
      .error ⟨.operandDueBefore operator.symbol, some position⟩
    else .ok { outline with openers := outline.openers.tail }
  else if operator.opensGroup then
    if outline.expectsOperand then
      .ok { outline with openers := operator.symbol :: outline.openers }
    else .error ⟨.operatorDueBefore operator.symbol, some position⟩
  else if outline.expectsOperand then
    .error ⟨.operandDueBefore operator.symbol, some position⟩
  else .ok { outline with expectsOperand := true }

/-- Takes in a token. -/
def scan (table : OperatorTable) (outline : Outline) : Token → Except Fault Outline
  | .number _ position =>
      if outline.expectsOperand then .ok { outline with expectsOperand := false }
      else .error ⟨.operatorDueBeforeNumber, some position⟩
  | .symbol symbol position =>
      match table.find? symbol with
      | none => .error ⟨.unknownSymbol symbol, none⟩
      | some operator => outline.scanOperator operator position

/-- Takes in a list of tokens up to the first fault. -/
def scanAll (table : OperatorTable) (outline : Outline) : List Token → Except Fault Outline
  | [] => .ok outline
  | first :: rest =>
      match outline.scan table first with
      | .ok next => next.scanAll table rest
      | .error fault => .error fault

/-- The tokens before the first fault. -/
def accepted (table : OperatorTable) (outline : Outline) : List Token → List Token
  | [] => []
  | first :: rest =>
      match outline.scan table first with
      | .ok next => first :: next.accepted table rest
      | .error _ => []

/-- Ends the input behind the token at a given position. -/
def finish (outline : Outline) : Option Int → Except Fault Unit
  | none => .error ⟨.emptyExpression, none⟩
  | some position =>
      if outline.expectsOperand then .error ⟨.operandDueAtEnd, some position⟩
      else
        match outline.openers with
        | opener :: _ => .error ⟨.groupLeftOpen opener, some position⟩
        | [] => .ok ()

/-- The first structural fault of a list of tokens, if there is one. -/
def verdict (table : OperatorTable) (tokens : List Token) : Except Fault Unit :=
  match start.scanAll table tokens with
  | .ok last => last.finish (tokens.getLast?.map Token.position)
  | .error fault => .error fault

end Outline

/-- A cause that blames the stacks of the machine and not the expression. -/
def Cause.blamesStacks : Cause → Bool
  | .nothingToReduce | .operandsMissing _ | .malformedExpression => true
  | _ => false

/-- Standard rules are rules. -/
theorem OperatorTable.IsArithmetic.isRuled {table : OperatorTable}
    (arithmetic : table.IsArithmetic) : table.IsRuled := by
  intro operator member plain
  obtain ⟨_, operation, ruled⟩ := arithmetic operator member plain
  exact Option.isSome_iff_exists.mpr ⟨operation.rule, ruled⟩

namespace Machine

/-- The outline of a machine. -/
def outline (machine : Machine) : Outline :=
  ⟨machine.expectsOperand, machine.groups.map Operator.symbol⟩

@[simp] theorem outline_expectsOperand (machine : Machine) :
    machine.outline.expectsOperand = machine.expectsOperand := rfl

/-- A machine that has taken in a token holds an operand or an operator. -/
def Begun (machine : Machine) : Prop :=
  machine.operands ≠ [] ∨ machine.operators.length ≠ 1

variable {table : OperatorTable} {machine : Machine} {operator opener : Operator}

theorem begun_of_cons {waiting : List Operator} (top : machine.operators = operator :: waiting)
    (below : waiting ≠ []) : machine.Begun := by
  right
  rw [top, List.length_cons]
  have positive := List.length_pos_iff.mpr below
  omega

namespace Fluent

/-- Where an operator is due, there is an operand before it. -/
theorem begun (fluent : machine.Fluent table) (expects : machine.expectsOperand = false) :
    machine.Begun := by
  left
  intro empty
  have balance := fluent.balance
  rw [fluent.unfailed, empty, expects] at balance
  simp at balance

end Fluent

/-- A step on a token does what the outline says of it: it raises the structural fault, or
it leaves a fluent machine of the next outline unless arithmetic fails. -/
def Follows (table : OperatorTable) (step : Step Unit) : Except Fault Outline → Prop
  | .ok next =>
      step.Ends (fun after _ => after.Fluent table ∧ after.outline = next ∧ after.Begun)
        Fault.IsArithmetic
  | .error fault => step.outcome = .error fault

namespace Fluent

/-- A number follows the outline, unless it is too large. -/
theorem pushOperand_follows (fluent : machine.Fluent table) (value position : Int) :
    Follows table (machine.pushOperand value (some position))
      (machine.outline.scan table (.number value position)) := by
  rw [Machine.pushOperand, Outline.scan, outline_expectsOperand]
  by_cases expects : machine.expectsOperand = true
  · rw [if_pos expects, if_pos expects]
    by_cases small : fits value = true
    · rw [if_pos small]
      exact ⟨fluent.addOperand expects small, rfl, Or.inl (List.cons_ne_nil _ _)⟩
    · rw [if_neg small]
      exact Or.inr rfl
  · rw [if_neg expects, if_neg expects]
    rfl

/-- An opener follows the outline, for it brings no reduction about. -/
theorem openGroup_follows (fluent : machine.Fluent table) (member : operator ∈ table.operators)
    (opens : operator.opensGroup = true) (closes : operator.closesGroup = false)
    (position : Int) :
    Follows table (machine.openGroup operator (some position))
      (machine.outline.scanOperator operator position) := by
  rw [Machine.openGroup, Outline.scanOperator, outline_expectsOperand,
    if_neg (Bool.eq_false_iff.mp closes), if_pos opens]
  by_cases expects : machine.expectsOperand = true
  · rw [if_pos expects, if_pos expects]
    exact ⟨fluent.addOpener member opens closes, rfl, begun_of_cons rfl fluent.bottomed.ne_nil⟩
  · rw [if_neg expects, if_neg expects]
    rfl

/-- A binary operator follows the outline, unless what it makes yield fails. -/
theorem pushBinary_follows (fluent : machine.Fluent table) (arithmetic : table.IsArithmetic)
    (member : operator ∈ table.operators) (opens : operator.opensGroup = false)
    (closes : operator.closesGroup = false) (position : Int) :
    Follows table (machine.pushBinary operator (some position))
      (machine.outline.scanOperator operator position) := by
  rw [Outline.scanOperator, outline_expectsOperand, if_neg (Bool.eq_false_iff.mp closes),
    if_neg (Bool.eq_false_iff.mp opens)]
  unfold Machine.pushBinary
  by_cases expects : machine.expectsOperand = true
  · rw [if_pos expects, if_pos expects]
    rfl
  · rw [if_neg expects, if_neg expects]
    rw [Bool.not_eq_true] at expects
    have plain : table.HasPlain operator := ⟨member, by rw [Operator.isPlain, opens, closes]; rfl⟩
    have ends := fluent.yieldTo operator
      (expects ▸ reductionsBlame_arithmetic arithmetic (some position))
    generalize machine.yieldTo operator (some position) = step at ends ⊢
    rcases step with ⟨next, fault | value⟩
    · exact ends
    · obtain ⟨nextFluent, sameGroups, sameExpects, rests⟩ := ends
      refine ⟨nextFluent.addOperator (sameExpects.trans expects) plain rests, ?_, ?_⟩
      · exact congrArg (fun groups => Outline.mk true (groups.map Operator.symbol)) sameGroups
      · exact begun_of_cons rfl nextFluent.bottomed.ne_nil

/-- A closer follows the outline, unless the reduction of its group fails. -/
theorem closeGroup_follows (fluent : machine.Fluent table) (arithmetic : table.IsArithmetic)
    (closes : operator.closesGroup = true) (position : Int) :
    Follows table (machine.closeGroup operator (some position))
      (machine.outline.scanOperator operator position) := by
  rw [Outline.scanOperator, outline_expectsOperand, if_pos closes]
  unfold Machine.closeGroup
  cases innermost : machine.groups with
  | nil =>
      have noOpener : machine.outline.openers.head? = none := by
        rw [outline, innermost]
        rfl
      have mismatch : operator.pairedOpener ≠ machine.outline.openers.head? := by
        rw [noOpener]
        exact Option.isSome_iff_ne_none.mp closes
      rw [if_pos mismatch]
      rfl
  | cons opener outer =>
      have innermostSymbol : machine.outline.openers.head? = some opener.symbol := by
        rw [outline, innermost]
        rfl
      simp only [innermostSymbol]
      by_cases mismatch : operator.pairedOpener ≠ some opener.symbol
      · rw [if_pos mismatch, if_pos mismatch]
        rfl
      · rw [if_neg mismatch, if_neg mismatch]
        by_cases expects : machine.expectsOperand = true
        · rw [if_pos expects, if_pos expects]
          rfl
        · rw [if_neg expects, if_neg expects]
          rw [Bool.not_eq_true] at expects
          have opens := (fluent.opensFrom opener (innermost ▸ List.mem_cons_self)).2
          have ends := fluent.closing innermost
            (expects ▸ reductionsBlame_arithmetic arithmetic (some position))
          generalize machine.reduceWhile _ (some position) = step at ends ⊢
          rcases step with ⟨next, fault | value⟩
          · exact ends
          · obtain ⟨nextFluent, sameGroups, sameExpects, waiting, top⟩ := ends
            have after := nextFluent.removeOpener top opens
            refine ⟨after, ?_, after.begun (sameExpects.trans expects)⟩
            change Outline.mk next.expectsOperand (next.groups.tail.map Operator.symbol) =
              ⟨machine.expectsOperand, (machine.groups.map Operator.symbol).tail⟩
            rw [sameGroups, sameExpects, List.map_tail]

/-- A fluent machine follows its outline on every token. -/
theorem consume_follows (fluent : machine.Fluent table) (arithmetic : table.IsArithmetic)
    (token : Token) :
    Follows table (machine.consume table token) (machine.outline.scan table token) := by
  cases token with
  | number value position => exact fluent.pushOperand_follows value position
  | symbol symbol position =>
      rw [Machine.consume, withOperator, Outline.scan]
      rcases table.lookup_cases symbol with
        ⟨unknown, refused⟩ | ⟨operator, member, _, known, found⟩
      · rw [refused, unknown]
        rfl
      · rw [found, known]
        simp only
        unfold Machine.pushSymbol
        by_cases closes : operator.closesGroup = true
        · rw [if_pos closes]
          exact fluent.closeGroup_follows arithmetic closes position
        · rw [if_neg closes]
          rw [Bool.not_eq_true] at closes
          unfold Machine.pushOperator
          by_cases opens : operator.opensGroup = true
          · rw [if_pos opens]
            exact fluent.openGroup_follows member opens closes position
          · rw [if_neg opens]
            rw [Bool.not_eq_true] at opens
            exact fluent.pushBinary_follows arithmetic member opens closes position

/-- While its outline finds no fault, a fluent machine goes on, or arithmetic fails. -/
theorem consumeAll_of_scanAll {tokens : List Token} {last : Outline}
    (fluent : machine.Fluent table) (arithmetic : table.IsArithmetic)
    (begun : machine.Begun ∨ tokens ≠ [])
    (scans : machine.outline.scanAll table tokens = .ok last) :
    (machine.consumeAll table tokens).Ends
      (fun after _ => after.Fluent table ∧ after.outline = last ∧ after.Begun)
      Fault.IsArithmetic := by
  induction tokens generalizing machine with
  | nil =>
      cases scans
      exact ⟨fluent, rfl, begun.resolve_right fun nonempty => nonempty rfl⟩
  | cons token rest ih =>
      rw [Outline.scanAll] at scans
      have follows := fluent.consume_follows arithmetic token
      cases first : machine.outline.scan table token with
      | error fault =>
          rw [first] at scans
          cases scans
      | ok next =>
          rw [first] at scans follows
          rw [Follows] at follows
          rw [Machine.consumeAll]
          apply follows.andThen
          intro after _ reached
          obtain ⟨afterFluent, sameOutline, afterBegun⟩ := reached
          exact ih afterFluent (Or.inl afterBegun) (sameOutline ▸ scans)

/-- Where its outline finds a fault, a fluent machine raises it, unless arithmetic fails on the
tokens before. -/
theorem consumeAll_of_fault {tokens : List Token} {fault : Fault}
    (fluent : machine.Fluent table) (arithmetic : table.IsArithmetic)
    (fails : machine.outline.scanAll table tokens = .error fault) :
    (machine.consumeAll table (machine.outline.accepted table tokens)).Ends
      (fun _ _ => (machine.consumeAll table tokens).outcome = .error fault)
      fun earlier =>
        earlier.IsArithmetic ∧ (machine.consumeAll table tokens).outcome = .error earlier := by
  induction tokens generalizing machine with
  | nil => cases fails
  | cons token rest ih =>
      rw [Outline.scanAll] at fails
      have follows := fluent.consume_follows arithmetic token
      rw [Machine.consumeAll, Outline.accepted]
      cases first : machine.outline.scan table token with
      | error found =>
          rw [first] at fails follows
          cases fails
          exact Step.andThen_outcome_of_error follows _
      | ok next =>
          rw [first] at fails follows
          rw [Follows] at follows
          simp only [Machine.consumeAll]
          generalize machine.consume table token = step at follows ⊢
          rcases step with ⟨after, earlier | value⟩
          · exact ⟨follows, rfl⟩
          · obtain ⟨afterFluent, sameOutline, _⟩ := follows
            rw [← sameOutline] at fails ⊢
            exact ih afterFluent fails

/-- What is left of a fluent machine without open groups is its value. -/
theorem operators_of_rest (fluent : machine.Fluent table) (arithmetic : table.IsArithmetic)
    (closed : machine.groups = [])
    (rests : ∀ operator waiting, machine.operators = operator :: waiting →
      operator.isWaiting = true → operator.outranks Operator.finish = false) :
    machine.operators = [Operator.start] := by
  cases stacked : machine.operators with
  | nil => exact absurd stacked fluent.bottomed.ne_nil
  | cons operator waiting =>
      by_cases other : operator = Operator.start
      · rw [other] at stacked ⊢
        rw [fluent.waiting_of_start stacked]
      · exfalso
        have member := fluent.top_mem stacked other
        have opens : operator.opensGroup = false := by
          by_contra opens
          have innermost := fluent.groups_of_opener stacked (Bool.not_eq_false _ ▸ opens)
          rw [closed] at innermost
          cases innermost
        have waits : operator.isWaiting = true := by
          rw [table.isWaiting_of_mem member, opens]
          rfl
        have plain := (fluent.hasPlain_top stacked waits).isPlain
        have binds := (arithmetic operator member plain).1
        have outranked := rests operator waiting stacked waits
        unfold Operator.outranks at outranked
        split at outranked
        · rw [decide_eq_false_iff_not] at outranked
          exact outranked binds
        · rw [decide_eq_false_iff_not] at outranked
          exact outranked (Int.le_of_lt binds)

end Fluent

/-! ## Where arithmetic faults come from -/

/-- A step accounts for an arithmetic fault: the latest application of a rule came to it, or an
operand was too large. -/
def Explains (step : Step Unit) (fault : Fault) : Prop :=
  fault.cause = .operandTooLarge ∨
    ∃ attempt position, step.machine.attempts.head? = some attempt ∧
      attempt.outcome position = .error fault

/-- A reduction is broken off by the attempt that it has just made. -/
theorem explains_of_breaksOff {due : Operator → Bool} {position : Option Int} {after : Machine}
    {fault : Fault} (broken : BreaksOff due position machine after fault) :
    Explains ⟨after, .error fault⟩ fault := by
  obtain ⟨reached, attempt, waiting, operands, _, _, _, fails, rfl⟩ := broken
  exact Or.inr ⟨attempt, position, rfl, fails⟩

/-- A token that is refused for an arithmetic reason is too large an operand. -/
theorem explains_of_refusal {step : Step Unit} {cause : Cause} {position : Option Int}
    (refusal : cause.isRefusal = true) (computed : Fault.IsArithmetic ⟨cause, position⟩) :
    Explains step ⟨cause, position⟩ := by
  left
  by_contra other
  exact Cause.not_reduction_of_isRefusal refusal (computed.imp_right fun large => ⟨large, other⟩)

namespace Fluent

/-- A token that is not taken in for an arithmetic reason leaves the reason behind. -/
theorem explains_of_consume {token : Token} {after : Machine} {fault : Fault}
    (fluent : machine.Fluent table) (ruled : table.IsRuled)
    (fails : machine.consume table token = ⟨after, .error fault⟩)
    (computed : fault.IsArithmetic) : Explains ⟨after, .error fault⟩ fault := by
  cases fluent.consume_fails ruled fails with
  | unknown absent =>
      rcases computed with zero | large
      · cases zero
      · cases large
  | number refusal => exact explains_of_refusal refusal computed
  | symbol member failure =>
      cases failure with
      | refused refusal => exact explains_of_refusal refusal computed
      | brokenOff expects broken => exact explains_of_breaksOff broken

/-- Tokens that cannot all be taken in for an arithmetic reason leave the reason behind. -/
theorem explains_of_consumeAll {tokens : List Token} {fault : Fault}
    (fluent : machine.Fluent table) (ruled : table.IsRuled)
    (fails : (machine.consumeAll table tokens).outcome = .error fault)
    (computed : fault.IsArithmetic) : Explains (machine.consumeAll table tokens) fault := by
  induction tokens generalizing machine with
  | nil => cases fails
  | cons token rest ih =>
      rw [Machine.consumeAll] at fails ⊢
      have ends := fluent.consume token
      cases taken : machine.consume table token with
      | mk after outcome =>
          rw [taken] at fails ends
          cases outcome with
          | error found =>
              cases fails
              exact fluent.explains_of_consume ruled taken computed
          | ok value => exact ih ends fails

end Fluent

/-! ## The end of the input -/

/-- What an evaluation computes before the verdict on its tokens can fall.  If a token is at fault,
it takes in the tokens before it.  Otherwise it takes in all tokens and, unless an operand is due
behind the last one, makes the reductions of the end of the input. -/
def beforeVerdict (table : OperatorTable) (tokens : List Token) : Step Unit :=
  match Outline.start.scanAll table tokens with
  | .error _ => start.consumeAll table (Outline.start.accepted table tokens)
  | .ok last =>
      (start.consumeAll table tokens).andThen fun reached _ =>
        if last.expectsOperand then .done reached
        else reached.yieldTo .finish (tokens.getLast?.map Token.position)

/-- What comes first decides: if the computation before a verdict fails, it fails in arithmetic,
and this is the outcome.  Otherwise the outcome is the fault of the verdict or, if there is none,
the only operand that the computation leaves. -/
def Decides (computed : Step Unit) (verdict : Except Fault Unit) (outcome : Except Fault Int) :
    Prop :=
  match computed.outcome, verdict with
  | .error earlier, _ =>
      earlier.IsArithmetic ∧ Explains computed earlier ∧ outcome = .error earlier
  | .ok (), .error fault => outcome = .error fault
  | .ok (), .ok () => ∃ value, computed.machine.operands = [value] ∧ outcome = .ok value

namespace Fluent

/-- The end of the input does what the outline says of it, unless its reductions fail. -/
theorem finish_follows (fluent : machine.Fluent table) (arithmetic : table.IsArithmetic)
    (begun : machine.Begun) (position : Int) :
    Decides (if machine.expectsOperand then .done machine
        else machine.yieldTo Operator.finish (some position))
      (machine.outline.finish (some position)) (machine.finish (some position)).outcome := by
  have notEmpty : ¬ (machine.operands.isEmpty && machine.operators.length == 1) = true := by
    rw [Bool.and_eq_true, List.isEmpty_iff, beq_iff_eq]
    intro untouched
    exact begun.elim (fun operand => operand untouched.1) fun operator => operator untouched.2
  rw [Outline.finish, outline_expectsOperand, Machine.finish, if_neg notEmpty]
  by_cases expects : machine.expectsOperand = true
  · rw [if_pos expects, if_pos expects, if_pos expects]
    rfl
  · rw [if_neg expects, if_neg expects, if_neg expects]
    rw [Bool.not_eq_true] at expects
    have ends := fluent.yieldTo Operator.finish
      (expects ▸ reductionsBlame_arithmetic arithmetic (some position))
    have explains : ∀ after fault,
        machine.yieldTo Operator.finish (some position) = ⟨after, .error fault⟩ →
          Explains ⟨after, .error fault⟩ fault :=
      fun _ _ fails => explains_of_breaksOff (fluent.breaksOff arithmetic.isRuled expects
        (spares_yielding table machine Operator.finish) fails)
    generalize machine.yieldTo Operator.finish (some position) = step at ends explains ⊢
    rcases step with ⟨next, fault | value⟩
    · exact ⟨ends, explains next fault rfl, rfl⟩
    · obtain ⟨nextFluent, sameGroups, sameExpects, rests⟩ := ends
      rw [outline, Step.andThen_ok, Machine.conclude]
      simp only
      rw [← sameGroups]
      -- With all groups closed, only the sentinel is left, and the balance leaves one operand.
      cases groups : next.groups with
      | cons opener outer => rfl
      | nil =>
          have bare := nextFluent.operators_of_rest arithmetic groups rests
          have balance := nextFluent.balance
          rw [nextFluent.unfailed, bare, sameExpects.trans expects] at balance
          have single : next.operands.length = 1 := balance
          obtain ⟨result, left⟩ := List.length_eq_one_iff.mp single
          have atStart : next.isAtStart = true := by
            rw [isAtStart, bare]
            rfl
          simp only [List.map_nil, left, atStart, if_true]
          exact ⟨result, left, rfl⟩

end Fluent

end Machine

namespace Outline

theorem scan_blames {table : OperatorTable} {outline : Outline} {token : Token} {fault : Fault}
    (fails : outline.scan table token = .error fault) : fault.cause.blamesStacks = false := by
  cases token with
  | number value position =>
      rw [scan] at fails
      split at fails
      · cases fails
      · cases fails
        rfl
  | symbol symbol position =>
      rw [scan] at fails
      split at fails
      · cases fails
        rfl
      · unfold scanOperator at fails
        -- Each branch either goes on or raises one fault of its own.
        split at fails <;> split at fails <;> (try split at fails) <;> cases fails <;> rfl

theorem scanAll_blames {table : OperatorTable} {outline : Outline} {tokens : List Token}
    {fault : Fault} (fails : outline.scanAll table tokens = .error fault) :
    fault.cause.blamesStacks = false := by
  induction tokens generalizing outline with
  | nil => cases fails
  | cons token rest ih =>
      rw [scanAll] at fails
      cases first : outline.scan table token with
      | error found =>
          rw [first] at fails
          cases fails
          exact scan_blames first
      | ok next =>
          rw [first] at fails
          exact ih fails

theorem finish_blames {outline : Outline} {last : Option Int} {fault : Fault}
    (fails : outline.finish last = .error fault) : fault.cause.blamesStacks = false := by
  cases last with
  | none =>
      cases fails
      rfl
  | some position =>
      rw [finish] at fails
      split at fails
      · cases fails
        rfl
      · split at fails
        · cases fails
          rfl
        · cases fails

/-- No verdict blames the stacks of the machine. -/
theorem verdict_blames {table : OperatorTable} {tokens : List Token} {fault : Fault}
    (fails : verdict table tokens = .error fault) : fault.cause.blamesStacks = false := by
  unfold verdict at fails
  cases scans : start.scanAll table tokens with
  | error found =>
      rw [scans] at fails
      cases fails
      exact scanAll_blames scans
  | ok last =>
      rw [scans] at fails
      exact finish_blames fails

end Outline

theorem Fault.IsArithmetic.blames {fault : Fault} (arithmetic : fault.IsArithmetic) :
    fault.cause.blamesStacks = false := by
  obtain ⟨cause, position⟩ := fault
  unfold IsArithmetic kind at arithmetic
  cases cause <;> simp [Cause.kind, Cause.blamesStacks] at *

/-- An outcome blames the stacks only if the verdict does. -/
theorem Machine.Decides.blames {computed : Step Unit} {verdict : Except Fault Unit}
    {outcome : Except Fault Int} {fault : Fault} (decides : Decides computed verdict outcome)
    (spares : ∀ {found}, verdict = .error found → found.cause.blamesStacks = false)
    (raised : outcome = .error fault) : fault.cause.blamesStacks = false := by
  unfold Decides at decides
  split at decides
  · obtain ⟨arithmetic, _, same⟩ := decides
    cases same.symm.trans raised
    exact arithmetic.blames
  · cases decides.symm.trans raised
    exact spares rfl
  · obtain ⟨value, _, returned⟩ := decides
    cases returned.symm.trans raised

namespace Evaluator

variable {evaluator : Evaluator} {tokens : List Token} {fault : Fault}

/-- A fault at a token is raised, unless arithmetic fails on the tokens before it. -/
theorem decides_of_fault (arithmetic : evaluator.table.IsArithmetic)
    (fails : Outline.start.scanAll evaluator.table tokens = .error fault) :
    Machine.Decides (Machine.beforeVerdict evaluator.table tokens) (.error fault)
      (evaluator.evaluateTokens tokens) := by
  have fluent := Machine.fluent_start evaluator.table
  have raises := fluent.consumeAll_of_fault arithmetic fails
  rw [show Machine.start.outline = Outline.start from rfl] at raises
  rw [Machine.beforeVerdict, fails, evaluateTokens_eq]
  simp only
  unfold Machine.Decides
  unfold Step.Ends at raises
  generalize Outline.start.accepted evaluator.table tokens = accepted at raises ⊢
  cases outcome : (Machine.start.consumeAll evaluator.table accepted).outcome with
  | error earlier =>
      rw [outcome] at raises
      obtain ⟨computed, raised⟩ := raises
      exact ⟨computed, fluent.explains_of_consumeAll arithmetic.isRuled outcome computed,
        Step.andThen_outcome_of_error raised _⟩
  | ok value =>
      rw [outcome] at raises
      exact Step.andThen_outcome_of_error raises _

/-- The end of the input does what the outline says of it, unless arithmetic fails before. -/
theorem decides_of_scanAll (arithmetic : evaluator.table.IsArithmetic) {last : Outline}
    (scans : Outline.start.scanAll evaluator.table tokens = .ok last)
    (nonempty : tokens ≠ [])
    (ends : tokens.getLast?.map Token.position = some (lastPosition 0 tokens)) :
    Machine.Decides (Machine.beforeVerdict evaluator.table tokens)
      (last.finish (some (lastPosition 0 tokens))) (evaluator.evaluateTokens tokens) := by
  have fluent := Machine.fluent_start evaluator.table
  have consumed := fluent.consumeAll_of_scanAll arithmetic (Or.inr nonempty) scans
  have explains : ∀ earlier, (Machine.start.consumeAll evaluator.table tokens).outcome =
      .error earlier → earlier.IsArithmetic → Machine.Explains _ earlier :=
    fun _ fails => fluent.explains_of_consumeAll arithmetic.isRuled fails
  rw [Machine.beforeVerdict, scans, ends, evaluateTokens_eq]
  simp only
  generalize Machine.start.consumeAll evaluator.table tokens = step at consumed explains ⊢
  rcases step with ⟨after, earlier | value⟩
  · exact ⟨consumed, explains earlier rfl consumed, rfl⟩
  · obtain ⟨reached, sameOutline, begun⟩ := consumed
    rw [← sameOutline]
    exact reached.finish_follows arithmetic begun (lastPosition 0 tokens)

/-- An evaluation does what the verdict says, unless the computation before it fails. -/
theorem decides_verdict (arithmetic : evaluator.table.IsArithmetic) (tokens : List Token) :
    Machine.Decides (Machine.beforeVerdict evaluator.table tokens)
      (Outline.verdict evaluator.table tokens) (evaluator.evaluateTokens tokens) := by
  unfold Outline.verdict
  cases scans : Outline.start.scanAll evaluator.table tokens with
  | error fault => exact decides_of_fault arithmetic scans
  | ok last =>
      cases tokens with
      | nil =>
          cases scans
          rfl
      | cons token rest =>
          have ends := getLast?_position 0 token rest
          simp only [ends]
          exact decides_of_scanAll arithmetic scans (List.cons_ne_nil token rest) ends

/-- **Structural faults are those of the outline.**  The verdict on a list of tokens looks at no
value.  What an evaluation computes before it can fall (`Machine.beforeVerdict`) fails in
arithmetic if at all, for a reason that it leaves behind, and then the evaluation fails with that
fault.  Otherwise it raises the fault of the verdict, cause and position, or it returns the only
operand left if the verdict finds no fault.

So nothing forestalls the fault of an empty list.  Before a fault at a token or an operand due at
the end, only the tokens before can fail in arithmetic; before the fault of a group left open, and
where there is no fault, only these or the reductions that the end of the input makes.  The stacks
of the machine never get the blame. -/
theorem evaluateTokens_of_verdict (evaluator : Evaluator)
    (arithmetic : evaluator.table.IsArithmetic) (tokens : List Token) :
    let before := Machine.beforeVerdict evaluator.table tokens
    (match before.outcome, Outline.verdict evaluator.table tokens with
      | .error earlier, _ =>
          earlier.IsArithmetic ∧ Machine.Explains before earlier ∧
            evaluator.evaluateTokens tokens = .error earlier
      | .ok (), .error fault => evaluator.evaluateTokens tokens = .error fault
      | .ok (), .ok () =>
          ∃ value, before.machine.operands = [value] ∧
            evaluator.evaluateTokens tokens = .ok value) ∧
      ∀ fault, evaluator.evaluateTokens tokens = .error fault →
        fault.cause.blamesStacks = false := by
  intro before
  have decides := decides_verdict arithmetic tokens
  exact ⟨decides, fun fault raised => decides.blames Outline.verdict_blames raised⟩

end Evaluator

theorem isArithmetic_standard : OperatorTable.standard.IsArithmetic := by
  intro operator member plain
  rcases List.mem_append.mp member with binary | delimiter
  · obtain ⟨operation, _, same⟩ := List.mem_map.mp binary
    rw [← same]
    exact ⟨by cases operation <;> decide, operation, rfl⟩
  · have delimits : ∀ operator ∈ parentheses, operator.isPlain = false := by decide
    rw [delimits operator delimiter] at plain
    cases plain

/-- Nothing comes before the verdicts on no tokens, on `1+` and on `(1`.  The verdict on `(8/0`
is that a group is left open, but the last reductions come before it and divide by zero. -/
theorem evaluateTokens_of_verdict_division :
    OperatorTable.standard.IsArithmetic ∧
      Evaluator.standard.evaluateTokens [] = .error ⟨.emptyExpression, none⟩ ∧
      Evaluator.standard.evaluateTokens [.number 1 0, .symbol "+" 1] =
        .error ⟨.operandDueAtEnd, some 1⟩ ∧
      Evaluator.standard.evaluateTokens [.symbol "(" 0, .number 1 1] =
        .error ⟨.groupLeftOpen "(", some 1⟩ ∧
      let tokens : List Token := [.symbol "(" 0, .number 8 1, .symbol "/" 2, .number 0 3]
      Outline.verdict .standard tokens = .error ⟨.groupLeftOpen "(", some 3⟩ ∧
        ∃ earlier, earlier.IsArithmetic ∧
          Evaluator.standard.evaluateTokens tokens = .error earlier := by
  have arithmetic := isArithmetic_standard
  have decides := fun tokens => (Evaluator.standard.evaluateTokens_of_verdict arithmetic tokens).1
  refine ⟨arithmetic, decides [], decides [.number 1 0, .symbol "+" 1],
    decides [.symbol "(" 0, .number 1 1], by decide, ?_⟩
  obtain ⟨computed, _, raised⟩ := decides [.symbol "(" 0, .number 8 1, .symbol "/" 2, .number 0 3]
  exact ⟨_, computed, raised⟩

end InfixCalculator
