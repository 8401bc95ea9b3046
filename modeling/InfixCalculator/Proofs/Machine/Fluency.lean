import InfixCalculator.Proofs.Machine.Consumption

/-!
# Fluent machines

A machine that has only taken in tokens, without a failure so far, is sound, holds no closer
and lacks no operand: what a token leaves that is taken in, is fluent again
(`Machine.Fluent.consume`).  Once an operator is due, every waiting operator of a fluent machine has
its two operands (`Machine.Fluent.exists_operands`).  So if the operators of the table are
arithmetic, nothing but arithmetic can fail when one is reduced
(`Machine.reductionsBlame_arithmetic`), and loops inherit this.
-/

namespace InfixCalculator

/-- A fault of a computation: an undefined or too large result, or a too large operand. -/
def Fault.IsArithmetic (fault : Fault) : Prop :=
  fault.kind = .divisionByZero ∨ fault.kind = .resultOverflow

/-- Every operator that delimits no group has a standard rule and binds more than the end
of the input. -/
def OperatorTable.IsArithmetic (table : OperatorTable) : Prop :=
  ∀ operator ∈ table.operators, operator.isPlain = true →
    Operator.finish.priority < operator.priority ∧
      ∃ operation : Operation, operator.rule = some operation.rule

/-- Whatever a standard rule raises is arithmetic. -/
theorem Operation.isArithmetic_of_rule {operation : Operation} {left right : Int}
    {fault : Fault} (fails : operation.rule left right = .error fault) :
    fault.IsArithmetic := by
  rw [Fault.IsArithmetic, Fault.kind]
  obtain ⟨_, cause | cause | cause⟩ := Operation.fault_of_rule fails
  · exact Or.inl (congrArg Cause.kind cause)
  · exact Or.inl (congrArg Cause.kind cause)
  · exact Or.inr (congrArg Cause.kind cause)

/-- An attempt with a standard rule fails in arithmetic if at all. -/
theorem Attempt.isArithmetic_of_outcome {operator : Operator} {operation : Operation}
    {left right : Int} {position : Option Int} {fault : Fault}
    (fails : (Attempt.mk operator left right (operation.rule left right)).outcome position =
      .error fault) : fault.IsArithmetic := by
  unfold outcome at fails
  cases result : operation.rule left right with
  | error raised =>
      simp only [result, Except.error.injEq] at fails
      exact fails ▸ Operation.isArithmetic_of_rule result
  | ok value =>
      simp only [result] at fails
      split at fails
      · cases fails
      · cases fails
        exact Or.inr rfl

namespace Machine

/-- A sound machine without closers and without failures. -/
structure Fluent (table : OperatorTable) (machine : Machine) : Prop
    extends Sound table machine where
  closers : ∀ operator ∈ machine.operators, operator.closesGroup = false
  unfailed : machine.failures = 0

/-- A condition holds of waiting operators only, as long as the same groups are open. -/
def Spares (table : OperatorTable) (machine : Machine) (due : Operator → Bool) : Prop :=
  ∀ (current : Machine) (operator : Operator) (waiting : List Operator), current.Sound table →
    current.groups = machine.groups → current.operators = operator :: waiting →
      due operator = true → operator.isWaiting = true

/-- On fluent machines that expect alike, reducing a waiting operator has certain faults only. -/
def ReductionsBlame (table : OperatorTable) (expects : Bool) (position : Option Int)
    (blamed : Fault → Prop) : Prop :=
  ∀ (machine : Machine) (operator : Operator) (waiting : List Operator), machine.Fluent table →
    machine.expectsOperand = expects → machine.operators = operator :: waiting →
      operator.isWaiting = true → (machine.reduce position).Ends (fun _ _ => True) blamed

variable {table : OperatorTable} {machine : Machine} {operator opener : Operator}
  {waiting : List Operator} {due : Operator → Bool} {position : Option Int}
  {blamed : Fault → Prop}

theorem fluent_start (table : OperatorTable) : Machine.start.Fluent table where
  toSound := sound_start table
  closers := by
    intro operator member
    rw [List.mem_singleton.mp member]
    rfl
  unfailed := rfl

/-- What is no barrier waits. -/
theorem spares_of_unbarred
    (unbarred : ∀ operator, due operator = true → machine.isBarrier operator = false) :
    machine.Spares table due := by
  intro current operator waiting sound sameGroups top holds
  have free := unbarred operator holds
  have other : operator ≠ Operator.start := by
    intro same
    rw [same, isBarrier_start] at free
    cases free
  rw [table.isWaiting_of_mem (sound.top_mem top other), Bool.not_eq_true']
  by_contra opens
  have innermost := sound.groups_of_opener top (Bool.not_eq_false _ ▸ opens)
  rw [sameGroups] at innermost
  rw [isBarrier_of_innermost innermost] at free
  cases free

/-- What yields to an incoming operator waits. -/
theorem spares_yielding (table : OperatorTable) (machine : Machine) (incoming : Operator) :
    machine.Spares table
      fun operator => !machine.isBarrier operator && operator.outranks incoming :=
  spares_of_unbarred fun operator holds => by
    rw [Bool.and_eq_true, Bool.not_eq_true'] at holds
    exact holds.1

/-- Above the innermost opener everything waits. -/
theorem spares_closing {outer : List Operator} (innermost : machine.groups = opener :: outer) :
    machine.Spares table fun operator => operator.symbol != opener.symbol := by
  intro current operator waiting sound sameGroups top holds
  have groups := sound.groups
  rw [sameGroups, innermost, top] at groups
  have other : operator ≠ Operator.start := by
    intro same
    rw [same] at top groups
    rw [sound.waiting_of_start top] at groups
    cases groups
  rw [table.isWaiting_of_mem (sound.top_mem top other), Bool.not_eq_true']
  by_contra opens
  rw [List.filter_cons_of_pos (Bool.not_eq_false _ ▸ opens), List.cons.injEq] at groups
  simp only [groups.1, bne_self_eq_false, Bool.false_eq_true] at holds

namespace Fluent

/-- Where an operator is due, two operands wait for the waiting operator on top. -/
theorem exists_operands (fluent : machine.Fluent table)
    (expects : machine.expectsOperand = false)
    (top : machine.operators = operator :: waiting) (waits : operator.isWaiting = true) :
    ∃ right left operands, machine.operands = right :: left :: operands := by
  have balance := fluent.balance
  rw [fluent.unfailed, top, List.countP_cons_of_pos waits, expects] at balance
  match pair : machine.operands with
  | [] =>
      rw [pair] at balance
      simp at balance
  | [_] =>
      rw [pair] at balance
      simp at balance
  | right :: left :: operands => exact ⟨right, left, operands, rfl⟩

/-- A waiting operator on top delimits no group. -/
theorem hasPlain_top (fluent : machine.Fluent table)
    (top : machine.operators = operator :: waiting) (waits : operator.isWaiting = true) :
    table.HasPlain operator := by
  obtain ⟨other, closed⟩ := Operator.of_isWaiting waits
  refine ⟨fluent.top_mem top other, ?_⟩
  rw [Operator.isPlain, closed, fluent.closers operator (top ▸ List.mem_cons_self)]
  rfl

/-! ## Changes of the stacks -/

theorem addOperand {value : Int} (fluent : machine.Fluent table)
    (expects : machine.expectsOperand = true) (small : fits value = true) :
    Fluent table { machine with
      operands := value :: machine.operands
      expectsOperand := false } :=
  ⟨fluent.toSound.addOperand expects small, fluent.closers, fluent.unfailed⟩

theorem addOpener (fluent : machine.Fluent table) (member : opener ∈ table.operators)
    (opens : opener.opensGroup = true) (closes : opener.closesGroup = false) :
    Fluent table { machine with
      operators := opener :: machine.operators
      groups := opener :: machine.groups } :=
  ⟨fluent.toSound.addOpener member opens, List.forall_mem_cons.mpr ⟨closes, fluent.closers⟩,
    fluent.unfailed⟩

/-- A binary operator may be pushed once nothing that waits outranks it. -/
theorem addOperator (fluent : machine.Fluent table) (expects : machine.expectsOperand = false)
    (plain : table.HasPlain operator)
    (rests : ∀ lower rest, machine.operators = lower :: rest → lower.isWaiting = true →
      lower.outranks operator = false) :
    Fluent table { machine with
      operators := operator :: machine.operators
      expectsOperand := true } :=
  ⟨fluent.toSound.addOperator expects plain.member plain.delimitsNothing.1 rests,
    List.forall_mem_cons.mpr ⟨plain.delimitsNothing.2, fluent.closers⟩, fluent.unfailed⟩

theorem removeOpener (fluent : machine.Fluent table)
    (top : machine.operators = opener :: waiting) (opens : opener.opensGroup = true) :
    Fluent table { machine with
      operators := machine.operators.tail
      groups := machine.groups.tail } :=
  ⟨fluent.toSound.removeOpener top opens,
    fun other below => fluent.closers other (List.mem_of_mem_tail below), fluent.unfailed⟩

/-! ## Reductions -/

/-- A reduction that succeeds keeps a machine fluent. -/
theorem of_reduce (fluent : machine.Fluent table)
    (top : machine.operators = operator :: waiting) (waits : operator.isWaiting = true)
    (succeeds : (machine.reduce position).outcome = .ok ()) :
    (machine.reduce position).machine.Fluent table := by
  have sound : (machine.reduce position).machine.Sound table := by
    apply fluent.toSound.reduce
    intro other rest same _
    rw [top, List.cons.injEq] at same
    exact same.1 ▸ (Operator.of_isWaiting waits).2
  rcases machine.reduce_cases position with ⟨cause, refused⟩ | ⟨attempt, rest, operands, offers⟩
  · rw [refused] at succeeds
    cases succeeds
  · rw [reduce_of_offers offers] at sound succeeds ⊢
    have returned := attempt.toOption_outcome position
    cases outcome : attempt.outcome position with
    | error fault =>
        rw [outcome] at succeeds
        cases succeeds
    | ok value =>
        rw [outcome] at returned
        refine ⟨sound, ?_, ?_⟩
        · intro other below
          exact fluent.closers other (offers.operators ▸ List.mem_cons_of_mem _ below)
        · rw [failures_afterAttempt, fluent.unfailed, ← returned]
          rfl

/-- Where an operator is due, the operator on top of a fluent machine is offered its two operands,
if it waits and has a rule. -/
theorem exists_offers {rule : Rule} (fluent : machine.Fluent table)
    (expects : machine.expectsOperand = false)
    (top : machine.operators = operator :: waiting) (waits : operator.isWaiting = true)
    (ruled : operator.rule = some rule) :
    ∃ left right operands,
      machine.Offers ⟨operator, left, right, rule left right⟩ waiting operands := by
  obtain ⟨right, left, operands, pair⟩ := fluent.exists_operands expects top waits
  exact ⟨left, right, operands, offers_of_ready top ruled pair⟩

/-- A loop over waiting operators leaves a fluent machine, or it has a fault of its reductions. -/
theorem reduceWhile (fluent : machine.Fluent table) (spares : machine.Spares table due)
    (reduces : ReductionsBlame table machine.expectsOperand position blamed) :
    (machine.reduceWhile due position).Ends
      (fun next _ => next.Fluent table ∧ next.groups = machine.groups ∧
        next.expectsOperand = machine.expectsOperand) blamed := by
  apply reduceWhile_ends (fun next => next.Fluent table ∧
    next.groups = machine.groups ∧ next.expectsOperand = machine.expectsOperand)
  · rintro current operator waiting top holds ⟨currentFluent, sameGroups, sameExpects⟩
    have waits := spares current operator waiting currentFluent.toSound sameGroups top holds
    have ends := reduces current operator waiting currentFluent sameExpects top waits
    have succeeds : (current.reduce position).outcome = .ok () → _ :=
      currentFluent.of_reduce top waits
    have keepsGroups := current.reduce_groups position
    have keepsExpects := current.reduce_expectsOperand position
    generalize current.reduce position = step at ends succeeds keepsGroups keepsExpects ⊢
    rcases step with ⟨next, fault | value⟩
    · exact ends
    · exact ⟨succeeds rfl, keepsGroups.trans sameGroups, keepsExpects.trans sameExpects⟩
  · exact ⟨fluent, rfl, rfl⟩

/-- Reducing for an incoming operator leaves a fluent machine on which nothing outranks it. -/
theorem yieldTo (fluent : machine.Fluent table) (incoming : Operator)
    (reduces : ReductionsBlame table machine.expectsOperand position blamed) :
    (machine.yieldTo incoming position).Ends
      (fun next _ => next.Fluent table ∧ next.groups = machine.groups ∧
        next.expectsOperand = machine.expectsOperand ∧
        ∀ lower rest, next.operators = lower :: rest → lower.isWaiting = true →
          lower.outranks incoming = false) blamed := by
  have ends := fluent.reduceWhile (spares_yielding table machine incoming) reduces
  have rests := fluent.toSound.yieldTo_rests incoming position
  change (machine.yieldTo incoming position).Ends _ _ at ends
  generalize machine.yieldTo incoming position = step at ends rests ⊢
  rcases step with ⟨next, fault | value⟩
  · exact ends
  · exact ⟨ends.1, ends.2.1, ends.2.2, rests rfl⟩

/-- Reducing a group leaves a fluent machine with the opener on top. -/
theorem closing (fluent : machine.Fluent table) {outer : List Operator}
    (innermost : machine.groups = opener :: outer)
    (reduces : ReductionsBlame table machine.expectsOperand position blamed) :
    (machine.reduceWhile (fun operator => operator.symbol != opener.symbol) position).Ends
      (fun next _ => next.Fluent table ∧ next.groups = machine.groups ∧
        next.expectsOperand = machine.expectsOperand ∧
        ∃ waiting, next.operators = opener :: waiting) blamed := by
  have ends := fluent.reduceWhile (spares_closing innermost) reduces
  have stops := fluent.toSound.closing_stops innermost position
  generalize machine.reduceWhile _ position = step at ends stops ⊢
  rcases step with ⟨next, fault | value⟩
  · exact ends
  · exact ⟨ends.1, ends.2.1, ends.2.2, stops rfl⟩

end Fluent

theorem reductionsBlame_any (table : OperatorTable) (expects : Bool) (position : Option Int) :
    ReductionsBlame table expects position fun _ => True :=
  fun machine _ _ _ _ _ _ => (machine.reduce position).ends_trivially

/-- Where an operator is due, reducing a waiting operator fails in arithmetic if at all. -/
theorem reductionsBlame_arithmetic (arithmetic : table.IsArithmetic) (position : Option Int) :
    ReductionsBlame table false position Fault.IsArithmetic := by
  intro machine operator waiting fluent expects top waits
  have plain := fluent.hasPlain_top top waits
  obtain ⟨_, operation, ruled⟩ := arithmetic operator plain.member plain.isPlain
  obtain ⟨left, right, operands, offers⟩ := fluent.exists_offers expects top waits ruled
  rw [reduce_of_offers offers, Step.Ends]
  cases outcome : Attempt.outcome _ position with
  | error fault => exact Attempt.isArithmetic_of_outcome outcome
  | ok value => trivial

namespace Fluent

/-! ## Transitions -/

theorem pushOperand (fluent : machine.Fluent table) (value : Int) (position : Option Int) :
    (machine.pushOperand value position).Ends (fun next _ => next.Fluent table)
      fun _ => True := by
  unfold Machine.pushOperand
  split
  · rename_i expects
    split
    · rename_i small
      exact fluent.addOperand expects small
    · trivial
  · trivial

theorem openGroup (fluent : machine.Fluent table) (member : opener ∈ table.operators)
    (opens : opener.opensGroup = true) (closes : opener.closesGroup = false)
    (position : Option Int) :
    (machine.openGroup opener position).Ends (fun next _ => next.Fluent table)
      fun _ => True := by
  unfold Machine.openGroup
  split
  · exact fluent.addOpener member opens closes
  · trivial

/-- A binary operator that is taken in leaves a fluent machine, since its reductions do. -/
theorem pushBinary (fluent : machine.Fluent table) (plain : table.HasPlain operator)
    (position : Option Int) :
    (machine.pushBinary operator position).Ends (fun next _ => next.Fluent table)
      fun _ => True := by
  unfold Machine.pushBinary
  split
  · trivial
  · rename_i expects
    rw [Bool.not_eq_true] at expects
    refine (fluent.yieldTo operator (reductionsBlame_any _ _ position)).andThen ?_
    rintro next _ ⟨after, _, sameExpects, rests⟩
    exact after.addOperator (sameExpects.trans expects) plain rests

theorem closeGroup (fluent : machine.Fluent table) (closer : Operator) (position : Option Int) :
    (machine.closeGroup closer position).Ends (fun next _ => next.Fluent table)
      fun _ => True := by
  unfold Machine.closeGroup
  split
  · trivial
  · rename_i opener outer innermost
    split
    · trivial
    · split
      · trivial
      · have opens := (fluent.opensFrom opener (innermost ▸ List.mem_cons_self)).2
        refine (fluent.closing innermost (reductionsBlame_any _ _ position)).andThen ?_
        rintro next _ ⟨after, _, _, waiting, top⟩
        exact after.removeOpener top opens

theorem pushSymbol (fluent : machine.Fluent table) (member : operator ∈ table.operators)
    (position : Option Int) :
    (machine.pushSymbol operator position).Ends (fun next _ => next.Fluent table)
      fun _ => True := by
  unfold Machine.pushSymbol Machine.pushOperator
  split
  · exact fluent.closeGroup operator position
  · rename_i closes
    rw [Bool.not_eq_true] at closes
    split
    · rename_i opens
      exact fluent.openGroup member opens closes position
    · rename_i opens
      rw [Bool.not_eq_true] at opens
      exact fluent.pushBinary ⟨member, by rw [Operator.isPlain, opens, closes]; rfl⟩ position

/-- A token that is taken in leaves a fluent machine. -/
theorem consume (fluent : machine.Fluent table) (token : Token) :
    (machine.consume table token).Ends (fun next _ => next.Fluent table) fun _ => True := by
  cases token with
  | number value place => exact fluent.pushOperand value (some place)
  | symbol name place =>
      rw [Machine.consume, withOperator]
      rcases table.lookup_cases name with ⟨_, unknown⟩ | ⟨operator, member, _, _, found⟩
      · rw [unknown]
        trivial
      · rw [found]
        exact fluent.pushSymbol member (some place)

/-- Tokens that are all taken in leave a fluent machine. -/
theorem consumeAll (fluent : machine.Fluent table) (tokens : List Token) :
    (machine.consumeAll table tokens).Ends (fun next _ => next.Fluent table) fun _ => True := by
  induction tokens generalizing machine with
  | nil => exact fluent
  | cons token rest ih => exact (fluent.consume token).andThen fun _ _ after => ih after

end Fluent

/-- A machine that has only taken in tokens is fluent. -/
theorem fluent_of_consumeAll {tokens : List Token}
    (taken : Machine.start.consumeAll table tokens = .done machine) : machine.Fluent table := by
  have ends := (fluent_start table).consumeAll tokens
  rw [taken] at ends
  exact ends

end Machine

end InfixCalculator
