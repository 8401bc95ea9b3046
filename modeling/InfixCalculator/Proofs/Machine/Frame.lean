import InfixCalculator.Proofs.Expression.Chain

/-!
# Frames

A phrase is taken in on top of a machine whose top operator is a barrier: its reductions
never reach below (`Machine.Ground`).  What the machine holds there is what a reader of the
phrase's links holds: operators that wait with their left operands, and then either an operand
is due (`Machine.awaiting`) or the latest operand lies on top (`Machine.holding`).
-/

namespace InfixCalculator

namespace Machine

/-- A machine that a phrase can be taken in on: its groups were opened by operators of a
table, and its top operator is a barrier. -/
structure Ground (table : OperatorTable) (base : Machine) : Prop where
  opened : base.OpensFrom table
  barred : ∃ barrier below, base.operators = barrier :: below ∧ base.isBarrier barrier = true

/-- A machine on which operators wait and an operand is due. -/
def awaiting (base : Machine) (pending : List Pending) : Machine where
  operands := pending.map Pending.left ++ base.operands
  operators := pending.map Pending.operator ++ base.operators
  groups := base.groups
  expectsOperand := true
  attempts := []

/-- A machine on which operators wait below an operand, and an operator is due. -/
def holding (base : Machine) (held : Held) : Machine where
  operands := held.value :: (held.pending.map Pending.left ++ base.operands)
  operators := held.pending.map Pending.operator ++ base.operators
  groups := base.groups
  expectsOperand := false
  attempts := []

/-- A machine on which a group is opened. -/
def opening (base : Machine) (opener : Operator) : Machine where
  operands := base.operands
  operators := opener :: base.operators
  groups := opener :: base.groups
  expectsOperand := true
  attempts := []

/-- Above the start sentinel a phrase starts from nothing. -/
theorem ground_start (table : OperatorTable) : Machine.start.Ground table where
  opened := fun _ member => absurd member List.not_mem_nil
  barred := ⟨Operator.start, [], rfl, rfl⟩

variable {table : OperatorTable} {base : Machine} {operator opener closer : Operator}
  {pending : List Pending} {held : Held} {due : Operator → Bool} {position : Option Int}

/-- Behind an opener a phrase starts from nothing. -/
theorem ground_opening (opened : base.OpensFrom table) (pair : table.HasPair opener closer) :
    (base.opening opener).Ground table where
  opened := by
    intro other inside
    rcases List.mem_cons.mp inside with same | outer
    · exact same ▸ ⟨pair.openerMember, pair.opens⟩
    · exact opened other outer
  barred := ⟨opener, base.operators, rfl, isBarrier_of_innermost rfl⟩

/-- On a frame a reducing loop settles what waits there, if it stops at the ground. -/
theorem effect_reduceWhile_holding
    (stops : ∀ top below, base.operators = top :: below → due top = false) :
    ((base.holding held).reduceWhile due position).effect =
      (fun next => (base.holding next, ())) <$> Held.settle due held.pending held.value := by
  rcases held with ⟨pending, value⟩
  induction pending generalizing value with
  | nil =>
      cases ground : base.operators with
      | nil =>
          have empty : (base.holding ⟨[], value⟩).operators = [] := ground
          rw [reduceWhile_of_empty empty]
          rfl
      | cons top below =>
          have bottom : (base.holding ⟨[], value⟩).operators = top :: below := ground
          rw [reduceWhile_of_not_due bottom (stops top below ground)]
          rfl
  | cons first rest ih =>
      rw [Held.settle]
      by_cases holds : due first.operator = true
      · rw [reduceWhile_of_due rfl holds, if_pos holds,
          Step.effect_andThen fun _ alike => alike.reduceWhile due position position,
          effect_reduce rfl rfl, bind_map_left, map_bind]
        exact bind_congr fun combined => ih combined
      · rw [reduceWhile_of_not_due rfl (Bool.eq_false_iff.mpr holds), if_neg holds]
        rfl

/-- An incoming operator settles what outranks it. -/
theorem effect_yieldTo_holding (ground : base.Ground table)
    (plain : ∀ waits ∈ held.pending, table.HasPlain waits.operator) (incoming : Operator)
    (position : Option Int) :
    ((base.holding held).yieldTo incoming position).effect =
      (fun next => (base.holding next, ())) <$>
        Held.settle (·.outranks incoming) held.pending held.value := by
  unfold yieldTo
  rw [effect_reduceWhile_holding]
  · congr 1
    apply Held.settle_congr
    intro waits member
    have unbarred : (base.holding held).isBarrier waits.operator = false :=
      isBarrier_of_plain ground.opened (plain waits member).member
        (plain waits member).delimitsNothing.1
    rw [unbarred, Bool.not_false, Bool.true_and]
  · intro top below bottom
    obtain ⟨barrier, rest, stacked, barred⟩ := ground.barred
    rw [stacked, List.cons.injEq] at bottom
    have same : (base.holding held).isBarrier top = true := bottom.1 ▸ barred
    rw [same]
    rfl

/-- A binary operator settles what outranks it and then waits itself. -/
theorem effect_pushBinary_holding (ground : base.Ground table)
    (plain : ∀ waits ∈ held.pending, table.HasPlain waits.operator) (operator : Operator)
    (position : Option Int) :
    ((base.holding held).pushBinary operator position).effect =
      (fun next => (base.awaiting (⟨operator, next.value⟩ :: next.pending), ())) <$>
        Held.settle (·.outranks operator) held.pending held.value := by
  have expects : (base.holding held).expectsOperand = false := rfl
  unfold pushBinary
  rw [expects, if_neg Bool.false_ne_true,
    Step.effect_andThen fun _ alike => (alike.addOperator operator).done,
    effect_yieldTo_holding ground plain, bind_map_left, map_eq_pure_bind]
  rfl

/-- The operand that is due lies on top afterwards, unless it is too long. -/
theorem effect_pushOperand (expects : base.expectsOperand = true) (value : Int)
    (position : Option Int) :
    (base.pushOperand value position).effect =
      (fun value => (base.holding ⟨[], value⟩, ())) <$>
        (if fits value then .ok value else .error .resultOverflow : Outcome) := by
  unfold pushOperand
  rw [if_pos expects]
  by_cases short : fits value = true
  · rw [if_pos short, if_pos short]
    rfl
  · rw [if_neg short, if_neg short]
    rfl

/-- An opener where an operand is due opens a group. -/
theorem effect_openGroup (expects : base.expectsOperand = true) (opener : Operator)
    (position : Option Int) :
    (base.openGroup opener position).effect = .ok (base.opening opener, ()) := by
  unfold openGroup
  rw [if_pos expects, opening, ← expects]
  rfl

/-- The closer of a group collapses what the group holds into an operand of the frame. -/
theorem effect_closeGroup_holding
    (pair : table.HasPair opener closer)
    (plain : ∀ waits ∈ held.pending, table.HasPlain waits.operator) (position : Option Int) :
    ((((base.awaiting pending).opening opener).holding held).closeGroup closer position).effect =
      (fun value => (base.holding ⟨pending, value⟩, ())) <$>
        Held.collapse held.pending held.value := by
  have innermost : (((base.awaiting pending).opening opener).holding held).groups =
      opener :: base.groups := rfl
  have expects :
      (((base.awaiting pending).opening opener).holding held).expectsOperand = false := rfl
  have due : ∀ waits ∈ held.pending, (waits.operator.symbol != opener.symbol) = true := by
    intro waits member
    obtain ⟨opensNot, _⟩ := (plain waits member).delimitsNothing
    exact bne_iff_ne.mpr (pair.symbol_ne (plain waits member).member opensNot)
  unfold closeGroup
  rw [innermost]
  simp only
  rw [if_neg (not_not_intro pair.paired), expects, if_neg Bool.false_ne_true,
    Step.effect_andThen fun _ alike => alike.removeOpener.done, effect_reduceWhile_holding,
    Held.settle_of_due due, Functor.map_map, bind_map_left, map_eq_pure_bind]
  · rfl
  · intro top below bottom
    cases bottom
    exact bne_self_eq_false _

/-- At the end of the input everything that waits on the empty frame is settled, if it
outranks the end. -/
theorem effect_finish_holding
    (plain : ∀ waits ∈ held.pending, table.HasPlain waits.operator)
    (outranks : ∀ waits ∈ held.pending, Operator.finish.priority < waits.operator.priority)
    (position : Option Int) :
    ((Machine.start.holding held).finish position).effect =
      (fun value => (Machine.start.holding ⟨[], value⟩, value)) <$>
        Held.collapse held.pending held.value := by
  have due : ∀ waits ∈ held.pending, waits.operator.outranks Operator.finish = true := by
    intro waits member
    have higher := outranks waits member
    unfold Operator.outranks
    split
    · exact decide_eq_true higher
    · exact decide_eq_true (by omega)
  have filled : ((Machine.start.holding held).operands.isEmpty &&
      (Machine.start.holding held).operators.length == 1) = false := rfl
  have expects : (Machine.start.holding held).expectsOperand = false := rfl
  rw [Machine.finish, filled, if_neg Bool.false_ne_true, expects, if_neg Bool.false_ne_true,
    Step.effect_andThen fun _ alike => alike.conclude position position,
    effect_yieldTo_holding (ground_start table) plain, Held.settle_of_due due,
    Functor.map_map, bind_map_left, map_eq_pure_bind]
  rfl

end Machine

end InfixCalculator
