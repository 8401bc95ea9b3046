import InfixCalculator.Machine.Instruction
import InfixCalculator.Operator.Standard
import InfixCalculator.Proofs.Machine.Reduction
import InfixCalculator.Proofs.Operators

/-!
# Sound machines

A machine is sound when its stacks fit together: the sentinel lies at the bottom, the open
groups are the openers on the operators, operands and operators are in balance, every
operand is within the size limit, and no waiting operator outranks the one on top of it.
Every instruction keeps a machine sound, whether it succeeds or fails
(`Machine.Sound.execute`), so every program does (`Machine.executeAll_sound`).

Balance takes the failed attempts into account: an attempt that fails takes two operands
and one operator away and puts nothing back.
-/

namespace InfixCalculator

namespace Machine

/-- The sentinel lies at the bottom of the operators and nowhere else. -/
def Bottomed (operators : List Operator) : Prop :=
  ∃ above, operators = above ++ [Operator.start] ∧ Operator.start ∉ above

/-- How many attempts failed: their rule did, or their result was too large. -/
def failures (machine : Machine) : Nat :=
  machine.attempts.countP fun attempt => attempt.value?.isNone

/-- The stacks of a machine fit together. -/
structure Sound (table : OperatorTable) (machine : Machine) : Prop where
  bottomed : Bottomed machine.operators
  known : ∀ operator ∈ machine.operators, operator ≠ Operator.start →
    operator ∈ table.operators
  /-- The open groups are the openers among the operators, in the same order. -/
  groups : machine.groups = machine.operators.filter Operator.opensGroup
  /-- Every waiting operator has its left operand, and the last one has its right operand
  too unless that is still to come.  A failed attempt lacks the operand it should give. -/
  balance : machine.operands.length + machine.failures =
    machine.operators.countP Operator.isWaiting + if machine.expectsOperand then 0 else 1
  short : ∀ operand ∈ machine.operands, fits operand = true
  /-- No waiting operator outranks the waiting operator directly above it. -/
  ordered : machine.operators.IsChain fun upper lower =>
    upper.isWaiting = true → lower.isWaiting = true → lower.outranks upper = false
  /-- Only waiting operators have been reduced. -/
  reduced : ∀ attempt ∈ machine.attempts, attempt.operator.isWaiting = true

variable {table : OperatorTable} {machine : Machine} {operator opener : Operator}
  {waiting : List Operator} {due : Operator → Bool} {position : Option Int}

/-- What lies on top of the sentinel does not matter. -/
theorem bottomed_cons_iff (other : operator ≠ Operator.start) :
    Bottomed (operator :: waiting) ↔ Bottomed waiting := by
  constructor
  · rintro ⟨above, split, absent⟩
    cases above with
    | nil =>
        rw [List.nil_append, List.cons.injEq] at split
        exact absurd split.1 other
    | cons first rest =>
        rw [List.cons_append, List.cons.injEq] at split
        exact ⟨rest, split.2, fun member => absent (List.mem_cons_of_mem _ member)⟩
  · rintro ⟨above, rfl, absent⟩
    refine ⟨operator :: above, rfl, ?_⟩
    rw [List.mem_cons, not_or]
    exact ⟨other.symm, absent⟩

theorem Bottomed.ne_nil {operators : List Operator} (bottomed : Bottomed operators) :
    operators ≠ [] := by
  obtain ⟨above, rfl, _⟩ := bottomed
  exact List.append_ne_nil_of_right_ne_nil above (List.cons_ne_nil _ _)

theorem sound_start (table : OperatorTable) : Machine.start.Sound table where
  bottomed := ⟨[], rfl, List.not_mem_nil⟩
  known _ member other := absurd (List.mem_singleton.mp member) other
  groups := rfl
  balance := rfl
  short _ member := absurd member List.not_mem_nil
  ordered := .singleton _
  reduced _ member := absurd member List.not_mem_nil

/-- An attempt counts as a failure if it puts no value back. -/
theorem failures_afterAttempt (machine : Machine) (attempt : Attempt)
    (waiting : List Operator) (operands : List Int) :
    (machine.afterAttempt attempt waiting operands).failures =
      machine.failures + if attempt.value?.isNone then 1 else 0 :=
  List.countP_cons

namespace Sound

/-- The operator on top, unless it is the sentinel, is one of the table. -/
theorem top_mem (sound : machine.Sound table) (top : machine.operators = operator :: waiting)
    (other : operator ≠ Operator.start) : operator ∈ table.operators :=
  sound.known operator (top ▸ List.mem_cons_self) other

/-- The open groups come from the table. -/
theorem opensFrom (sound : machine.Sound table) : machine.OpensFrom table := by
  intro opener member
  rw [sound.groups, List.mem_filter] at member
  obtain ⟨onStack, opens⟩ := member
  refine ⟨sound.known opener onStack ?_, opens⟩
  rintro rfl
  cases opens

/-- Nothing lies below the sentinel. -/
theorem waiting_of_start (sound : machine.Sound table)
    (top : machine.operators = Operator.start :: waiting) : waiting = [] := by
  obtain ⟨above, split, absent⟩ := sound.bottomed
  rw [top] at split
  cases above with
  | nil =>
      rw [List.nil_append, List.cons.injEq] at split
      exact split.2
  | cons first rest =>
      rw [List.cons_append, List.cons.injEq] at split
      exact absurd (split.1 ▸ List.mem_cons_self) absent

/-- An opener on top of the operators opens the innermost group. -/
theorem groups_of_opener (sound : machine.Sound table)
    (top : machine.operators = operator :: waiting) (opens : operator.opensGroup = true) :
    machine.groups = operator :: waiting.filter Operator.opensGroup := by
  rw [sound.groups, top, List.filter_cons_of_pos opens]

/-- A reduction keeps a machine sound, unless it would use up an opener. -/
theorem reduce (sound : machine.Sound table)
    (spares : ∀ operator waiting, machine.operators = operator :: waiting →
      operator.isBinary = true → operator.opensGroup = false) (position : Option Int) :
    (machine.reduce position).machine.Sound table := by
  rcases machine.reduce_cases position with ⟨cause, refused⟩ | ⟨attempt, rest, operands, offers⟩
  · rw [refused]
    exact sound
  · rw [reduce_of_offers offers]
    have binary : attempt.operator.isBinary = true := by
      rw [Operator.isBinary, ← Option.isSome_map, offers.result, Option.isSome_some]
    have other : attempt.operator ≠ Operator.start := by
      intro same
      rw [same] at binary
      cases binary
    have closed := spares _ _ offers.operators binary
    -- It has a rule, so it is neither the sentinel nor, being spared, an opener: it waits.
    have waits : attempt.operator.isWaiting = true := by
      rw [table.isWaiting_of_mem (sound.top_mem offers.operators other), closed]
      rfl
    have balance := sound.balance
    have ordered := sound.ordered
    have groups := sound.groups
    have bottomed := sound.bottomed
    rw [offers.operators] at balance ordered groups bottomed
    constructor
    · exact (bottomed_cons_iff other).mp bottomed
    · intro operator member
      exact sound.known operator (offers.operators ▸ List.mem_cons_of_mem _ member)
    · rw [List.filter_cons_of_neg (Bool.eq_false_iff.mp closed)] at groups
      exact groups
    -- Two operands and one waiting operator go; a value comes back, or a failure is counted.
    · rw [List.countP_cons_of_pos waits, offers.operands, List.length_cons,
        List.length_cons] at balance
      have returned : attempt.value?.toList.length +
          (if attempt.value?.isNone then 1 else 0) = 1 := by
        cases attempt.value? <;> rfl
      have remaining : (machine.afterAttempt attempt rest operands).operands.length =
          attempt.value?.toList.length + operands.length := List.length_append
      change _ = rest.countP Operator.isWaiting + if machine.expectsOperand then 0 else 1
      rw [failures_afterAttempt, remaining]
      omega
    · intro operand member
      rcases List.mem_append.mp member with new | old
      · exact Attempt.fits_of_value? (Option.mem_toList.mp new)
      · refine sound.short operand ?_
        rw [offers.operands]
        exact List.mem_cons_of_mem _ (List.mem_cons_of_mem _ old)
    · exact ordered.of_cons
    · intro other member
      rcases List.mem_cons.mp member with rfl | old
      · exact waits
      · exact sound.reduced other old

/-- A reducing loop that stops at the openers of its groups keeps a machine sound. -/
theorem reduceWhile (sound : machine.Sound table)
    (spares : ∀ operator outer, machine.groups = operator :: outer → due operator = false)
    (position : Option Int) : (machine.reduceWhile due position).machine.Sound table := by
  refine (reduceWhile_keeps
    (fun current => current.Sound table ∧ current.groups = machine.groups)
    ?_ ⟨sound, rfl⟩).1
  rintro current operator waiting top holds ⟨currentSound, sameGroups⟩
  refine ⟨currentSound.reduce ?_ position, by rw [reduce_groups, sameGroups]⟩
  intro upper rest same _
  rw [top, List.cons.injEq] at same
  obtain ⟨rfl, rfl⟩ := same
  by_contra opens
  have innermost := currentSound.groups_of_opener top (Bool.not_eq_false _ ▸ opens)
  rw [sameGroups] at innermost
  rw [spares _ _ innermost] at holds
  cases holds

/-- Reducing for an incoming operator keeps a machine sound. -/
theorem yieldTo (sound : machine.Sound table) (incoming : Operator)
    (position : Option Int) : (machine.yieldTo incoming position).machine.Sound table := by
  refine sound.reduceWhile ?_ position
  intro operator outer innermost
  rw [isBarrier_of_innermost innermost]
  rfl

/-- The loop that closes a group keeps a machine sound. -/
theorem closing (sound : machine.Sound table) {outer : List Operator}
    (innermost : machine.groups = opener :: outer) (position : Option Int) :
    (machine.reduceWhile (fun operator => operator.symbol != opener.symbol)
      position).machine.Sound table := by
  refine sound.reduceWhile ?_ position
  intro operator others same
  rw [innermost, List.cons.injEq] at same
  rw [same.1]
  exact bne_self_eq_false _

/-- The loop that closes a group, if it ends without a fault, ends at the opener. -/
theorem closing_stops (sound : machine.Sound table) {outer : List Operator}
    (innermost : machine.groups = opener :: outer) (position : Option Int)
    (succeeds : (machine.reduceWhile (fun operator => operator.symbol != opener.symbol)
      position).outcome = .ok ()) :
    ∃ waiting, (machine.reduceWhile (fun operator => operator.symbol != opener.symbol)
      position).machine.operators = opener :: waiting := by
  have after := sound.closing innermost position
  have stops := reduceWhile_stops succeeds
  obtain ⟨openerMember, _⟩ := sound.opensFrom opener (innermost ▸ List.mem_cons_self)
  generalize machine.reduceWhile _ position = step at after stops ⊢
  cases stacked : step.machine.operators with
  | nil => exact absurd stacked after.bottomed.ne_nil
  | cons operator waiting =>
      have same : operator.symbol = opener.symbol := by
        simpa only [bne_eq_false_iff_eq] using stops operator waiting stacked
      have other : operator ≠ Operator.start := by
        rintro rfl
        exact table.symbol_ne_startSymbol openerMember same.symm
      have equal := table.eq_of_symbol_eq (after.top_mem stacked other) openerMember same
      exact ⟨waiting, by rw [equal]⟩

/-! ## Changes of the stacks -/

/-- A short operand, where one is due, may go on its stack. -/
theorem addOperand {value : Int} (sound : machine.Sound table)
    (expects : machine.expectsOperand = true) (small : fits value = true) :
    Sound table { machine with
      operands := value :: machine.operands
      expectsOperand := false } where
  bottomed := sound.bottomed
  known := sound.known
  groups := sound.groups
  balance := by
    have balance := sound.balance
    rw [if_pos expects] at balance
    change machine.operands.length + 1 + machine.failures =
      machine.operators.countP Operator.isWaiting + 1
    omega
  short := by
    intro operand member
    rcases List.mem_cons.mp member with rfl | old
    · exact small
    · exact sound.short operand old
  ordered := sound.ordered
  reduced := sound.reduced

/-- An opener may go on the operators and the groups together. -/
theorem addOpener (sound : machine.Sound table) (member : opener ∈ table.operators)
    (opens : opener.opensGroup = true) :
    Sound table { machine with
      operators := opener :: machine.operators
      groups := opener :: machine.groups } := by
  have waits : ¬ opener.isWaiting = true := by
    rw [table.isWaiting_of_mem member, opens]
    exact Bool.false_ne_true
  constructor
  · exact (bottomed_cons_iff (table.ne_start member)).mpr sound.bottomed
  · intro operator onStack other
    rcases List.mem_cons.mp onStack with rfl | old
    · exact member
    · exact sound.known operator old other
  · rw [List.filter_cons_of_pos opens, sound.groups]
  · rw [List.countP_cons_of_neg waits]
    exact sound.balance
  · exact sound.short
  · have ordered := sound.ordered
    cases stacked : machine.operators with
    | nil => exact .singleton opener
    | cons lower rest =>
        exact .cons_cons (fun upperWaits => absurd upperWaits waits) (stacked ▸ ordered)
  · exact sound.reduced

/-- A waiting operator, where one is due, may go on the operators if no waiting operator
below outranks it. -/
theorem addOperator (sound : machine.Sound table) (expects : machine.expectsOperand = false)
    (member : operator ∈ table.operators) (closed : operator.opensGroup = false)
    (rests : ∀ lower rest, machine.operators = lower :: rest → lower.isWaiting = true →
      lower.outranks operator = false) :
    Sound table { machine with
      operators := operator :: machine.operators
      expectsOperand := true } := by
  have waits : operator.isWaiting = true := by
    rw [table.isWaiting_of_mem member, closed]
    rfl
  constructor
  · exact (bottomed_cons_iff (table.ne_start member)).mpr sound.bottomed
  · intro below onStack other
    rcases List.mem_cons.mp onStack with rfl | old
    · exact member
    · exact sound.known below old other
  · rw [List.filter_cons_of_neg (Bool.eq_false_iff.mp closed)]
    exact sound.groups
  · have balance := sound.balance
    rw [expects] at balance
    rw [List.countP_cons_of_pos waits]
    exact balance
  · exact sound.short
  · have ordered := sound.ordered
    cases stacked : machine.operators with
    | nil => exact .singleton operator
    | cons lower rest =>
        exact .cons_cons (fun _ => rests lower rest stacked) (stacked ▸ ordered)
  · exact sound.reduced

/-- The innermost opener, once it is on top, may be removed from both stacks. -/
theorem removeOpener (sound : machine.Sound table)
    (top : machine.operators = opener :: waiting) (opens : opener.opensGroup = true) :
    Sound table { machine with
      operators := machine.operators.tail
      groups := machine.groups.tail } := by
  have other : opener ≠ Operator.start := by
    rintro rfl
    cases opens
  have member := sound.top_mem top other
  have waits : ¬ opener.isWaiting = true := by
    rw [table.isWaiting_of_mem member, opens]
    exact Bool.false_ne_true
  have balance := sound.balance
  have bottomed := sound.bottomed
  have ordered := sound.ordered
  rw [top] at balance bottomed ordered
  rw [List.countP_cons_of_neg waits] at balance
  rw [top, sound.groups_of_opener top opens]
  constructor
  · exact (bottomed_cons_iff other).mp bottomed
  · intro below onStack
    exact sound.known below (top ▸ List.mem_cons_of_mem _ onStack)
  · rfl
  · exact balance
  · exact sound.short
  · exact ordered.of_cons
  · exact sound.reduced

/-! ## Transitions -/

/-- A number that is refused changes nothing, and one that is taken in fills the place that is
due. -/
theorem pushOperand (sound : machine.Sound table) (value : Int) (position : Option Int) :
    (machine.pushOperand value position).machine.Sound table := by
  unfold Machine.pushOperand
  split
  · rename_i expects
    split
    · rename_i short
      exact sound.addOperand expects short
    · exact sound
  · exact sound

theorem openGroup (sound : machine.Sound table) (member : opener ∈ table.operators)
    (opens : opener.opensGroup = true) (position : Option Int) :
    (machine.openGroup opener position).machine.Sound table := by
  unfold Machine.openGroup
  split
  · exact sound.addOpener member opens
  · exact sound

/-- After reducing for an incoming operator without a fault, no waiting operator on top
outranks it. -/
theorem yieldTo_rests (sound : machine.Sound table) (incoming : Operator)
    (position : Option Int)
    (succeeds : (machine.yieldTo incoming position).outcome = .ok ()) (lower : Operator)
    (rest : List Operator)
    (top : (machine.yieldTo incoming position).machine.operators = lower :: rest)
    (waits : lower.isWaiting = true) : lower.outranks incoming = false := by
  have stops := reduceWhile_stops succeeds lower rest top
  have other : lower ≠ Operator.start := by
    rintro rfl
    cases waits
  have member := (sound.yieldTo incoming position).top_mem top other
  rw [table.isWaiting_of_mem member, Bool.not_eq_true'] at waits
  rw [isBarrier_of_plain sound.opensFrom member waits, Bool.not_false, Bool.true_and] at stops
  exact stops

/-- A binary operator is pushed once nothing that waits outranks it, so priorities stay in order.
-/
theorem pushBinary (sound : machine.Sound table) (member : operator ∈ table.operators)
    (closed : operator.opensGroup = false) (position : Option Int) :
    (machine.pushBinary operator position).machine.Sound table := by
  unfold Machine.pushBinary
  split
  · exact sound
  · rename_i expects
    have after := sound.yieldTo operator position
    have stillExpects : (machine.yieldTo operator position).machine.expectsOperand = false :=
      (reduceWhile_expectsOperand _ _ _).trans (Bool.eq_false_iff.mpr expects)
    apply Step.andThen_keeps (Machine.Sound table) after
    intro value succeeds
    exact after.addOperator stillExpects member closed
      (sound.yieldTo_rests operator position succeeds)

theorem pushOperator (sound : machine.Sound table) (member : operator ∈ table.operators)
    (position : Option Int) : (machine.pushOperator operator position).machine.Sound table := by
  unfold Machine.pushOperator
  split
  · rename_i opens
    exact sound.openGroup member opens position
  · rename_i closed
    exact sound.pushBinary member (Bool.eq_false_iff.mpr closed) position

/-- A closer takes away the operators of its group and then the opener from both stacks. -/
theorem closeGroup (sound : machine.Sound table) (closer : Operator)
    (position : Option Int) : (machine.closeGroup closer position).machine.Sound table := by
  unfold Machine.closeGroup
  split
  · exact sound
  · rename_i opener outer innermost
    split
    · exact sound
    · split
      · exact sound
      · have after := sound.closing innermost position
        apply Step.andThen_keeps (Machine.Sound table) after
        intro value succeeds
        obtain ⟨waiting, top⟩ := sound.closing_stops innermost position succeeds
        have opens := (sound.opensFrom opener (innermost ▸ List.mem_cons_self)).2
        exact after.removeOpener top opens

/-- Whatever is found at the end, what is left stays as it is. -/
theorem conclude (sound : machine.Sound table) (position : Option Int) :
    (machine.conclude position).machine.Sound table := by
  unfold Machine.conclude
  split
  · exact sound
  · split
    · split
      · exact sound
      · exact sound
    · exact sound

/-- The end of the input keeps a machine sound. -/
theorem finish (sound : machine.Sound table) (position : Option Int) :
    (machine.finish position).machine.Sound table := by
  unfold Machine.finish
  split
  · exact sound
  · split
    · exact sound
    · have after := sound.yieldTo Operator.finish position
      exact Step.andThen_keeps (Machine.Sound table) after fun _ _ => after.conclude position

end Sound

/-- Going on with an operator of the table keeps what every such way to go on keeps. -/
theorem withOperator_keeps {kept : Machine → Prop} {next : Operator → Step Unit}
    (before : kept machine) (symbol : String)
    (keeps : ∀ operator ∈ table.operators, kept (next operator).machine) :
    kept (machine.withOperator table symbol next).machine := by
  unfold withOperator
  rcases table.lookup_cases symbol with ⟨_, unknown⟩ | ⟨operator, member, _, _, found⟩
  · rw [unknown]
    exact before
  · rw [found]
    exact keeps operator member

theorem machine_withoutValue (step : Step Unit) :
    step.withoutValue.machine = step.machine := by
  unfold Step.withoutValue Step.andThen
  cases step.outcome <;> rfl

/-- Every instruction keeps a machine sound, provided that openers have no rule. -/
theorem Sound.execute (sound : machine.Sound table)
    (unruled : ∀ operator ∈ table.operators, operator.opensGroup = true →
      operator.isBinary = false)
    (instruction : Instruction) (position : Option Int) :
    (machine.execute table position instruction).machine.Sound table := by
  cases instruction with
  | operand value =>
      rw [Machine.execute, machine_withoutValue]
      exact sound.pushOperand value position
  | operator symbol =>
      rw [Machine.execute, machine_withoutValue]
      exact withOperator_keeps sound symbol
        fun operator member => sound.pushOperator member position
  | close symbol =>
      rw [Machine.execute, machine_withoutValue]
      exact withOperator_keeps sound symbol
        fun closer _ => sound.closeGroup closer position
  | reduce =>
      rw [Machine.execute, machine_withoutValue]
      refine sound.reduce ?_ position
      intro operator waiting top binary
      have other : operator ≠ Operator.start := by
        rintro rfl
        cases binary
      by_contra opens
      have ruleless := unruled operator (sound.top_mem top other) (Bool.not_eq_false _ ▸ opens)
      rw [ruleless] at binary
      cases binary
  | finish =>
      have after := sound.finish position
      rw [Machine.execute]
      exact Step.andThen_keeps (Machine.Sound table) after fun _ _ => after

/-- A program keeps a machine sound. -/
theorem Sound.executeAll
    (unruled : ∀ operator ∈ table.operators, operator.opensGroup = true →
      operator.isBinary = false)
    (program : List (Instruction × Option Int)) (sound : machine.Sound table) :
    (machine.executeAll table program).Sound table := by
  induction program generalizing machine with
  | nil => exact sound
  | cons first rest ih => exact ih (sound.execute unruled first.1 first.2)

/-- **The stacks stay together.** If openers have no rule, every program leaves a sound
machine, whatever instructions of it failed.  So there is always an operator on the stack,
no reduction ever used up an opener or the sentinel, and a group that is being closed is
reduced down to its opener. -/
theorem executeAll_sound (table : OperatorTable)
    (unruled : ∀ operator ∈ table.operators, operator.opensGroup = true →
      operator.isBinary = false)
    (program : List (Instruction × Option Int)) :
    let machine := Machine.start.executeAll table program
    machine.Sound table ∧ machine.operators ≠ [] ∧
      (∀ attempt ∈ machine.attempts,
        attempt.operator ≠ Operator.start ∧ attempt.operator.opensGroup = false) ∧
      ∀ opener outer position, machine.groups = opener :: outer →
        let closing :=
          machine.reduceWhile (fun operator => operator.symbol != opener.symbol) position
        closing.outcome = .ok () →
          ∃ waiting, closing.machine.operators = opener :: waiting := by
  intro machine
  have sound : machine.Sound table := (sound_start table).executeAll unruled program
  refine ⟨sound, sound.bottomed.ne_nil, ?_, ?_⟩
  · intro attempt member
    exact Operator.of_isWaiting (sound.reduced attempt member)
  · intro opener outer position innermost closing succeeds
    exact sound.closing_stops innermost position succeeds

/-- A division by zero fails while its group is being closed, and takes both operands with
it; whatever follows is refused, because the addition below lacks an operand. -/
theorem executeAll_sound_division :
    (∀ operator ∈ OperatorTable.standard.operators, operator.opensGroup = true →
      operator.isBinary = false) ∧
    let machine := Machine.start.executeAll .standard
      [(.operator "(", some 0), (.operand 7, some 1), (.operator "+", some 2),
        (.operand 5, some 3), (.operator "/", some 4), (.operand 0, some 5),
        (.close ")", some 6), (.reduce, none), (.operator "-", some 7), (.finish, some 7)]
    machine.Sound .standard ∧ machine.operands = [7] ∧ machine.failures = 1 := by
  have unruled : ∀ operator ∈ OperatorTable.standard.operators, operator.opensGroup = true →
      operator.isBinary = false := by decide
  refine ⟨unruled, ?_⟩
  intro machine
  exact ⟨(executeAll_sound .standard unruled _).1, by decide, by decide⟩

end Machine

end InfixCalculator
