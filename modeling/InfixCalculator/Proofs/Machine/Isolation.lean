import InfixCalculator.Proofs.Machine.Frame

/-!
# Isolation of groups

What a machine does from its start it also does on top of another machine, with an opener of
that machine's in place of the start sentinel (`Machine.onto`): steps that succeed lift from
one to the other (`Step.Lifts`, `Machine.lifts_consumeAll`).  The closer of the group then
does what the end of the input does from the start (`Machine.Sound.closes_of_finish`), so a
group can be replaced by its value (`Evaluator.evaluateTokens_group`).
-/

namespace InfixCalculator

namespace Machine

/-- A machine with another one in place of its start sentinel. -/
def onto (base machine : Machine) : Machine where
  operands := machine.operands ++ base.operands
  operators := machine.operators.dropLast ++ base.operators
  groups := machine.groups ++ base.groups
  expectsOperand := machine.expectsOperand
  attempts := []

end Machine

namespace Step

variable {α β : Type} {base : Machine} {step other : Step α}

/-- If a step succeeds, then another does the same on top of a machine. -/
def Lifts (base : Machine) (step other : Step α) : Prop :=
  ∀ value, step.outcome = .ok value → other.effect = .ok (base.onto step.machine, value)

/-- Two steps in turn lift if each does, and the second only has to be the same on alike machines.
-/
theorem Lifts.andThen {next otherNext : Machine → α → Step β} (first : Lifts base step other)
    (agrees : ∀ {left right : Machine} (value : α), left.Alike right →
      (otherNext left value).effect = (otherNext right value).effect)
    (second : ∀ value, step.outcome = .ok value →
      Lifts base (next step.machine value) (otherNext (base.onto step.machine) value)) :
    Lifts base (step.andThen next) (other.andThen otherNext) := by
  rcases step with ⟨machine, fault | value⟩
  · intro value succeeds
    cases succeeds
  · intro result succeeds
    rw [effect_andThen agrees, first value rfl, ok_bind]
    exact second value rfl result succeeds

end Step

namespace Machine

variable {table : OperatorTable} {base machine : Machine} {opener closer : Operator}
  {due other : Operator → Bool} {position : Option Int} {upper bottom : List Operator}

@[simp] theorem onto_operators (base machine : Machine) :
    (base.onto machine).operators = machine.operators.dropLast ++ base.operators := rfl

@[simp] theorem onto_groups (base machine : Machine) :
    (base.onto machine).groups = machine.groups ++ base.groups := rfl

@[simp] theorem onto_expectsOperand (base machine : Machine) :
    (base.onto machine).expectsOperand = machine.expectsOperand := rfl

theorem lifts_failed {α : Type} (cause : Cause) (other : Step α) :
    Step.Lifts base (.failed machine cause position) other := by
  intro value succeeds
  cases succeeds

theorem lifts_done {reached : Machine} (same : reached.unrecorded = base.onto machine) :
    Step.Lifts base (.done machine) (.done reached) := by
  intro value succeeds
  exact congrArg (fun next => Except.ok (next, ())) same

/-- A reduction above the start sentinel lifts. -/
theorem lifts_reduce {operator : Operator} {waiting : List Operator}
    (top : machine.operators = operator :: waiting) (more : waiting ≠ []) (base : Machine)
    (position : Option Int) :
    Step.Lifts base (machine.reduce position) ((base.onto machine).reduce position) := by
  intro value succeeds
  rcases machine.reduce_cases position with ⟨cause, refused⟩ | ⟨attempt, rest, operands, offers⟩
  · rw [refused] at succeeds
    cases succeeds
  · have same := offers.operators
    rw [top, List.cons.injEq] at same
    obtain ⟨sameOperator, sameWaiting⟩ := same
    subst sameWaiting
    have lifted : (base.onto machine).Offers attempt (waiting.dropLast ++ base.operators)
        (operands ++ base.operands) := by
      refine ⟨?_, ?_, offers.result⟩
      · rw [onto_operators, top, List.dropLast_cons_of_ne_nil more, ← sameOperator]
        rfl
      · rw [onto, offers.operands]
        rfl
    rw [reduce_of_offers offers] at succeeds ⊢
    rw [reduce_of_offers lifted]
    cases outcome : attempt.outcome position with
    | error fault =>
        rw [outcome] at succeeds
        cases succeeds
    | ok result =>
        have same : ((base.onto machine).afterAttempt attempt (waiting.dropLast ++ base.operators)
            (operands ++ base.operands)).unrecorded =
              base.onto (machine.afterAttempt attempt waiting operands) := by
          rw [afterAttempt, afterAttempt, onto, ← List.append_assoc]
          rfl
        exact congrArg (fun next => Except.ok (next, ())) same

/-- A reducing loop lifts if it stops at the same operator, or at the start sentinel below
and at the opener in its place above. -/
theorem lifts_reduceWhile (stacked : machine.operators = upper ++ bottom)
    (agree : ∀ operator ∈ upper, due operator = other operator)
    (stops : ∀ top ∈ bottom.head?, due top = false)
    (otherStops : ∀ top ∈ (bottom.dropLast ++ base.operators).head?, other top = false)
    (grounded : bottom ≠ []) (position : Option Int) :
    Step.Lifts base (machine.reduceWhile due position)
      ((base.onto machine).reduceWhile other position) := by
  induction upper generalizing machine with
  | nil =>
      have rests : machine.reduceWhile due position = .done machine := by
        cases bottom with
        | nil => exact absurd rfl grounded
        | cons top below => exact reduceWhile_of_not_due stacked (stops top rfl)
      have otherRests : (base.onto machine).reduceWhile other position =
          .done (base.onto machine) := by
        cases lifted : (base.onto machine).operators with
        | nil => exact reduceWhile_of_empty lifted
        | cons top below =>
            have same : bottom.dropLast ++ base.operators = top :: below := by
              rw [← lifted, onto_operators, stacked, List.nil_append]
            exact reduceWhile_of_not_due lifted (otherStops top (same ▸ rfl))
      rw [rests, otherRests]
      exact lifts_done rfl
  | cons operator rest ih =>
      obtain ⟨same, agree⟩ := List.forall_mem_cons.mp agree
      have more : rest ++ bottom ≠ [] := List.append_ne_nil_of_right_ne_nil rest grounded
      have lifted : (base.onto machine).operators =
          operator :: ((rest ++ bottom).dropLast ++ base.operators) := by
        rw [onto_operators, stacked, List.cons_append, List.dropLast_cons_of_ne_nil more,
          List.cons_append]
      by_cases holds : due operator = true
      · rw [reduceWhile_of_due stacked holds, reduceWhile_of_due lifted (same ▸ holds)]
        apply (lifts_reduce stacked more base position).andThen
        · exact fun _ alike => alike.reduceWhile other position position
        · intro value succeeds
          exact ih (operators_of_reduce stacked succeeds) agree
      · have fails := Bool.eq_false_iff.mpr holds
        rw [reduceWhile_of_not_due stacked fails, reduceWhile_of_not_due lifted (same ▸ fails)]
        exact lifts_done rfl

/-! ## Transitions -/

/-- The operators of a sound machine, cut at the innermost barrier: above it none is an
opener, and it is the start sentinel or opens the innermost group. -/
theorem Sound.layers (sound : machine.Sound table) :
    ∃ upper barrier lower, machine.operators = upper ++ barrier :: lower ∧
      (∀ operator ∈ upper, operator ∈ table.operators ∧ operator.opensGroup = false) ∧
      ((barrier = Operator.start ∧ lower = [] ∧ machine.groups = []) ∨
        (lower ≠ [] ∧ ∃ outer, machine.groups = barrier :: outer)) := by
  obtain ⟨above, split, absent⟩ := sound.bottomed
  have groups : machine.groups = above.filter Operator.opensGroup := by
    rw [sound.groups, split, List.filter_append]
    exact List.append_nil _
  have known : ∀ operator ∈ above, operator ∈ table.operators := by
    intro operator member
    apply sound.known operator (split ▸ List.mem_append_left _ member)
    rintro rfl
    exact absent member
  cases opened : machine.groups with
  | nil =>
      rw [groups, List.filter_eq_nil_iff] at opened
      refine ⟨above, Operator.start, [], split, ?_, Or.inl ⟨rfl, rfl, rfl⟩⟩
      intro operator member
      exact ⟨known operator member, Bool.eq_false_iff.mpr (opened operator member)⟩
  | cons opener outer =>
      rw [groups, List.filter_eq_cons_iff] at opened
      obtain ⟨upper, lower, whole, closed, _, _⟩ := opened
      refine ⟨upper, opener, lower ++ [Operator.start], ?_, ?_, Or.inr ⟨?_, outer, rfl⟩⟩
      · rw [split, whole, List.append_assoc, List.cons_append]
      · intro operator member
        exact ⟨known operator (whole ▸ List.mem_append_left _ member),
          Bool.eq_false_iff.mpr (closed operator member)⟩
      · exact List.append_ne_nil_of_right_ne_nil lower (List.cons_ne_nil _ _)

/-- Groups that are opened on a base, and those of the base, open from the table. -/
theorem opensFrom_onto (sound : machine.Sound table) (ground : base.Ground table) :
    (base.onto machine).OpensFrom table := by
  intro opener member
  rcases List.mem_append.mp member with inner | outer
  · exact sound.opensFrom opener inner
  · exact ground.opened opener outer

/-- What yields on its own yields on a base, and the barrier of the base stops the loop there. -/
theorem lifts_yieldTo (sound : machine.Sound table) (ground : base.Ground table)
    (incoming : Operator) (position : Option Int) :
    Step.Lifts base (machine.yieldTo incoming position)
      ((base.onto machine).yieldTo incoming position) := by
  obtain ⟨upper, barrier, lower, stacked, plain, place⟩ := sound.layers
  have barred : machine.isBarrier barrier = true := by
    rcases place with ⟨same, _, _⟩ | ⟨_, outer, innermost⟩
    · rw [same]
      exact isBarrier_start machine
    · exact isBarrier_of_innermost innermost
  have otherBarred : ∀ top ∈ ((barrier :: lower).dropLast ++ base.operators).head?,
      (base.onto machine).isBarrier top = true := by
    intro top head
    rcases place with ⟨_, bare, empty⟩ | ⟨more, outer, innermost⟩
    · obtain ⟨bottom, below, based, bottomBarred⟩ := ground.barred
      rw [bare, based] at head
      cases head
      rw [isBarrier, onto_groups, empty]
      exact bottomBarred
    · rw [List.dropLast_cons_of_ne_nil more] at head
      cases head
      have lifted : (base.onto machine).groups = barrier :: (outer ++ base.groups) := by
        rw [onto_groups, innermost, List.cons_append]
      exact isBarrier_of_innermost lifted
  -- Above the barrier the two conditions agree, and each machine has one below.
  apply lifts_reduceWhile stacked
  · intro operator member
    obtain ⟨known, closed⟩ := plain operator member
    rw [isBarrier_of_plain sound.opensFrom known closed,
      isBarrier_of_plain (opensFrom_onto sound ground) known closed]
  · intro top head
    cases head
    rw [barred]
    rfl
  · intro top head
    rw [otherBarred top head]
    rfl
  · exact List.cons_ne_nil barrier lower

/-- A number lifts: whether it is taken in does not depend on what lies below. -/
theorem lifts_pushOperand (machine base : Machine) (value : Int) (position : Option Int) :
    Step.Lifts base (machine.pushOperand value position)
      ((base.onto machine).pushOperand value position) := by
  unfold pushOperand
  rw [onto_expectsOperand]
  split
  · split
    · exact lifts_done rfl
    · exact lifts_failed _ _
  · exact lifts_failed _ _

/-- An opener lifts, because it is pushed without a look at what lies below. -/
theorem lifts_openGroup (stacked : machine.operators ≠ []) (base : Machine) (opener : Operator)
    (position : Option Int) :
    Step.Lifts base (machine.openGroup opener position)
      ((base.onto machine).openGroup opener position) := by
  unfold openGroup
  rw [onto_expectsOperand]
  split
  · apply lifts_done
    unfold onto
    rw [List.dropLast_cons_of_ne_nil stacked]
    rfl
  · exact lifts_failed _ _

/-- A binary operator lifts, since what it makes yield lies above the base. -/
theorem lifts_pushBinary (sound : machine.Sound table) (ground : base.Ground table)
    (operator : Operator) (position : Option Int) :
    Step.Lifts base (machine.pushBinary operator position)
      ((base.onto machine).pushBinary operator position) := by
  unfold pushBinary
  rw [onto_expectsOperand]
  split
  · exact lifts_failed _ _
  · apply (lifts_yieldTo sound ground operator position).andThen
    · exact fun _ alike => (alike.addOperator operator).done
    · intro value succeeds
      have stacked := (sound.yieldTo operator position).bottomed.ne_nil
      apply lifts_done
      unfold onto
      rw [List.dropLast_cons_of_ne_nil stacked]
      rfl

/-- The loop that closes a group of the upper machine lifts. -/
theorem lifts_closing (sound : machine.Sound table) {outer : List Operator}
    (opened : machine.groups = opener :: outer) (base : Machine) (position : Option Int) :
    Step.Lifts base
      (machine.reduceWhile (fun operator => operator.symbol != opener.symbol) position)
      ((base.onto machine).reduceWhile (fun operator => operator.symbol != opener.symbol)
        position) := by
  obtain ⟨upper, barrier, lower, stacked, _, place⟩ := sound.layers
  rcases place with ⟨_, _, empty⟩ | ⟨more, others, innermost⟩
  · rw [opened] at empty
    cases empty
  · rw [opened, List.cons.injEq] at innermost
    have stays : (barrier.symbol != opener.symbol) = false := by
      rw [innermost.1]
      exact bne_self_eq_false _
    apply lifts_reduceWhile stacked
    · exact fun _ _ => rfl
    · intro top head
      cases head
      exact stays
    · intro top head
      rw [List.dropLast_cons_of_ne_nil more] at head
      cases head
      exact stays
    · exact List.cons_ne_nil barrier lower

/-- A closer lifts if its group is one of the machine's own, and it is no success otherwise. -/
theorem lifts_closeGroup (sound : machine.Sound table) (base : Machine) (closer : Operator)
    (position : Option Int) :
    Step.Lifts base (machine.closeGroup closer position)
      ((base.onto machine).closeGroup closer position) := by
  cases opened : machine.groups with
  | nil =>
      unfold closeGroup
      rw [opened]
      exact lifts_failed _ _
  | cons opener outer =>
      have lifted : (base.onto machine).groups = opener :: (outer ++ base.groups) := by
        rw [onto_groups, opened, List.cons_append]
      obtain ⟨openerMember, _⟩ := sound.opensFrom opener (opened ▸ List.mem_cons_self)
      unfold closeGroup
      rw [opened, lifted, onto_expectsOperand]
      simp only
      split
      · exact lifts_failed _ _
      · split
        · exact lifts_failed _ _
        · apply (lifts_closing sound opened base position).andThen
          · exact fun _ alike => alike.removeOpener.done
          · intro value succeeds
            obtain ⟨waiting, reached⟩ := sound.closing_stops opened position succeeds
            have bottomed := (sound.closing opened position).bottomed
            rw [reached, bottomed_cons_iff (table.ne_start openerMember)] at bottomed
            apply lifts_done
            unfold onto
            rw [reached, List.dropLast_cons_of_ne_nil bottomed.ne_nil,
              reduceWhile_groups, opened]
            rfl

theorem lifts_pushSymbol (sound : machine.Sound table) (ground : base.Ground table)
    (operator : Operator) (position : Option Int) :
    Step.Lifts base (machine.pushSymbol operator position)
      ((base.onto machine).pushSymbol operator position) := by
  unfold pushSymbol pushOperator
  split
  · exact lifts_closeGroup sound base operator position
  · split
    · exact lifts_openGroup sound.bottomed.ne_nil base operator position
    · exact lifts_pushBinary sound ground operator position

theorem lifts_consume (sound : machine.Sound table) (ground : base.Ground table)
    (token : Token) :
    Step.Lifts base (machine.consume table token) ((base.onto machine).consume table token) := by
  cases token with
  | number value position => exact lifts_pushOperand machine base value (some position)
  | symbol symbol position =>
      rw [consume, consume, withOperator, withOperator]
      cases table.lookup symbol with
      | error fault =>
          intro value succeeds
          cases succeeds
      | ok operator => exact lifts_pushSymbol sound ground operator (some position)

/-- Tokens that are taken in from the start are taken in on a base. -/
theorem lifts_consumeAll (sound : machine.Sound table) (ground : base.Ground table)
    (tokens : List Token) :
    Step.Lifts base (machine.consumeAll table tokens)
      ((base.onto machine).consumeAll table tokens) := by
  induction tokens generalizing machine with
  | nil => exact lifts_done rfl
  | cons token rest ih =>
      rw [consumeAll, consumeAll]
      apply (lifts_consume sound ground token).andThen
      · exact fun _ alike => alike.consumeAll rfl
      · intro value succeeds
        exact ih (sound.consume token)

/-! ## Closing a group -/

/-- A loop that takes everything above some operators found it all due. -/
theorem due_of_reduceWhile (stacked : machine.operators = upper ++ bottom)
    (succeeds : (machine.reduceWhile due position).outcome = .ok ())
    (ends : (machine.reduceWhile due position).machine.operators = bottom) :
    ∀ operator ∈ upper, due operator = true := by
  induction upper generalizing machine with
  | nil => exact fun operator member => absurd member List.not_mem_nil
  | cons first rest ih =>
      by_cases holds : due first = true
      · rw [reduceWhile_of_due stacked holds] at succeeds ends
        rcases reduced : machine.reduce position with ⟨next, fault | value⟩
        · rw [reduced] at succeeds
          cases succeeds
        · have shorter := operators_of_reduce stacked (congrArg Step.outcome reduced)
          rw [reduced] at succeeds ends shorter
          exact List.forall_mem_cons.mpr ⟨holds, ih shorter succeeds ends⟩
      · rw [reduceWhile_of_not_due stacked (Bool.eq_false_iff.mpr holds)] at ends
        have lengths := congrArg List.length (stacked.symm.trans ends)
        rw [List.cons_append, List.length_cons, List.length_append] at lengths
        omega

/-- An input that ends with a value leaves only that value. -/
theorem of_conclude {value : Int} (succeeds : (machine.conclude position).outcome = .ok value) :
    machine.groups = [] ∧ machine.operands = [value] ∧ machine.isAtStart = true := by
  unfold conclude at succeeds
  split at succeeds
  · cases succeeds
  · rename_i closed
    split at succeeds
    · rename_i single
      split at succeeds
      · rename_i atStart
        cases succeeds
        exact ⟨closed, single, atStart⟩
      · cases succeeds
    · cases succeeds

/-- A sound machine at the start has no operator but the sentinel. -/
theorem Sound.operators_of_isAtStart (sound : machine.Sound table)
    (atStart : machine.isAtStart = true) : machine.operators = [Operator.start] := by
  unfold isAtStart at atStart
  cases stacked : machine.operators with
  | nil => exact absurd stacked sound.bottomed.ne_nil
  | cons top below =>
      rw [stacked, List.head?_cons, Option.any_some, beq_iff_eq] at atStart
      have same : top = Operator.start := by
        by_contra other
        exact table.symbol_ne_startSymbol (sound.top_mem stacked other) atStart
      subst same
      rw [sound.waiting_of_start stacked]

/-- An input that ends with a value had no group open, and its last reductions leave the
value and the sentinel. -/
theorem Sound.of_finish {value : Int} (sound : machine.Sound table)
    (finishes : (machine.finish position).outcome = .ok value) :
    machine.expectsOperand = false ∧ machine.groups = [] ∧
      (machine.yieldTo .finish position).outcome = .ok () ∧
      (machine.yieldTo .finish position).machine.operands = [value] ∧
      (machine.yieldTo .finish position).machine.operators = [Operator.start] := by
  have after := sound.yieldTo .finish position
  have groups : (machine.yieldTo .finish position).machine.groups = machine.groups :=
    reduceWhile_groups machine _ position
  rw [Machine.finish] at finishes
  split at finishes
  · cases finishes
  · split at finishes
    · cases finishes
    · rename_i expects
      generalize machine.yieldTo .finish position = step at after groups finishes ⊢
      rcases step with ⟨next, fault | ended⟩
      · cases finishes
      · obtain ⟨closed, single, atStart⟩ := of_conclude finishes
        exact ⟨Bool.eq_false_iff.mpr expects, groups.symm.trans closed, rfl, single,
          after.operators_of_isAtStart atStart⟩

/-- The loop at the end of the input, if it leaves one value, lifts to the loop that closes
the group. -/
theorem Sound.lifts_ending {value : Int} (sound : machine.Sound table)
    (pair : table.HasPair opener closer)
    (finishes : (machine.finish position).outcome = .ok value) (host : Machine) :
    Step.Lifts (host.opening opener) (machine.yieldTo .finish position)
      (((host.opening opener).onto machine).reduceWhile
        (fun operator => operator.symbol != opener.symbol) position) := by
  obtain ⟨_, closed, succeeds, _, ended⟩ := sound.of_finish finishes
  obtain ⟨upper, barrier, lower, stacked, plain, place⟩ := sound.layers
  rcases place with ⟨rfl, rfl, _⟩ | ⟨_, outer, innermost⟩
  · have due := due_of_reduceWhile stacked succeeds ended
    -- The end of the input found everything above the sentinel due, as the closer does.
    apply lifts_reduceWhile stacked
    · intro operator member
      obtain ⟨known, opensNot⟩ := plain operator member
      rw [due operator member]
      exact (bne_iff_ne.mpr (pair.symbol_ne known opensNot)).symm
    · intro top head
      cases head
      rfl
    · intro top head
      cases head
      exact bne_self_eq_false _
    · exact List.cons_ne_nil _ _
  · rw [closed] at innermost
    cases innermost

/-- What the end of the input does from the start, the closer does above its opener. -/
theorem Sound.closes_of_finish {value : Int} (sound : machine.Sound table)
    (pair : table.HasPair opener closer)
    (finishes : (machine.finish position).outcome = .ok value) (host : Machine) :
    (((host.opening opener).onto machine).closeGroup closer position).effect =
      .ok (host.holding ⟨[], value⟩, ()) := by
  obtain ⟨expects, closed, succeeds, single, ended⟩ := sound.of_finish finishes
  have loop := sound.lifts_ending pair finishes host () succeeds
  have reached : (host.opening opener).onto (machine.yieldTo .finish position).machine =
      (host.opening opener).holding ⟨[], value⟩ := by
    have groups : (machine.yieldTo .finish position).machine.groups = [] :=
      (reduceWhile_groups machine _ position).trans closed
    have operatorDue : (machine.yieldTo .finish position).machine.expectsOperand = false :=
      (reduceWhile_expectsOperand machine _ position).trans expects
    rw [onto, single, ended, groups, operatorDue]
    rfl
  have innermost : ((host.opening opener).onto machine).groups = opener :: host.groups := by
    rw [onto_groups, closed, List.nil_append]
    rfl
  unfold Machine.closeGroup
  rw [innermost]
  simp only
  rw [if_neg (not_not_intro pair.paired), onto_expectsOperand, expects,
    if_neg Bool.false_ne_true, Step.effect_andThen fun _ alike => alike.removeOpener.done, loop,
    reached]
  rfl

/-- A group whose contents have a value of their own does what that value does as a number,
wherever it stands. -/
theorem effect_group (opened : machine.OpensFrom table) (pair : table.HasPair opener closer)
    {expression : List Token} {value : Int}
    (evaluated : ((Machine.start.consumeAll table expression).andThen fun next _ =>
      next.finish position).outcome = .ok value) (first last only : Int) :
    (machine.consumeAll table ([.symbol opener.symbol first] ++ expression ++
        [.symbol closer.symbol last])).effect =
      (machine.consume table (.number value only)).effect := by
  have lifts := lifts_consumeAll (sound_start table) (ground_opening opened pair) expression
  have sound := (sound_start table).consumeAll expression
  rcases consumed : Machine.start.consumeAll table expression with ⟨reached, fault | _⟩
  · rw [consumed] at evaluated
    cases evaluated
  · rw [consumed] at evaluated lifts sound
    have short : fits value = true := by
      obtain ⟨_, _, _, single, _⟩ := sound.of_finish evaluated
      exact (sound.yieldTo .finish position).short value (single ▸ List.mem_cons_self)
    have inner : ((machine.opening opener).consumeAll table expression).effect =
        .ok ((machine.opening opener).onto reached, ()) := lifts () rfl
    rw [List.append_assoc, List.singleton_append, effect_consumeAll_cons,
      consume_symbol pair.openerMember, pushSymbol_of_opener pair, consume]
    by_cases expects : machine.expectsOperand = true
    · have closing := (alike_refl ((machine.opening opener).onto reached)).closeGroup closer
        (some last) position
      rw [effect_openGroup expects, ok_bind, effect_consumeAll_append, inner, ok_bind,
        effect_consumeAll_cons, consume_symbol pair.closerMember, pushSymbol_of_closer pair,
        closing, sound.closes_of_finish pair evaluated, effect_pushOperand expects, if_pos short]
      rfl
    · rw [openGroup, pushOperand, if_neg expects, if_neg expects]
      rfl

end Machine

/-- A group whose contents evaluate to a value may be replaced by that value as a number: in
any context the evaluation gives the same value or a fault of the same kind. -/
theorem Evaluator.evaluateTokens_group (evaluator : Evaluator) {opener closer : Operator}
    (pair : evaluator.table.HasPair opener closer) {expression : List Token} {value : Int}
    (evaluated : evaluator.evaluateTokens expression = .ok value)
    (before behind : List Token) {grouped plain : List Token}
    (groupedTokens : grouped.map Token.unplaced =
      (before ++ ([Token.symbol opener.symbol 0] ++ expression ++
        [Token.symbol closer.symbol 0]) ++ behind).map Token.unplaced)
    (plainTokens : plain.map Token.unplaced =
      (before ++ [Token.number value 0] ++ behind).map Token.unplaced) :
    (evaluator.evaluateTokens grouped).mapError Fault.kind =
      (evaluator.evaluateTokens plain).mapError Fault.kind := by
  rw [evaluateTokens_eq] at evaluated
  have start := Machine.alike_refl Machine.start
  have sound := (Machine.sound_start evaluator.table).consumeAll before
  have same : (Machine.start.consumeAll evaluator.table grouped).effect =
      (Machine.start.consumeAll evaluator.table plain).effect := by
    rw [start.consumeAll groupedTokens, start.consumeAll plainTokens,
      List.append_assoc before, List.append_assoc before,
      Machine.effect_consumeAll_append, Machine.effect_consumeAll_append]
    refine bind_congr_of_ok fun reached reaches => ?_
    have opened : reached.1.OpensFrom evaluator.table := by
      rw [← Step.unrecorded_of_effect reaches]
      exact sound.opensFrom
    rw [Machine.effect_consumeAll_append, Machine.effect_group opened pair evaluated 0 0 0,
      List.singleton_append, Machine.effect_consumeAll_cons]
  rw [mapError_evaluateTokens, mapError_evaluateTokens, same]

/-- In `8*(2-3)^2` the group may be replaced by a number that no text can write. -/
theorem evaluateTokens_group_difference :
    let expression : List Token := [.number 2 0, .symbol "-" 1, .number 3 2]
    let grouped : List Token := [.number 8 0, .symbol "*" 1, .symbol "(" 2, .number 2 3,
      .symbol "-" 4, .number 3 5, .symbol ")" 6, .symbol "^" 7, .number 2 8]
    let plain : List Token := [.number 8 0, .symbol "*" 1, .number (-1) 2, .symbol "^" 3,
      .number 2 4]
    Evaluator.standard.evaluateTokens expression = .ok (-1) ∧
      (Evaluator.standard.evaluateTokens grouped).mapError Fault.kind =
        (Evaluator.standard.evaluateTokens plain).mapError Fault.kind := by
  intro expression grouped plain
  have evaluated : Evaluator.standard.evaluateTokens expression = .ok (-1) := by
    decide
  refine ⟨evaluated, ?_⟩
  exact Evaluator.standard.evaluateTokens_group OperatorTable.hasPair_standard evaluated
    [.number 8 0, .symbol "*" 0] [.symbol "^" 0, .number 2 0] rfl rfl

end InfixCalculator
