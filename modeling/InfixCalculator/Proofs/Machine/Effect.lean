import InfixCalculator.Proofs.Machine.Comparison
import InfixCalculator.Proofs.Machine.Consumption

/-!
# Effects of steps

The effect of a step is the machine that it leaves, without the record of attempts, and its
value, or else the kind of its fault.  Neither the record nor the positions of tokens change
an effect: alike machines that take in alike tokens have the same effect
(`Machine.Alike.consumeAll`, `Machine.Alike.finish`).  Effects compose
(`Step.effect_andThen`), so a run can be computed from the effects of its tokens.
-/

namespace InfixCalculator

/-- The value of an expression, or the kind of its fault. -/
abbrev Outcome : Type :=
  Except FaultKind Int

/-- What an operator makes of two operands: its rule's value, if that is short enough. -/
def Operator.combine (operator : Operator) (left right : Int) : Outcome :=
  match operator.rule with
  | none => .error .stackUnderflow
  | some rule =>
      match rule left right with
      | .error fault => .error fault.kind
      | .ok value => if fits value then .ok value else .error .resultOverflow

theorem ok_bind {ε α β : Type} (value : α) (next : α → Except ε β) :
    Except.ok value >>= next = next value := rfl

/-- Two computations in turn give a value if both do. -/
theorem bind_eq_ok_iff {ε α β : Type} {first : Except ε α} {next : α → Except ε β} {result : β} :
    first >>= next = .ok result ↔ ∃ value, first = .ok value ∧ next value = .ok result := by
  cases first with
  | error kind =>
      constructor
      · intro same
        cases same
      · rintro ⟨value, same, _⟩
        cases same
  | ok value =>
      constructor
      · intro same
        exact ⟨value, rfl, same⟩
      · rintro ⟨_, same, result⟩
        cases same
        exact result

/-- What follows a computation matters only for the value that it gives. -/
theorem bind_congr_of_ok {ε α β : Type} {first : Except ε α} {next other : α → Except ε β}
    (agree : ∀ value, first = .ok value → next value = other value) :
    first >>= next = first >>= other := by
  cases first with
  | error kind => rfl
  | ok value => exact agree value rfl

namespace Step

variable {α β : Type}

/-- The unrecorded machine and the value of a step, or the kind of its fault. -/
def effect (step : Step α) : Except FaultKind (Machine × α) :=
  match step.outcome with
  | .ok value => .ok (step.machine.unrecorded, value)
  | .error fault => .error fault.kind

/-- An effect shows the machine that is left but for its record of attempts. -/
theorem unrecorded_of_effect {step : Step α} {reached : Machine × α}
    (reaches : step.effect = .ok reached) : step.machine.unrecorded = reached.1 := by
  rcases step with ⟨machine, fault | value⟩
  · cases reaches
  · cases reaches
    rfl

/-- An effect shows the value of a step that succeeds. -/
theorem outcome_of_effect {step : Step α} {reached : Machine × α}
    (reaches : step.effect = .ok reached) : step.outcome = .ok reached.2 := by
  rcases step with ⟨machine, fault | value⟩
  · cases reaches
  · cases reaches
    rfl

/-- An effect shows the kind of the fault of a step that fails, and nothing else of it. -/
theorem effect_eq_error_iff (step : Step α) (kind : FaultKind) :
    step.effect = .error kind ↔ ∃ fault, step.outcome = .error fault ∧ fault.kind = kind := by
  rcases step with ⟨machine, fault | value⟩
  · simp [effect]
  · simp [effect]

/-- The outcome of a step, up to the kind of its fault, is that of its effect. -/
theorem mapError_outcome (step : Step α) :
    step.outcome.mapError Fault.kind = Prod.snd <$> step.effect := by
  rcases step with ⟨machine, fault | value⟩
  · rfl
  · rfl

/-- Steps with the same effect, followed by steps with the same effects on alike machines,
have the same effect. -/
theorem effect_andThen_congr {first second : Step α} {next other : Machine → α → Step β}
    (same : first.effect = second.effect)
    (agrees : ∀ {left right : Machine} (value : α), left.Alike right →
      (next left value).effect = (other right value).effect) :
    (first.andThen next).effect = (second.andThen other).effect := by
  rcases first with ⟨left, fault | value⟩ <;> rcases second with ⟨right, otherFault | otherValue⟩
  · have kinds : fault.kind = otherFault.kind := Except.error.inj same
    exact congrArg Except.error kinds
  · cases same
  · cases same
  · obtain ⟨alike, equal⟩ := Prod.mk.inj (Except.ok.inj same)
    subst equal
    exact agrees value alike

/-- The effect of two steps in turn, if the second does not depend on the record. -/
theorem effect_andThen {step : Step α} {next : Machine → α → Step β}
    (agrees : ∀ {left right : Machine} (value : α), left.Alike right →
      (next left value).effect = (next right value).effect) :
    (step.andThen next).effect =
      step.effect >>= fun reached => (next reached.1 reached.2).effect := by
  rcases step with ⟨machine, fault | value⟩
  · rfl
  · exact agrees value machine.alike_unrecorded

end Step

/-! ## Kinds of faults -/

/-- Faults of one kind. -/
def SameKind (fault other : Fault) : Prop :=
  fault.kind = other.kind

theorem spans_sameKind (position other : Option Int) : Spans SameKind position other where
  placed := fun _ => rfl
  unplaced := fun _ => rfl

/-- Any fault may stand for itself if only its kind counts. -/
theorem Operator.respects_sameKind (operator : Operator) : operator.Respects SameKind :=
  fun _ _ _ _ _ _ => rfl

/-- Steps whose faults are of one kind have one effect. -/
theorem Step.Related.effect_eq {α : Type} {step other : Step α}
    (related : step.Related SameKind other) : step.effect = other.effect := by
  rcases related with ⟨ended, otherEnded, twin⟩ | ⟨failed, otherFailed, kinds⟩
  · rw [Step.effect, Step.effect, ended, otherEnded, twin.alike]
  · rw [Step.effect, Step.effect, failed, otherFailed]
    exact congrArg Except.error kinds

namespace Machine

variable {machine : Machine} {operator : Operator} {waiting : List Operator}
  {operands : List Int} {left right : Int}

/-- The effect of a reduction. -/
theorem effect_reduce (top : machine.operators = operator :: waiting)
    (pair : machine.operands = right :: left :: operands) (position : Option Int) :
    (machine.reduce position).effect =
      (fun value => ({ machine.unrecorded with
        operands := value :: operands
        operators := waiting }, ())) <$> operator.combine left right := by
  unfold reduce Operator.combine
  rw [top]
  cases ruled : operator.rule with
  | none =>
      simp only [ruled]
      rfl
  | some rule =>
      simp only [ruled, pair]
      unfold Attempt.outcome
      cases rule left right with
      | error fault => rfl
      | ok value =>
          simp only
          by_cases short : fits value = true
          · rw [if_pos short, if_pos short]
            rfl
          · rw [if_neg short, if_neg short]
            rfl

variable {first second : Machine}

/-! ## Alike machines -/

namespace Alike

/-- Alike machines are twins as far as the kinds of faults go. -/
theorem twin (alike : first.Alike second) : first.Twin SameKind second where
  alike := alike
  respects := fun operator _ => operator.respects_sameKind

theorem done (alike : first.Alike second) :
    (Step.done first).effect = (Step.done second).effect :=
  congrArg (fun machine => Except.ok (machine, ())) alike

theorem reduceWhile (alike : first.Alike second) (due : Operator → Bool)
    (position other : Option Int) :
    (first.reduceWhile due position).effect = (second.reduceWhile due other).effect :=
  (alike.twin.reduceWhile (spans_sameKind position other) due).effect_eq

theorem closeGroup (alike : first.Alike second) (closer : Operator)
    (position other : Option Int) :
    (first.closeGroup closer position).effect = (second.closeGroup closer other).effect :=
  (alike.twin.closeGroup (spans_sameKind position other) closer).effect_eq

theorem conclude (alike : first.Alike second) (position other : Option Int) :
    (first.conclude position).effect = (second.conclude other).effect :=
  (alike.twin.conclude (spans_sameKind position other)).effect_eq

/-- The end of the input has one effect on alike machines, wherever it lies. -/
theorem finish (alike : first.Alike second) (position other : Option Int) :
    (first.finish position).effect = (second.finish other).effect :=
  (alike.twin.finish (spans_sameKind position other)).effect_eq

variable {table : OperatorTable}

/-- A token has one effect on alike machines, wherever it stands. -/
theorem consume (alike : first.Alike second) {token other : Token}
    (same : token.unplaced = other.unplaced) :
    (first.consume table token).effect = (second.consume table other).effect :=
  (alike.twin.consume (fun operator _ => operator.respects_sameKind) same
    (spans_sameKind _ _)).effect_eq

/-- Tokens that differ in their positions alone have one effect on alike machines. -/
theorem consumeAll (alike : first.Alike second) {tokens others : List Token}
    (same : tokens.map Token.unplaced = others.map Token.unplaced) :
    (first.consumeAll table tokens).effect = (second.consumeAll table others).effect := by
  induction tokens generalizing first second others with
  | nil =>
      cases others with
      | nil => exact alike.done
      | cons other rest => cases same
  | cons token tokens ih =>
      cases others with
      | nil => cases same
      | cons other others =>
          obtain ⟨sameToken, sameRest⟩ := List.cons.inj same
          rw [Machine.consumeAll, Machine.consumeAll]
          apply Step.effect_andThen_congr (alike.consume sameToken)
          intro left right _ reached
          exact ih reached sameRest

end Alike

variable {table : OperatorTable}

/-- The effect of a list of tokens is that of its first token and then that of the rest. -/
theorem effect_consumeAll_cons (machine : Machine) (token : Token) (rest : List Token) :
    (machine.consumeAll table (token :: rest)).effect =
      (machine.consume table token).effect >>= fun reached =>
        (reached.1.consumeAll table rest).effect := by
  rw [consumeAll]
  exact Step.effect_andThen fun _ alike => alike.consumeAll rfl

theorem effect_consumeAll_append (machine : Machine) (first second : List Token) :
    (machine.consumeAll table (first ++ second)).effect =
      (machine.consumeAll table first).effect >>= fun reached =>
        (reached.1.consumeAll table second).effect := by
  rw [consumeAll_append]
  exact Step.effect_andThen fun _ alike => alike.consumeAll rfl

end Machine

/-- The outcome of an evaluation, up to the kind of its fault, comes from the effect of taking
in the tokens. -/
theorem Evaluator.mapError_evaluateTokens (evaluator : Evaluator) (tokens : List Token) :
    (evaluator.evaluateTokens tokens).mapError Fault.kind =
      Prod.snd <$> ((Machine.start.consumeAll evaluator.table tokens).effect >>= fun reached =>
        (reached.1.finish none).effect) := by
  have agrees : ∀ {left right : Machine} (_ : Unit), left.Alike right →
      (left.finish (some (lastPosition 0 tokens))).effect =
        (right.finish (some (lastPosition 0 tokens))).effect :=
    fun _ alike => alike.finish _ _
  rw [evaluateTokens_eq, Step.mapError_outcome, Step.effect_andThen agrees]
  congr 1
  exact bind_congr fun reached =>
    (Machine.alike_refl reached.1).finish (some (lastPosition 0 tokens)) none

/-- Where tokens stand does not matter for their value, or for the kind of their fault. -/
theorem Evaluator.mapError_evaluateTokens_congr (evaluator : Evaluator)
    {tokens others : List Token}
    (same : tokens.map Token.unplaced = others.map Token.unplaced) :
    (evaluator.evaluateTokens tokens).mapError Fault.kind =
      (evaluator.evaluateTokens others).mapError Fault.kind := by
  rw [mapError_evaluateTokens, mapError_evaluateTokens,
    (Machine.alike_refl Machine.start).consumeAll same]

end InfixCalculator
