import InfixCalculator.Proofs.Expression.Phrase
import InfixCalculator.Proofs.Machine.Frame

/-!
# Evaluating phrases

The tokens of a phrase leave on a frame what a reader of the phrase holds, and the tokens of
an operand leave its meaning (`Machine.effect_phrase`, `Machine.effect_operand`).  So an
evaluation gives every derivable phrase its meaning (`Evaluator.evaluateTokens_phrase`).
-/

namespace InfixCalculator

namespace Machine

variable {table : OperatorTable}

mutual

/-- An operand's tokens leave its meaning on the frame. -/
theorem effect_operand (operand : Operand) {base : Machine} (ground : base.Ground table)
    (derivable : operand.Derivable table) (pending : List Pending) :
    ((base.awaiting pending).consumeAll table operand.tokens).effect =
      (fun value => (base.holding ⟨pending, value⟩, ())) <$> operand.meaning := by
  cases operand with
  | number value position =>
      rw [Operand.tokens, Operand.meaning, effect_consumeAll_cons, consume,
        effect_pushOperand rfl, bind_map_left, map_eq_pure_bind]
      rfl
  | group opener opened inner closer closed =>
      obtain ⟨pair, derivable⟩ := derivable
      have opened : (base.awaiting pending).OpensFrom table := ground.opened
      have reads : (((base.awaiting pending).opening opener).consumeAll table inner.tokens).effect =
          (fun held => (((base.awaiting pending).opening opener).holding held, ())) <$> inner.held :=
        effect_phrase inner (ground_opening opened pair) derivable
      rw [Operand.tokens, Operand.meaning, Phrase.meaning_eq, effect_consumeAll_cons,
        consume_symbol pair.openerMember, pushSymbol_of_opener pair, effect_openGroup rfl,
        ok_bind, effect_consumeAll_append, reads, bind_map_left, map_bind]
      refine bind_congr_of_ok fun held read => ?_
      rw [effect_consumeAll_cons, consume_symbol pair.closerMember, pushSymbol_of_closer pair,
        effect_closeGroup_holding pair (inner.hasPlain_of_held derivable read), bind_map_left,
        map_eq_pure_bind]
      rfl

/-- On any ground, the tokens of a phrase leave what the phrase holds. -/
theorem effect_phrase (phrase : Phrase) {base : Machine} (ground : base.Ground table)
    (derivable : phrase.Derivable table) :
    ((base.awaiting []).consumeAll table phrase.tokens).effect =
      (fun held => (base.holding held, ())) <$> phrase.held := by
  cases phrase with
  | chain first rest =>
      rw [Phrase.tokens, Phrase.held, effect_consumeAll_append,
        effect_operand first ground derivable.1, bind_map_left, map_bind]
      refine bind_congr fun value => ?_
      exact effect_tail rest ground derivable.2 fun _ member => absurd member List.not_mem_nil

/-- Behind an operand, the tokens of a tail advance what is held link by link. -/
theorem effect_tail (tail : Tail) {base : Machine} {held : Held} (ground : base.Ground table)
    (derivable : tail.Derivable table)
    (plain : ∀ waits ∈ held.pending, table.HasPlain waits.operator) :
    ((base.holding held).consumeAll table tail.tokens).effect =
      (fun next => (base.holding next, ())) <$> tail.links.foldlM Held.advance held := by
  cases tail with
  | done => rfl
  | link operator position operand rest =>
      obtain ⟨plainOperator, derivableOperand, derivableRest⟩ := derivable
      rw [Tail.tokens, Tail.links, effect_consumeAll_cons, consume_symbol plainOperator.member,
        pushSymbol_of_plain plainOperator, effect_pushBinary_holding ground plain,
        List.foldlM_cons, map_bind, bind_map_left, Held.advance, bind_assoc]
      refine bind_congr_of_ok fun settled settles => ?_
      rw [effect_consumeAll_append, effect_operand operand ground derivableOperand, bind_assoc,
        bind_map_left]
      refine bind_congr fun right => ?_
      rw [pure_bind]
      apply effect_tail rest ground derivableRest
      intro waits member
      rcases List.mem_cons.mp member with same | old
      · exact same ▸ plainOperator
      · exact plain waits (Held.mem_of_settle settles waits old)

end

end Machine

/-- An evaluation gives a phrase its meaning, if every operator binds more than the end of
the input.  Faults agree in their kinds. -/
theorem Evaluator.evaluateTokens_phrase (evaluator : Evaluator)
    (outranks : ∀ operator, evaluator.table.HasPlain operator →
      Operator.finish.priority < operator.priority)
    (phrase : Phrase) (derivable : phrase.Derivable evaluator.table) :
    (evaluator.evaluateTokens phrase.tokens).mapError Fault.kind = phrase.meaning := by
  have reads : (Machine.start.consumeAll evaluator.table phrase.tokens).effect =
      (fun held => (Machine.start.holding held, ())) <$> phrase.held :=
    Machine.effect_phrase phrase (Machine.ground_start evaluator.table) derivable
  rw [mapError_evaluateTokens, reads, bind_map_left, phrase.meaning_eq, map_bind]
  refine bind_congr_of_ok fun held read => ?_
  have plain := phrase.hasPlain_of_held derivable read
  rw [Machine.effect_finish_holding plain fun waits member => outranks _ (plain waits member),
    Functor.map_map]
  exact id_map _

/-- The value of `8-(2-3)^2^3-1`: powers associate to the right, differences to the left. -/
theorem evaluateTokens_phrase_differences :
    let phrase : Phrase := .chain (.number 8 0) (.link Operation.subtract.operator 1
      (.group ⟨"(", 5, .right, none, true, none⟩ 2
        (.chain (.number 2 3) (.link Operation.subtract.operator 4 (.number 3 5) .done))
        ⟨")", 5, .left, none, false, some "("⟩ 6)
      (.link Operation.power.operator 7 (.number 2 8)
        (.link Operation.power.operator 9 (.number 3 10)
          (.link Operation.subtract.operator 11 (.number 1 12) .done))))
    (∀ operator, OperatorTable.standard.HasPlain operator →
      Operator.finish.priority < operator.priority) ∧
    phrase.Derivable .standard ∧
    (Evaluator.standard.evaluateTokens phrase.tokens).mapError Fault.kind = phrase.meaning ∧
    phrase.meaning = .ok 6 := by
  intro phrase
  have outranks : ∀ operator, OperatorTable.standard.HasPlain operator →
      Operator.finish.priority < operator.priority := by
    intro operator plain
    have all : ∀ operator ∈ standardOperators, operator.isPlain = true →
        Operator.finish.priority < operator.priority := by decide
    exact all operator plain.member plain.isPlain
  have binary := OperatorTable.hasPlain_standard
  have derivable : phrase.Derivable .standard :=
    ⟨trivial, binary .subtract,
      ⟨OperatorTable.hasPair_standard, trivial, binary .subtract, trivial, trivial⟩,
      binary .power, trivial, binary .power, trivial, binary .subtract, trivial, trivial⟩
  have evaluated := Evaluator.standard.evaluateTokens_phrase outranks phrase derivable
  refine ⟨outranks, derivable, evaluated, ?_⟩
  rw [← evaluated]
  rfl

end InfixCalculator
