import InfixCalculator.Proofs.Expression.Evaluation

/-!
# Enclosing a phrase in a group

The closer of a group combines everything that waits inside; the end of the input combines what
outranks it and stops at the first operator that does not.  So an evaluation gives a phrase and
the same phrase between delimiters one outcome if all operators of its outermost level outrank
the end, and it gives the bare phrase no value if one of them does not
(`Evaluator.evaluateTokens_enclosed`).

What carries the second half: an operator that does not outrank the end only gives way to
another one that does not either (`Operator.stays_of_yields`), so one of them is left at the end
(`Held.exists_stays_of_read`).
-/

namespace InfixCalculator

/-- The operators of a phrase that stand in none of its groups. -/
def Phrase.outermost : Phrase → List Operator
  | .chain _ rest => rest.links.map Link.operator

/-- If an operator that stays before a last one gives way to an incoming one, the incoming one
stays before the last one as well. -/
theorem Operator.stays_of_yields {waiting incoming last : Operator}
    (stays : waiting.outranks last = false) (yields : waiting.outranks incoming = true) :
    incoming.outranks last = false := by
  have below : incoming.priority < last.priority := by
    unfold outranks at stays yields
    split at stays
    · rename_i right
      rw [if_pos right, decide_eq_true_eq] at yields
      rw [decide_eq_false_iff_not] at stays
      omega
    · rename_i notRight
      rw [if_neg notRight, decide_eq_true_eq] at yields
      rw [decide_eq_false_iff_not] at stays
      omega
  unfold outranks
  split
  · exact decide_eq_false (by omega)
  · exact decide_eq_false (by omega)

namespace Held

variable {due : Operator → Bool} {pending : List Pending} {value : Int} {held next : Held}
  {link : Link} {links : List Link} {last : Operator}

/-- Whatever is settled first, collapsing the rest collapses everything. -/
theorem settle_bind_collapse (due : Operator → Bool) (pending : List Pending) (value : Int) :
    (settle due pending value >>= fun settled => collapse settled.pending settled.value) =
      collapse pending value := by
  induction pending generalizing value with
  | nil => rfl
  | cons first rest ih =>
      rw [settle, collapse]
      split
      · rw [bind_assoc]
        exact bind_congr fun combined => ih combined
      · rfl

/-- What is not due is not settled. -/
theorem mem_settle {waits : Pending} (member : waits ∈ pending)
    (fails : due waits.operator = false) (settles : settle due pending value = .ok next) :
    waits ∈ next.pending := by
  induction pending generalizing value with
  | nil => exact absurd member List.not_mem_nil
  | cons first rest ih =>
      rw [settle] at settles
      split at settles
      · rename_i holds
        obtain ⟨combined, _, later⟩ := bind_eq_ok_iff.mp settles
        rcases List.mem_cons.mp member with same | old
        · rw [same, holds] at fails
          cases fails
        · exact ih old later
      · cases settles
        exact member

/-- If something that waits, or the operator of a link, stays before a last operator, something
that waits behind the link does. -/
theorem exists_stays_of_advance
    (stays : (∃ waits ∈ held.pending, waits.operator.outranks last = false) ∨
      link.operator.outranks last = false)
    (advanced : held.advance link = .ok next) :
    ∃ waits ∈ next.pending, waits.operator.outranks last = false := by
  obtain ⟨settled, settles, rest⟩ := bind_eq_ok_iff.mp advanced
  obtain ⟨right, _, result⟩ := bind_eq_ok_iff.mp rest
  cases result
  by_cases incoming : link.operator.outranks last = false
  · exact ⟨_, List.mem_cons_self, incoming⟩
  · obtain ⟨waits, member, waitsStays⟩ := stays.resolve_right incoming
    have kept : waits.operator.outranks link.operator = false := by
      apply Bool.eq_false_iff.mpr
      intro yields
      exact incoming (Operator.stays_of_yields waitsStays yields)
    exact ⟨waits, List.mem_cons_of_mem _ (mem_settle member kept settles), waitsStays⟩

/-- An operator that the last one does not make yield still waits when more links are read. -/
theorem exists_stays_of_read
    (stays : (∃ waits ∈ held.pending, waits.operator.outranks last = false) ∨
      ∃ link ∈ links, link.operator.outranks last = false)
    (read : links.foldlM advance held = .ok next) :
    ∃ waits ∈ next.pending, waits.operator.outranks last = false := by
  induction links generalizing held with
  | nil =>
      cases read
      exact stays.resolve_right fun ⟨_, member, _⟩ => absurd member List.not_mem_nil
  | cons link rest ih =>
      rw [List.foldlM_cons] at read
      obtain ⟨between, advanced, readRest⟩ := bind_eq_ok_iff.mp read
      rcases stays with waiting | ⟨other, member, otherStays⟩
      · exact ih (Or.inl (exists_stays_of_advance (Or.inl waiting) advanced)) readRest
      · rcases List.mem_cons.mp member with same | later
        · subst same
          exact ih (Or.inl (exists_stays_of_advance (Or.inr otherStays) advanced)) readRest
        · exact ih (Or.inr ⟨other, later, otherStays⟩) readRest

/-- The latest operand, if nothing waits for it. -/
def sole (held : Held) : Outcome :=
  if held.pending.isEmpty then .ok held.value else .error .stackUnderflow

/-- If everything that waits outranks the last operator, all of it is combined. -/
theorem settle_bind_sole_of_outranks
    (outranks : ∀ waits ∈ pending, waits.operator.outranks last = true) :
    settle (·.outranks last) pending value >>= sole = collapse pending value := by
  rw [settle_of_due outranks, bind_map_left]
  exact bind_pure _

/-- If something that waits does not outrank the last operator, there is no sole value: either
it is left, or combining fails before. -/
theorem settle_bind_sole_of_stays
    (stays : ∃ waits ∈ pending, waits.operator.outranks last = false) :
    settle (·.outranks last) pending value >>= sole = .error .stackUnderflow ∨
      ∃ kind, settle (·.outranks last) pending value >>= sole = .error kind ∧
        collapse pending value = .error kind := by
  obtain ⟨waits, member, fails⟩ := stays
  cases settles : settle (·.outranks last) pending value with
  | error kind =>
      refine Or.inr ⟨kind, rfl, ?_⟩
      rw [← settle_bind_collapse (·.outranks last), settles]
      rfl
  | ok settled =>
      have left := mem_settle member fails settles
      have nonempty : settled.pending.isEmpty = false :=
        List.isEmpty_eq_false_iff.mpr (List.ne_nil_of_mem left)
      left
      rw [ok_bind, sole, nonempty]
      rfl

end Held

/-- At the end of the input what outranks it is settled, and one value must be left. -/
theorem Machine.effect_finish_settled {table : OperatorTable} {held : Held}
    (plain : ∀ waits ∈ held.pending, table.HasPlain waits.operator) (position : Option Int) :
    Prod.snd <$> ((Machine.start.holding held).finish position).effect =
      Held.settle (·.outranks .finish) held.pending held.value >>= Held.sole := by
  have filled : ((Machine.start.holding held).operands.isEmpty &&
      (Machine.start.holding held).operators.length == 1) = false := rfl
  have expects : (Machine.start.holding held).expectsOperand = false := rfl
  rw [Machine.finish, filled, if_neg Bool.false_ne_true, expects, if_neg Bool.false_ne_true,
    Step.effect_andThen fun _ alike => alike.conclude position position,
    effect_yieldTo_holding (ground_start table) plain, bind_map_left, map_bind]
  refine bind_congr fun settled => ?_
  rcases settled with ⟨pending, value⟩
  cases pending with
  | nil => rfl
  | cons first rest => rfl

namespace Phrase

variable {phrase : Phrase} {held : Held}

/-- What holds of the outermost operators of a phrase holds of what waits at its end. -/
theorem forall_of_held (property : Operator → Prop)
    (outermost : ∀ operator ∈ phrase.outermost, property operator)
    (read : phrase.held = .ok held) : ∀ waits ∈ held.pending, property waits.operator := by
  cases phrase with
  | chain first rest =>
      obtain ⟨value, _, read⟩ := bind_eq_ok_iff.mp read
      apply Held.forall_of_read property (fun _ member => absurd member List.not_mem_nil) _ read
      exact fun link member => outermost _ (List.mem_map_of_mem member)

/-- If an outermost operator of a phrase stays before a last operator, something that waits at
the end of the phrase does. -/
theorem exists_stays_of_held {last : Operator}
    (stays : ∃ operator ∈ phrase.outermost, operator.outranks last = false)
    (read : phrase.held = .ok held) :
    ∃ waits ∈ held.pending, waits.operator.outranks last = false := by
  cases phrase with
  | chain first rest =>
      obtain ⟨value, _, read⟩ := bind_eq_ok_iff.mp read
      obtain ⟨operator, member, operatorStays⟩ := stays
      obtain ⟨link, linked, rfl⟩ := List.mem_map.mp member
      exact Held.exists_stays_of_read (Or.inr ⟨link, linked, operatorStays⟩) read

end Phrase

namespace Evaluator

variable (evaluator : Evaluator)

/-- An evaluation reads a phrase and settles what outranks the end of the input. -/
theorem mapError_evaluateTokens_phrase {phrase : Phrase}
    (derivable : phrase.Derivable evaluator.table) :
    (evaluator.evaluateTokens phrase.tokens).mapError Fault.kind =
      phrase.held >>= fun held =>
        Held.settle (·.outranks .finish) held.pending held.value >>= Held.sole := by
  have reads : (Machine.start.consumeAll evaluator.table phrase.tokens).effect =
      (fun held => (Machine.start.holding held, ())) <$> phrase.held :=
    Machine.effect_phrase phrase (Machine.ground_start evaluator.table) derivable
  rw [mapError_evaluateTokens, reads, bind_map_left, map_bind]
  exact bind_congr_of_ok fun held read =>
    Machine.effect_finish_settled (phrase.hasPlain_of_held derivable read) none

/-- If its outermost operators outrank the end of the input, a phrase has its meaning. -/
theorem mapError_evaluateTokens_of_outranks {phrase : Phrase}
    (derivable : phrase.Derivable evaluator.table)
    (outranks : ∀ operator ∈ phrase.outermost, operator.outranks .finish = true) :
    (evaluator.evaluateTokens phrase.tokens).mapError Fault.kind = phrase.meaning := by
  rw [evaluator.mapError_evaluateTokens_phrase derivable, phrase.meaning_eq]
  exact bind_congr_of_ok fun held read =>
    Held.settle_bind_sole_of_outranks
      (phrase.forall_of_held (·.outranks .finish = true) outranks read)

/-- An evaluation gives an operand its meaning, whatever the operators in it. -/
theorem mapError_evaluateTokens_operand (operand : Operand)
    (derivable : operand.Derivable evaluator.table) :
    (evaluator.evaluateTokens operand.tokens).mapError Fault.kind = operand.meaning := by
  have reads : (Machine.start.consumeAll evaluator.table operand.tokens).effect =
      (fun value => (Machine.start.holding ⟨[], value⟩, ())) <$> operand.meaning :=
    Machine.effect_operand operand (Machine.ground_start evaluator.table) derivable []
  rw [mapError_evaluateTokens, reads, bind_map_left, map_bind]
  exact bind_pure _

/-- A phrase has the outcome that it has between delimiters if all operators of its outermost
level outrank the end of the input.  If one of them does not, the bare phrase has no value: the
operands that are left are a fault, unless the evaluation fails before and fails between
delimiters too. -/
theorem evaluateTokens_enclosed {opener closer : Operator}
    (pair : evaluator.table.HasPair opener closer) (phrase : Phrase)
    (derivable : phrase.Derivable evaluator.table) (opened closed : Int) :
    let bare := (evaluator.evaluateTokens phrase.tokens).mapError Fault.kind
    let enclosed := (evaluator.evaluateTokens (.symbol opener.symbol opened ::
      (phrase.tokens ++ [.symbol closer.symbol closed]))).mapError Fault.kind
    ((∀ operator ∈ phrase.outermost, operator.outranks .finish = true) → bare = enclosed) ∧
      ((∃ operator ∈ phrase.outermost, operator.outranks .finish = false) →
        bare = .error .stackUnderflow ∨
          ∃ kind, bare = .error kind ∧ enclosed = .error kind) := by
  intro bare enclosed
  have meaning : enclosed = phrase.meaning :=
    evaluator.mapError_evaluateTokens_operand (.group opener opened phrase closer closed)
      ⟨pair, derivable⟩
  rw [meaning]
  refine ⟨evaluator.mapError_evaluateTokens_of_outranks derivable, fun stays => ?_⟩
  have reads : bare = _ := evaluator.mapError_evaluateTokens_phrase derivable
  rw [reads, phrase.meaning_eq]
  cases read : phrase.held with
  | error kind => exact Or.inr ⟨kind, rfl, rfl⟩
  | ok held =>
      exact Held.settle_bind_sole_of_stays (phrase.exists_stays_of_held stays read)

end Evaluator

/-- In `8-2^3` both operators outrank the end of the input. -/
theorem evaluateTokens_enclosed_difference :
    let phrase : Phrase := .chain (.number 8 0) (.link Operation.subtract.operator 1 (.number 2 2)
      (.link Operation.power.operator 3 (.number 3 4) .done))
    let opener : Operator := ⟨"(", 5, .right, none, true, none⟩
    let closer : Operator := ⟨")", 5, .left, none, false, some "("⟩
    OperatorTable.standard.HasPair opener closer ∧ phrase.Derivable .standard ∧
      (∀ operator ∈ phrase.outermost, operator.outranks .finish = true) ∧
      (Evaluator.standard.evaluateTokens phrase.tokens).mapError Fault.kind =
        (Evaluator.standard.evaluateTokens (.symbol "(" 5 ::
          (phrase.tokens ++ [.symbol ")" 6]))).mapError Fault.kind := by
  intro phrase opener closer
  have pair : OperatorTable.standard.HasPair opener closer := OperatorTable.hasPair_standard
  have binary := OperatorTable.hasPlain_standard
  have derivable : phrase.Derivable .standard :=
    ⟨trivial, binary .subtract, trivial, binary .power, trivial, trivial⟩
  have outranks : ∀ operator ∈ phrase.outermost, operator.outranks .finish = true := by
    intro operator member
    rcases List.mem_pair.mp member with rfl | rfl
    · rfl
    · rfl
  exact ⟨pair, derivable, outranks,
    (Evaluator.standard.evaluateTokens_enclosed pair phrase derivable 5 6).1 outranks⟩

/-! ## A sum that binds less than the end -/

/-- A sum of the priority of the start sentinel. -/
def faintSum : Operator :=
  .binary "+" 0 .left Operation.add.rule

/-- A table may well hold an operator that does not outrank the end of the input. -/
def OperatorTable.faint : OperatorTable where
  operators := faintSum :: parentheses
  consistent := (firstConflict?_eq_none_iff _).1 (by rfl)

/-- Where the sum does not outrank the end of the input, `1+2` is left as it stands, while
`(1+2)` has a value. -/
theorem evaluateTokens_faintSum :
    let evaluator : Evaluator := ⟨.faint, .standard⟩
    let phrase : Phrase := .chain (.number 1 0) (.link faintSum 1 (.number 2 2) .done)
    let enclosed : List Token := .symbol "(" 3 :: (phrase.tokens ++ [.symbol ")" 4])
    evaluator.table.HasPair ⟨"(", 5, .right, none, true, none⟩
        ⟨")", 5, .left, none, false, some "("⟩ ∧
      phrase.Derivable evaluator.table ∧
      evaluator.evaluateTokens phrase.tokens = .error ⟨.malformedExpression, some 2⟩ ∧
      evaluator.evaluateTokens enclosed = .ok 3 ∧
      (evaluator.evaluateTokens phrase.tokens).mapError Fault.kind ≠
        (evaluator.evaluateTokens enclosed).mapError Fault.kind := by
  intro evaluator phrase enclosed
  have bare : evaluator.evaluateTokens phrase.tokens =
      .error ⟨.malformedExpression, some 2⟩ := by
    decide
  have value : evaluator.evaluateTokens enclosed = .ok 3 := by
    decide
  refine ⟨⟨?_, ?_, rfl, rfl, rfl⟩, ⟨trivial, ⟨?_, rfl⟩, trivial, trivial⟩, bare, value, ?_⟩
  · exact List.mem_cons_of_mem _ List.mem_cons_self
  · exact List.mem_cons_of_mem _ (List.mem_cons_of_mem _ List.mem_cons_self)
  · exact List.mem_cons_self
  · rw [bare, value]
    exact fun same => by cases same

end InfixCalculator
