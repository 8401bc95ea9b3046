import InfixCalculator.Proofs.Machine.Aftermath
import InfixCalculator.Proofs.Outline
import InfixCalculator.Proofs.Token.Coverage

/-!
# Where faults lie

A run that fails was taking in a token, or it met the fault with which its stream breaks off, or it
was ending the input (`Machine.RunFails`).  With the standard rules, the fault lies where the token
stands that was taken in, or the last one at the end of the input (`Fault.LiesAt`): it carries that
position, unless it is one of the faults that never carry one (`Cause.isPlaceless`).  So the
position of a fault is a place in the text where a token begins or a run that is rejected, and never
a blank (`Evaluator.evaluate_locates`).
-/

namespace InfixCalculator

/-! ## Assembled tables -/

/-- A table is put together from standard operators and from delimiters of groups. -/
def OperatorTable.IsAssembled (table : OperatorTable) : Prop :=
  ∀ operator ∈ table.operators, (∃ operation : Operation, operator = operation.operator) ∨
    ∃ opener closer delimiters, groupDelimiters opener closer = .ok delimiters ∧
      operator ∈ delimiters

/-- A delimiter of a group has no rule. -/
theorem of_groupDelimiters {opener closer : String} {delimiters : List Operator}
    {operator : Operator} (made : groupDelimiters opener closer = .ok delimiters)
    (member : operator ∈ delimiters) : operator.rule = none ∧ operator.isPlain = false := by
  unfold groupDelimiters at made
  split at made
  · cases made
  · cases made
    simp only [List.mem_cons, List.not_mem_nil, or_false] at member
    rcases member with rfl | rfl
    · exact ⟨rfl, rfl⟩
    · exact ⟨rfl, rfl⟩

namespace OperatorTable.IsAssembled

variable {table : OperatorTable} {operator : Operator}

/-- The plain operators of an assembled table are the standard ones. -/
theorem exists_operation_of_isPlain (assembled : table.IsAssembled)
    (member : operator ∈ table.operators) (plain : operator.isPlain = true) :
    ∃ operation : Operation, operator = operation.operator := by
  refine (assembled operator member).resolve_right ?_
  rintro ⟨opener, closer, delimiters, made, delimits⟩
  rw [(of_groupDelimiters made delimits).2] at plain
  cases plain

/-- The rules of an assembled table are the standard ones. -/
theorem exists_operation_of_rule (assembled : table.IsAssembled) {rule : Rule}
    (member : operator ∈ table.operators) (ruled : operator.rule = some rule) :
    ∃ operation : Operation, rule = operation.rule := by
  rcases assembled operator member with ⟨operation, rfl⟩ | ⟨opener, closer, _, made, delimits⟩
  · exact ⟨operation, (Option.some.inj ruled).symm⟩
  · rw [(of_groupDelimiters made delimits).1] at ruled
    cases ruled

theorem isRuled (assembled : table.IsAssembled) : table.IsRuled := by
  intro operator member plain
  obtain ⟨operation, rfl⟩ := assembled.exists_operation_of_isPlain member plain
  rfl

/-- The plain operators of an assembled table are standard and bind more than the end of the
input. -/
theorem isArithmetic (assembled : table.IsAssembled) : table.IsArithmetic := by
  intro operator member plain
  obtain ⟨operation, rfl⟩ := assembled.exists_operation_of_isPlain member plain
  refine ⟨?_, operation, rfl⟩
  cases operation <;> decide

end OperatorTable.IsAssembled

theorem isAssembled_standard : OperatorTable.standard.IsAssembled := by
  intro operator member
  rcases List.mem_append.mp member with standard | delimits
  · obtain ⟨operation, _, rfl⟩ := List.mem_map.mp standard
    exact Or.inl ⟨operation, rfl⟩
  · exact Or.inr ⟨"(", ")", parentheses, groupDelimiters_parentheses, delimits⟩

/-! ## Places of faults -/

/-- The causes of faults that carry no position wherever they arise: a symbol is unknown, a division
is undefined, or a power is refused uncomputed. -/
def Cause.isPlaceless : Cause → Bool
  | unknownSymbol _ | zeroDivisor | zeroToNegativePower | powerTooLarge => true
  | stated kind _ => kind == .unknownOperator || kind == .divisionByZero
  | _ => false

/-- The causes without a place are an unknown symbol and what a rule finds by itself. -/
theorem Cause.isPlaceless_iff (cause : Cause) :
    cause.isPlaceless = true ↔ cause.kind = .unknownOperator ∨ cause.kind = .divisionByZero ∨
      cause = .powerTooLarge := by
  cases cause <;> simp [isPlaceless, kind]

/-- Whatever refuses a token lies at the token. -/
theorem Cause.isPlaceless_of_isRefusal {cause : Cause} (refusal : cause.isRefusal = true) :
    cause.isPlaceless = false := by
  cases cause <;> first | rfl | cases refusal

namespace Fault

/-- A fault carries a position, unless it carries none wherever it arises. -/
structure LiesAt (fault : Fault) (place : Int) : Prop where
  placed : ∀ other ∈ fault.position, other = place
  absent_iff : fault.position = none ↔ fault.cause.isPlaceless = true

theorem liesAt_of_placed {cause : Cause} (placed : cause.isPlaceless = false) (place : Int) :
    LiesAt ⟨cause, some place⟩ place where
  placed _ same := (Option.some.inj same).symm
  absent_iff := by simp [placed]

theorem liesAt_of_absent {fault : Fault} (absent : fault.position = none)
    (placeless : fault.cause.isPlaceless = true) (place : Int) : fault.LiesAt place where
  placed other same := by
    rw [absent] at same
    cases same
  absent_iff := ⟨fun _ => placeless, fun _ => absent⟩

/-- The place of the latest token is that of the last one. -/
theorem LiesAt.getLast?_position {fault : Fault} {tokens : List Token}
    (lies : fault.LiesAt (lastPosition 0 tokens)) (nonempty : tokens ≠ []) :
    ∀ place ∈ fault.position, tokens.getLast?.map Token.position = some place := by
  intro place placed
  rw [lies.placed place placed]
  obtain ⟨first, rest, rfl⟩ := List.exists_cons_of_ne_nil nonempty
  exact InfixCalculator.getLast?_position 0 first rest

end Fault

namespace Operation

/-- What a standard rule raises has no place of its own. -/
theorem liesAt_of_rule {operation : Operation} {left right : Int} {fault : Fault}
    (fails : operation.rule left right = .error fault) (place : Int) : fault.LiesAt place := by
  obtain ⟨absent, cause | cause | cause⟩ := fault_of_rule fails <;>
    exact Fault.liesAt_of_absent absent (by rw [cause]; rfl) place

end Operation

namespace Machine

variable {table : OperatorTable} {machine after : Machine} {due : Operator → Bool} {place : Int}
  {fault : Fault} {token : Token} {tokens : List Token} {stream : TokenStream}

namespace Fluent

/-- A reduction that is broken off blames the token that made it due. -/
theorem liesAt_of_breaksOff (fluent : machine.Fluent table) (assembled : table.IsAssembled)
    (broken : BreaksOff due (some place) machine after fault) : fault.LiesAt place := by
  obtain ⟨reached, attempt, waiting, operands, reduces, offers, _, fails, _⟩ := broken
  obtain ⟨rule, ruled, applied⟩ := Option.map_eq_some_iff.mp offers.result
  have other : attempt.operator ≠ Operator.start := by
    intro same
    rw [same] at ruled
    cases ruled
  have onStack : attempt.operator ∈ machine.operators :=
    (retained_of_reduces reduces).operators.subset (offers.operators ▸ List.mem_cons_self)
  obtain ⟨operation, rfl⟩ :=
    assembled.exists_operation_of_rule (fluent.known _ onStack other) ruled
  rcases Attempt.fault_of_outcome (congrArg (Except.map fun _ => ()) fails) with raised | rfl
  · exact Operation.liesAt_of_rule (applied.trans raised) place
  · exact Fault.liesAt_of_placed rfl place

/-- A token that is not taken in is to blame. -/
theorem liesAt_of_consume (fluent : machine.Fluent table) (assembled : table.IsAssembled)
    (fails : (machine.consume table token).outcome = .error fault) :
    fault.LiesAt token.position := by
  obtain ⟨after, failed⟩ : ∃ after, machine.consume table token = ⟨after, .error fault⟩ :=
    ⟨_, Step.eq_of_outcome fails⟩
  cases fluent.consume_fails assembled.isRuled failed with
  | unknown absent => exact Fault.liesAt_of_absent rfl rfl _
  | number refusal => exact Fault.liesAt_of_placed (Cause.isPlaceless_of_isRefusal refusal) _
  | symbol member fails =>
      cases fails with
      | refused refusal => exact Fault.liesAt_of_placed (Cause.isPlaceless_of_isRefusal refusal) _
      | brokenOff expects broken => exact fluent.liesAt_of_breaksOff assembled broken

/-- Behind a token, the end of the input blames the place that it is given. -/
theorem liesAt_of_finish (fluent : machine.Fluent table) (assembled : table.IsAssembled)
    (begun : machine.Begun) (fails : (machine.finish (some place)).outcome = .error fault) :
    fault.LiesAt place := by
  obtain ⟨after, failed⟩ : ∃ after, machine.finish (some place) = ⟨after, .error fault⟩ :=
    ⟨_, Step.eq_of_outcome fails⟩
  cases fluent.finish_fails assembled.isRuled failed with
  | empty operands operators =>
      exact (begun.elim (fun operand => operand operands) fun operator => operator operators).elim
  | incomplete => exact Fault.liesAt_of_placed rfl place
  | brokenOff expects broken => exact fluent.liesAt_of_breaksOff assembled broken
  | unclosed settles => exact Fault.liesAt_of_placed rfl place
  | malformed settles => exact Fault.liesAt_of_placed rfl place

/-- Tokens that are taken in leave something behind. -/
theorem begun_of_consumeAll (fluent : machine.Fluent table) (arithmetic : table.IsArithmetic)
    (nonempty : tokens ≠ []) (taken : machine.consumeAll table tokens = .done after) :
    after.Begun := by
  cases scans : machine.outline.scanAll table tokens with
  | error found =>
      have raises := fluent.consumeAll_of_fault arithmetic scans
      rw [taken, Step.Ends] at raises
      split at raises
      · cases raises
      · cases raises.2
  | ok last =>
      have ends := fluent.consumeAll_of_scanAll arithmetic (Or.inr nonempty) scans
      rw [taken] at ends
      exact ends.2.2

end Fluent

/-! ## Runs -/

/-- A run over a stream fails: a token is not taken in, or the stream breaks off behind all its
tokens, or the end of the input fails there. -/
inductive RunFails (table : OperatorTable) (machine : Machine) (position : Int)
    (stream : TokenStream) (fault : Fault) : Prop
  | token {before rest : List Token} {token : Token} {next : Machine}
      (split : stream.tokens = before ++ token :: rest)
      (taken : machine.consumeAll table before = .done next)
      (fails : (next.consume table token).outcome = .error fault)
  | run {next : Machine} (taken : machine.consumeAll table stream.tokens = .done next)
      (breaks : stream.fault? = some fault)
  | ending {next : Machine} (taken : machine.consumeAll table stream.tokens = .done next)
      (complete : stream.fault? = none)
      (fails : (next.finish (some (lastPosition position stream.tokens))).outcome = .error fault)

/-- A run fails at a token, where the stream breaks off, or at the end. -/
theorem run_fails {position : Int}
    (fails : (machine.run table position stream).outcome = .error fault) :
    RunFails table machine position stream fault := by
  induction stream generalizing machine position with
  | done => exact .ending rfl rfl fails
  | failed broken =>
      cases fails
      exact .run rfl rfl
  | token first rest ih =>
      rw [run] at fails
      cases consumed : machine.consume table first with
      | mk next outcome =>
          cases outcome with
          | error found =>
              rw [consumed] at fails
              cases fails
              exact .token (List.nil_append _).symm rfl (by rw [consumed])
          | ok value =>
              rw [consumed] at fails
              have onward (tokens : List Token) :
                  machine.consumeAll table (first :: tokens) = next.consumeAll table tokens := by
                rw [consumeAll, consumed]
                rfl
              cases ih fails with
              | @token before later token reached split taken fails =>
                  have longer : (TokenStream.token first rest).tokens =
                      (first :: before) ++ token :: later := congrArg (List.cons first) split
                  exact .token longer ((onward _).trans taken) fails
              | run taken breaks => exact .run ((onward _).trans taken) breaks
              | ending taken complete fails =>
                  exact .ending ((onward _).trans taken) complete fails

end Machine

/-! ## Places in a text -/

namespace Delimiters

/-- What a text is refused for is that it cannot be read. -/
theorem Refuses.kind_eq {delimiters : Delimiters} {chars : List Char} {place : Nat} {cause : Cause}
    (refuses : delimiters.Refuses chars place cause) :
    cause.kind = .invalidToken ∧ cause.isPlaceless = false := by
  cases refuses with
  | foreign written isRun => exact ⟨rfl, rfl⟩
  | tooLong written isRun long => exact ⟨rfl, rfl⟩

variable {delimiters : Delimiters} {text : String}

/-- Where a text does not read as a blank, no blank is written. -/
theorem exists_getElem?_of_normalize {index : Nat} {char : Char}
    (found : (delimiters.normalize text)[index]? = some char) (noBlank : isBlank char = false) :
    ∃ written, text.toList[index]? = some written ∧ isBlank written = false := by
  rw [normalize, List.getElem?_map] at found
  obtain ⟨written, stands, rfl⟩ := Option.map_eq_some_iff.mp found
  refine ⟨written, stands, Bool.eq_false_iff.mpr fun blank => ?_⟩
  rw [reading_of_isBlank blank, blank] at noBlank
  cases noBlank

/-- A place of a text where one of its tokens begins, or a run that is rejected. -/
def Begins (delimiters : Delimiters) (text : String) (index : Nat) : Prop :=
  (∃ token ∈ (delimiters.tokenize text).tokens, token.position = index ∧
      ∃ chars, delimiters.Spells (delimiters.normalize text) chars token) ∨
    ∃ fault ∈ (delimiters.tokenize text).fault?, fault.position = some (index : Int) ∧
      delimiters.Refuses (delimiters.normalize text) index fault.cause

/-- Every token begins where its position says. -/
theorem exists_begins_of_mem {token : Token}
    (member : token ∈ (delimiters.tokenize text).tokens) :
    ∃ index : Nat, token.position = index ∧ delimiters.Begins text index := by
  obtain ⟨chars, spells⟩ := (delimiters.accountsFrom_tokenize text).spelled token member
  obtain ⟨index, _, stands, _⟩ := spells.exists_getElem?
  exact ⟨index, stands, Or.inl ⟨token, member, stands, chars, spells⟩⟩

/-- No token and no rejected run begins with a blank. -/
theorem Begins.exists_getElem? {index : Nat} (begins : delimiters.Begins text index) :
    ∃ char, text.toList[index]? = some char ∧ isBlank char = false := by
  rcases begins with ⟨token, _, stands, chars, spells⟩ | ⟨fault, _, _, refuses⟩
  · obtain ⟨place, first, same, found, noBlank⟩ := spells.exists_getElem?
    obtain rfl : place = index := Int.ofNat_inj.mp (same.symm.trans stands)
    exact exists_getElem?_of_normalize found noBlank
  · obtain ⟨first, found, noBlank⟩ := refuses.exists_getElem?
    exact exists_getElem?_of_normalize found noBlank

end Delimiters

namespace Evaluator

variable {evaluator : Evaluator} {text : String} {fault : Fault}

/-- A fault of an evaluation lies where the processing of the text fails: at the token that is not
taken in, at the run that is rejected behind all tokens, or at the last token once the text is
read. -/
inductive Locates (evaluator : Evaluator) (text : String) (fault : Fault) : Prop
  | token {before rest : List Token} {token : Token} {machine : Machine}
      (split : (evaluator.delimiters.tokenize text).tokens = before ++ token :: rest)
      (taken : Machine.start.consumeAll evaluator.table before = .done machine)
      (fails : (machine.consume evaluator.table token).outcome = .error fault)
      (placed : ∀ place ∈ fault.position, place = token.position)
  | run {machine : Machine} {place : Nat}
      (taken : Machine.start.consumeAll evaluator.table
        (evaluator.delimiters.tokenize text).tokens = .done machine)
      (breaks : (evaluator.delimiters.tokenize text).fault? = some fault)
      (placed : fault.position = some (place : Int))
      (refuses : evaluator.delimiters.Refuses (evaluator.delimiters.normalize text) place
        fault.cause)
  | ending {machine : Machine}
      (taken : Machine.start.consumeAll evaluator.table
        (evaluator.delimiters.tokenize text).tokens = .done machine)
      (complete : (evaluator.delimiters.tokenize text).fault? = none)
      (fails : (machine.finish
        (some (lastPosition 0 (evaluator.delimiters.tokenize text).tokens))).outcome =
          .error fault)
      (placed : ∀ place ∈ fault.position,
        (evaluator.delimiters.tokenize text).tokens.getLast?.map Token.position = some place)

/-- Where a fault is located, something begins. -/
theorem Locates.exists_begins (locates : evaluator.Locates text fault) :
    ∀ place ∈ fault.position, ∃ index : Nat, place = index ∧
      evaluator.delimiters.Begins text index := by
  intro place stands
  cases locates with
  | @token before rest token machine split taken fails placed =>
      rw [placed place stands]
      exact Delimiters.exists_begins_of_mem
        (split ▸ List.mem_append_right before List.mem_cons_self)
  | @run machine index taken breaks placed refuses =>
      rw [placed] at stands
      exact ⟨index, (Option.some.inj stands).symm, Or.inr ⟨fault, breaks, placed, refuses⟩⟩
  | ending taken complete fails placed =>
      obtain ⟨last, ends, rfl⟩ := Option.map_eq_some_iff.mp (placed place stands)
      exact Delimiters.exists_begins_of_mem (List.mem_of_getLast? ends)

/-- A fault of an evaluation lies where the processing of the text fails, and it carries no position
if it never does or if there is nothing to blame. -/
theorem locates_of_evaluate (assembled : evaluator.table.IsAssembled)
    (fails : evaluator.evaluate text = .error fault) :
    evaluator.Locates text fault ∧
      (fault.position = none ↔ fault.cause.isPlaceless = true ∨
        (fault.kind = .stackUnderflow ∧ (evaluator.delimiters.tokenize text).tokens = [])) := by
  cases Machine.run_fails fails with
  | token split taken fails =>
      have lies := (Machine.fluent_of_consumeAll taken).liesAt_of_consume assembled fails
      refine ⟨.token split taken fails lies.placed, lies.absent_iff.trans ?_⟩
      rw [split]
      simp
  | @run machine taken breaks =>
      obtain ⟨place, _, placed, refuses⟩ :=
        (evaluator.delimiters.accountsFrom_tokenize text).refused fault breaks
      refine ⟨.run taken breaks placed refuses, ?_⟩
      have quoted := refuses.kind_eq
      rw [placed, Fault.kind, quoted.1, quoted.2]
      simp
  | ending taken complete fails =>
      by_cases empty : (evaluator.delimiters.tokenize text).tokens = []
      · rw [empty] at taken fails
        cases taken
        cases fails
        refine ⟨.ending (by rw [empty]; rfl) complete (by rw [empty]; rfl) ?_, ?_⟩
        · intro place placed
          cases placed
        · exact ⟨fun _ => Or.inr ⟨rfl, empty⟩, fun _ => rfl⟩
      · have begun := (Machine.fluent_start evaluator.table).begun_of_consumeAll
          assembled.isArithmetic empty taken
        have lies := (Machine.fluent_of_consumeAll taken).liesAt_of_finish assembled begun fails
        refine ⟨.ending taken complete fails (lies.getLast?_position empty),
          lies.absent_iff.trans ?_⟩
        simp [empty]

/-- **Faults point at the text.** Let the operators of a table be standard ones and delimiters of
groups, and let an evaluation of a text fail.  Its fault lies where the processing fails: at the
token that was taken in, at the run that is rejected, or at the last token when the text has ended.
A position is a place of the text with a token or a rejected run beginning there, so no blank.
There is no position exactly for unknown symbols, undefined divisions, powers that are refused
uncomputed, and texts without tokens. -/
theorem evaluate_locates (assembled : evaluator.table.IsAssembled)
    (fails : evaluator.evaluate text = .error fault) :
    evaluator.Locates text fault ∧
      (∀ place ∈ fault.position, ∃ index : Nat, place = index ∧ index < text.length ∧
        (∃ char, text.toList[index]? = some char ∧ isBlank char = false) ∧
        evaluator.delimiters.Begins text index) ∧
      (fault.position = none ↔ fault.kind = .unknownOperator ∨ fault.kind = .divisionByZero ∨
        fault.cause = .powerTooLarge ∨
        (fault.kind = .stackUnderflow ∧ (evaluator.delimiters.tokenize text).tokens = [])) := by
  obtain ⟨locates, absent⟩ := locates_of_evaluate assembled fails
  refine ⟨locates, fun place stands => ?_, ?_⟩
  · obtain ⟨index, same, begins⟩ := locates.exists_begins place stands
    obtain ⟨char, found, noBlank⟩ := begins.exists_getElem?
    refine ⟨index, same, ?_, ⟨char, found, noBlank⟩, begins⟩
    rw [← String.length_toList]
    exact (List.getElem?_eq_some_iff.mp found).1
  · rw [absent, Cause.isPlaceless_iff]
    simp only [Fault.kind, or_assoc]

/-- Behind `12 ×` an operand is due, and the glyph is to blame. -/
theorem evaluate_locates_glyph :
    Evaluator.standard.table.IsAssembled ∧
      Evaluator.standard.evaluate " 12 ×" = .error ⟨.operandDueAtEnd, some 4⟩ ∧
      Evaluator.standard.Locates " 12 ×" ⟨.operandDueAtEnd, some 4⟩ ∧
      ∃ index : Nat, (4 : Int) = index ∧ index < " 12 ×".length ∧
        (∃ char, " 12 ×".toList[index]? = some char ∧ isBlank char = false) ∧
        Evaluator.standard.delimiters.Begins " 12 ×" index := by
  have fails : Evaluator.standard.evaluate " 12 ×" = .error ⟨.operandDueAtEnd, some 4⟩ := by
    decide +kernel
  have located := evaluate_locates isAssembled_standard fails
  exact ⟨isAssembled_standard, fails, located.1, located.2.1 4 rfl⟩

end Evaluator

end InfixCalculator
