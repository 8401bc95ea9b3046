import InfixCalculator.Evaluator
import InfixCalculator.Proofs.Machine.Soundness
import InfixCalculator.Proofs.Token.Scanning

/-!
# Taking in lists of tokens

Without the end of the input, a list of tokens is a program of its own: it can be cut
anywhere (`Machine.consumeAll_append`), tokens that come first are taken in first
(`Machine.run_prepend`), and an evaluation takes in all tokens and then ends the input
(`Evaluator.evaluateTokens_eq`).  Taking in tokens keeps a machine sound whatever
rules openers have, because no token reduces an opener (`Machine.Sound.consumeAll`).
-/

namespace InfixCalculator

namespace Step

/-- Three steps in turn can be grouped either way. -/
theorem andThen_assoc {α β γ : Type} (step : Step α) (second : Machine → α → Step β)
    (third : Machine → β → Step γ) :
    (step.andThen second).andThen third =
      step.andThen fun machine value => (second machine value).andThen third := by
  rcases step with ⟨machine, _ | value⟩
  · rfl
  · rfl

end Step

/-- The position of the latest token, if there is one, or else a given position. -/
def lastPosition (position : Int) : List Token → Int
  | [] => position
  | first :: rest => lastPosition first.position rest

/-- The latest of some tokens is the last one. -/
theorem getLast?_position (position : Int) (first : Token) (rest : List Token) :
    (first :: rest).getLast?.map Token.position =
      some (lastPosition position (first :: rest)) := by
  induction rest generalizing first position with
  | nil => rfl
  | cons second rest ih =>
      rw [List.getLast?_cons_cons, ih first.position]
      rfl

namespace Machine

variable {table : OperatorTable} {machine : Machine}

/-- Takes in a list of tokens and waits for more. -/
def consumeAll (table : OperatorTable) (machine : Machine) : List Token → Step Unit
  | [] => .done machine
  | first :: rest =>
      (machine.consume table first).andThen fun next _ => next.consumeAll table rest

/-- The symbol of an operator of the table stands for that operator. -/
theorem consume_symbol {operator : Operator} (member : operator ∈ table.operators)
    (machine : Machine) (position : Int) :
    machine.consume table (.symbol operator.symbol position) =
      machine.pushSymbol operator (some position) := by
  rw [consume, withOperator, table.lookup_of_mem member]

/-- A list of tokens can be cut anywhere: the second part goes on with the machine that the first
leaves. -/
theorem consumeAll_append (table : OperatorTable) (machine : Machine)
    (first second : List Token) :
    machine.consumeAll table (first ++ second) =
      (machine.consumeAll table first).andThen fun next _ => next.consumeAll table second := by
  induction first generalizing machine with
  | nil => rfl
  | cons token rest ih =>
      rw [List.cons_append, consumeAll, consumeAll, Step.andThen_assoc]
      congr
      funext next _
      exact ih next

/-- Tokens that come first are taken in first. -/
theorem run_prepend (table : OperatorTable) (machine : Machine) (position : Int)
    (tokens : List Token) (stream : TokenStream) :
    machine.run table position (.prepend tokens stream) =
      (machine.consumeAll table tokens).andThen fun next _ =>
        next.run table (lastPosition position tokens) stream := by
  induction tokens generalizing machine position with
  | nil => rfl
  | cons token rest ih =>
      rw [TokenStream.prepend_cons, run, consumeAll, Step.andThen_assoc]
      congr
      funext next _
      exact ih next token.position

/-- A run over a list of tokens takes them in and ends the input. -/
theorem run_ofList (table : OperatorTable) (machine : Machine) (position : Int)
    (tokens : List Token) :
    machine.run table position (.ofList tokens) =
      (machine.consumeAll table tokens).andThen fun next _ =>
        next.finish (some (lastPosition position tokens)) := by
  rw [← TokenStream.prepend_done, run_prepend]
  rfl

/-- Any operator of the table keeps a machine sound: none of them reduces an opener. -/
theorem Sound.pushSymbol {operator : Operator} (sound : machine.Sound table)
    (member : operator ∈ table.operators) (position : Option Int) :
    (machine.pushSymbol operator position).machine.Sound table := by
  unfold Machine.pushSymbol
  split
  · exact sound.closeGroup operator position
  · exact sound.pushOperator member position

/-- A token keeps a machine sound, whether it is taken in or refused. -/
theorem Sound.consume (sound : machine.Sound table) (token : Token) :
    (machine.consume table token).machine.Sound table := by
  cases token with
  | number value position => exact sound.pushOperand value (some position)
  | symbol symbol position =>
      exact withOperator_keeps sound symbol
        fun operator member => sound.pushSymbol member (some position)

/-- A list of tokens keeps a machine sound, even if it is taken in only in part. -/
theorem Sound.consumeAll (tokens : List Token) (sound : machine.Sound table) :
    (machine.consumeAll table tokens).machine.Sound table := by
  induction tokens generalizing machine with
  | nil => exact sound
  | cons token rest ih =>
      have after := sound.consume token
      rw [Machine.consumeAll]
      exact Step.andThen_keeps (Machine.Sound table) after fun _ _ => ih after

end Machine

/-- An evaluation takes in all tokens and ends the input. -/
theorem Evaluator.evaluateTokens_eq (evaluator : Evaluator) (tokens : List Token) :
    evaluator.evaluateTokens tokens =
      ((Machine.start.consumeAll evaluator.table tokens).andThen fun next _ =>
        next.finish (some (lastPosition 0 tokens))).outcome := by
  rw [evaluateTokens, runTokens, runStream, Machine.run_ofList]

end InfixCalculator
