import InfixCalculator.Proofs.Expression.Chain

/-!
# Phrases

A phrase is an operand with operators behind it, each with an operand of its own; an operand
is a number or a phrase between delimiters.  Its meaning is defined by recursion over the
phrase: each operand has a meaning of its own, and the chain of them is split at the operator
that is applied last (`Phrase.meaning`).
-/

namespace InfixCalculator

mutual

/-- A number, or a phrase between delimiters. -/
inductive Operand where
  | number (value position : Int)
  | group (opener : Operator) (opened : Int) (inner : Phrase) (closer : Operator) (closed : Int)

/-- An operand and what follows it. -/
inductive Phrase where
  | chain (first : Operand) (rest : Tail)

/-- Operators, each with the operand behind it. -/
inductive Tail where
  | done
  | link (operator : Operator) (position : Int) (operand : Operand) (rest : Tail)

end

/-! ## Tokens -/

mutual

/-- The tokens of an operand, in the order of the text. -/
def Operand.tokens : Operand → List Token
  | .number value position => [.number value position]
  | .group opener opened inner closer closed =>
      .symbol opener.symbol opened :: (inner.tokens ++ [.symbol closer.symbol closed])

/-- The tokens of a phrase. -/
def Phrase.tokens : Phrase → List Token
  | .chain first rest => first.tokens ++ rest.tokens

def Tail.tokens : Tail → List Token
  | .done => []
  | .link operator position operand rest =>
      .symbol operator.symbol position :: (operand.tokens ++ rest.tokens)

end

mutual

/-- The operators between operands are plain operators of a table, and each group stands
between a pair of its delimiters. -/
def Operand.Derivable (table : OperatorTable) : Operand → Prop
  | .number _ _ => True
  | .group opener _ inner closer _ => table.HasPair opener closer ∧ inner.Derivable table

/-- A phrase over a table: its operators are plain and its delimiters are pairs. -/
def Phrase.Derivable (table : OperatorTable) : Phrase → Prop
  | .chain first rest => first.Derivable table ∧ rest.Derivable table

def Tail.Derivable (table : OperatorTable) : Tail → Prop
  | .done => True
  | .link operator _ operand rest =>
      table.HasPlain operator ∧ operand.Derivable table ∧ rest.Derivable table

end

/-! ## Meaning -/

mutual

/-- The meaning of an operand: a number means itself, unless it is too long. -/
def Operand.meaning : Operand → Outcome
  | .number value _ => if fits value then .ok value else .error .resultOverflow
  | .group _ _ inner _ _ => inner.meaning

/-- The meaning of a phrase is that of its chain. -/
def Phrase.meaning : Phrase → Outcome
  | .chain first rest => Link.meaning first.meaning rest.links

/-- The operators of a tail with the meanings of their operands. -/
def Tail.links : Tail → List Link
  | .done => []
  | .link operator _ operand rest => ⟨operator, operand.meaning⟩ :: rest.links

end

/-- What a reader of a phrase holds at its end. -/
def Phrase.held : Phrase → Except FaultKind Held
  | .chain first rest => do
      let value ← first.meaning
      rest.links.foldlM Held.advance ⟨[], value⟩

/-- The meaning of a phrase is what a reader of it ends up with. -/
theorem Phrase.meaning_eq (phrase : Phrase) :
    phrase.meaning = phrase.held >>= fun held => Held.collapse held.pending held.value := by
  cases phrase with
  | chain first rest =>
      rw [Phrase.meaning, Phrase.held, bind_assoc]
      exact (Held.reading_eq_meaning first.meaning rest.links).symm

/-- The operators of a derivable tail are operators of the table. -/
theorem Tail.hasPlain_of_mem_links {table : OperatorTable} {tail : Tail}
    (derivable : tail.Derivable table) :
    ∀ link ∈ tail.links, table.HasPlain link.operator := by
  match tail with
  | .done =>
      intro link member
      exact absurd member List.not_mem_nil
  | .link operator position operand rest =>
      obtain ⟨plain, _, later⟩ := derivable
      intro link member
      rcases List.mem_cons.mp member with same | old
      · exact same ▸ plain
      · exact rest.hasPlain_of_mem_links later link old

/-- What waits at the end of a derivable phrase are operators of the table. -/
theorem Phrase.hasPlain_of_held {table : OperatorTable} {phrase : Phrase} {held : Held}
    (derivable : phrase.Derivable table) (read : phrase.held = .ok held) :
    ∀ waits ∈ held.pending, table.HasPlain waits.operator := by
  cases phrase with
  | chain first rest =>
      obtain ⟨value, _, read⟩ := bind_eq_ok_iff.mp read
      exact Held.forall_of_read table.HasPlain (fun _ member => absurd member List.not_mem_nil)
        (Tail.hasPlain_of_mem_links derivable.2) read

end InfixCalculator
