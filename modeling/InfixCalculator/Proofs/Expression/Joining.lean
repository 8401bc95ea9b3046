import InfixCalculator.Proofs.Expression.Enclosure

/-!
# Joining phrases

An operator joins two phrases to a phrase.  It is applied last if everything outermost before it
outranks it and it outranks nothing outermost behind it; then the phrase means what the operator
makes of the meanings of its two parts (`Phrase.meaning_join`).
-/

namespace InfixCalculator

/-- A tail with another one behind it. -/
def Tail.append : Tail → Tail → Tail
  | .done, behind => behind
  | .link operator position operand rest, behind =>
      .link operator position operand (rest.append behind)

namespace Tail

theorem tokens_append (tail behind : Tail) :
    (tail.append behind).tokens = tail.tokens ++ behind.tokens := by
  match tail with
  | .done => rfl
  | .link operator position operand rest =>
      rw [append, tokens, tokens, tokens_append rest behind, List.cons_append, List.append_assoc]

theorem links_append (tail behind : Tail) :
    (tail.append behind).links = tail.links ++ behind.links := by
  match tail with
  | .done => rfl
  | .link operator position operand rest =>
      rw [append, links, links, links_append rest behind, List.cons_append]

/-- Two tails in turn are derivable if both are. -/
theorem Derivable.append {table : OperatorTable} {tail behind : Tail}
    (derivable : tail.Derivable table) (derivableBehind : behind.Derivable table) :
    (tail.append behind).Derivable table := by
  match tail with
  | .done => exact derivableBehind
  | .link operator position operand rest =>
      obtain ⟨plain, derivableOperand, derivableRest⟩ := derivable
      exact ⟨plain, derivableOperand, Derivable.append derivableRest derivableBehind⟩

end Tail

namespace Phrase

variable {operator : Operator} {left right : Phrase}

/-- Two phrases with an operator between them. -/
def join (operator : Operator) : Phrase → Phrase → Phrase
  | .chain first rest, .chain second others =>
      .chain first (rest.append (.link operator 0 second others))

theorem tokens_join (operator : Operator) (left right : Phrase) :
    (left.join operator right).tokens =
      left.tokens ++ .symbol operator.symbol 0 :: right.tokens := by
  rcases left with ⟨first, rest⟩
  rcases right with ⟨second, others⟩
  rw [join, tokens, tokens, tokens, Tail.tokens_append, Tail.tokens, List.append_assoc]

theorem outermost_join (operator : Operator) (left right : Phrase) :
    (left.join operator right).outermost = left.outermost ++ operator :: right.outermost := by
  rcases left with ⟨first, rest⟩
  rcases right with ⟨second, others⟩
  rw [join, outermost, outermost, outermost, Tail.links_append, Tail.links, List.map_append,
    List.map_cons]

/-- Two derivable phrases may be joined by a plain operator of the table. -/
theorem Derivable.join {table : OperatorTable} (derivableLeft : left.Derivable table)
    (plain : table.HasPlain operator) (derivableRight : right.Derivable table) :
    (left.join operator right).Derivable table := by
  rcases left with ⟨first, rest⟩
  rcases right with ⟨second, others⟩
  exact ⟨derivableLeft.1, derivableLeft.2.append ⟨plain, derivableRight⟩⟩

/-- A phrase without operators means its operand. -/
theorem meaning_single (operand : Operand) :
    (Phrase.chain operand .done).meaning = operand.meaning := by
  rw [meaning_eq, held, bind_assoc]
  exact bind_pure _

/-- An operator that is applied last combines the meanings of the two parts. -/
theorem meaning_join (outranked : ∀ other ∈ left.outermost, other.outranks operator = true)
    (waits : ∀ other ∈ right.outermost, operator.outranks other = false) :
    (left.join operator right).meaning =
      (do
        let first ← left.meaning
        let second ← right.meaning
        operator.combine first second) := by
  rcases left with ⟨first, rest⟩
  rcases right with ⟨second, others⟩
  rw [join, meaning, meaning, meaning, Tail.links_append, Tail.links]
  simp only [← Held.reading_eq_meaning]
  apply Held.reading_append
  · exact fun link member => outranked _ (List.mem_map_of_mem member)
  · exact fun link member => waits _ (List.mem_map_of_mem member)

end Phrase

end InfixCalculator
