import InfixCalculator.Operator.Standard
import InfixCalculator.Proofs.Machine.Comparison
import InfixCalculator.Proofs.Token.Scanning

/-!
# Tokens at another place

Moving the tokens of a stream by a distance moves the places of faults by that distance and
changes nothing else (`Machine.Twin.run`), so long as no rule names a place of its own, which the
standard ones do not (`OperatorTable.respects_isMoved`).
-/

namespace InfixCalculator

/-! ## Moving -/

/-- A fault as it is when the text that it is found in stands further along. -/
def Fault.moved (distance : Int) (fault : Fault) : Fault :=
  { fault with position := fault.position.map (· + distance) }

/-- A fault without a place cannot be moved. -/
theorem Fault.moved_eq_self {fault : Fault} (placeless : fault.position = none)
    (distance : Int) : fault.moved distance = fault := by
  rcases fault with ⟨cause, position⟩
  cases placeless
  rfl

/-- A token, moved on by a distance. -/
def Token.moved (distance : Int) : Token → Token
  | .number value position => .number value (position + distance)
  | .symbol name position => .symbol name (position + distance)

theorem Token.position_moved (distance : Int) (token : Token) :
    (token.moved distance).position = token.position + distance := by
  cases token <;> rfl

/-- A stream, moved on by a distance, its fault included. -/
def TokenStream.moved (distance : Int) : TokenStream → TokenStream
  | .done => .done
  | .failed fault => .failed (fault.moved distance)
  | .token first rest => .token (first.moved distance) (rest.moved distance)

/-- Tokens that are moved are the same but for their positions. -/
theorem Token.unplaced_comp_moved (distance : Int) :
    Token.unplaced ∘ Token.moved distance = Token.unplaced := by
  funext token
  cases token <;> rfl

theorem TokenStream.tokens_moved (distance : Int) (stream : TokenStream) :
    (stream.moved distance).tokens = stream.tokens.map (Token.moved distance) := by
  induction stream with
  | done => rfl
  | failed fault => rfl
  | token first rest ih => rw [moved, tokens, tokens, List.map_cons, ih]

theorem TokenStream.fault?_moved (distance : Int) (stream : TokenStream) :
    (stream.moved distance).fault? = stream.fault?.map (Fault.moved distance) := by
  induction stream with
  | done => rfl
  | failed fault => rfl
  | token first rest ih => rw [moved, fault?, fault?, ih]

/-- Lexemes that are read from another position on give the stream moved there. -/
theorem TokenStream.ofLexemes_add (position distance : Int) (lexemes : List Lexeme) :
    ofLexemes (position + distance) lexemes = (ofLexemes position lexemes).moved distance := by
  induction lexemes generalizing position with
  | nil => rfl
  | cons lexeme rest ih =>
      rw [ofLexemes, ofLexemes, Int.add_right_comm, ih]
      cases lexeme.charClass with
      | digit =>
          simp only
          split
          · rfl
          · rfl
      | delimiter => rfl
      | blank => rfl
      | foreign => rfl

/-- A text that stands further along scans to the same tokens, moved. -/
theorem Delimiters.tokensFrom_add (delimiters : Delimiters) (position distance : Int)
    (chars : List Char) :
    delimiters.tokensFrom (position + distance) chars =
      (delimiters.tokensFrom position chars).moved distance :=
  TokenStream.ofLexemes_add position distance _

/-! ## Rules without places -/

/-- A fault and the same fault moved. -/
def IsMoved (distance : Int) (fault other : Fault) : Prop :=
  other = fault.moved distance

/-- A cause at a position that is moved, or without any position, is the fault moved. -/
theorem spans_isMoved (distance : Int) (position : Option Int) :
    Spans (IsMoved distance) position (position.map (· + distance)) where
  placed := fun _ => rfl
  unplaced := fun _ => rfl

/-- The rules of the standard table raise faults that cannot be moved. -/
theorem OperatorTable.respects_isMoved (distance : Int) :
    OperatorTable.standard.Respects (IsMoved distance) := by
  intro operator member
  rcases List.mem_append.mp member with binary | delimiter
  · obtain ⟨operation, _, rfl⟩ := List.mem_map.mp binary
    rintro rule ruled left right fault fails
    cases ruled
    exact (Fault.moved_eq_self (Operation.fault_of_rule fails).1 distance).symm
  · have unruled : operator.rule = none := by
      have all : ∀ operator ∈ parentheses, operator.rule.isNone = true := by decide
      exact Option.isNone_iff_eq_none.mp (all operator delimiter)
    rintro rule ruled
    rw [unruled] at ruled
    cases ruled

/-! ## Runs -/

/-- Steps that are related by a distance have the same value, or one fault moved. -/
theorem Step.Related.outcome_eq {α : Type} {distance : Int} {step other : Step α}
    (related : step.Related (IsMoved distance) other) :
    other.outcome = step.outcome.mapError (Fault.moved distance) := by
  rcases related with ⟨ended, otherEnded, _⟩ | ⟨failed, otherFailed, moved⟩
  · rw [ended, otherEnded]
    rfl
  · rw [failed, otherFailed, moved]
    rfl

/-- A run over tokens that stand further along fails further along, if it fails. -/
theorem Machine.Twin.run {table : OperatorTable} {first second : Machine} {distance : Int}
    (twin : first.Twin (IsMoved distance) second) (respects : table.Respects (IsMoved distance))
    (position : Int) (stream : TokenStream) :
    (first.run table position stream).Related (IsMoved distance)
      (second.run table (position + distance) (stream.moved distance)) := by
  induction stream generalizing first second position with
  | done => exact twin.finish (spans_isMoved distance (some position))
  | failed fault => exact .failed rfl rfl rfl
  | token token rest ih =>
      have same : token.unplaced = (token.moved distance).unplaced :=
        (congrFun (Token.unplaced_comp_moved distance) token).symm
      have spans : Spans (IsMoved distance) (some token.position)
          (some (token.moved distance).position) := by
        rw [token.position_moved]
        exact spans_isMoved distance (some token.position)
      rw [TokenStream.moved, Machine.run, Machine.run, token.position_moved]
      exact (twin.consume respects same spans).andThen
        fun _ _ reached => ih reached token.position

end InfixCalculator
