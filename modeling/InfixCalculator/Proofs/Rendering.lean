import Mathlib.Data.List.Chain
import InfixCalculator.Proofs.Expression.Printing
import InfixCalculator.Proofs.Token.Occurrence

/-!
# Reading back what is rendered

Any list of numbers and delimiters can be rendered: a number with zeros in front, a delimiter as
itself or as a glyph that stands for it, and white space in front of each of them and at the end.
So long as two numbers next to each other are kept apart, the text is read back as the same list,
each item at the offset where it was written (`Delimiters.tokenize_rendered`).
-/

namespace InfixCalculator

/-- A delimiter as it is written: as itself, or as a glyph that stands for it. -/
structure Mark (delimiters : Delimiters) where
  symbol : Char
  char : Char
  delimits : delimiters.contains symbol = true
  spells : char = symbol ∨
    ∃ glyph ∈ glyphs, delimiters.admits glyph = true ∧ glyph.shown = char ∧ glyph.symbol = symbol

namespace Delimiters

variable {delimiters : Delimiters} {char : Char}

/-- A delimiter is read as itself: a glyph that delimits stands for nothing else. -/
theorem reading_of_contains (delimits : delimiters.contains char = true) :
    delimiters.reading char = char := by
  have absent : (glyphs.find? fun glyph => glyph.shown == char && delimiters.admits glyph) =
      none := by
    apply List.find?_eq_none.mpr
    intro glyph _ stands
    rw [Bool.and_eq_true, beq_iff_eq, admits, Bool.and_eq_true, Bool.not_eq_true'] at stands
    rw [stands.1, delimits] at stands
    cases stands.2.2
  rw [reading, absent]

/-- A glyph that stands for a symbol is read as that symbol. -/
theorem reading_of_admits {glyph : Glyph} (member : glyph ∈ glyphs)
    (admitted : delimiters.admits glyph = true) :
    delimiters.reading glyph.shown = glyph.symbol := by
  have distinct : ∀ first ∈ glyphs, ∀ second ∈ glyphs, first.shown = second.shown →
      first = second := by decide
  cases found : glyphs.find? fun other => other.shown == glyph.shown && delimiters.admits other with
  | none =>
      have refused := List.find?_eq_none.mp found glyph member
      rw [beq_self_eq_true, Bool.true_and] at refused
      exact absurd admitted refused
  | some other =>
      have shows := List.find?_some found
      rw [Bool.and_eq_true, beq_iff_eq] at shows
      have same := distinct other (List.mem_of_find?_eq_some found) glyph member shows.1
      rw [reading, found, ← same]

/-- A delimiter is classified as one: it is neither a digit nor a blank. -/
theorem classify_of_contains (delimits : delimiters.contains char = true) :
    delimiters.classify char = .delimiter := by
  rw [classify, isDigit_eq_false_of_contains delimits, if_neg Bool.false_ne_true, if_pos delimits]

end Delimiters

variable {delimiters : Delimiters}

/-- However a delimiter is written, it is read. -/
theorem Mark.reading_char (mark : Mark delimiters) :
    delimiters.reading mark.char = mark.symbol := by
  rcases mark.spells with same | ⟨glyph, member, admitted, shown, symbol⟩
  · rw [same, Delimiters.reading_of_contains mark.delimits]
  · rw [← shown, ← symbol, Delimiters.reading_of_admits member admitted]

/-- A number or a delimiter as it is written. -/
inductive Item (delimiters : Delimiters) where
  | number (numeral : Numeral)
  | symbol (mark : Mark delimiters)

namespace Item

def chars : Item delimiters → List Char
  | number numeral => numeral.chars
  | symbol mark => [mark.char]

/-- Whether an item is a numeral, which may not follow another one without a blank. -/
def isNumber : Item delimiters → Bool
  | number _ => true
  | symbol _ => false

/-- The token that is written, if it stands at a given offset. -/
def token (position : Int) : Item delimiters → Token
  | number numeral => .number numeral.number position
  | symbol mark => .symbol (String.singleton mark.symbol) position

/-- An item that nothing lengthens is read as its token. -/
theorem tokensFrom_chars (item : Item delimiters) (position : Int)
    {behind : List Char} (ends : item.isNumber = true → Delimiters.EndsDigits behind) :
    delimiters.tokensFrom position (item.chars.map delimiters.reading ++ behind) =
      .token (item.token position) (delimiters.tokensFrom (position + item.chars.length) behind) := by
  cases item with
  | number numeral =>
      rw [chars, numeral.map_reading, numeral.tokensFrom_chars delimiters position (ends rfl)]
      rfl
  | symbol mark =>
      rw [chars, List.map_singleton, mark.reading_char, List.singleton_append,
        Delimiters.tokensFrom_delimiter position (Delimiters.classify_of_contains mark.delimits)]
      rfl

end Item

/-- An item, and the white space in front of it. -/
structure Entry (delimiters : Delimiters) where
  gap : Gap
  item : Item delimiters

namespace Entry

def chars (entry : Entry delimiters) : List Char :=
  entry.gap.chars ++ entry.item.chars

/-- Two entries may stand one behind the other: numbers need white space between them. -/
def Apart (first second : Entry delimiters) : Prop :=
  first.item.isNumber = true → second.item.isNumber = true → second.gap.chars ≠ []

instance decidableApart (first second : Entry delimiters) : Decidable (first.Apart second) :=
  inferInstanceAs (Decidable
    (first.item.isNumber = true → second.item.isNumber = true → second.gap.chars ≠ []))

/-- The text of entries, with white space behind them. -/
def text (entries : List (Entry delimiters)) (trailing : Gap) : String :=
  String.ofList (entries.flatMap chars ++ trailing.chars)

/-- The tokens of entries that stand at an offset, each at the offset of its item. -/
def tokens (position : Int) : List (Entry delimiters) → List Token
  | [] => []
  | entry :: rest =>
      entry.item.token (position + entry.gap.chars.length) ::
        tokens (position + entry.chars.length) rest

/-! ## Reading back -/

variable {rest : List (Entry delimiters)} {trailing : Gap}

/-- The characters of entries as they are read, and the white space behind them. -/
def read (entries : List (Entry delimiters)) (trailing : Gap) : List Char :=
  (entries.flatMap chars).map delimiters.reading ++ trailing.chars

theorem read_cons (entry : Entry delimiters) (rest : List (Entry delimiters)) (trailing : Gap) :
    read (entry :: rest) trailing =
      entry.gap.chars ++ (entry.item.chars.map delimiters.reading ++ read rest trailing) := by
  rw [read, read, List.flatMap_cons, List.map_append, chars, List.map_append,
    entry.gap.map_reading, List.append_assoc, List.append_assoc]

/-- No digit stands where entries begin, if a number among them would begin behind a gap. -/
theorem endsDigits_read
    (kept : ∀ next ∈ rest.head?, next.item.isNumber = true → next.gap.chars ≠ []) :
    Delimiters.EndsDigits (read rest trailing) := by
  cases rest with
  | nil =>
      have ends := trailing.endsDigits Delimiters.endsDigits_nil
      rw [List.append_nil] at ends
      exact ends
  | cons next later =>
      rw [read_cons]
      rcases next with ⟨gap, numeral | mark⟩
      · obtain ⟨first, others, begins⟩ := List.exists_cons_of_ne_nil (kept _ rfl rfl)
        have blank : isBlank first = true := gap.blank first (begins ▸ List.mem_cons_self)
        rw [begins]
        exact Delimiters.endsDigits_cons (Delimiters.isDigit_eq_false_of_isBlank blank) _
      · refine gap.endsDigits (Delimiters.endsDigits_cons ?_ _)
        rw [mark.reading_char]
        exact Delimiters.isDigit_eq_false_of_contains mark.delimits

/-- Entries that stand apart are read as their tokens. -/
theorem tokensFrom_read (entries : List (Entry delimiters)) (trailing : Gap) (position : Int)
    (apart : entries.IsChain Apart) :
    delimiters.tokensFrom position (read entries trailing) =
      .ofList (tokens position entries) := by
  induction entries generalizing position with
  | nil => exact Delimiters.tokensFrom_of_blank position trailing.blank
  | cons entry rest ih =>
      have ends : entry.item.isNumber = true → Delimiters.EndsDigits (read rest trailing) := by
        intro number
        refine endsDigits_read fun next head => ?_
        exact (List.isChain_cons.mp apart).1 next head number
      have place : position + entry.gap.chars.length + entry.item.chars.length =
          position + entry.chars.length := by
        rw [chars, List.length_append, Int.natCast_add, Int.add_assoc]
      rw [read_cons, Delimiters.tokensFrom_blanks position entry.gap.blank,
        entry.item.tokensFrom_chars _ ends, place, ih _ apart.of_cons]
      rfl

end Entry

/-- **Reading undoes rendering.** The text of entries that stand apart is read as their tokens,
each at the offset where it was written. -/
theorem Delimiters.tokenize_rendered (delimiters : Delimiters) (entries : List (Entry delimiters))
    (trailing : Gap) (apart : entries.IsChain Entry.Apart) :
    delimiters.tokenize (Entry.text entries trailing) = .ofList (Entry.tokens 0 entries) := by
  rw [← Entry.tokensFrom_read entries trailing 0 apart, tokenize_eq, normalize, Entry.text,
    String.toList_ofList, List.map_append, trailing.map_reading, Entry.read]

/-- Among the delimiters `*`, `×`, `-` and `]` the cross is read as itself, and the minus glyph as a
hyphen.  The two numbers at the end stand apart by an em space. -/
theorem Delimiters.tokenize_rendered_glyphs :
    let delimiters : Delimiters :=
      ⟨['*', '×', '-', ']'], List.cons_ne_nil _ _, List.all_eq_true.mp (by decide)⟩
    let space : Gap := ⟨[' '], List.all_eq_true.mp (by decide)⟩
    let emSpace : Gap := ⟨['\u2003'], List.all_eq_true.mp (by decide)⟩
    let entries : List (Entry delimiters) :=
      [⟨space, .number ⟨2, 7, by decide⟩⟩,
        ⟨.none, .symbol ⟨'×', '×', by decide, Or.inl rfl⟩⟩,
        ⟨.none, .symbol ⟨'-', '−', by decide, Or.inr ⟨⟨'−', '-'⟩, by decide⟩⟩⟩,
        ⟨space, .number ⟨0, 12, by decide⟩⟩, ⟨emSpace, .number ⟨0, 5, by decide⟩⟩]
    entries.IsChain Entry.Apart ∧
      delimiters.tokenize " 007×− 12\u20035 " =
        .ofList [.number 7 1, .symbol "×" 4, .symbol "-" 5, .number 12 7, .number 5 10] := by
  intro delimiters space emSpace entries
  have apart : entries.IsChain Entry.Apart := by decide
  have written : Entry.text entries space = " 007×− 12\u20035 " := by decide
  refine ⟨apart, ?_⟩
  rw [← written]
  exact delimiters.tokenize_rendered entries space apart

end InfixCalculator
