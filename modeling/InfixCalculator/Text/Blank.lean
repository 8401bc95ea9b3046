import InfixCalculator.Text.CharSet

/-!
# Blank characters

Blanks separate lexemes and nothing else.  The set holds the tab, line and page
breaks, the four information separators, the spaces of every width and the two
separators of lines and paragraphs.
-/

namespace InfixCalculator

/-- The characters that count as white space. -/
def blanks : CharSet := ⟨[
  (0x9, 0xD), (0x1C, 0x20), (0x85, 0x85), (0xA0, 0xA0), (0x1680, 0x1680), (0x2000, 0x200A),
  (0x2028, 0x2029), (0x202F, 0x202F), (0x205F, 0x205F), (0x3000, 0x3000)]⟩

def isBlank (char : Char) : Bool :=
  blanks.contains char

/-- Whether a text holds white space only; the empty text does. -/
def isBlankText (text : String) : Bool :=
  text.toList.all isBlank

/-- No digit is a blank. -/
theorem isBlank_eq_false_of_isDigit {char : Char} (digit : char.isDigit = true) :
    isBlank char = false := by
  simp only [Char.isDigit, Bool.and_eq_true, decide_eq_true_eq, ge_iff_le,
    UInt32.le_iff_toNat_le] at digit
  have lower : 48 ≤ char.toNat := digit.1
  have upper : char.toNat ≤ 57 := digit.2
  rw [Bool.eq_false_iff, isBlank, ne_eq, CharSet.contains_eq_true_iff]
  simp only [blanks, List.mem_cons, List.not_mem_nil, or_false, exists_eq_or_imp,
    exists_eq_left]
  omega

end InfixCalculator
