/-!
# Sets of characters

A set of characters is listed by ranges of code points, both ends included.  The
tables of blanks, digits and unprintable characters are values of this type.
-/

namespace InfixCalculator

/-- A set of characters, listed by inclusive ranges of code points. -/
structure CharSet where
  ranges : List (Nat × Nat)

namespace CharSet

/-- Whether a character's code point lies in one of the ranges. -/
def contains (set : CharSet) (char : Char) : Bool :=
  set.ranges.any fun range => range.1 ≤ char.toNat && char.toNat ≤ range.2

/-- A set contains the characters of its ranges. -/
theorem contains_eq_true_iff (set : CharSet) (char : Char) :
    set.contains char = true ↔
      ∃ range ∈ set.ranges, range.1 ≤ char.toNat ∧ char.toNat ≤ range.2 := by
  simp [contains]

/-- The characters of either set. -/
def union (first second : CharSet) : CharSet :=
  ⟨first.ranges ++ second.ranges⟩

@[simp] theorem contains_union (first second : CharSet) (char : Char) :
    (first.union second).contains char =
      (first.contains char || second.contains char) := by
  simp [union, contains]

end CharSet

end InfixCalculator
