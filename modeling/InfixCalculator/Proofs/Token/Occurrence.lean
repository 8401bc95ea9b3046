import Mathlib.Data.List.Basic
import Mathlib.Data.List.TakeWhile
import InfixCalculator.Proofs.Token.Scanning

/-!
# Tokens in a text

A token stands in a text where its characters stand: a number is a longest run of digits, a
symbol is a delimiter (`Delimiters.Spells`).  A text is refused where a longest run of foreign
characters begins, or one of too many digits (`Delimiters.Refuses`).  No character belongs to two
tokens (`Delimiters.Covers.eq`), and none where a text is refused belongs to any
(`Delimiters.Refuses.not_covers`).
-/

namespace InfixCalculator

/-! ## Runs -/

/-- A longest stretch of characters of one kind, between what stands before and behind it. -/
structure IsRun (kind : Char → Bool) (before run after : List Char) : Prop where
  nonempty : run ≠ []
  uniform : ∀ char ∈ run, kind char = true
  begins : ∀ char ∈ before.getLast?, kind char = false
  ends : ∀ char ∈ after.head?, kind char = false

namespace IsRun

variable {kind : Char → Bool} {before run after otherRun otherBefore otherAfter gap : List Char}

/-- A run is all that can be read of its kind from where it begins. -/
theorem takeWhile_eq (isRun : IsRun kind before run after) :
    (run ++ after).takeWhile kind = run := by
  rw [List.takeWhile_append_of_pos isRun.uniform]
  cases after with
  | nil => rw [List.takeWhile_nil, List.append_nil]
  | cons next rest =>
      have apart : ¬ kind next = true := Bool.eq_false_iff.mp (isRun.ends next rfl)
      rw [List.takeWhile_cons_of_neg apart, List.append_nil]

/-- A run does not begin inside another run of its kind. -/
theorem eq_nil_of_gap (first : IsRun kind before run after)
    (second : IsRun kind (before ++ gap) otherRun otherAfter) (within : gap <+: run) :
    gap = [] := by
  by_contra nonempty
  have last : gap.getLast nonempty ∈ (before ++ gap).getLast? := by
    rw [List.getLast?_append_of_ne_nil before nonempty, List.getLast?_eq_some_getLast nonempty]
    rfl
  have apart := second.begins _ last
  rw [first.uniform _ (within.subset (List.getLast_mem nonempty))] at apart
  cases apart

/-- Runs of one kind that share a place in a text begin together. -/
theorem before_eq (first : IsRun kind before run after)
    (second : IsRun kind otherBefore otherRun otherAfter)
    (same : before ++ (run ++ after) = otherBefore ++ (otherRun ++ otherAfter)) {index : Nat}
    (within : index < before.length + run.length)
    (otherWithin : index < otherBefore.length + otherRun.length)
    (behind : before.length ≤ index) (otherBehind : otherBefore.length ≤ index) :
    before = otherBefore := by
  rcases List.append_eq_append_iff.mp same with ⟨gap, rfl, split⟩ | ⟨gap, rfl, split⟩
  · have inside : gap <+: run := by
      refine List.prefix_of_prefix_length_le ⟨_, split.symm⟩ (List.prefix_append run after) ?_
      rw [List.length_append] at otherBehind
      omega
    rw [first.eq_nil_of_gap second inside, List.append_nil]
  · have inside : gap <+: otherRun := by
      refine List.prefix_of_prefix_length_le ⟨_, split.symm⟩
        (List.prefix_append otherRun otherAfter) ?_
      rw [List.length_append] at behind
      omega
    rw [second.eq_nil_of_gap first inside, List.append_nil]

/-- Runs of one kind that begin together are the same. -/
theorem run_eq (first : IsRun kind before run after)
    (second : IsRun kind before otherRun otherAfter)
    (same : before ++ (run ++ after) = before ++ (otherRun ++ otherAfter)) : run = otherRun := by
  rw [← first.takeWhile_eq, List.append_cancel_left same, second.takeWhile_eq]

end IsRun

/-- What stands in a stretch of a text belongs to the stretch. -/
theorem mem_of_getElem? {text before stretch after : List Char} {index : Nat} {char : Char}
    (written : text = before ++ (stretch ++ after)) (found : text[index]? = some char)
    (behind : before.length ≤ index) (within : index < before.length + stretch.length) :
    char ∈ stretch := by
  rw [written, List.getElem?_append_right behind, List.getElem?_append_left (by omega)] at found
  exact List.mem_of_getElem? found

namespace Delimiters

variable {delimiters : Delimiters} {text chars : List Char} {token other : Token} {index : Nat}
  {char : Char}

/-! ## Tokens and refusals in a text -/

/-- Whether a character is neither a digit, nor a delimiter, nor a blank. -/
def isForeign (delimiters : Delimiters) (char : Char) : Bool :=
  !char.isDigit && !delimiters.contains char && !isBlank char

/-- A token stands in a text, where the given characters are written. -/
inductive Spells (delimiters : Delimiters) (text : List Char) : List Char → Token → Prop
  | number {before digits after : List Char} (written : text = before ++ (digits ++ after))
      (isRun : IsRun Char.isDigit before digits after)
      (short : digits.length ≤ maxLiteralDigits) :
      Spells delimiters text digits (.number (Decimal.value digits) before.length)
  | symbol {before after : List Char} {char : Char} (written : text = before ++ ([char] ++ after))
      (delimits : delimiters.contains char = true) :
      Spells delimiters text [char] (.symbol (String.singleton char) before.length)

/-- A text cannot be read from a place on: a run of foreign characters begins there, or one of
more digits than a literal may have. -/
inductive Refuses (delimiters : Delimiters) (text : List Char) : Nat → Cause → Prop
  | foreign {before run after : List Char} (written : text = before ++ (run ++ after))
      (isRun : IsRun delimiters.isForeign before run after) :
      Refuses delimiters text before.length (.invalidRun (String.ofList run))
  | tooLong {before digits after : List Char} (written : text = before ++ (digits ++ after))
      (isRun : IsRun Char.isDigit before digits after)
      (long : maxLiteralDigits < digits.length) :
      Refuses delimiters text before.length .literalTooLong

/-- A character of a text belongs to a token. -/
def Covers (delimiters : Delimiters) (text : List Char) (token : Token) (index : Nat) : Prop :=
  ∃ chars, delimiters.Spells text chars token ∧
    token.position ≤ index ∧ index < token.position + chars.length

theorem isDigit_eq_false_of_contains (delimits : delimiters.contains char = true) :
    char.isDigit = false := by
  have admissible := delimiters.admissible char (List.contains_iff_mem.mp delimits)
  rw [mayDelimit, Bool.and_eq_true, Bool.not_eq_true'] at admissible
  apply Bool.eq_false_iff.mpr
  intro digit
  rw [isAnyDigit_of_isDigit digit] at admissible
  cases admissible.1

theorem isBlank_eq_false_of_contains (delimits : delimiters.contains char = true) :
    isBlank char = false := by
  have admissible := delimiters.admissible char (List.contains_iff_mem.mp delimits)
  rw [mayDelimit, Bool.and_eq_true, Bool.not_eq_true', Bool.not_eq_true'] at admissible
  exact admissible.2

namespace Spells

theorem chars_ne_nil (spells : delimiters.Spells text chars token) : chars ≠ [] := by
  cases spells with
  | number written isRun short => exact isRun.nonempty
  | symbol written delimits => exact List.cons_ne_nil _ _

/-- A token is spelled at its position. -/
theorem exists_written (spells : delimiters.Spells text chars token) :
    ∃ before after, text = before ++ (chars ++ after) ∧ token.position = before.length := by
  cases spells with
  | number written isRun short => exact ⟨_, _, written, rfl⟩
  | symbol written delimits => exact ⟨_, _, written, rfl⟩

/-- A token is spelled with digits or with a delimiter. -/
theorem isDigit_or_contains (spells : delimiters.Spells text chars token) (member : char ∈ chars) :
    char.isDigit = true ∨ delimiters.contains char = true := by
  cases spells with
  | number written isRun short => exact Or.inl (isRun.uniform char member)
  | symbol written delimits => exact Or.inr (List.mem_singleton.mp member ▸ delimits)

end Spells

namespace Covers

/-- A token covers the place where it stands. -/
theorem of_spells (spells : delimiters.Spells text chars token) {place : Nat}
    (stands : token.position = place) : delimiters.Covers text token place := by
  have positive := List.length_pos_iff.mpr spells.chars_ne_nil
  exact ⟨chars, spells, by omega, by omega⟩

/-- A covered character is a digit or a delimiter. -/
theorem isDigit_or_contains (covers : delimiters.Covers text token index)
    (found : text[index]? = some char) :
    char.isDigit = true ∨ delimiters.contains char = true := by
  obtain ⟨chars, spells, behind, within⟩ := covers
  obtain ⟨before, after, written, stands⟩ := spells.exists_written
  exact spells.isDigit_or_contains (mem_of_getElem? written found (by omega) (by omega))

/-- No token covers a foreign character. -/
theorem isForeign_eq_false (covers : delimiters.Covers text token index)
    (found : text[index]? = some char) : delimiters.isForeign char = false := by
  rcases covers.isDigit_or_contains found with digit | delimits
  · rw [isForeign, digit, Bool.not_true, Bool.false_and, Bool.false_and]
  · rw [isForeign, delimits, Bool.not_true, Bool.and_false, Bool.false_and]

/-- What covers a digit is a number. -/
theorem exists_number_of_isDigit (covers : delimiters.Covers text token index)
    (found : text[index]? = some char) (digit : char.isDigit = true) :
    ∃ before digits after, text = before ++ (digits ++ after) ∧
      IsRun Char.isDigit before digits after ∧ digits.length ≤ maxLiteralDigits ∧
      before.length ≤ index ∧ index < before.length + digits.length ∧
      token = .number (Decimal.value digits) before.length := by
  obtain ⟨chars, spells, behind, within⟩ := covers
  cases spells with
  | @number before digits after written isRun short =>
      simp only [Token.position] at behind within
      exact ⟨before, chars, after, written, isRun, short, by omega, by omega, rfl⟩
  | @symbol before after delimiter written delimits =>
      simp only [Token.position] at behind within
      have member := mem_of_getElem? written found (by omega) (by omega)
      rw [List.mem_singleton.mp member, isDigit_eq_false_of_contains delimits] at digit
      cases digit

/-- What covers a delimiter is its symbol. -/
theorem eq_symbol_of_contains (covers : delimiters.Covers text token index)
    (found : text[index]? = some char) (delimits : delimiters.contains char = true) :
    token = .symbol (String.singleton char) index := by
  obtain ⟨chars, spells, behind, within⟩ := covers
  cases spells with
  | @number before digits after written isRun short =>
      simp only [Token.position] at behind within
      have digit := isRun.uniform char (mem_of_getElem? written found (by omega) (by omega))
      rw [isDigit_eq_false_of_contains delimits] at digit
      cases digit
  | @symbol before after delimiter written delimits =>
      simp only [Token.position, List.length_singleton] at behind within
      have member := mem_of_getElem? written found (by omega) (by rw [List.length_singleton]; omega)
      have place : before.length = index := by omega
      rw [List.mem_singleton.mp member, place]

/-- No character belongs to two tokens. -/
theorem eq (first : delimiters.Covers text token index)
    (second : delimiters.Covers text other index) (found : text[index]? = some char) :
    token = other := by
  rcases first.isDigit_or_contains found with digit | delimits
  · obtain ⟨before, digits, after, written, isRun, _, behind, within, rfl⟩ :=
      first.exists_number_of_isDigit found digit
    obtain ⟨otherBefore, otherDigits, otherAfter, otherWritten, otherIsRun, _, otherBehind,
      otherWithin, rfl⟩ := second.exists_number_of_isDigit found digit
    have same := written.symm.trans otherWritten
    obtain rfl := isRun.before_eq otherIsRun same within otherWithin behind otherBehind
    rw [isRun.run_eq otherIsRun same]
  · rw [first.eq_symbol_of_contains found delimits, second.eq_symbol_of_contains found delimits]

end Covers

theorem isBlank_eq_false_of_isForeign (foreign : delimiters.isForeign char = true) :
    isBlank char = false := by
  rw [isForeign, Bool.and_eq_true, Bool.not_eq_true'] at foreign
  exact foreign.2

/-- The character with which a run begins. -/
theorem exists_getElem?_of_isRun {kind : Char → Bool} {before run after : List Char}
    (written : text = before ++ (run ++ after)) (isRun : IsRun kind before run after) :
    ∃ first, text[before.length]? = some first ∧ kind first = true := by
  obtain ⟨first, rest, rfl⟩ := List.exists_cons_of_ne_nil isRun.nonempty
  refine ⟨first, ?_, isRun.uniform first List.mem_cons_self⟩
  rw [written, List.getElem?_append_right (Nat.le_refl _), Nat.sub_self]
  rfl

/-- No token begins with a blank. -/
theorem Spells.exists_getElem? (spells : delimiters.Spells text chars token) :
    ∃ (place : Nat) (first : Char), token.position = place ∧ text[place]? = some first ∧
      isBlank first = false := by
  cases spells with
  | number written isRun short =>
      obtain ⟨first, found, digit⟩ := exists_getElem?_of_isRun written isRun
      exact ⟨_, first, rfl, found, isBlank_eq_false_of_isDigit digit⟩
  | @symbol before after first written delimits =>
      refine ⟨_, first, rfl, ?_, isBlank_eq_false_of_contains delimits⟩
      rw [written, List.getElem?_append_right (Nat.le_refl _), Nat.sub_self]
      rfl

namespace Refuses

variable {place : Nat} {cause : Cause}

/-- No blank is refused. -/
theorem exists_getElem? (refuses : delimiters.Refuses text place cause) :
    ∃ first, text[place]? = some first ∧ isBlank first = false := by
  cases refuses with
  | foreign written isRun =>
      obtain ⟨first, found, foreign⟩ := exists_getElem?_of_isRun written isRun
      exact ⟨first, found, isBlank_eq_false_of_isForeign foreign⟩
  | tooLong written isRun long =>
      obtain ⟨first, found, digit⟩ := exists_getElem?_of_isRun written isRun
      exact ⟨first, found, isBlank_eq_false_of_isDigit digit⟩

/-- No token covers a place where a text is refused. -/
theorem not_covers (refuses : delimiters.Refuses text place cause) :
    ¬ delimiters.Covers text token place := by
  intro covers
  cases refuses with
  | foreign written isRun =>
      obtain ⟨first, found, foreign⟩ := exists_getElem?_of_isRun written isRun
      rw [covers.isForeign_eq_false found] at foreign
      cases foreign
  | tooLong written isRun long =>
      obtain ⟨first, found, digit⟩ := exists_getElem?_of_isRun written isRun
      obtain ⟨before, digits, after, otherWritten, otherIsRun, short, behind, within, _⟩ :=
        covers.exists_number_of_isDigit found digit
      have positive := List.length_pos_iff.mpr isRun.nonempty
      have same := written.symm.trans otherWritten
      obtain rfl := isRun.before_eq otherIsRun same (by omega) within (Nat.le_refl _) behind
      rw [isRun.run_eq otherIsRun same] at long
      exact Nat.not_lt_of_le short long

end Refuses

end Delimiters

end InfixCalculator
