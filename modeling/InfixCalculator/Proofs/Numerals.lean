import Mathlib.Algebra.Ring.Nat
import InfixCalculator.Proofs.Magnitude
import InfixCalculator.Text.Decimal

/-!
# Numerals and their values

Writing a number block by block gives its digits in base ten (`digits_eq_toDigits`).
Hence reading the digits of a number gives it back (`value_digits`), whatever zeros stand
in front (`value_leadingZeros`), and a number of digits suffices exactly below that power
of ten (`length_digits_le_iff`).

Three limits meet here.  The digits that a literal may have only ever denote numbers within the
size limit (`fits_of_length_digits`, `fits_value`), and a number within the size limit never has
more digits than a result may have (`length_digits_of_fits`).

What is written never begins with a zero that could be left out (`isCanonical_text`).
-/

namespace InfixCalculator

/-- The most digits that a number within the size limit can have. -/
def maxResultDigits : Nat := 4215

namespace Decimal

/-- Splitting off the last digits of a long number leaves the digits of the rest. -/
theorem toDigits_append_eq (count number : Nat) (following : List Char)
    (long : 0 < number / 10 ^ count) :
    Nat.toDigits 10 number ++ following =
      Nat.toDigits 10 (number / 10 ^ count) ++
        lastDigits count (number % 10 ^ count) following := by
  induction count generalizing number following with
  | zero => rw [pow_zero, Nat.div_one, lastDigits]
  | succ count ih =>
      have quotient : number / 10 ^ (count + 1) = number / 10 / 10 ^ count := by
        rw [Nat.div_div_eq_div_mul, pow_succ']
      have remainder : number % 10 ^ (count + 1) / 10 = number / 10 % 10 ^ count := by
        rw [pow_succ', Nat.mod_mul_right_div_self]
      have last : number % 10 ^ (count + 1) % 10 = number % 10 := by
        rw [pow_succ', Nat.mod_mul_right_mod]
      rw [quotient] at long ⊢
      have several : 10 ≤ number := by
        by_contra single
        have vanishing : number / 10 = 0 := Nat.div_eq_of_lt (Nat.lt_of_not_le single)
        rw [vanishing, Nat.zero_div] at long
        exact Nat.lt_irrefl 0 long
      rw [lastDigits, remainder, last, ← ih (number / 10) _ long,
        Nat.toDigits_of_base_le (by decide) several, List.append_assoc,
        List.singleton_append]

/-- Writing a number in blocks gives its digits. -/
theorem digitsBefore_eq (blocks number : Nat) (following : List Char) :
    digitsBefore blocks number following = Nat.toDigits 10 number ++ following := by
  induction blocks generalizing number following with
  | zero => rw [digitsBefore]
  | succ blocks ih =>
      rw [digitsBefore]
      split
      · rfl
      · rename_i long
        have size : blockSize = 10 ^ blockLength := by decide
        have positive : 0 < number / 10 ^ blockLength := by
          rw [← size]
          exact Nat.div_pos (Nat.le_of_not_lt long) (by decide)
        rw [ih, size, ← toDigits_append_eq blockLength number following positive]

/-- The digits of a number are its digits in base ten. -/
theorem digits_eq_toDigits (number : Nat) : digits number = Nat.toDigits 10 number := by
  rw [digits, digitsBefore_eq, List.append_nil]

/-- The digits of a number are read as the number. -/
@[simp] theorem value_digits (number : Nat) : value (digits number) = number := by
  rw [digits_eq_toDigits]
  exact Nat.ofDigitChars_ten_toDigits

/-- Zeros in front of a numeral leave its value alone. -/
theorem value_leadingZeros (count : Nat) (numeral : List Char) :
    value (List.replicate count '0' ++ numeral) = value numeral := by
  rw [value, value, Nat.ofDigitChars_append, Nat.ofDigitChars_replicate_zero, Nat.mul_zero]

/-- A number is written in digits. -/
theorem isDigit_of_mem_digits {number : Nat} {char : Char}
    (member : char ∈ digits number) : char.isDigit = true := by
  rw [digits_eq_toDigits] at member
  exact Nat.isDigit_of_mem_toDigits (by decide) (by decide) member

theorem digits_ne_nil (number : Nat) : digits number ≠ [] := by
  rw [digits_eq_toDigits]
  exact Nat.toDigits_ne_nil

/-- A positive number of digits suffices exactly below that power of ten. -/
theorem length_digits_le_iff {number count : Nat} (positive : 0 < count) :
    (digits number).length ≤ count ↔ number < 10 ^ count := by
  rw [digits_eq_toDigits]
  exact Nat.length_toDigits_le_iff (by decide) positive

/-- The digits that a literal may have never make up more than the size limit. -/
theorem ten_pow_maxLiteralDigits_le : 10 ^ maxLiteralDigits ≤ 2 ^ maxResultBits := by
  decide +kernel

/-- A number with no more digits than a literal may have is within the size limit. -/
theorem fits_of_length_digits {number : Int}
    (short : (digits number.natAbs).length ≤ maxLiteralDigits) : fits number = true := by
  rw [fits_eq_true_iff]
  calc number.natAbs
      < 10 ^ maxLiteralDigits := (length_digits_le_iff (by decide)).mp short
    _ ≤ 2 ^ maxResultBits := ten_pow_maxLiteralDigits_le

/-- A number within the size limit has no more digits than a result may have. -/
theorem length_digits_of_fits {number : Int} (short : fits number = true) :
    (digits number.natAbs).length ≤ maxResultDigits := by
  rw [fits_eq_true_iff] at short
  rw [length_digits_le_iff (by decide)]
  calc number.natAbs
      < 2 ^ maxResultBits := short
    _ ≤ 10 ^ maxResultDigits := by decide +kernel

/-- Reading digits behind a number gives less than reading as many nines would. -/
theorem ofDigitChars_lt {numeral : List Char} (digits : ∀ char ∈ numeral, char.isDigit = true)
    (front : Nat) : Nat.ofDigitChars 10 numeral front < (front + 1) * 10 ^ numeral.length := by
  induction numeral generalizing front with
  | nil =>
      rw [List.length_nil, pow_zero, Nat.mul_one]
      exact Nat.lt_succ_self front
  | cons first rest ih =>
      obtain ⟨firstDigit, restDigits⟩ := List.forall_mem_cons.mp digits
      obtain ⟨_, upper⟩ := Char.isDigit_iff_toNat.mp firstDigit
      have nine : '9'.toNat = '0'.toNat + 9 := rfl
      rw [Nat.ofDigitChars_cons, List.length_cons, pow_succ']
      calc Nat.ofDigitChars 10 rest (10 * front + (first.toNat - '0'.toNat))
          < (10 * front + (first.toNat - '0'.toNat) + 1) * 10 ^ rest.length := ih restDigits _
        _ ≤ (10 * (front + 1)) * 10 ^ rest.length := Nat.mul_le_mul_right _ (by omega)
        _ = (front + 1) * (10 * 10 ^ rest.length) := by rw [Nat.mul_comm 10, Nat.mul_assoc]

/-- A literal of admissible length denotes a number within the size limit. -/
theorem fits_value {numeral : List Char} (digits : ∀ char ∈ numeral, char.isDigit = true)
    (short : numeral.length ≤ maxLiteralDigits) : fits (value numeral) = true := by
  rw [fits_eq_true_iff, Int.natAbs_natCast]
  calc value numeral
      < (0 + 1) * 10 ^ numeral.length := ofDigitChars_lt digits 0
    _ = 10 ^ numeral.length := Nat.one_mul _
    _ ≤ 10 ^ maxLiteralDigits := Nat.pow_le_pow_right (by decide) short
    _ ≤ 2 ^ maxResultBits := ten_pow_maxLiteralDigits_le

/-- The text of a number is the one that every number has. -/
theorem text_eq_toString (number : Int) : text number = toString number := by
  rw [text, digits_eq_toDigits]
  cases number with
  | ofNat magnitude =>
      have natural : 0 ≤ Int.ofNat magnitude := Int.natCast_nonneg magnitude
      rw [if_pos natural]
      rfl
  | negSucc magnitude =>
      have negative := Int.not_le.mpr (Int.negSucc_lt_zero magnitude)
      have minus : String.singleton '-' = "-" := by decide
      rw [if_neg negative, String.ofList_cons, minus]
      rfl

/-- An integer as it is written: zero, or digits that do not begin with a zero, with or without a
minus sign. -/
inductive IsCanonical : List Char → Prop
  | zero : IsCanonical ['0']
  | natural {first : Char} {rest : List Char} (leading : first ≠ '0')
      (digits : ∀ char ∈ first :: rest, char.isDigit = true) : IsCanonical (first :: rest)
  | negative {first : Char} {rest : List Char} (leading : first ≠ '0')
      (digits : ∀ char ∈ first :: rest, char.isDigit = true) : IsCanonical ('-' :: first :: rest)

/-- Only the digits of zero begin with a zero. -/
theorem head?_digits_ne {number : Nat} (positive : 0 < number) :
    (digits number).head? ≠ some '0' := by
  rw [digits_eq_toDigits]
  induction number using Nat.strongRecOn with
  | ind number ih =>
      rw [Nat.toDigits_eq_if (by decide)]
      split
      · rename_i single
        have leading : ∀ digit < 10, 0 < digit → some (Nat.digitChar digit) ≠ some '0' := by decide
        exact leading number single positive
      · rename_i long
        have front : 0 < number / 10 := Nat.div_pos (Nat.le_of_not_lt long) (by decide)
        have shorter := ih (number / 10) (Nat.div_lt_self positive (by decide)) front
        rw [List.head?_append]
        cases head : (Nat.toDigits 10 (number / 10)).head? with
        | none => exact absurd (List.head?_eq_none_iff.mp head) Nat.toDigits_ne_nil
        | some first =>
            rw [head] at shorter
            exact shorter

/-- The text of a number is the only way to write it. -/
theorem isCanonical_text (number : Int) : IsCanonical (text number).toList := by
  rw [toList_text]
  by_cases zero : number = 0
  · subst zero
    exact .zero
  · have leading := head?_digits_ne (Int.natAbs_pos.mpr zero)
    obtain ⟨first, rest, shape⟩ := List.exists_cons_of_ne_nil (digits_ne_nil number.natAbs)
    have numerals : ∀ char ∈ digits number.natAbs, char.isDigit = true :=
      fun char member => isDigit_of_mem_digits member
    rw [shape] at leading numerals
    have nonzero : first ≠ '0' := fun same => leading (congrArg some same)
    rw [shape]
    split
    · exact .natural nonzero numerals
    · exact .negative nonzero numerals

end Decimal

end InfixCalculator
