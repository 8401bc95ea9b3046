import InfixCalculator.Proofs.Numerals
import InfixCalculator.Proofs.Token.Coverage

/-!
# Cutting a text

A text that is cut where no run goes on has the tokens of its first part and then those of its
second part, unless the first part breaks off (`Delimiters.tokensFrom_append`).  Hence what stands
in front of the place where a text is refused delivers all of its tokens by itself
(`Delimiters.FrontOf`), and a text that begins in the same way delivers these tokens first, whatever
follows, but for a number that goes on there (`Delimiters.FrontOf.resumes`).
-/

namespace InfixCalculator

namespace TokenStream

/-- The stream that goes on with another one where the first is done. -/
def append : TokenStream → TokenStream → TokenStream
  | done, following => following
  | failed fault, _ => failed fault
  | token first rest, following => token first (rest.append following)

/-- What follows a stream that does not break off comes behind its tokens. -/
theorem append_of_complete {stream : TokenStream} (complete : stream.fault? = none)
    (following : TokenStream) : stream.append following = prepend stream.tokens following := by
  induction stream with
  | done => rfl
  | failed fault => cases complete
  | token first rest ih => rw [append, ih complete, tokens, prepend_cons]

/-- Where the first stream breaks off, so do both; otherwise, where the second does. -/
theorem fault?_append (stream following : TokenStream) :
    (stream.append following).fault? = stream.fault?.or following.fault? := by
  induction stream with
  | done => rfl
  | failed other => rfl
  | token first rest ih => rw [append, fault?, ih, fault?]

theorem tokens_prepend (tokens : List Token) (stream : TokenStream) :
    (prepend tokens stream).tokens = tokens ++ stream.tokens := by
  induction tokens with
  | nil => rfl
  | cons first rest ih => rw [prepend_cons, TokenStream.tokens, ih, List.cons_append]

theorem fault?_prepend (tokens : List Token) (stream : TokenStream) :
    (prepend tokens stream).fault? = stream.fault? := by
  induction tokens with
  | nil => rfl
  | cons first rest ih => rw [prepend_cons, fault?, ih]

end TokenStream

/-- A run goes on unchanged in front of a character of another kind. -/
theorem IsRun.append_right {kind : Char → Bool} {before run after rest : List Char}
    (isRun : IsRun kind before run after)
    (apart : after = [] → ∀ next ∈ rest.head?, kind next = false) :
    IsRun kind before run (after ++ rest) := by
  refine ⟨isRun.nonempty, isRun.uniform, isRun.begins, ?_⟩
  cases after with
  | nil => exact apart rfl
  | cons first others => exact isRun.ends

/-- A run at the end of a text goes on with what follows of its kind. -/
theorem IsRun.append_takeWhile {kind : Char → Bool} {before run : List Char}
    (isRun : IsRun kind before run []) (rest : List Char) :
    IsRun kind before (run ++ rest.takeWhile kind) (rest.dropWhile kind) := by
  refine ⟨List.append_ne_nil_of_left_ne_nil isRun.nonempty _, ?_, isRun.begins, ?_⟩
  · intro char member
    rcases List.mem_append.mp member with inside | follows
    · exact isRun.uniform char inside
    · exact List.mem_takeWhile_imp follows
  · intro next head
    have stops := List.head?_dropWhile_not kind rest
    rw [Option.mem_def.mp head] at stops
    exact stops

/-- A text whose last character is of a kind ends with a run of the kind. -/
theorem exists_isRun_of_getLast? {kind : Char → Bool} {chars : List Char} {last : Char}
    (ends : last ∈ chars.getLast?) (holds : kind last = true) :
    ∃ front run, chars = front ++ run ∧ IsRun kind front run [] := by
  refine ⟨(chars.reverse.dropWhile kind).reverse, (chars.reverse.takeWhile kind).reverse, ?_,
    ?_, ?_, ?_, fun _ head => by cases head⟩
  · rw [← List.reverse_append, List.takeWhile_append_dropWhile, List.reverse_reverse]
  · obtain ⟨front, rfl⟩ := List.getLast?_eq_some_iff.mp ends
    rw [List.reverse_append, List.reverse_singleton, List.singleton_append,
      List.takeWhile_cons_of_pos holds, List.reverse_cons]
    exact List.append_ne_nil_of_right_ne_nil _ (List.cons_ne_nil _ _)
  · exact fun char member => List.mem_takeWhile_imp (List.mem_reverse.mp member)
  · intro char head
    rw [List.getLast?_reverse] at head
    have stops := List.head?_dropWhile_not kind chars.reverse
    rw [Option.mem_def.mp head] at stops
    exact stops

namespace Delimiters

variable {delimiters : Delimiters} {text before rest run after : List Char}
  {kind : Char → Bool} {charClass : CharClass} {fault : Fault}

/-! ## Places where no run goes on -/

/-- What parts from the end of a text parts from the text. -/
theorem Parts.behind (stretch : List Char) (parts : delimiters.Parts (stretch ++ before) rest) :
    delimiters.Parts before rest := by
  intro last ends
  refine parts last ?_
  rw [List.getLast?_append, Option.mem_def.mp ends]
  rfl

/-- A text parts where a run begins. -/
theorem parts_of_begins (agrees : ∀ char, kind char = true ↔ delimiters.classify char = charClass)
    (isRun : IsRun kind before run after) (rest : List Char) :
    delimiters.Parts before (run ++ rest) := by
  intro last ends next head same
  obtain ⟨first, others, shape⟩ := List.exists_cons_of_ne_nil isRun.nonempty
  rw [shape] at head
  cases head
  have inside := (agrees next).mp (isRun.uniform next (shape ▸ List.mem_cons_self))
  have apart := isRun.begins last ends
  rw [(agrees last).mpr (same.trans inside)] at apart
  cases apart

/-- A run ends where a text parts. -/
theorem isRun_append_of_parts
    (agrees : ∀ char, kind char = true ↔ delimiters.classify char = charClass)
    (joins : charClass ≠ .delimiter ∧ charClass ≠ .blank) (isRun : IsRun kind before run after)
    (parts : delimiters.Parts (run ++ after) rest) : IsRun kind before run (after ++ rest) := by
  refine isRun.append_right fun none next head => Bool.eq_false_iff.mpr fun inside => ?_
  rw [none, List.append_nil] at parts
  have nextClass := (agrees next).mp inside
  have lastClass := (agrees _).mp (isRun.uniform _ (List.getLast_mem isRun.nonempty))
  rcases parts _ (List.getLast_mem_getLast? isRun.nonempty) next head
    (lastClass.trans nextClass.symm) with delimiter | blank
  · exact joins.1 (nextClass.symm.trans delimiter)
  · exact joins.2 (nextClass.symm.trans blank)

/-! ## Tokens of the parts -/

/-- What holds of the empty text, and of a text if it holds behind the lexeme with which the text
begins, holds of every text.  Of blanks, one is taken at a time. -/
theorem scan_induction (delimiters : Delimiters) {motive : List Char → Prop} (nil : motive [])
    (blank : ∀ char rest, isBlank char = true → motive rest → motive (char :: rest))
    (delimiter : ∀ char rest, delimiters.classify char = .delimiter → motive rest →
      motive (char :: rest))
    (digits : ∀ run rest, IsRun Char.isDigit [] run rest → motive rest → motive (run ++ rest))
    (foreign : ∀ run rest, IsRun delimiters.isForeign [] run rest → motive rest →
      motive (run ++ rest))
    (chars : List Char) : motive chars := by
  -- A lexeme can have any length, so the induction is on the length of the text.
  generalize size : chars.length = count
  induction count using Nat.strongRecOn generalizing chars with
  | ind count ih =>
      have behind (run : List Char) {rest : List Char} (nonempty : run ≠ [])
          (split : chars = run ++ rest) : motive rest := by
        have positive := List.length_pos_iff.mpr nonempty
        refine ih rest.length ?_ rest rfl
        rw [← size, split, List.length_append]
        omega
      cases chars with
      | nil => exact nil
      | cons first later =>
          have alone := behind [first] (List.cons_ne_nil _ _) rfl
          cases shape : delimiters.classify first with
          | blank => exact blank first later (isBlank_of_classify shape) alone
          | delimiter => exact delimiter first later shape alone
          | digit =>
              obtain ⟨run, rest, split, isRun⟩ :=
                exists_isRun_of_parts delimiters.isDigit_iff_classify ⟨by decide, by decide⟩
                  (delimiters.parts_nil _) shape
              rw [split]
              exact digits run rest isRun (behind run isRun.nonempty split)
          | foreign =>
              obtain ⟨run, rest, split, isRun⟩ :=
                exists_isRun_of_parts delimiters.isForeign_iff_classify ⟨by decide, by decide⟩
                  (delimiters.parts_nil _) shape
              rw [split]
              exact foreign run rest isRun (behind run isRun.nonempty split)

/-- A text that is cut where no run goes on has the tokens of its parts, in their order. -/
theorem tokensFrom_append (position : Int) (parts : delimiters.Parts before rest) :
    delimiters.tokensFrom position (before ++ rest) =
      (delimiters.tokensFrom position before).append
        (delimiters.tokensFrom (position + before.length) rest) := by
  induction before using delimiters.scan_induction generalizing position with
  | nil =>
      rw [List.length_nil, Int.natCast_zero, Int.add_zero, tokensFrom_nil]
      rfl
  | blank char later blank ih =>
      rw [List.cons_append, tokensFrom_blank _ blank, tokensFrom_blank _ blank,
        ih _ (parts.behind [char]), List.length_cons, Int.natCast_succ,
        Int.add_comm later.length 1, Int.add_assoc]
  | delimiter char later delimits ih =>
      rw [List.cons_append, tokensFrom_delimiter _ delimits, tokensFrom_delimiter _ delimits,
        ih _ (parts.behind [char]), List.length_cons, Int.natCast_succ,
        Int.add_comm later.length 1, Int.add_assoc]
      rfl
  | digits run later isRun ih =>
      -- The run may end the first part; it does not go on in the second.
      have longer := isRun_append_of_parts delimiters.isDigit_iff_classify
        ⟨by decide, by decide⟩ isRun parts
      rw [List.append_assoc, tokensFrom_digits _ isRun.nonempty isRun.uniform longer.ends,
        tokensFrom_digits _ isRun.nonempty isRun.uniform isRun.ends]
      split
      · rfl
      · rw [ih _ (parts.behind run), List.length_append, Int.natCast_add, Int.add_assoc]
        rfl
  | foreign run later isRun ih =>
      have longer := isRun_append_of_parts delimiters.isForeign_iff_classify
        ⟨by decide, by decide⟩ isRun parts
      rw [List.append_assoc, tokensFrom_foreign _ longer, tokensFrom_foreign _ isRun]
      rfl

/-- A run of digits behind a text that is complete gives a number, unless it is too long. -/
theorem tokensFrom_append_digits (complete : (delimiters.tokensFrom 0 before).fault? = none)
    (isRun : IsRun Char.isDigit before run after) :
    delimiters.tokensFrom 0 (before ++ (run ++ after)) =
      .prepend (delimiters.tokensFrom 0 before).tokens
        (if maxLiteralDigits < run.length then
          .failed ⟨.literalTooLong, some (before.length : Int)⟩
        else .token (.number (Decimal.value run) before.length)
          (delimiters.tokensFrom (before.length + run.length) after)) := by
  rw [tokensFrom_append 0 (parts_of_begins delimiters.isDigit_iff_classify isRun after),
    TokenStream.append_of_complete complete,
    tokensFrom_digits _ isRun.nonempty isRun.uniform isRun.ends, Int.zero_add]

/-! ## The front of a text -/

/-- A text does not end with a foreign character if it does not break off, so it parts from what
follows unless digits meet. -/
theorem parts_of_complete (complete : (delimiters.tokensFrom 0 before).fault? = none)
    (apart : ∀ last ∈ before.getLast?, last.isDigit = true → EndsDigits rest) :
    delimiters.Parts before rest := by
  intro last ends next head same
  cases shape : delimiters.classify next with
  | delimiter => exact Or.inl rfl
  | blank => exact Or.inr rfl
  | digit =>
      have digits := apart last ends (isDigit_of_classify (same.trans shape)) next head
      rw [isDigit_of_classify shape] at digits
      cases digits
  | foreign =>
      have accounts := (delimiters.accountsFrom_start before).accounts
      have breaks := accounts.breaks_iff.mpr (Or.inl ⟨last, List.mem_of_getLast? ends,
        (delimiters.isForeign_iff_classify last).mpr (same.trans shape)⟩)
      rw [complete] at breaks
      cases breaks

/-- What stands in front of the place where a text is refused: it does not break off by itself, and
the tokens of the text are its own. -/
structure FrontOf (delimiters : Delimiters) (text : String) (fault : Fault) (before : List Char) :
    Prop where
  isPrefix : before <+: delimiters.normalize text
  position : fault.position = some (before.length : Int)
  complete : (delimiters.tokensFrom 0 before).fault? = none
  tokens : (delimiters.tokensFrom 0 before).tokens = (delimiters.tokenize text).tokens

/-- Where a text is refused, it parts from its front, and the rest of it gives no token. -/
theorem Refuses.exists_parts {place : Nat} {cause : Cause}
    (refuses : delimiters.Refuses text place cause) :
    ∃ before rest, text = before ++ rest ∧ before.length = place ∧
      delimiters.Parts before rest ∧ (delimiters.tokensFrom before.length rest).tokens = [] := by
  cases refuses with
  | @foreign before run after written isRun =>
      refine ⟨before, run ++ after, written, rfl,
        parts_of_begins delimiters.isForeign_iff_classify isRun after, ?_⟩
      rw [tokensFrom_foreign _ isRun]
      rfl
  | @tooLong before digits after written isRun long =>
      refine ⟨before, digits ++ after, written, rfl,
        parts_of_begins delimiters.isDigit_iff_classify isRun after, ?_⟩
      rw [tokensFrom_digits _ isRun.nonempty isRun.uniform isRun.ends, if_pos long]
      rfl

/-- A text that is refused has a front. -/
theorem exists_frontOf {text : String} (breaks : (delimiters.tokenize text).fault? = some fault) :
    ∃ before, delimiters.FrontOf text fault before := by
  obtain ⟨place, _, stands, refuses⟩ :=
    (delimiters.accountsFrom_tokenize text).refused fault breaks
  obtain ⟨before, rest, written, rfl, parts, silent⟩ := refuses.exists_parts
  have cut := delimiters.tokensFrom_append 0 parts
  rw [Int.zero_add, ← written, ← tokenize_eq] at cut
  have complete : (delimiters.tokensFrom 0 before).fault? = none := by
    by_contra broken
    obtain ⟨other, earlier⟩ := Option.ne_none_iff_exists'.mp broken
    -- a front that broke off would be refused inside, but the fault stands behind it
    rw [cut, TokenStream.fault?_append, earlier] at breaks
    cases breaks
    obtain ⟨inside, _, same, refused⟩ :=
      (delimiters.accountsFrom_start before).refused fault earlier
    obtain ⟨first, found, _⟩ := refused.exists_getElem?
    have short := (List.getElem?_eq_some_iff.mp found).1
    rw [stands] at same
    cases same
    omega
  refine ⟨before, written ▸ List.prefix_append before rest, stands, complete, ?_⟩
  rw [cut, TokenStream.append_of_complete complete, TokenStream.tokens_prepend, silent,
    List.append_nil]

/-- How a text with the same front is read: it delivers the tokens of the front first, but if the
last one is a number that goes on, then another number in its place, or none if it is too long. -/
inductive Resumes (tokens : List Token) (rest : List Char) (stream : TokenStream) : Prop
  | tokens {following : TokenStream} (delivers : stream = .prepend tokens following)
  | number {earlier : List Token} {value other place : Int} {following : TokenStream}
      (split : tokens = earlier ++ [.number value place]) (short : fits value = true)
      (delivers : stream = .prepend earlier (.token (.number other place) following))
  | tooLong {earlier : List Token} {value place : Int}
      (split : tokens = earlier ++ [.number value place])
      (goesOn : ∃ digit ∈ rest.head?, digit.isDigit = true)
      (delivers : stream = .prepend earlier (.failed ⟨.literalTooLong, some place⟩))

namespace FrontOf

variable {text : String}

/-- A front that ends with a digit ends with a number, and what stands before the number does not
break off. -/
theorem exists_number (front : delimiters.FrontOf text fault before) {last : Char}
    (ends : last ∈ before.getLast?) (digit : last.isDigit = true) :
    ∃ start digits, before = start ++ digits ∧ IsRun Char.isDigit start digits [] ∧
      digits.length ≤ maxLiteralDigits ∧ (delimiters.tokensFrom 0 start).fault? = none ∧
      (delimiters.tokenize text).tokens =
        (delimiters.tokensFrom 0 start).tokens ++
          [.number (Decimal.value digits) start.length] := by
  obtain ⟨start, digits, rfl, isRun⟩ := exists_isRun_of_getLast? ends digit
  have complete := front.complete
  have startComplete : (delimiters.tokensFrom 0 start).fault? = none := by
    have parts := parts_of_begins delimiters.isDigit_iff_classify isRun []
    rw [List.append_nil] at parts
    rw [tokensFrom_append 0 parts, TokenStream.fault?_append] at complete
    exact (Option.or_eq_none_iff.mp complete).1
  have read := tokensFrom_append_digits startComplete isRun
  rw [List.append_nil] at read
  have short : ¬ maxLiteralDigits < digits.length := by
    intro long
    rw [read, if_pos long, TokenStream.fault?_prepend] at complete
    cases complete
  have tokens := front.tokens
  rw [read, if_neg short, TokenStream.tokens_prepend] at tokens
  exact ⟨start, digits, rfl, isRun, Nat.not_lt.mp short, startComplete, tokens.symm⟩

/-- A text with the same front resumes its tokens. -/
theorem resumes (front : delimiters.FrontOf text fault before) (rest : List Char) :
    Resumes (delimiters.tokenize text).tokens rest (delimiters.tokensFrom 0 (before ++ rest)) := by
  by_cases ends : ∃ last ∈ before.getLast?, last.isDigit = true
  · obtain ⟨last, ends, digit⟩ := ends
    obtain ⟨start, digits, rfl, isRun, short, complete, tokens⟩ := front.exists_number ends digit
    have read := tokensFrom_append_digits complete (isRun.append_takeWhile rest)
    rw [List.append_assoc, List.takeWhile_append_dropWhile, ← List.append_assoc] at read
    split at read
    · rename_i long
      refine .tooLong tokens ?_ read
      cases rest with
      | nil =>
          rw [List.takeWhile_nil, List.append_nil] at long
          omega
      | cons first others =>
          refine ⟨first, rfl, ?_⟩
          by_contra apart
          rw [List.takeWhile_cons_of_neg apart, List.append_nil] at long
          omega
    · exact .number tokens (Decimal.fits_value isRun.uniform short) read
  · have apart : ∀ last ∈ before.getLast?, last.isDigit = true → EndsDigits rest :=
      fun last member digit => absurd ⟨last, member, digit⟩ ends
    have read := tokensFrom_append 0 (parts_of_complete front.complete apart)
    rw [TokenStream.append_of_complete front.complete, front.tokens] at read
    exact .tokens read

end FrontOf

end Delimiters

end InfixCalculator
