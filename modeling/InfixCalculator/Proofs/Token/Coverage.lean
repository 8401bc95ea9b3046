import InfixCalculator.Proofs.Token.Occurrence

/-!
# What tokens cover

A stream accounts for a text if its tokens are those that stand before the first refusal, and
nothing but blanks stands there beside them (`Delimiters.Accounts`).  The tokens of a text account
for it (`Delimiters.tokenize_accounts`): what the tokens of the rest of a text account for, they
account for behind one more blank or one more token (`Delimiters.AccountsFrom`).
-/

namespace InfixCalculator

/-- A place stands before the one at which a stream breaks off, if it does break off. -/
def TokenStream.Reaches (stream : TokenStream) (place : Int) : Prop :=
  ∀ fault ∈ stream.fault?, ∀ stop ∈ fault.position, place < stop

namespace Delimiters

variable {delimiters : Delimiters} {text chars : List Char} {token other : Token} {index : Nat}
  {char : Char}

/-! ## Accounts of a text -/

/-- A stream accounts for a text from a place on. -/
structure AccountsFrom (delimiters : Delimiters) (text : List Char) (start : Nat)
    (stream : TokenStream) : Prop where
  increasing : stream.tokens.Pairwise fun first second => first.position < second.position
  spelled : ∀ token ∈ stream.tokens, ∃ chars, delimiters.Spells text chars token
  follows : ∀ token ∈ stream.tokens, start ≤ token.position
  reached : ∀ token ∈ stream.tokens, stream.Reaches token.position
  /-- Nothing is passed over but blanks. -/
  covered : ∀ index char, start ≤ index → text[index]? = some char → stream.Reaches index →
    isBlank char = true ∨ ∃ token ∈ stream.tokens, delimiters.Covers text token index
  /-- A stream that breaks off does so where the text is refused. -/
  refused : ∀ fault ∈ stream.fault?, ∃ place : Nat, start ≤ place ∧
    fault.position = some (place : Int) ∧ delimiters.Refuses text place fault.cause

namespace AccountsFrom

variable {start : Nat} {stream : TokenStream}

/-- At the end of a text there is nothing to account for. -/
theorem done (ended : text.length ≤ start) : delimiters.AccountsFrom text start .done where
  increasing := .nil
  spelled _ member := absurd member List.not_mem_nil
  follows _ member := absurd member List.not_mem_nil
  reached _ member := absurd member List.not_mem_nil
  covered index char behind found _ := by
    rw [List.getElem?_eq_none (Nat.le_trans ended behind)] at found
    cases found
  refused _ fails := by cases fails

/-- Behind a refusal there is nothing to account for. -/
theorem failed {cause : Cause} (refuses : delimiters.Refuses text start cause) :
    delimiters.AccountsFrom text start (.failed ⟨cause, some (start : Int)⟩) where
  increasing := .nil
  spelled _ member := absurd member List.not_mem_nil
  follows _ member := absurd member List.not_mem_nil
  reached _ member := absurd member List.not_mem_nil
  covered index char behind _ reaches := by
    have earlier := reaches _ rfl _ rfl
    omega
  refused fault fails := by
    cases fails
    exact ⟨start, Nat.le_refl _, rfl, refuses⟩

/-- A blank is passed over. -/
theorem afterBlank (found : text[start]? = some char) (blank : isBlank char = true)
    (rest : delimiters.AccountsFrom text (start + 1) stream) :
    delimiters.AccountsFrom text start stream where
  increasing := rest.increasing
  spelled := rest.spelled
  follows token member := by
    have later := rest.follows token member
    omega
  reached := rest.reached
  covered index other behind otherFound reaches := by
    by_cases here : index = start
    · rw [here, found, Option.some.injEq] at otherFound
      exact Or.inl (otherFound ▸ blank)
    · exact rest.covered index other (by omega) otherFound reaches
  refused fault fails := by
    obtain ⟨place, later, refusal⟩ := rest.refused fault fails
    exact ⟨place, by omega, refusal⟩

/-- A token is accounted for where it stands. -/
theorem afterToken {first : Token} (spells : delimiters.Spells text chars first)
    (stands : first.position = start)
    (rest : delimiters.AccountsFrom text (start + chars.length) stream) :
    delimiters.AccountsFrom text start (.token first stream) where
  increasing := by
    have positive := List.length_pos_iff.mpr spells.chars_ne_nil
    refine List.pairwise_cons.mpr ⟨fun second member => ?_, rest.increasing⟩
    have later := rest.follows second member
    omega
  spelled := List.forall_mem_cons.mpr ⟨⟨chars, spells⟩, rest.spelled⟩
  follows := by
    refine List.forall_mem_cons.mpr ⟨by omega, fun second member => ?_⟩
    have later := rest.follows second member
    omega
  reached := by
    have positive := List.length_pos_iff.mpr spells.chars_ne_nil
    refine List.forall_mem_cons.mpr ⟨fun fault fails stop placed => ?_, rest.reached⟩
    obtain ⟨place, later, same, _⟩ := rest.refused fault fails
    rw [same] at placed
    cases placed
    omega
  covered index char behind found reaches := by
    by_cases within : index < start + chars.length
    · exact Or.inr ⟨first, List.mem_cons_self, chars, spells, by omega, by omega⟩
    · rcases rest.covered index char (by omega) found reaches with blank | ⟨other, member, covers⟩
      · exact Or.inl blank
      · exact Or.inr ⟨other, List.mem_cons_of_mem _ member, covers⟩
  refused fault fails := by
    obtain ⟨place, later, refusal⟩ := rest.refused fault fails
    exact ⟨place, by omega, refusal⟩

end AccountsFrom

/-! ## Scanning -/

theorem isDigit_iff_classify (delimiters : Delimiters) (char : Char) :
    char.isDigit = true ↔ delimiters.classify char = .digit :=
  ⟨classify_of_isDigit, isDigit_of_classify⟩

theorem isForeign_iff_classify (delimiters : Delimiters) (char : Char) :
    delimiters.isForeign char = true ↔ delimiters.classify char = .foreign := by
  rw [isForeign, classify]
  cases char.isDigit <;> cases delimiters.contains char <;> cases isBlank char <;> decide

theorem contains_of_classify (delimits : delimiters.classify char = .delimiter) :
    delimiters.contains char = true := by
  by_contra other
  rw [classify, if_neg other] at delimits
  split at delimits
  · cases delimits
  · split at delimits <;> cases delimits

theorem isBlank_of_classify (blank : delimiters.classify char = .blank) : isBlank char = true := by
  by_contra other
  rw [classify, if_neg other] at blank
  split at blank
  · cases blank
  · split at blank <;> cases blank

/-- No run of digits or foreign characters goes on from one side of a place to the other. -/
def Parts (delimiters : Delimiters) (before rest : List Char) : Prop :=
  ∀ last ∈ before.getLast?, ∀ next ∈ rest.head?,
    delimiters.classify last = delimiters.classify next →
      delimiters.classify next = .delimiter ∨ delimiters.classify next = .blank

theorem parts_nil (rest : List Char) : delimiters.Parts [] rest := fun _ ends => by cases ends

section

variable {before run after rest : List Char} {first : Char} {kind : Char → Bool}
  {charClass : CharClass}

/-- A delimiter or a blank is a lexeme of its own, so the text can be cut behind it. -/
theorem parts_of_single
    (single : delimiters.classify first = .delimiter ∨ delimiters.classify first = .blank) :
    delimiters.Parts (before ++ [first]) rest := by
  intro last ends next _ same
  rw [List.getLast?_concat] at ends
  cases ends
  rw [← same]
  exact single

/-- A text can be cut behind a run, which does not go on. -/
theorem parts_of_isRun (agrees : ∀ char, kind char = true ↔ delimiters.classify char = charClass)
    (isRun : IsRun kind before run after) : delimiters.Parts (before ++ run) after := by
  intro last ends next begins same
  rw [List.getLast?_append_of_ne_nil before isRun.nonempty] at ends
  have inside := (agrees last).mp (isRun.uniform last (List.mem_of_getLast? ends))
  have outside := isRun.ends next begins
  rw [(agrees next).mpr (same.symm.trans inside)] at outside
  cases outside

/-- Where a text parts, a run begins, if its characters can form one. -/
theorem exists_isRun_of_parts
    (agrees : ∀ char, kind char = true ↔ delimiters.classify char = charClass)
    (joins : charClass ≠ .delimiter ∧ charClass ≠ .blank)
    (parts : delimiters.Parts before (first :: rest))
    (begins : delimiters.classify first = charClass) :
    ∃ run after, first :: rest = run ++ after ∧ IsRun kind before run after := by
  refine ⟨(first :: rest).takeWhile kind, (first :: rest).dropWhile kind,
    List.takeWhile_append_dropWhile.symm, ?_, fun char => List.mem_takeWhile_imp, ?_, ?_⟩
  · rw [List.takeWhile_cons_of_pos ((agrees first).mpr begins)]
    exact List.cons_ne_nil _ _
  · intro last ends
    apply Bool.eq_false_iff.mpr
    intro inside
    have same := ((agrees last).mp inside).trans begins.symm
    rcases parts last ends first rfl same with delimiter | blank
    · exact joins.1 (begins.symm.trans delimiter)
    · exact joins.2 (begins.symm.trans blank)
  · intro next head
    have stops := List.head?_dropWhile_not kind (first :: rest)
    rw [Option.mem_def.mp head] at stops
    exact stops

/-- A run of foreign characters breaks a text off. -/
theorem tokensFrom_foreign (position : Int) (isRun : IsRun delimiters.isForeign before run after) :
    delimiters.tokensFrom position (run ++ after) =
      .failed ⟨.invalidRun (String.ofList run), some position⟩ := by
  have within : ∀ char ∈ run, delimiters.classify char = .foreign :=
    fun char member => (delimiters.isForeign_iff_classify char).mp (isRun.uniform char member)
  rw [tokensFrom, lexemes_run isRun.nonempty (by decide) within]
  · rfl
  · intro char head foreign
    have ends := isRun.ends char head
    rw [(delimiters.isForeign_iff_classify char).mpr foreign] at ends
    cases ends

end

/-- The tokens of the rest of a text account for it, if no run goes on across the place where
the rest begins. -/
theorem accountsFrom_tokensFrom {before rest : List Char} (written : text = before ++ rest)
    (parts : delimiters.Parts before rest) :
    delimiters.AccountsFrom text before.length (delimiters.tokensFrom before.length rest) := by
  generalize size : rest.length = count
  -- A lexeme takes at least one character off the rest, so the induction is on its length.
  induction count using Nat.strongRecOn generalizing before rest with
  | ind count ih =>
      have behind : ∀ (stretch : List Char) {later : List Char},
          rest = stretch ++ later → stretch ≠ [] →
          delimiters.Parts (before ++ stretch) later →
          delimiters.AccountsFrom text (before.length + stretch.length)
            (delimiters.tokensFrom (before.length + stretch.length) later) := by
        intro stretch later split nonempty partsLater
        have positive := List.length_pos_iff.mpr nonempty
        have shorter : later.length < count := by
          rw [← size, split, List.length_append]
          omega
        have regrouped : text = (before ++ stretch) ++ later := by
          rw [written, split, List.append_assoc]
        rw [← Int.natCast_add, ← List.length_append]
        exact ih later.length shorter regrouped partsLater rfl
      cases rest with
      | nil =>
          rw [written, List.append_nil]
          exact .done (Nat.le_refl _)
      | cons first later =>
          have alone := behind [first] rfl (List.cons_ne_nil _ _)
          cases shape : delimiters.classify first with
          | blank =>
              have found : text[before.length]? = some first := by
                rw [written, List.getElem?_append_right (Nat.le_refl _), Nat.sub_self]
                rfl
              have blank := isBlank_of_classify shape
              rw [tokensFrom_blank _ blank]
              exact .afterBlank found blank (alone (parts_of_single (Or.inr shape)))
          | delimiter =>
              rw [tokensFrom_delimiter _ shape]
              exact .afterToken (.symbol written (contains_of_classify shape)) rfl
                (alone (parts_of_single (Or.inl shape)))
          | digit =>
              have agrees := delimiters.isDigit_iff_classify
              obtain ⟨digits, after, split, isRun⟩ :=
                exists_isRun_of_parts agrees ⟨by decide, by decide⟩ parts shape
              rw [split] at written
              rw [split, tokensFrom_digits _ isRun.nonempty isRun.uniform isRun.ends]
              by_cases long : maxLiteralDigits < digits.length
              · rw [if_pos long]
                exact .failed (.tooLong written isRun long)
              · rw [if_neg long]
                exact .afterToken (.number written isRun (Nat.not_lt.mp long)) rfl
                  (behind digits split isRun.nonempty (parts_of_isRun agrees isRun))
          | foreign =>
              obtain ⟨run, after, split, isRun⟩ := exists_isRun_of_parts
                delimiters.isForeign_iff_classify ⟨by decide, by decide⟩ parts shape
              rw [split] at written
              rw [split, tokensFrom_foreign _ isRun]
              exact .failed (.foreign written isRun)

/-! ## Tokens of a text -/

/-- A stream of tokens accounts for every character of a text. -/
structure Accounts (delimiters : Delimiters) (text : List Char) (stream : TokenStream) :
    Prop where
  increasing : stream.tokens.Pairwise fun first second => first.position < second.position
  /-- The tokens are those that stand before the place where the stream breaks off. -/
  mem_tokens_iff : ∀ token, token ∈ stream.tokens ↔
    (∃ chars, delimiters.Spells text chars token) ∧ stream.Reaches token.position
  /-- Nothing is passed over there but blanks. -/
  covered : ∀ (index : Nat) (char : Char), text[index]? = some char → stream.Reaches index →
    isBlank char = true ∨ ∃ token ∈ stream.tokens, delimiters.Covers text token index
  /-- The stream breaks off if there is a foreign character or a run of too many digits. -/
  breaks_iff : stream.fault?.isSome = true ↔
    (∃ char ∈ text, delimiters.isForeign char = true) ∨
      ∃ before digits after, text = before ++ (digits ++ after) ∧
        IsRun Char.isDigit before digits after ∧ maxLiteralDigits < digits.length
  /-- It breaks off where the text is refused first. -/
  refused : ∀ fault ∈ stream.fault?, ∃ place : Nat, fault.position = some (place : Int) ∧
    delimiters.Refuses text place fault.cause ∧
      ∀ other cause, delimiters.Refuses text other cause → place ≤ other

namespace AccountsFrom

variable {stream : TokenStream}

/-- A stream does not reach beyond a refusal. -/
theorem not_reaches (accounts : delimiters.AccountsFrom text 0 stream) {place : Nat}
    {cause : Cause} (refuses : delimiters.Refuses text place cause) : ¬ stream.Reaches place := by
  intro reaches
  obtain ⟨first, found, noBlank⟩ := refuses.exists_getElem?
  rcases accounts.covered place first (Nat.zero_le _) found reaches with
    blank | ⟨token, _, covers⟩
  · rw [noBlank] at blank
    cases blank
  · exact refuses.not_covers covers

/-- A stream does not reach beyond a foreign character. -/
theorem not_reaches_of_isForeign (accounts : delimiters.AccountsFrom text 0 stream)
    (found : text[index]? = some char) (foreign : delimiters.isForeign char = true) :
    ¬ stream.Reaches index := by
  intro reaches
  rcases accounts.covered index char (Nat.zero_le _) found reaches with blank | ⟨token, _, covers⟩
  · rw [isBlank_eq_false_of_isForeign foreign] at blank
    cases blank
  · rw [covers.isForeign_eq_false found] at foreign
    cases foreign

/-- A token that the stream reaches is delivered. -/
theorem mem_of_reaches (accounts : delimiters.AccountsFrom text 0 stream)
    (spells : delimiters.Spells text chars token) (reaches : stream.Reaches token.position) :
    token ∈ stream.tokens := by
  obtain ⟨place, first, stands, found, noBlank⟩ := spells.exists_getElem?
  rw [stands] at reaches
  rcases accounts.covered _ _ (Nat.zero_le _) found reaches with blank | ⟨other, member, otherCovers⟩
  · rw [noBlank] at blank
    cases blank
  · exact (Covers.of_spells spells stands).eq otherCovers found ▸ member

/-- A stream that accounts for a text from its beginning accounts for the text. -/
theorem accounts (account : delimiters.AccountsFrom text 0 stream) :
    delimiters.Accounts text stream where
  increasing := account.increasing
  mem_tokens_iff token :=
    ⟨fun member => ⟨account.spelled token member, account.reached token member⟩,
      fun ⟨⟨_, spells⟩, reaches⟩ => account.mem_of_reaches spells reaches⟩
  covered index char := account.covered index char (Nat.zero_le _)
  breaks_iff := by
    constructor
    · intro breaks
      obtain ⟨fault, fails⟩ := Option.isSome_iff_exists.mp breaks
      obtain ⟨place, _, _, refuses⟩ := account.refused fault fails
      generalize fault.cause = cause at refuses
      cases refuses with
      | foreign written isRun =>
          obtain ⟨first, found, foreign⟩ := exists_getElem?_of_isRun written isRun
          exact Or.inl ⟨first, List.mem_of_getElem? found, foreign⟩
      | tooLong written isRun long => exact Or.inr ⟨_, _, _, written, isRun, long⟩
    · intro refusal
      -- A stream that is complete reaches every place, also that of the refusal.
      by_contra complete
      rw [Option.not_isSome_iff_eq_none] at complete
      have reaches : ∀ place, stream.Reaches place := by
        intro place fault fails
        rw [complete] at fails
        cases fails
      rcases refusal with ⟨char, member, foreign⟩ | ⟨before, digits, after, written, isRun, long⟩
      · obtain ⟨index, found⟩ := List.mem_iff_getElem?.mp member
        exact account.not_reaches_of_isForeign found foreign (reaches _)
      · exact account.not_reaches (.tooLong written isRun long) (reaches _)
  refused fault fails := by
    obtain ⟨place, _, stands, refuses⟩ := account.refused fault fails
    refine ⟨place, stands, refuses, fun other cause earlier => ?_⟩
    -- An earlier refusal would lie at a place that the stream reaches.
    by_contra before
    refine account.not_reaches earlier fun found foundFails stop placed => ?_
    rw [Option.mem_unique foundFails fails, stands] at placed
    cases placed
    omega

end AccountsFrom

/-- The tokens of a text account for it from its start. -/
theorem accountsFrom_start (delimiters : Delimiters) (text : List Char) :
    delimiters.AccountsFrom text 0 (delimiters.tokensFrom 0 text) :=
  accountsFrom_tokensFrom (List.nil_append text).symm (delimiters.parts_nil text)

theorem accountsFrom_tokenize (delimiters : Delimiters) (text : String) :
    delimiters.AccountsFrom (delimiters.normalize text) 0 (delimiters.tokenize text) :=
  delimiters.accountsFrom_start (delimiters.normalize text)

/-- **Tokens leave nothing out.** The tokens of a text account for every character of it, as it
reads with symbols in place of glyphs.  If they break off, the fault quotes the run of foreign
characters that is to blame, or there are too many digits. -/
theorem tokenize_accounts (delimiters : Delimiters) (text : String) :
    (delimiters.normalize text).length = text.length ∧
      delimiters.Accounts (delimiters.normalize text) (delimiters.tokenize text) ∧
      ∀ fault ∈ (delimiters.tokenize text).fault?, fault.kind = .invalidToken ∧
        ∀ run, fault.cause = .invalidRun run →
          fault.message = "Token inválido: " ++ quote run := by
  have accounts := (delimiters.accountsFrom_tokenize text).accounts
  refine ⟨delimiters.length_normalize text, accounts, fun fault fails => ⟨?_, ?_⟩⟩
  · obtain ⟨place, _, refuses, _⟩ := accounts.refused fault fails
    rw [Fault.kind]
    generalize fault.cause = cause at refuses ⊢
    cases refuses with
    | foreign written isRun => rfl
    | tooLong written isRun long => rfl
  · intro run blamed
    rw [Fault.message, blamed]
    rfl

end Delimiters

end InfixCalculator
