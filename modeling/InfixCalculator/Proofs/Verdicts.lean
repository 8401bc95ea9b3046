import Mathlib.Data.List.Forall2
import InfixCalculator.Proofs.Descent
import InfixCalculator.Proofs.Expression.Printing
import InfixCalculator.Regression

/-!
# The verdict of the regression checks

A case holds if its expression ends in what the case expects: in the text of a value or a fault of
a given name (`Regression.ValueCase.Holds`), or in a fault whose class is an expected one or
descends from one (`Regression.FailureCase.Holds`).  A calculator without a state of its own passes
the checks for stability whatever the cases are (`Regression.run_checkStability`), so the exit code
tells exactly whether all cases hold.

What a report says of the cases (`Regression.Report.Judges`) is kept apart from how it is printed
(`Regression.Report.Prints`).  The first depends on the calculator; the second holds of any findings
(`Regression.Findings.prints_report`).
-/

namespace InfixCalculator

/-- A text of more digits than a literal may have is refused. -/
theorem Evaluator.calculate_of_long {chars : List Char}
    (digits : ∀ char ∈ chars, char.isDigit = true) (long : maxLiteralDigits < chars.length) :
    standard.calculate (String.ofList chars) = .error ⟨.literalTooLong, some 0⟩ := by
  have nonempty : chars ≠ [] := List.ne_nil_of_length_pos (Nat.zero_lt_of_lt long)
  have read : chars.map Delimiters.standard.reading = chars :=
    Delimiters.map_reading_eq_self fun char member =>
      Delimiters.reading_of_isDigit (digits char member)
  have breaks : Delimiters.standard.tokenize (String.ofList chars) =
      .failed ⟨.literalTooLong, some 0⟩ := by
    have stream := Delimiters.standard.tokensFrom_digits 0 nonempty digits Delimiters.endsDigits_nil
    rw [if_pos long, List.append_nil] at stream
    rw [Delimiters.tokenize_eq, Delimiters.normalize, String.toList_ofList, read, stream]
  change ((standard.runStream (Delimiters.standard.tokenize _)).outcome.map _) = _
  rw [breaks]
  rfl

namespace Regression

/-! ## Cases -/

/-- What is seen of an evaluation: the text of its value or the name of its fault. -/
inductive Shows (calculator : String → Except Fault String) (expression : String) : String → Prop
  | value {text : String} (ends : calculator expression = .ok text) :
      Shows calculator expression text
  | fault {fault : Fault} (ends : calculator expression = .error fault) :
      Shows calculator expression fault.kind.name

/-- A case with a value holds if its expression shows what is expected. -/
def ValueCase.Holds (calculator : String → Except Fault String) (valueCase : ValueCase) : Prop :=
  Shows calculator valueCase.expression valueCase.expected

/-- The classes of which a failure has to be one. -/
def Expectation.classes : Expectation → List FailureClass
  | single failureClass => [failureClass]
  | anyOf failureClasses => failureClasses

/-- The expression ends in a fault of an expected class. -/
def FailureCase.Holds (calculator : String → Except Fault String)
    (failureCase : FailureCase) : Prop :=
  ∃ fault, calculator failureCase.expression = .error fault ∧
    ∃ failureClass ∈ failureCase.expected.classes,
      (FailureClass.calculator fault.kind).Specialises failureClass

variable {calculator : String → Except Fault String} {expression shown : String}

theorem run_outcome_of_ok {text : String} (ends : calculator expression = .ok text) :
    (outcome (m := Id) calculator expression).run = text := by
  rw [outcome, ends]
  rfl

theorem run_outcome_of_error {fault : Fault} (ends : calculator expression = .error fault) :
    (outcome (m := Id) calculator expression).run = fault.kind.name := by
  rw [outcome, ends]
  rfl

/-- Every expression shows its outcome. -/
theorem shows_outcome (calculator : String → Except Fault String) (expression : String) :
    Shows calculator expression (outcome (m := Id) calculator expression).run := by
  cases ends : calculator expression with
  | ok text =>
      rw [run_outcome_of_ok ends]
      exact .value ends
  | error fault =>
      rw [run_outcome_of_error ends]
      exact .fault ends

/-- An expression shows one thing only. -/
theorem Shows.unique {other : String} (first : Shows calculator expression shown)
    (second : Shows calculator expression other) : shown = other := by
  cases first with
  | value ends =>
      cases second with
      | value again => exact Except.ok.inj (ends.symm.trans again)
      | fault again => cases ends.symm.trans again
  | fault ends =>
      cases second with
      | value again => cases ends.symm.trans again
      | fault again => rw [Except.error.inj (ends.symm.trans again)]

/-- What an expression shows is its outcome and nothing else. -/
theorem shows_iff :
    Shows calculator expression shown ↔
      (outcome (m := Id) calculator expression).run = shown := by
  constructor
  · exact (shows_outcome calculator expression).unique
  · rintro rfl
    exact shows_outcome calculator expression

instance (valueCase : ValueCase) : Decidable (valueCase.Holds calculator) :=
  decidable_of_iff _ shows_iff.symm

/-- A case fails if something else than the expected text is seen. -/
theorem ValueCase.not_holds_iff {valueCase : ValueCase} :
    ¬ valueCase.Holds calculator ↔
      ∃ shown, Shows calculator valueCase.expression shown ∧ shown ≠ valueCase.expected := by
  constructor
  · intro fails
    refine ⟨_, shows_outcome calculator valueCase.expression, fun same => fails ?_⟩
    exact shows_iff.mpr same
  · rintro ⟨shown, shows, differs⟩ holds
    exact differs (shows.unique holds)

/-- No failure is one of no classes. -/
theorem FailureCase.not_holds_of_none {failureCase : FailureCase}
    (none : failureCase.expected = .anyOf []) : ¬ failureCase.Holds calculator := by
  rintro ⟨fault, _, failureClass, member, _⟩
  rw [none] at member
  cases member

/-- A fault is admitted exactly if its class descends from one that is expected. -/
theorem Expectation.admits_iff {expectation : Expectation} {fault : Fault} :
    expectation.admits fault = true ↔
      ∃ failureClass ∈ expectation.classes,
        (FailureClass.calculator fault.kind).Specialises failureClass := by
  simp only [← FailureClass.isA_iff]
  cases expectation with
  | single failureClass => simp [admits, classes]
  | anyOf failureClasses => simp [admits, classes]

/-! ## Checks of a calculator without a state -/

/-- A comparison agrees exactly if its case holds. -/
theorem agrees_compare_iff {valueCase : ValueCase} :
    (compare (m := Id) calculator valueCase).run.agrees = true ↔ valueCase.Holds calculator := by
  rw [ValueCase.Holds, shows_iff]
  exact beq_iff_eq

/-- The label of the check for a failure. -/
def FailureCase.label (failureCase : FailureCase) : String :=
  excerpt failureCase.expression ++ " raises " ++ failureCase.expected.title

/-- An expression that has a value does not pass as a failure. -/
theorem run_checkFailure_of_ok {failureCase : FailureCase} {text : String}
    (ends : calculator failureCase.expression = .ok text) :
    (checkFailure (m := Id) calculator failureCase).run = ⟨failureCase.label, false⟩ := by
  rw [checkFailure, ends]
  rfl

/-- An expression that fails passes if its fault is admitted. -/
theorem run_checkFailure_of_error {failureCase : FailureCase} {fault : Fault}
    (ends : calculator failureCase.expression = .error fault) :
    (checkFailure (m := Id) calculator failureCase).run =
      ⟨failureCase.label, failureCase.expected.admits fault⟩ := by
  rw [checkFailure, ends]
  rfl

theorem name_checkFailure (failureCase : FailureCase) :
    (checkFailure (m := Id) calculator failureCase).run.name = failureCase.label := by
  cases ends : calculator failureCase.expression with
  | ok text => rw [run_checkFailure_of_ok ends]
  | error fault => rw [run_checkFailure_of_error ends]

/-- A check of a failure passes exactly if its case holds. -/
theorem passed_checkFailure_iff {failureCase : FailureCase} :
    (checkFailure (m := Id) calculator failureCase).run.passed = true ↔
      failureCase.Holds calculator := by
  cases ends : calculator failureCase.expression with
  | ok text => simp [run_checkFailure_of_ok ends, FailureCase.Holds, ends]
  | error fault =>
      simp [run_checkFailure_of_error ends, FailureCase.Holds, ends, Expectation.admits_iff]

instance (failureCase : FailureCase) : Decidable (failureCase.Holds calculator) :=
  decidable_of_iff _ passed_checkFailure_iff

/-- What keeps no state is stable. -/
theorem run_checkStability (calculator : String → Except Fault String) :
    (checkStability (m := Id) calculator).run =
      [⟨"repeated evaluation is stable", true⟩,
        ⟨"failed evaluation leaves no state behind", true⟩] := by
  simp [checkStability]

/-- The examination makes one comparison or check for each case, and the checks of stability pass.
-/
theorem run_examine (calculator : String → Except Fault String) (valueCases : List ValueCase)
    (failureCases : List FailureCase) :
    (examine (m := Id) calculator valueCases failureCases).run =
      ⟨valueCases.map fun valueCase => (compare (m := Id) calculator valueCase).run,
        failureCases.map fun failureCase => (checkFailure (m := Id) calculator failureCase).run,
        (checkStability (m := Id) calculator).run⟩ := by
  simp [examine]

/-! ## Reports -/

/-- What a report says of a check. -/
structure Entry where
  label : String
  status : String

/-- What a report says of the result of an expression. -/
structure Contrast where
  expression : String
  expected : String
  actual : String
  status : String

/-- The status of a check for something. -/
inductive Status (holds : Prop) : String → Prop
  | ok (so : holds) : Status holds "OK"
  | fail (otherwise : ¬ holds) : Status holds "FAIL"

def Entry.line (entry : Entry) : String :=
  entry.label ++ ": " ++ entry.status

def Contrast.lines (contrast : Contrast) : List String :=
  ["- " ++ contrast.expression ++ ": " ++ contrast.status,
    "  expected: " ++ contrast.expected,
    "  actual:   " ++ contrast.actual]

/-- What is said of each check, in the order of the checks, and of each result. -/
structure Report where
  valueEntries : List Entry
  failureEntries : List Entry
  stabilityEntries : List Entry
  contrasts : List Contrast

namespace Report

/-- All entries in the order in which they are printed. -/
def entries (report : Report) : List Entry :=
  report.valueEntries ++ report.failureEntries ++ report.stabilityEntries

/-- The labels of the checks that failed, in the order of the checks. -/
def failedLabels (report : Report) : List String :=
  (report.entries.filter fun entry => entry.status = "FAIL").map Entry.label

/-- What a report prints before and with its closing lines. -/
def text (report : Report) (closing : List String) : String :=
  CommandLine.unlines (report.entries.map Entry.line ++ ["", "Expected vs Actual:"] ++
    report.contrasts.flatMap Contrast.lines ++ closing)

/-- A program's result is the report in print, and the exit code goes with its end. -/
inductive Prints (report : Report) : ProgramResult → Prop
  | passed (all : ∀ entry ∈ report.entries, entry.status = "OK") :
      report.Prints ⟨0, report.text ["", "All regression checks passed."], ""⟩
  | failed {entry : Entry} (member : entry ∈ report.entries) (fails : entry.status = "FAIL") :
      report.Prints ⟨1, report.text ("" :: "FAILED CHECKS:" :: report.failedLabels.map ("- " ++ ·)),
        ""⟩

/-- What a report says of cases: every case has one entry, whose status tells whether it holds, and
every case with a value is set against what the calculator shows, with the same status. -/
structure Judges (report : Report) (calculator : String → Except Fault String)
    (valueCases : List ValueCase) (failureCases : List FailureCase) : Prop where
  values : List.Forall₂ (fun valueCase entry =>
      entry.label = valueCase.expression ++ " evaluates to " ++ valueCase.expected ∧
        Status (valueCase.Holds calculator) entry.status)
    valueCases report.valueEntries
  failures : List.Forall₂ (fun failureCase entry =>
      entry.label = failureCase.label ∧ Status (failureCase.Holds calculator) entry.status)
    failureCases report.failureEntries
  stability : report.stabilityEntries =
    [⟨"repeated evaluation is stable", "OK"⟩, ⟨"failed evaluation leaves no state behind", "OK"⟩]
  contrasts : List.Forall₂ (fun valueCase contrast =>
      contrast.expression = valueCase.expression ∧ contrast.expected = valueCase.expected ∧
        Shows calculator valueCase.expression contrast.actual)
    valueCases report.contrasts
  statuses : report.contrasts.map Contrast.status = report.valueEntries.map Entry.status

end Report

/-- A status tells that something holds by "OK". -/
theorem Status.ok_iff {holds : Prop} {status : String} (tells : Status holds status) :
    status = "OK" ↔ holds := by
  cases tells with
  | ok so => simp [so]
  | fail otherwise => simp [otherwise]

/-- A status tells that something does not hold by "FAIL". -/
theorem Status.fail_iff {holds : Prop} {status : String} (tells : Status holds status) :
    status = "FAIL" ↔ ¬ holds := by
  cases tells with
  | ok so => simp [so]
  | fail otherwise => simp [otherwise]

/-- Of entries on some items, one fails exactly if something does not hold of one of the items. -/
theorem exists_fail_iff {α : Type} {items : List α} {entries : List Entry} {holds : α → Prop}
    {names : α → Entry → Prop}
    (tells : List.Forall₂ (fun item entry => names item entry ∧ Status (holds item) entry.status)
      items entries) :
    (∃ entry ∈ entries, entry.status = "FAIL") ↔ ∃ item ∈ items, ¬ holds item := by
  induction tells with
  | nil => simp
  | cons first _ ih => simp [first.2.fail_iff, ih]

namespace Report

variable {report : Report} {valueCases : List ValueCase} {failureCases : List FailureCase}

/-- A report that judges the cases has a failed entry exactly if some case does not hold. -/
theorem Judges.exists_fail_iff (judges : report.Judges calculator valueCases failureCases) :
    (∃ entry ∈ report.entries, entry.status = "FAIL") ↔
      (∃ valueCase ∈ valueCases, ¬ valueCase.Holds calculator) ∨
        ∃ failureCase ∈ failureCases, ¬ failureCase.Holds calculator := by
  rw [← Regression.exists_fail_iff judges.values, ← Regression.exists_fail_iff judges.failures]
  simp [entries, judges.stability, or_and_right, exists_or]

/-- The exit code is that of a failure exactly if some entry failed. -/
theorem Prints.exitCode_eq_one_iff {result : ProgramResult} (prints : report.Prints result) :
    result.exitCode = 1 ↔ ∃ entry ∈ report.entries, entry.status = "FAIL" := by
  cases prints with
  | passed all =>
      simp only [Nat.zero_ne_one, false_iff, not_exists, not_and]
      intro entry member fails
      exact absurd ((all entry member).symm.trans fails) (by decide)
  | failed member fails => exact iff_of_true rfl ⟨_, member, fails⟩

theorem text_eq_append (report : Report) (closing : List String) :
    report.text closing = report.text [] ++ CommandLine.unlines closing := by
  rw [text, text, List.append_nil, CommandLine.unlines, List.map_append, String.join_append]
  rfl

/-- Checks that do not fail end with the note that they passed. -/
theorem Prints.exitCode_cases {result : ProgramResult} (prints : report.Prints result) :
    result.exitCode = 1 ∨ result.exitCode = 0 ∧ ∃ before,
      result.output = before ++ "\nAll regression checks passed.\n" := by
  cases prints with
  | passed all =>
      exact Or.inr ⟨rfl, _, report.text_eq_append _⟩
  | failed member fails => exact Or.inl rfl

end Report

/-! ## Findings in print -/

/-- A check as a report shows it. -/
def Check.entry (check : Check) : Entry :=
  ⟨check.name, Findings.verdict check.passed⟩

/-- A comparison as a report shows it. -/
def Comparison.contrast (comparison : Comparison) : Contrast :=
  ⟨comparison.expression, comparison.expected, comparison.actual,
    Findings.verdict comparison.agrees⟩

/-- The printed verdict on a check tells whether it passed. -/
theorem Status.of_verdict {holds : Prop} {passed : Bool} (same : passed = true ↔ holds) :
    Status holds (Findings.verdict passed) := by
  cases passed with
  | true => exact .ok (same.mp rfl)
  | false => exact .fail fun so => Bool.false_ne_true (same.mpr so)

theorem Check.status_entry (check : Check) : Status (check.passed = true) check.entry.status :=
  .of_verdict Iff.rfl

namespace Findings

variable (findings : Findings)

/-- The findings as a report shows them. -/
def report : Report where
  valueEntries := findings.comparisons.map fun comparison => comparison.check.entry
  failureEntries := findings.failureChecks.map Check.entry
  stabilityEntries := findings.stabilityChecks.map Check.entry
  contrasts := findings.comparisons.map Comparison.contrast

/-- The entries of a report are those of the checks. -/
theorem entries_report : findings.report.entries = findings.checks.map Check.entry := by
  simp [Report.entries, report, checks, Function.comp_def]

/-- The failed labels of a report are the names of the failed checks. -/
theorem failedLabels_report : findings.report.failedLabels = findings.failedNames := by
  have fails : (fun entry : Entry => decide (entry.status = "FAIL")) ∘ Check.entry =
      fun check => !check.passed := by
    funext check
    simp [check.status_entry.fail_iff]
  rw [Report.failedLabels, entries_report, List.filter_map, fails, List.map_map]
  rfl

/-- No name is listed as failed exactly if every check passed. -/
theorem failedNames_eq_nil_iff :
    findings.failedNames = [] ↔ ∀ check ∈ findings.checks, check.passed = true := by
  simp [failedNames]

/-- A report prints the lines of the checks and then the comparisons. -/
theorem text_report (closing : List String) :
    findings.report.text closing =
      CommandLine.unlines (findings.checks.map checkLine ++ ["", "Expected vs Actual:"] ++
        findings.comparisons.flatMap comparisonLines ++ closing) := by
  rw [Report.text, entries_report, List.map_map, report, List.flatMap_map]
  rfl

/-- Any findings are printed as they are reported. -/
theorem prints_report : findings.report.Prints findings.result := by
  by_cases none : findings.failedNames = []
  · have printed : findings.result =
        ⟨0, findings.report.text ["", "All regression checks passed."], ""⟩ := by
      simp [result, lines, closingLines, none, text_report]
    rw [printed]
    apply Report.Prints.passed
    intro entry member
    rw [entries_report] at member
    obtain ⟨check, checked, rfl⟩ := List.mem_map.mp member
    exact check.status_entry.ok_iff.mpr (findings.failedNames_eq_nil_iff.mp none check checked)
  · have printed : findings.result = ⟨1, findings.report.text
        ("" :: "FAILED CHECKS:" :: findings.report.failedLabels.map ("- " ++ ·)), ""⟩ := by
      simp [result, lines, closingLines, none, text_report, failedLabels_report]
    have some : ∃ check ∈ findings.checks, ¬ check.passed = true := by
      simpa [failedNames_eq_nil_iff] using none
    obtain ⟨check, checked, fails⟩ := some
    rw [printed]
    apply Report.Prints.failed
    · rw [entries_report]
      exact List.mem_map_of_mem checked
    · exact check.status_entry.fail_iff.mpr fails

end Findings

/-- What relates everything to its image relates a list to the list of the images. -/
theorem forall₂_map_of_forall {α β : Type} {relates : α → β → Prop} {image : α → β}
    (related : ∀ element, relates element (image element)) (list : List α) :
    List.Forall₂ relates list (list.map image) :=
  List.forall₂_map_right_iff.mpr (List.forall₂_same.mpr fun element _ => related element)

/-- The report of an examination has one entry for each case and those of stability. -/
theorem report_examine (calculator : String → Except Fault String) (valueCases : List ValueCase)
    (failureCases : List FailureCase) :
    (examine (m := Id) calculator valueCases failureCases).run.report =
      ⟨valueCases.map fun valueCase => (compare (m := Id) calculator valueCase).run.check.entry,
        failureCases.map fun failureCase =>
          (checkFailure (m := Id) calculator failureCase).run.entry,
        [⟨"repeated evaluation is stable", "OK"⟩,
          ⟨"failed evaluation leaves no state behind", "OK"⟩],
        valueCases.map fun valueCase => (compare (m := Id) calculator valueCase).run.contrast⟩ := by
  rw [run_examine, run_checkStability]
  simp only [Findings.report, List.map_map]
  rfl

/-- The report of an examination judges the cases that were examined. -/
theorem judges_report (calculator : String → Except Fault String) (valueCases : List ValueCase)
    (failureCases : List FailureCase) :
    (examine (m := Id) calculator valueCases failureCases).run.report.Judges calculator valueCases
      failureCases := by
  rw [report_examine]
  constructor
  case values =>
    apply forall₂_map_of_forall
    intro valueCase
    exact ⟨rfl, .of_verdict agrees_compare_iff⟩
  case failures =>
    apply forall₂_map_of_forall
    intro failureCase
    exact ⟨name_checkFailure failureCase, .of_verdict passed_checkFailure_iff⟩
  case stability => rfl
  case contrasts =>
    apply forall₂_map_of_forall
    intro valueCase
    exact ⟨rfl, rfl, shows_outcome calculator valueCase.expression⟩
  case statuses =>
    simp only [List.map_map]
    rfl

/-! ## The cases of the program itself -/

/-- The calculator's own cases with a value hold. -/
theorem holds_of_mem_valueCases :
    ∀ valueCase ∈ valueCases, valueCase.Holds Evaluator.standard.calculate := by
  decide +kernel

/-- The calculator's own cases with a failure hold. -/
theorem holds_of_mem_failureCases :
    ∀ failureCase ∈ failureCases, failureCase.Holds Evaluator.standard.calculate := by
  have short : ∀ failureCase ∈ failureCases.take 9,
      failureCase.Holds Evaluator.standard.calculate := by decide +kernel
  -- The last expression has too many digits to be evaluated by a proof.
  have long : Evaluator.standard.calculate (String.ofList (List.replicate 5000 '1')) =
      .error ⟨.literalTooLong, some 0⟩ := by
    apply Evaluator.calculate_of_long
    · intro char member
      rw [List.eq_of_mem_replicate member]
      rfl
    · rw [List.length_replicate]
      decide
  intro failureCase member
  rw [← List.take_append_drop 9 failureCases] at member
  rcases List.mem_append.mp member with early | late
  · exact short failureCase early
  · rw [List.mem_singleton.mp late]
    exact ⟨_, long, _, List.mem_cons_self, .refl⟩

/-! ## Runs -/

/-- **The regression checks pass exactly if all cases hold.** They end with 1 exactly if something
else than the expected text is seen of an expression or an expression does not end in a fault of an
expected class, which it cannot do if no class is expected; otherwise they end with 0 and the note
that all checks passed.  Their report judges every case once, by its status, finds the calculator
stable whatever the cases are, and sets the results against what is expected with the same statuses;
it closes with the labels of exactly the checks that failed. -/
theorem run_judges (valueCases : List ValueCase) (failureCases : List FailureCase) :
    ((run valueCases failureCases).exitCode = 1 ↔
        (∃ valueCase ∈ valueCases, ∃ shown,
          Shows Evaluator.standard.calculate valueCase.expression shown ∧
            shown ≠ valueCase.expected) ∨
        ∃ failureCase ∈ failureCases, ¬ failureCase.Holds Evaluator.standard.calculate) ∧
      ((run valueCases failureCases).exitCode = 1 ∨
        (run valueCases failureCases).exitCode = 0 ∧ ∃ before,
          (run valueCases failureCases).output =
            before ++ "\nAll regression checks passed.\n") ∧
      ((∃ failureCase ∈ failureCases, failureCase.expected = .anyOf []) →
        (run valueCases failureCases).exitCode = 1) ∧
      ∃ report : Report,
        report.Judges Evaluator.standard.calculate valueCases failureCases ∧
          report.Prints (run valueCases failureCases) := by
  have judges := judges_report Evaluator.standard.calculate valueCases failureCases
  have prints : Report.Prints _ (run valueCases failureCases) := Findings.prints_report _
  have exits := prints.exitCode_eq_one_iff.trans judges.exists_fail_iff
  refine ⟨?_, prints.exitCode_cases, ?_, _, judges, prints⟩
  · simp only [← ValueCase.not_holds_iff]
    exact exits
  · rintro ⟨failureCase, member, none⟩
    exact exits.mpr (Or.inr ⟨failureCase, member, failureCase.not_holds_of_none none⟩)

/-- All the cases of the program itself hold, and one more that expects no class of failures makes
its checks fail. -/
theorem run_judges_ownCases :
    (∀ valueCase ∈ valueCases, valueCase.Holds Evaluator.standard.calculate) ∧
      (∀ failureCase ∈ failureCases, failureCase.Holds Evaluator.standard.calculate) ∧
      (run valueCases failureCases).exitCode = 0 ∧
      (∃ before, (run valueCases failureCases).output =
        before ++ "\nAll regression checks passed.\n") ∧
      (∃ failureCase ∈ ⟨"1+", .anyOf []⟩ :: failureCases, failureCase.expected = .anyOf []) ∧
      (run valueCases (⟨"1+", .anyOf []⟩ :: failureCases)).exitCode = 1 := by
  obtain ⟨exits, ends, -⟩ := run_judges valueCases failureCases
  have passes : (run valueCases failureCases).exitCode ≠ 1 := by
    intro fails
    rcases exits.mp fails with ⟨valueCase, member, differs⟩ | ⟨failureCase, member, fails⟩
    · exact ValueCase.not_holds_iff.mpr differs (holds_of_mem_valueCases valueCase member)
    · exact fails (holds_of_mem_failureCases failureCase member)
  obtain ⟨exitCode, output⟩ := ends.resolve_left passes
  have none : ∃ failureCase ∈ ⟨"1+", .anyOf []⟩ :: failureCases,
      failureCase.expected = .anyOf [] := ⟨_, List.mem_cons_self, rfl⟩
  exact ⟨holds_of_mem_valueCases, holds_of_mem_failureCases, exitCode, output, none,
    (run_judges valueCases _).2.2.1 none⟩

end Regression

end InfixCalculator
