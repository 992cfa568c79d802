import RiddlEditor.Proofs.Diagnostic.Repeated

/-!
# Errors behind what was reported before

Of diagnostics that were reported at the same place with the same words the first one is shown,
with its own severity. How grave the others are is not looked at, so an error is not shown if
something less grave was said before it in the same way.

This cannot happen among the messages of a validation that ran, since its errors come before
its warnings and remarks. But syntax errors come first of all, and they have the severity of
their kind, whatever a compiler chooses. A syntax error that is called a warning hides the error
that repeats it (`error_behind_warning`), and nothing else hides an error
(`errors_are_shown_unless_repeated`).

## Main definitions

* `Finding.Hides`: A message that is shown in place of an error.

## Theorems

* `exists_split_of_mem_dedupe`: What is kept is new where it stands.
* `hasErrors_dedupe_iff`: Which lists have an error when repetitions are left out.
* `errorSeverity_iff`: Which messages are errors.
* `errors_are_shown_unless_repeated`: When a run has errors.
* `error_behind_warning`: An error that is not shown.
-/

namespace RiddlEditor

section Lists

variable {ds : List Diagnostic} {d : Diagnostic}

/-- What is kept of a list is new after what stands in front of it. -/
theorem exists_split_of_mem_dedupe (h : d ∈ dedupe ds) :
    ∃ before behind, ds = before ++ d :: behind ∧ IsNewAfter before d := by
  induction ds with
  | nil => exact absurd h List.not_mem_nil
  | cons first rest ih =>
      rw [dedupe_cons, List.mem_cons, List.mem_filter] at h
      rcases h with rfl | ⟨hrest, hnew⟩
      · exact ⟨[], rest, rfl, isNewAfter_nil d⟩
      · rcases ih hrest with ⟨before, behind, rfl, hbefore⟩
        refine ⟨first :: before, behind, rfl, isNewAfter_cons.mpr ⟨?_, hbefore⟩⟩
        exact of_decide_eq_true hnew first (List.mem_singleton_self first)

/-- A list has an error without its repetitions exactly if it has one that nothing less grave
    with its identity stands in front of. -/
theorem hasErrors_dedupe_iff :
    hasErrors (dedupe ds) = true ↔
      ∃ before d behind, ds = before ++ d :: behind ∧ d.severity = .error ∧
        ∀ e ∈ before, e.identity = d.identity → e.severity = .error := by
  rw [hasErrors, List.any_eq_true]
  constructor
  · rintro ⟨d, hd, hsevere⟩
    rcases exists_split_of_mem_dedupe hd with ⟨before, behind, hsplit, hnew⟩
    exact ⟨before, d, behind, hsplit, of_decide_eq_true hsevere,
      fun e he hsame => absurd hsame (hnew e he)⟩
  · rintro ⟨before, d, behind, rfl, hsevere, hbefore⟩
    -- The first diagnostic with the identity of the error is kept, and it is an error too.
    have hmem : d ∈ before ++ [d] := List.mem_append_right before (List.mem_singleton_self d)
    rcases exists_kept hmem with ⟨e, he, hsame⟩
    have hkept : e ∈ dedupe (before ++ d :: behind) := by
      rw [List.append_cons, dedupe_append]
      exact List.mem_append_left _ he
    refine ⟨e, hkept, decide_eq_true ?_⟩
    rcases List.mem_append.mp ((dedupe_sublist _).subset he) with hin | hin
    · exact hbefore e hin hsame
    · rwa [List.mem_singleton.mp hin]

end Lists

section Findings

variable {lines : Lines} {backoff : Number} {result : ValidateResult}

/-- Whether a message is shown in place of an error that comes after it: it is accepted, it is
    reported like the error, and it is less grave. -/
def Finding.Hides (lines : Lines) (backoff : Number) (g : Finding) (d : Diagnostic) : Prop :=
  ∃ e, g.Shows lines backoff e ∧ e.identity = d.identity ∧ e.severity ≠ .error

/-- Whether a message is meant as an error: it was reported as one by a validation that ran, or
    it keeps the text from being parsed and its kind is that of an error. -/
def Finding.IsError (f : Finding) : Prop :=
  f.2 = .validationError ∨
    f.2 = .syntaxError ∧ ∃ kind, f.1.kind = some (.text kind) ∧ Severity.ofKind kind = .error

theorem shows_iff_toOption {f : Finding} {d : Diagnostic} :
    (reconcile f.1 lines f.2 backoff).toOption = some d ↔ f.Shows lines backoff d := by
  rw [Finding.Shows]
  cases reconcile f.1 lines f.2 backoff <;> simp [Except.toOption]

theorem messageSeverity_syntaxError_iff {kind : Value} {severity : Severity} :
    messageSeverity .syntaxError kind = .ok severity ↔
      ∃ s, kind = .text s ∧ Severity.ofKind s = severity := by
  cases kind <;> simp [messageSeverity, DiagnosticSpec.syntaxError]

/-- The diagnostics that are errors are those of messages that are meant as errors. -/
theorem errorSeverity_iff {f : Finding} (hf : f ∈ result.findings) {d : Diagnostic}
    (hd : f.Shows lines backoff d) : d.severity = .error ↔ f.IsError := by
  rcases (phase_severity_of_shows hd).2 with ⟨v, hv, hseverity⟩
  have hspec := spec_mem_of_mem_findings f hf
  rcases f with ⟨raw, spec⟩
  simp only [messageSpecs, List.mem_cons, List.not_mem_nil, or_false] at hspec
  rw [Finding.IsError]
  rcases hspec with rfl | rfl | rfl | rfl
  · rcases messageSeverity_syntaxError_iff.mp hseverity with ⟨kind, rfl, hof⟩
    simp only at hv
    simp [hv, hof, DiagnosticSpec.syntaxError, DiagnosticSpec.validationError]
  · refine iff_of_true ?_ (Or.inl rfl)
    exact (Except.ok.inj hseverity).symm
  all_goals
    dsimp only
    refine iff_of_false ?_ (not_or.mpr ⟨by decide, fun hparse => absurd hparse.1 (by decide)⟩)
    rw [← Except.ok.inj hseverity]
    decide

/-- The origins of messages that may be errors. -/
def errorSpecs : List DiagnosticSpec :=
  [.syntaxError, .validationError]

theorem Finding.IsError.mem_errorSpecs {f : Finding} (h : f.IsError) : f.2 ∈ errorSpecs := by
  rcases h with hspec | ⟨hspec, -⟩ <;> simp [errorSpecs, hspec]

/-- What may be an error comes before everything else. -/
theorem findings_errors_first (result : ValidateResult) :
    result.findings.Pairwise fun g f => f.2 ∈ errorSpecs → g.2 ∈ errorSpecs := by
  have hsame (raws : List ServiceMessage) (spec : DiagnosticSpec) :
      (raws.map (·, spec)).Pairwise fun g f : Finding => f.2 ∈ errorSpecs → g.2 ∈ errorSpecs :=
    List.pairwise_map.mpr (List.pairwise_of_forall fun _ _ => id)
  -- A list of errors may come first, and a list of anything else last.
  have hfirst {spec : DiagnosticSpec} (hspec : spec ∈ errorSpecs) {raws : List ServiceMessage}
      {g : Finding} (hg : g ∈ raws.map (·, spec)) : g.2 ∈ errorSpecs := by
    rcases List.mem_map.mp hg with ⟨_, _, rfl⟩
    exact hspec
  have hlast {spec : DiagnosticSpec} (hspec : spec ∉ errorSpecs) {raws : List ServiceMessage}
      {f : Finding} (hf : f ∈ raws.map (·, spec)) : f.2 ∉ errorSpecs := by
    rcases List.mem_map.mp hf with ⟨_, _, rfl⟩
    exact hspec
  rcases result with ⟨succeeded, syntaxErrors, _ | messages⟩
  · rw [ValidateResult.findings, List.append_nil]
    exact hsame _ _
  · simp only [ValidateResult.findings, ValidationMessages.findings]
    refine List.pairwise_append.mpr ⟨hsame _ _, ?_, fun g hg f _ _ => hfirst (by decide) hg⟩
    refine List.pairwise_append.mpr ⟨?_, hsame _ _,
      fun g _ f hf hmem => absurd hmem (hlast (by decide) hf)⟩
    exact List.pairwise_append.mpr ⟨hsame _ _, hsame _ _,
      fun g hg f _ _ => hfirst (by decide) hg⟩

/-- What hides an error is a syntax error of another kind. -/
theorem Finding.Hides.of_syntaxError {before behind : List Finding} {f g : Finding}
    {d : Diagnostic} (hsplit : result.findings = before ++ f :: behind)
    (hd : f.Shows lines backoff d) (hsevere : d.severity = .error) (hg : g ∈ before)
    (hhides : g.Hides lines backoff d) :
    g.2 = .syntaxError ∧ ∃ kind, g.1.kind = some (.text kind) ∧ Severity.ofKind kind ≠ .error := by
  have hf : f ∈ result.findings := hsplit ▸ List.mem_append_right _ List.mem_cons_self
  have hgin : g ∈ result.findings := hsplit ▸ List.mem_append_left _ hg
  rcases hhides with ⟨e, he, -, hmild⟩
  have horder := findings_errors_first result
  rw [hsplit, List.pairwise_append] at horder
  have hspec := horder.2.2 g hg f List.mem_cons_self
    ((errorSeverity_iff hf hd).mp hsevere).mem_errorSpecs
  have hnot : ¬g.IsError := fun herror => hmild ((errorSeverity_iff hgin he).mpr herror)
  rcases List.mem_pair.mp hspec with hparse | hvalidation
  · refine ⟨hparse, ?_⟩
    rcases (phase_severity_of_shows he).2 with ⟨v, hv, hseverity⟩
    rw [hparse] at hseverity
    rcases messageSeverity_syntaxError_iff.mp hseverity with ⟨kind, rfl, hof⟩
    exact ⟨kind, hv, hof ▸ hmild⟩
  · exact absurd (Or.inl hvalidation) hnot

/-- A validation has an error exactly if an error is accepted that nothing hides. -/
theorem hasErrors_dedupe_accepted_iff (lines : Lines) (backoff : Number) (fs : List Finding) :
    hasErrors (dedupe (acceptedDiagnostics lines backoff fs)) = true ↔
      ∃ before f behind d, fs = before ++ f :: behind ∧ f.Shows lines backoff d ∧
        d.severity = .error ∧ ∀ g ∈ before, ¬g.Hides lines backoff d := by
  rw [hasErrors_dedupe_iff]
  constructor
  · rintro ⟨pre, d, post, hsplit, hsevere, hpre⟩
    rw [acceptedDiagnostics, List.filterMap_eq_append_iff] at hsplit
    rcases hsplit with ⟨front, rest, rfl, hfront, hrest⟩
    rw [List.filterMap_eq_cons_iff] at hrest
    rcases hrest with ⟨skipped, f, behind, rfl, hskipped, hd, -⟩
    refine ⟨front ++ skipped, f, behind, d, (List.append_assoc _ _ _).symm,
      shows_iff_toOption.mp hd, hsevere, ?_⟩
    rintro g hg ⟨e, he, hsame, hmild⟩
    rcases List.mem_append.mp hg with hg | hg
    · have hmem : e ∈ pre := hfront ▸ mem_acceptedDiagnostics.mpr ⟨g, hg, he⟩
      exact hmild (hpre e hmem hsame)
    · rw [← shows_iff_toOption, hskipped g hg] at he
      exact absurd he (Option.some_ne_none e).symm
  · rintro ⟨before, f, behind, d, rfl, hd, hsevere, hbefore⟩
    refine ⟨acceptedDiagnostics lines backoff before, d, acceptedDiagnostics lines backoff behind,
      ?_, hsevere, fun e he hsame => ?_⟩
    · have hcons : acceptedDiagnostics lines backoff (f :: behind) =
          d :: acceptedDiagnostics lines backoff behind :=
        List.filterMap_cons_some (shows_iff_toOption.mpr hd)
      rw [← hcons]
      exact List.filterMap_append
    · rcases mem_acceptedDiagnostics.mp he with ⟨g, hg, hshows⟩
      by_contra hmild
      exact hbefore g hg ⟨e, hshows, hsame, hmild⟩

end Findings

/-! ## Runs -/

/-- A service that gives an answer without a number that is too large does not seem to fail. -/
theorem runValidation_ne_failed {service : Service} {text origin : Text} {options : Options}
    {result : ValidateResult}
    (h : service.validate text origin options.stripFormatting = .ok result)
    (hnot : ¬result.Overflows (Lines.ofText text) (.whole options.searchBackoff))
    (failure : Failure) : runValidation service text origin options ≠ .failed failure := by
  intro heq
  rw [runValidation_of_ok h hnot] at heq
  have hdiagnostics : dedupe (acceptedDiagnostics (Lines.ofText text)
      (.whole options.searchBackoff) result.findings) = [failureDiagnostic failure] :=
    congrArg ValidationRun.diagnostics heq
  have hmem : failureDiagnostic failure ∈ dedupe (acceptedDiagnostics (Lines.ofText text)
      (.whole options.searchBackoff) result.findings) :=
    hdiagnostics ▸ List.mem_singleton_self _
  exact failureDiagnostic_not_mem spec_mem_of_mem_findings _ _ failure hmem

/-- A run that is not that of a service that fails has errors exactly if an error is accepted
    that no message in front of it hides. Errors are the messages that a validation reports as
    errors, and the syntax errors whose kind is that of an error. Only a syntax error of another
    kind hides an error: it comes before the error, and it was reported at the same line and
    column with the same wording. -/
theorem errors_are_shown_unless_repeated {service : Service} {text origin : Text}
    {options : Options} {result : ValidateResult}
    (h : service.validate text origin options.stripFormatting = .ok result)
    (hrun : ∀ failure, runValidation service text origin options ≠ .failed failure) :
    let lines := Lines.ofText text
    let backoff : Number := .whole options.searchBackoff
    ((runValidation service text origin options).hasErrors = true ↔
      ∃ before f behind d, result.findings = before ++ f :: behind ∧ f.Shows lines backoff d ∧
        d.severity = .error ∧ ∀ g ∈ before, ¬g.Hides lines backoff d) ∧
    (∀ f ∈ result.findings, ∀ d : Diagnostic, f.Shows lines backoff d →
      (d.severity = .error ↔ f.IsError)) ∧
    ∀ before f behind (d : Diagnostic), result.findings = before ++ f :: behind →
      f.Shows lines backoff d → d.severity = .error → ∀ g ∈ before, g.Hides lines backoff d →
        g.2 = .syntaxError ∧ ∃ kind, g.1.kind = some (.text kind) ∧ Severity.ofKind kind ≠ .error := by
  intro lines backoff
  have hnot : ¬result.Overflows lines backoff := fun hoverflows =>
    hrun .overflow (runValidation_of_overflows h hoverflows)
  refine ⟨?_, fun f hf d hd => errorSeverity_iff hf hd,
    fun before f behind d hsplit hd hsevere g hg hhides => hhides.of_syntaxError hsplit hd hsevere hg⟩
  rw [runValidation_of_ok h hnot]
  exact hasErrors_dedupe_accepted_iff lines backoff result.findings

/-! ## What is said twice -/

/-- A message at the start of a text that says nothing in particular. -/
def oddMessage (kind : String) : ServiceMessage :=
  ⟨some (.text kind.toList), .text "odd".toList, some (serviceLocation ⟨0, 0⟩ .null .null [])⟩

/-- The answer of a service that first says something as a syntax error of a kind and then says
    it as an error. -/
def repeatingAnswer (kind : String) : ValidateResult :=
  ⟨true, [oddMessage kind], some ⟨[oddMessage "Error"], [], []⟩⟩

theorem isWhole_repeatingAnswer (kind : String) : (repeatingAnswer kind).IsWhole := by
  intro f hf l hl a ha
  have hmessages : ∃ word, f.1 = oddMessage word := by
    simp only [ValidateResult.findings, ValidationMessages.findings, repeatingAnswer,
      List.map_cons, List.map_nil, List.append_nil, List.mem_append, List.mem_singleton] at hf
    rcases hf with rfl | rfl <;> exact ⟨_, rfl⟩
  rcases hmessages with ⟨word, hword⟩
  rw [hword] at hl
  obtain rfl := Option.some.inj hl
  obtain rfl : a = .whole (0 + 1) := List.mem_singleton.mp ha
  rintro ⟨x, hreal⟩
  exact absurd hreal (by simp)

/-- A service that gives such an answer does not fail. -/
theorem not_failed_repeatingAnswer (kind : String) (text origin : Text) (options : Options)
    (failure : Failure) :
    runValidation (Service.answering (repeatingAnswer kind)) text origin options ≠
      .failed failure :=
  runValidation_ne_failed rfl ((isWhole_repeatingAnswer kind).not_overflows _ _) failure

/-- An error that repeats another error is shown with it. -/
theorem errors_are_shown_once :
    let service := Service.answering (repeatingAnswer "Error")
    let run := runValidation service "type A".toList [] .defaults
    (∀ failure, run ≠ .failed failure) ∧ run.hasErrors = true := by
  intro service run
  have hanswer : service.validate "type A".toList [] Options.defaults.stripFormatting =
      .ok (repeatingAnswer "Error") := rfl
  have hrun := not_failed_repeatingAnswer "Error" "type A".toList [] .defaults
  refine ⟨hrun, (errors_are_shown_unless_repeated hanswer hrun).1.mpr ?_⟩
  have hplaced : (oddMessage "Error").Placed (Lines.ofText "type A".toList) ⟨0, 0⟩ "odd".toList :=
    .mk (by decide +kernel) wholeOffsets_null
  rcases reconcile_of_placed hplaced .syntaxError 8 with ⟨d, hd, -⟩
  have hshows : Finding.Shows (Lines.ofText "type A".toList) (.whole 8)
      (oddMessage "Error", .syntaxError) d := hd
  refine ⟨[], (oddMessage "Error", .syntaxError), _, d, rfl, hshows, ?_, by simp⟩
  have hmem : (oddMessage "Error", DiagnosticSpec.syntaxError) ∈
    (repeatingAnswer "Error").findings := List.mem_cons_self
  exact (errorSeverity_iff hmem hshows).mpr (Or.inr ⟨rfl, "Error".toList, rfl, by decide⟩)

/-- An error that a warning stands in front of is accepted, but nothing is shown as an error. -/
theorem error_behind_warning :
    let result := repeatingAnswer "Warning"
    let service := Service.answering result
    let run := runValidation service "type A".toList [] .defaults
    (∀ failure, run ≠ .failed failure) ∧
      (∃ f ∈ result.findings, ∃ d : Diagnostic,
        f.Shows (Lines.ofText "type A".toList) (.whole 8) d ∧ f.2 = .validationError ∧
          d.severity = .error) ∧
      run.hasErrors = false := by
  intro result service run
  refine ⟨not_failed_repeatingAnswer "Warning" "type A".toList [] .defaults, ?_, by decide +kernel⟩
  have hplaced : (oddMessage "Error").Placed (Lines.ofText "type A".toList) ⟨0, 0⟩ "odd".toList :=
    .mk (by decide +kernel) wholeOffsets_null
  rcases reconcile_of_placed hplaced .validationError 8 with ⟨d, hd, -⟩
  have hshows : Finding.Shows (Lines.ofText "type A".toList) (.whole 8)
      (oddMessage "Error", .validationError) d := hd
  have hmem : (oddMessage "Error", DiagnosticSpec.validationError) ∈ result.findings := by
    simp [result, repeatingAnswer, ValidateResult.findings, ValidationMessages.findings]
  exact ⟨_, hmem, d, hshows, rfl, (errorSeverity_iff hmem hshows).mpr (Or.inl rfl)⟩

end RiddlEditor
