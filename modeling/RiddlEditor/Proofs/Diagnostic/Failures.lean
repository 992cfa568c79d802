import RiddlEditor.Proofs.Diagnostic.Overflow
import RiddlEditor.Query

/-!
# What becomes of the messages of an answer

The messages of an answer that cannot be placed in the text are left out on their own, and the
others become diagnostics in the order of the answer, each of them once.

What is not contained is a number that is too large to be calculated with. Nothing is in place
for it where messages are left out, so it reaches the place where failures of the service
arrive: one such message takes all others with it, and the run looks as if the service had
failed.

## Main definitions

* `acceptedDiagnostics`: The diagnostics of the messages that are accepted.
* `BatchOutcome`: What becomes of the messages of several origins.
* `ValidateResult.Overflows`: An answer with a number that is too large.
* `ValidationRun.failed`: A run whose only diagnostic is a failure.
* `Service.answering`: A service that gives the same answer for every text.

## Theorems

* `outcome_reconcileAll`, `outcome_collectResult`: What becomes of a batch and of an answer.
* `runValidation_of_ok`, `runValidation_of_overflows`: The run of an answer.
* `failureDiagnostic_not_mem`: No message looks like a failure.
-/

namespace RiddlEditor

/-! ## Batches -/

section Batches

variable {lines : Lines} {backoff : Number} {f : Finding} {fs gs : List Finding}

/-- Whether a message becomes a diagnostic. -/
def Finding.isAccepted (lines : Lines) (backoff : Number) (f : Finding) : Bool :=
  (reconcile f.1 lines f.2 backoff).isOk

/-- What a message adds to its batch: its diagnostic if it is accepted, and a failure if it is
    not foreseen that it is refused. -/
def Finding.contribution (lines : Lines) (backoff : Number) (f : Finding) :
    Except Failure (List Diagnostic) :=
  match reconcile f.1 lines f.2 backoff with
  | .ok d => .ok [d]
  | .error e => if e.isForeseen then .ok [] else .error .overflow

/-- The diagnostics of the messages that are accepted, in order. -/
def acceptedDiagnostics (lines : Lines) (backoff : Number) (fs : List Finding) : List Diagnostic :=
  fs.filterMap fun f => (reconcile f.1 lines f.2 backoff).toOption

/-- What becomes of messages: the diagnostics of those that are accepted, unless one of them
    has a number that is too large. -/
inductive BatchOutcome (lines : Lines) (backoff : Number) (fs : List Finding) :
    Except Failure (List Diagnostic) → Prop where
  | diagnostics (h : ∀ f ∈ fs, ¬f.Overflows lines backoff) :
      BatchOutcome lines backoff fs (.ok (acceptedDiagnostics lines backoff fs))
  | failure (h : ∃ f ∈ fs, f.Overflows lines backoff) :
      BatchOutcome lines backoff fs (.error .overflow)

theorem BatchOutcome.eq_ok {x : Except Failure (List Diagnostic)}
    (h : BatchOutcome lines backoff fs x) (hnot : ¬∃ f ∈ fs, f.Overflows lines backoff) :
    x = .ok (acceptedDiagnostics lines backoff fs) := by
  cases h with
  | diagnostics _ => rfl
  | failure h => exact absurd h hnot

theorem BatchOutcome.eq_error {x : Except Failure (List Diagnostic)}
    (h : BatchOutcome lines backoff fs x) (hoverflows : ∃ f ∈ fs, f.Overflows lines backoff) :
    x = .error .overflow := by
  cases h with
  | diagnostics h =>
      rcases hoverflows with ⟨f, hf, hoverflows⟩
      exact absurd hoverflows (h f hf)
  | failure _ => rfl

theorem eq_overflow_of_not_isForeseen {e : ReconcileError} (h : ¬e.isForeseen = true) :
    e = .overflow := by
  cases e with
  | overflow => rfl
  | _ => exact absurd rfl h

/-- What becomes of messages, one list behind the other. -/
theorem BatchOutcome.append {x y : Except Failure (List Diagnostic)}
    (h : BatchOutcome lines backoff fs x) (h' : BatchOutcome lines backoff gs y) :
    BatchOutcome lines backoff (fs ++ gs) (do return (← x) ++ (← y)) := by
  cases h with
  | failure h =>
      rcases h with ⟨f, hf, hoverflows⟩
      exact .failure ⟨f, List.mem_append_left gs hf, hoverflows⟩
  | diagnostics h =>
      cases h' with
      | failure h' =>
          rcases h' with ⟨f, hf, hoverflows⟩
          exact .failure ⟨f, List.mem_append_right fs hf, hoverflows⟩
      | diagnostics h' =>
          have hboth : acceptedDiagnostics lines backoff fs ++
              acceptedDiagnostics lines backoff gs =
                acceptedDiagnostics lines backoff (fs ++ gs) := List.filterMap_append.symm
          simp only [pure, Except.pure, bind, Except.bind, hboth]
          refine .diagnostics fun f hf => ?_
          exact (List.mem_append.mp hf).elim (h f) (h' f)

/-- What becomes of one message. -/
theorem outcome_contribution (lines : Lines) (backoff : Number) (f : Finding) :
    BatchOutcome lines backoff [f] (f.contribution lines backoff) := by
  have hsingle {result : Except ReconcileError Diagnostic}
      (hresult : reconcile f.1 lines f.2 backoff = result) (hne : result ≠ .error .overflow) :
      BatchOutcome lines backoff [f] (.ok result.toOption.toList) := by
    have haccepted : result.toOption.toList = acceptedDiagnostics lines backoff [f] := by
      rw [acceptedDiagnostics, List.filterMap_cons, hresult]
      cases result <;> rfl
    rw [haccepted]
    refine .diagnostics fun g hg => ?_
    obtain rfl := List.mem_singleton.mp hg
    exact fun hoverflows => hne (hresult.symm.trans hoverflows)
  rw [Finding.contribution]
  rcases hresult : reconcile f.1 lines f.2 backoff with e | d
  · by_cases hforeseen : e.isForeseen = true
    · simp only [if_pos hforeseen]
      refine hsingle hresult fun heq => ?_
      obtain rfl := Except.error.inj heq
      exact Bool.false_ne_true hforeseen
    · obtain rfl := eq_overflow_of_not_isForeseen hforeseen
      exact .failure ⟨f, List.mem_singleton_self f, hresult⟩
  · exact hsingle hresult fun heq => nomatch heq

/-- A batch is what its first message adds, and then the rest. -/
theorem reconcileAll_cons (raw : ServiceMessage) (rest : List ServiceMessage) (lines : Lines)
    (spec : DiagnosticSpec) (backoff : Number) :
    reconcileAll (raw :: rest) lines spec backoff = (do
      return (← Finding.contribution lines backoff (raw, spec)) ++
        (← reconcileAll rest lines spec backoff)) := by
  rw [reconcileAll, Finding.contribution]
  rcases reconcile raw lines spec backoff with e | d
  · by_cases hforeseen : e.isForeseen = true
    · simp only [if_pos hforeseen]
      cases reconcileAll rest lines spec backoff <;> rfl
    · simp only [if_neg hforeseen]
      rfl
  · cases reconcileAll rest lines spec backoff <;> rfl

/-- What becomes of the messages of one origin. -/
theorem outcome_reconcileAll (raws : List ServiceMessage) (lines : Lines) (spec : DiagnosticSpec)
    (backoff : Number) :
    BatchOutcome lines backoff (raws.map (·, spec)) (reconcileAll raws lines spec backoff) := by
  induction raws with
  | nil => exact .diagnostics fun f hf => absurd hf List.not_mem_nil
  | cons raw rest ih =>
      rw [reconcileAll_cons]
      exact (outcome_contribution lines backoff (raw, spec)).append ih

/-- What becomes of the messages of a validation that ran. -/
theorem outcome_reconcile_messages (messages : ValidationMessages) (lines : Lines)
    (backoff : Number) :
    BatchOutcome lines backoff messages.findings (messages.reconcile lines backoff) := by
  have herrors := outcome_reconcileAll messages.errors lines .validationError backoff
  have hwarnings := outcome_reconcileAll messages.warnings lines .validationWarning backoff
  have hinfo := outcome_reconcileAll messages.info lines .validationInfo backoff
  have hall := (herrors.append hwarnings).append hinfo
  simp only [bind_assoc, pure_bind] at hall
  exact hall

/-- What becomes of an answer. -/
theorem outcome_collectResult (result : ValidateResult) (lines : Lines) (backoff : Number) :
    BatchOutcome lines backoff result.findings (collectResult result lines backoff) := by
  rcases result with ⟨succeeded, syntaxErrors, messages⟩
  have hparsing := outcome_reconcileAll syntaxErrors lines .syntaxError backoff
  rw [collectResult]
  cases messages with
  | none =>
      rw [ValidateResult.findings, List.append_nil]
      simpa only [bind_pure] using hparsing
  | some messages => exact hparsing.append (outcome_reconcile_messages messages lines backoff)

end Batches

/-! ## Runs -/

/-- A run whose only diagnostic is a failure. -/
def ValidationRun.failed (failure : Failure) : ValidationRun :=
  ⟨[failureDiagnostic failure], false, true⟩

/-- Whether an answer has a message with a number that is too large. -/
def ValidateResult.Overflows (lines : Lines) (backoff : Number) (result : ValidateResult) : Prop :=
  ∃ f ∈ result.findings, f.Overflows lines backoff

section Runs

variable {service : Service} {text origin : Text} {options : Options} {result : ValidateResult}

/-- The run of an answer in which no number is too large. -/
theorem runValidation_of_ok
    (h : service.validate text origin options.stripFormatting = .ok result)
    (hnot : ¬result.Overflows (Lines.ofText text) (.whole options.searchBackoff)) :
    let diagnostics := dedupe
      (acceptedDiagnostics (Lines.ofText text) (.whole options.searchBackoff) result.findings)
    runValidation service text origin options =
      ⟨diagnostics, result.succeeded, hasErrors diagnostics⟩ := by
  have hcollected := (outcome_collectResult result _ _).eq_ok hnot
  rw [runValidation, validateText, h]
  simp only [bind, Except.bind, reconcileResult, hcollected]
  rfl

/-- The run of an answer in which a number is too large. -/
theorem runValidation_of_overflows
    (h : service.validate text origin options.stripFormatting = .ok result)
    (hoverflows : result.Overflows (Lines.ofText text) (.whole options.searchBackoff)) :
    runValidation service text origin options = .failed .overflow := by
  have hcollected := (outcome_collectResult result _ _).eq_error hoverflows
  rw [runValidation, validateText, h]
  simp only [bind, Except.bind, reconcileResult, hcollected]
  rfl

theorem mem_acceptedDiagnostics {lines : Lines} {backoff : Number} {fs : List Finding}
    {d : Diagnostic} :
    d ∈ acceptedDiagnostics lines backoff fs ↔ ∃ f ∈ fs, f.Shows lines backoff d := by
  rw [acceptedDiagnostics, List.mem_filterMap]
  refine exists_congr fun f => and_congr_right fun _ => ?_
  rw [Finding.Shows]
  cases reconcile f.1 lines f.2 backoff <;> simp [Except.toOption]

/-- The origins that messages have. -/
def messageSpecs : List DiagnosticSpec :=
  [.syntaxError, .validationError, .validationWarning, .validationInfo]

theorem spec_mem_of_mem_findings : ∀ f ∈ result.findings, f.2 ∈ messageSpecs := by
  intro f h
  rcases result with ⟨succeeded, syntaxErrors, _ | messages⟩ <;>
    simp only [ValidateResult.findings, ValidationMessages.findings, List.append_nil,
      List.mem_append, List.mem_map] at h
  · rcases h with ⟨_, _, rfl⟩
    simp [messageSpecs]
  · rcases h with ⟨_, _, rfl⟩ | ((⟨_, _, rfl⟩ | ⟨_, _, rfl⟩) | ⟨_, _, rfl⟩) <;>
      simp [messageSpecs]

/-- They are told apart from that of a failure. -/
theorem source_ne_exception :
    ∀ spec ∈ messageSpecs, spec.source ≠ DiagnosticSpec.validationException.source := by
  decide

/-- No message looks like a failure. -/
theorem failureDiagnostic_not_mem {fs : List Finding} (hfs : ∀ f ∈ fs, f.2 ∈ messageSpecs)
    (lines : Lines) (backoff : Number) (failure : Failure) :
    failureDiagnostic failure ∉ dedupe (acceptedDiagnostics lines backoff fs) := by
  intro h
  have haccepted := (dedupe_sublist _).subset h
  rcases mem_acceptedDiagnostics.mp haccepted with ⟨f, hf, hshows⟩
  rcases diagnosed_of_shows hshows with ⟨_, _, _, _, _, _, _, _, _, hd⟩
  exact source_ne_exception f.2 (hfs f hf) (String.toList_inj.mp hd.source).symm

end Runs

/-- A service that gives the same answer for every text. -/
def Service.answering (result : ValidateResult) : Service where
  tokenize := fun _ _ => .ok ⟨true, [], []⟩
  validate := fun _ _ _ => .ok result

end RiddlEditor
