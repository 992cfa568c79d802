import Mathlib.Algebra.Group.Int.Defs
import RiddlEditor.Proofs.Diagnostic.Failures

/-!
# Validation and what goes wrong with it

Validation is not trusted: whoever is asked for it may raise an error, and what is answered need
not be an answer at all. What is received of an answer are its messages in the order in which
they are read, up to where it cannot be read on (`Answer.received`). The messages of this that are
refused are left out on their own. If the answer could be read to its end, the others become
diagnostics, each of them once; if not, what was raised becomes the only diagnostic, as it does if
there is no answer.

Three things are not contained. A number that is too large to be calculated with takes all
messages with it, as in an answer that keeps to its shape. What is raised has to be shown, and an
error that fails when it is asked what it says is passed on to whoever asked for the diagnostics.
And whether validation succeeded is read behind everything else, where nothing is in place for an
answer that does not say so. `Validator.Escapes` lists the runs that have no answer.

## Main definitions

* `Received`, `Answer.received`: What is received of an answer.
* `Received.Outcome`: What becomes of it.
* `Answer.accepted`, `Validator.accepting`: An answer without the messages that are refused, and
  validation that gives such answers.
* `Answer.OverflowsIn`: An answer with a number that is too large.
* `Validator.Escapes`: The errors that are not contained.

## Theorems

* `outcome_collect`: What becomes of an answer.
* `received_accepted`: What is received of an answer without the messages that are refused.
* `Validator.run_of_error`, `Validator.run_of_answer`: The run of an error and of an answer.
* `Answer.run_of_overflows`, `Answer.run_of_failure`, `Answer.run_of_succeeded`,
  `Answer.run_of_not_succeeded`: The four fates of an answer.
* `Validator.run_eq_error_iff`: Which runs have no answer.
* `validation_contains_failures`: What a run shows, and when it has no answer.
* `run_validator`: Validation by a service, whose answers keep to their shape.
* `validation_fails_on_huge_offset`: An answer of which one message takes all others with it.
-/

namespace RiddlEditor

/-! ## What is received -/

/-- What is received of an answer: messages with their origins, and what was raised behind them if
    the answer could not be read to its end. -/
structure Received where
  findings : List Finding
  failure : Option Raised

/-- What is received one behind the other. Nothing is read behind a failure. -/
def Received.andThen (r s : Received) : Received :=
  match r.failure with
  | none => ⟨r.findings ++ s.findings, s.failure⟩
  | some _ => r

/-- What is received of messages of one origin. -/
def MessageBatch.received (batch : MessageBatch) (spec : DiagnosticSpec) : Received :=
  ⟨batch.messages.map (·, spec), batch.failure⟩

/-- What is received of a validation that ran. -/
def MessageBatches.received (batches : MessageBatches) : Received :=
  ((batches.errors.received .validationError).andThen
    (batches.warnings.received .validationWarning)).andThen
      (batches.info.received .validationInfo)

/-- What is received of an answer. -/
def Answer.received (answer : Answer) : Received :=
  (answer.syntaxErrors.received .syntaxError).andThen
    (match answer.messages with
    | .error e => ⟨[], some e⟩
    | .ok none => ⟨[], none⟩
    | .ok (some batches) => batches.received)

/-- Whether a message that was received has a number that is too large. -/
def Received.Overflows (lines : Lines) (backoff : Number) (r : Received) : Prop :=
  ∃ f ∈ r.findings, f.Overflows lines backoff

section Outcomes

variable {lines : Lines} {backoff : Number} {r s : Received}

/-- What becomes of what is received: the diagnostics of the messages that are accepted, if it was
    read to its end, and the failure otherwise, unless a message has a number that is too large. -/
inductive Received.Outcome (lines : Lines) (backoff : Number) (r : Received) :
    Except Raised (List Diagnostic) → Prop where
  | diagnostics (hnot : ¬r.Overflows lines backoff) (h : r.failure = none) :
      Outcome lines backoff r (.ok (acceptedDiagnostics lines backoff r.findings))
  | failure {e : Raised} (hnot : ¬r.Overflows lines backoff) (h : r.failure = some e) :
      Outcome lines backoff r (.error e)
  | overflow (h : r.Overflows lines backoff) :
      Outcome lines backoff r (.error (.shown .overflow))

theorem Received.andThen_of_none (h : r.failure = none) :
    r.andThen s = ⟨r.findings ++ s.findings, s.failure⟩ := by
  rw [Received.andThen, h]

theorem Received.andThen_of_some {e : Raised} (h : r.failure = some e) : r.andThen s = r := by
  rw [Received.andThen, h]

theorem Received.not_overflows_nil (failure : Option Raised) :
    ¬Received.Overflows lines backoff ⟨[], failure⟩ := by
  rintro ⟨f, hf, _⟩
  exact absurd hf List.not_mem_nil

theorem Received.findings_subset_andThen : r.findings ⊆ (r.andThen s).findings := by
  cases h : r.failure with
  | none =>
      rw [Received.andThen_of_none h]
      exact List.subset_append_left _ _
  | some e =>
      rw [Received.andThen_of_some h]
      exact List.Subset.refl _

/-- What becomes of what is received one behind the other. -/
theorem Received.Outcome.andThen {x y : Except Raised (List Diagnostic)}
    (h : r.Outcome lines backoff x) (h' : s.Outcome lines backoff y) :
    (r.andThen s).Outcome lines backoff (do return (← x) ++ (← y)) := by
  cases h with
  | overflow h =>
      -- It is met before anything of the rest is asked for.
      rcases h with ⟨f, hf, hoverflows⟩
      exact .overflow ⟨f, Received.findings_subset_andThen hf, hoverflows⟩
  | failure hnot h =>
      rw [Received.andThen_of_some h]
      exact .failure hnot h
  | diagnostics hnot h =>
      rw [Received.andThen_of_none h]
      have hboth (hnot' : ¬s.Overflows lines backoff) :
          ¬Received.Overflows lines backoff ⟨r.findings ++ s.findings, s.failure⟩ := by
        rintro ⟨f, hf, hoverflows⟩
        rcases List.mem_append.mp hf with hf | hf
        · exact hnot ⟨f, hf, hoverflows⟩
        · exact hnot' ⟨f, hf, hoverflows⟩
      cases h' with
      | overflow h' =>
          rcases h' with ⟨f, hf, hoverflows⟩
          exact .overflow ⟨f, List.mem_append_right _ hf, hoverflows⟩
      | failure hnot' h' => exact .failure (hboth hnot') h'
      | diagnostics hnot' h' =>
          have happend : acceptedDiagnostics lines backoff (r.findings ++ s.findings) =
              acceptedDiagnostics lines backoff r.findings ++
                acceptedDiagnostics lines backoff s.findings := List.filterMap_append
          have hall := Received.Outcome.diagnostics (hboth hnot') h'
          rw [happend] at hall
          exact hall

/-- What becomes of messages of one origin. -/
theorem outcome_batch (batch : MessageBatch) (spec : DiagnosticSpec) (lines : Lines)
    (backoff : Number) :
    (batch.received spec).Outcome lines backoff (batch.reconcile lines spec backoff) := by
  have hread := outcome_reconcileAll batch.messages lines spec backoff
  rw [MessageBatch.reconcile]
  by_cases hoverflows : ∃ f ∈ batch.messages.map (·, spec), Finding.Overflows lines backoff f
  · rw [hread.eq_error hoverflows]
    exact .overflow hoverflows
  · rw [hread.eq_ok hoverflows]
    cases hfailure : batch.failure with
    | none => exact .diagnostics hoverflows hfailure
    | some e => exact .failure hoverflows hfailure

/-- What becomes of a validation that ran. -/
theorem outcome_batches (batches : MessageBatches) (lines : Lines) (backoff : Number) :
    batches.received.Outcome lines backoff (batches.reconcile lines backoff) := by
  have herrors := outcome_batch batches.errors .validationError lines backoff
  have hwarnings := outcome_batch batches.warnings .validationWarning lines backoff
  have hall := (herrors.andThen hwarnings).andThen
    (outcome_batch batches.info .validationInfo lines backoff)
  simp only [bind_assoc, pure_bind] at hall
  exact hall

/-- What becomes of an answer. -/
theorem outcome_collect (answer : Answer) (lines : Lines) (backoff : Number) :
    answer.received.Outcome lines backoff (answer.collect lines backoff) := by
  rcases answer with ⟨succeeded, syntaxErrors, messages⟩
  have hparsing := outcome_batch syntaxErrors .syntaxError lines backoff
  rw [Answer.collect]
  rcases messages with e | _ | batches
  · exact hparsing.andThen (.failure (Received.not_overflows_nil _) rfl)
  · -- No more messages are none to be added.
    have hall := hparsing.andThen (.diagnostics (Received.not_overflows_nil none) rfl)
    generalize syntaxErrors.reconcile lines .syntaxError backoff = found at hall ⊢
    cases found with
    | error e => exact hall
    | ok ds =>
        change Received.Outcome lines backoff _ (.ok (ds ++ [])) at hall
        rw [List.append_nil] at hall
        exact hall
  · exact hparsing.andThen (outcome_batches batches lines backoff)

/-- There is one outcome only. -/
theorem Received.Outcome.eq {x y : Except Raised (List Diagnostic)}
    (h : r.Outcome lines backoff x) (h' : r.Outcome lines backoff y) : x = y := by
  cases h with
  | overflow h =>
      cases h' with
      | overflow _ => rfl
      | failure hnot _ => exact absurd h hnot
      | diagnostics hnot _ => exact absurd h hnot
  | failure hnot h =>
      cases h' with
      | overflow h' => exact absurd h' hnot
      | failure _ h' => rw [Option.some.inj (h.symm.trans h')]
      | diagnostics _ h' => exact absurd (h.symm.trans h') (Option.some_ne_none _)
  | diagnostics hnot h =>
      cases h' with
      | overflow h' => exact absurd h' hnot
      | failure _ h' => exact absurd (h'.symm.trans h) (Option.some_ne_none _)
      | diagnostics _ _ => rfl

end Outcomes

/-! ## Answers without refused messages -/

section Accepting

variable (lines : Lines) (backoff : Number)

/-- What is received without the messages that are refused. -/
def Received.accepted (r : Received) : Received :=
  ⟨r.findings.filter (Finding.isAccepted lines backoff), r.failure⟩

/-- The messages of one origin that are accepted. -/
def MessageBatch.accepted (spec : DiagnosticSpec) (batch : MessageBatch) : MessageBatch where
  messages := batch.messages.filter fun raw => Finding.isAccepted lines backoff (raw, spec)
  failure := batch.failure

/-- The messages of a validation that ran that are accepted. -/
def MessageBatches.accepted (batches : MessageBatches) : MessageBatches where
  errors := batches.errors.accepted lines backoff .validationError
  warnings := batches.warnings.accepted lines backoff .validationWarning
  info := batches.info.accepted lines backoff .validationInfo

/-- An answer without the messages that are refused. -/
def Answer.accepted (answer : Answer) : Answer where
  succeeded := answer.succeeded
  syntaxErrors := answer.syntaxErrors.accepted lines backoff .syntaxError
  messages := answer.messages.map (Option.map (MessageBatches.accepted lines backoff))

/-- Validation whose answers are without the messages that are refused. -/
def Validator.accepting (validate : Validator) : Validator := fun text origin strip =>
  (validate text origin strip).map (Answer.accepted (Lines.ofText text) backoff)

variable {lines backoff}

theorem received_batch_accepted (batch : MessageBatch) (spec : DiagnosticSpec) :
    (batch.accepted lines backoff spec).received spec =
      (batch.received spec).accepted lines backoff := by
  simp only [MessageBatch.received, MessageBatch.accepted, Received.accepted, List.filter_map]
  rfl

theorem Received.accepted_andThen (r s : Received) :
    (r.andThen s).accepted lines backoff =
      (r.accepted lines backoff).andThen (s.accepted lines backoff) := by
  rcases r with ⟨findings, _ | e⟩
  · simp only [Received.andThen, Received.accepted, List.filter_append]
  · rfl

/-- What is received of an answer without the messages that are refused. -/
theorem received_accepted (answer : Answer) :
    (answer.accepted lines backoff).received = answer.received.accepted lines backoff := by
  rcases answer with ⟨succeeded, syntaxErrors, e | _ | batches⟩ <;>
    simp only [Answer.received, Answer.accepted, MessageBatches.received, MessageBatches.accepted,
      Except.map, Option.map_none, Option.map_some, received_batch_accepted,
      Received.accepted_andThen] <;>
    rfl

/-- What is refused adds no diagnostic. -/
theorem acceptedDiagnostics_filter (fs : List Finding) :
    acceptedDiagnostics lines backoff (fs.filter (Finding.isAccepted lines backoff)) =
      acceptedDiagnostics lines backoff fs := by
  rw [acceptedDiagnostics, List.filterMap_filter, acceptedDiagnostics]
  refine List.filterMap_congr fun f _ => ?_
  rw [Finding.isAccepted]
  cases reconcile f.1 lines f.2 backoff <;> rfl

theorem not_overflows_of_isAccepted {f : Finding} (h : f.isAccepted lines backoff = true) :
    ¬f.Overflows lines backoff := by
  intro hoverflows
  rw [Finding.isAccepted, hoverflows] at h
  exact Bool.false_ne_true h

theorem Received.not_overflows_accepted (r : Received) :
    ¬(r.accepted lines backoff).Overflows lines backoff := by
  rintro ⟨f, hf, hoverflows⟩
  exact not_overflows_of_isAccepted (List.mem_filter.mp hf).2 hoverflows

/-- Where no number is too large, nothing changes without the messages that are refused. -/
theorem Received.Outcome.accepted {r : Received} {x : Except Raised (List Diagnostic)}
    (h : r.Outcome lines backoff x) (hnot : ¬r.Overflows lines backoff) :
    (r.accepted lines backoff).Outcome lines backoff x := by
  have hnone : ¬(r.accepted lines backoff).Overflows lines backoff := r.not_overflows_accepted
  cases h with
  | overflow h => exact absurd h hnot
  | failure _ h => exact .failure hnone h
  | diagnostics _ h =>
      rw [← acceptedDiagnostics_filter]
      exact .diagnostics hnone h

theorem collect_accepted {answer : Answer} (hnot : ¬answer.received.Overflows lines backoff) :
    (answer.accepted lines backoff).collect lines backoff = answer.collect lines backoff := by
  have houtcome := outcome_collect (answer.accepted lines backoff) lines backoff
  rw [received_accepted] at houtcome
  exact houtcome.eq ((outcome_collect answer lines backoff).accepted hnot)

end Accepting

/-! ## Runs -/

section Answers

variable {answer : Answer} {lines : Lines} {backoff : Number}

/-- The run of an answer in which a number is too large. -/
theorem Answer.run_of_overflows (h : answer.received.Overflows lines backoff) :
    answer.run lines backoff = (Raised.shown .overflow).run := by
  have hcollected := (outcome_collect answer lines backoff).eq (.overflow h)
  rw [Answer.run, Answer.reconcile, hcollected]
  rfl

/-- The run of an answer that cannot be read to its end. -/
theorem Answer.run_of_failure (hnot : ¬answer.received.Overflows lines backoff) {e : Raised}
    (h : answer.received.failure = some e) : answer.run lines backoff = e.run := by
  have hcollected := (outcome_collect answer lines backoff).eq (.failure hnot h)
  rw [Answer.run, Answer.reconcile, hcollected]
  rfl

/-- The diagnostics of an answer that can be read to its end. -/
theorem Answer.reconcile_of_read (hnot : ¬answer.received.Overflows lines backoff)
    (h : answer.received.failure = none) :
    answer.reconcile lines backoff =
      .ok (dedupe (acceptedDiagnostics lines backoff answer.received.findings)) := by
  rw [Answer.reconcile, (outcome_collect answer lines backoff).eq (.diagnostics hnot h)]
  rfl

/-- The run of an answer that can be read to its end, and says whether validation succeeded. -/
theorem Answer.run_of_succeeded (hnot : ¬answer.received.Overflows lines backoff)
    (h : answer.received.failure = none) {v : Value} (hv : answer.succeeded = .ok v) :
    let diagnostics := dedupe (acceptedDiagnostics lines backoff answer.received.findings)
    answer.run lines backoff = .ok ⟨diagnostics, v, hasErrors diagnostics⟩ := by
  intro diagnostics
  rw [Answer.run, Answer.reconcile_of_read hnot h, hv]
  rfl

/-- The run of an answer that can be read to its end, but does not say whether validation
    succeeded. -/
theorem Answer.run_of_not_succeeded (hnot : ¬answer.received.Overflows lines backoff)
    (h : answer.received.failure = none) {e : Raised} (he : answer.succeeded = .error e) :
    answer.run lines backoff = .error (.successUnread e) := by
  rw [Answer.run, Answer.reconcile_of_read hnot h, he]
  rfl

/-- Where no number is too large, the run is the same without the messages that are refused. -/
theorem Answer.run_accepted (hnot : ¬answer.received.Overflows lines backoff) :
    (answer.accepted lines backoff).run lines backoff = answer.run lines backoff := by
  rw [Answer.run, Answer.run, Answer.reconcile, Answer.reconcile, collect_accepted hnot]
  rfl

/-- Whether a run has errors is what its diagnostics say. -/
theorem Raised.hasErrors_of_run {e : Raised} {answered : ValidatorRun} (h : e.run = .ok answered) :
    answered.hasErrors = hasErrors answered.diagnostics := by
  cases e with
  | shown failure =>
      obtain rfl := Except.ok.inj h
      rfl
  | unshowable name => exact nomatch h

theorem Answer.hasErrors_of_run {answered : ValidatorRun}
    (h : answer.run lines backoff = .ok answered) :
    answered.hasErrors = hasErrors answered.diagnostics := by
  unfold Answer.run at h
  split at h
  case h_1 => exact Raised.hasErrors_of_run h
  case h_2 =>
    rcases bind_eq_ok h with ⟨v, _, h⟩
    obtain rfl := Except.ok.inj h
    rfl

theorem MessageBatch.spec_mem {batch : MessageBatch} {spec : DiagnosticSpec}
    (h : spec ∈ messageSpecs) : ∀ f ∈ (batch.received spec).findings, f.2 ∈ messageSpecs := by
  intro f hf
  rcases List.mem_map.mp hf with ⟨_, _, rfl⟩
  exact h

theorem Received.spec_mem_andThen {r s : Received} (h : ∀ f ∈ r.findings, f.2 ∈ messageSpecs)
    (h' : ∀ f ∈ s.findings, f.2 ∈ messageSpecs) :
    ∀ f ∈ (r.andThen s).findings, f.2 ∈ messageSpecs := by
  intro f hf
  rcases r with ⟨findings, _ | e⟩
  · exact (List.mem_append.mp hf).elim (h f) (h' f)
  · exact h f hf

/-- The messages that are received have the origins that messages have. -/
theorem Answer.spec_mem_of_mem_received (answer : Answer) :
    ∀ f ∈ answer.received.findings, f.2 ∈ messageSpecs := by
  rcases answer with ⟨succeeded, syntaxErrors, messages⟩
  refine Received.spec_mem_andThen (MessageBatch.spec_mem (by decide)) ?_
  rcases messages with e | _ | batches
  · exact fun f hf => absurd hf List.not_mem_nil
  · exact fun f hf => absurd hf List.not_mem_nil
  · exact Received.spec_mem_andThen (Received.spec_mem_andThen
      (MessageBatch.spec_mem (by decide)) (MessageBatch.spec_mem (by decide)))
        (MessageBatch.spec_mem (by decide))

end Answers

section Runs

variable {validate : Validator} {text origin : Text} {options : Options} {answer : Answer}

theorem Validator.run_of_error {e : Raised}
    (h : validate text origin options.stripFormatting = .error e) :
    validate.run text origin options = e.run := by
  rw [Validator.run, h]

theorem Validator.run_of_answer
    (h : validate text origin options.stripFormatting = .ok answer) :
    validate.run text origin options =
      answer.run (Lines.ofText text) (.whole options.searchBackoff) := by
  rw [Validator.run, h]

theorem Validator.accepting_of_answer {backoff : Number}
    (h : validate text origin options.stripFormatting = .ok answer) :
    validate.accepting backoff text origin options.stripFormatting =
      .ok (answer.accepted (Lines.ofText text) backoff) := by
  rw [Validator.accepting, h]
  rfl

/-- Whether an answer has a message with a number that is too large, for the text that it is
    about. -/
def Answer.OverflowsIn (text : Text) (options : Options) (answer : Answer) : Prop :=
  answer.received.Overflows (Lines.ofText text) (.whole options.searchBackoff)

/-- The errors that reach whoever asks for the diagnostics of a text. -/
inductive Validator.Escapes (validate : Validator) (text origin : Text) (options : Options) :
    ValidatorError → Prop where
  /-- What is raised in place of an answer cannot be shown. -/
  | asked {name : String}
      (h : validate text origin options.stripFormatting = .error (.unshowable name)) :
      Escapes validate text origin options (.unshowable name)
  /-- What is raised while the answer is read cannot be shown. -/
  | reading {answer : Answer} {name : String}
      (h : validate text origin options.stripFormatting = .ok answer)
      (hnot : ¬answer.OverflowsIn text options)
      (hfailure : answer.received.failure = some (.unshowable name)) :
      Escapes validate text origin options (.unshowable name)
  /-- The answer can be read to its end, but does not say whether validation succeeded. -/
  | success {answer : Answer} {e : Raised}
      (h : validate text origin options.stripFormatting = .ok answer)
      (hnot : ¬answer.OverflowsIn text options) (hread : answer.received.failure = none)
      (hsucceeded : answer.succeeded = .error e) :
      Escapes validate text origin options (.successUnread e)

theorem Raised.run_eq_error {e : Raised} {cause : ValidatorError} (h : e.run = .error cause) :
    ∃ name, e = .unshowable name ∧ cause = .unshowable name := by
  cases e with
  | shown failure => exact nomatch h
  | unshowable name => exact ⟨name, rfl, (Except.error.inj h).symm⟩

/-- A run has no answer exactly if an error is not contained. -/
theorem Validator.run_eq_error_iff {cause : ValidatorError} :
    validate.run text origin options = .error cause ↔
      validate.Escapes text origin options cause := by
  constructor
  · intro h
    rcases hasked : validate text origin options.stripFormatting with e | answer
    · rw [Validator.run_of_error hasked] at h
      rcases Raised.run_eq_error h with ⟨name, rfl, rfl⟩
      exact .asked hasked
    · rw [Validator.run_of_answer hasked] at h
      by_cases hoverflows : answer.OverflowsIn text options
      · -- A number that is too large can be shown, so there is a run.
        exact nomatch (Answer.run_of_overflows hoverflows).symm.trans h
      cases hfailure : answer.received.failure with
      | some e =>
          rw [Answer.run_of_failure hoverflows hfailure] at h
          rcases Raised.run_eq_error h with ⟨name, rfl, rfl⟩
          exact .reading hasked hoverflows hfailure
      | none =>
          cases hsucceeded : answer.succeeded with
          | ok v =>
              have hrun := Answer.run_of_succeeded hoverflows hfailure hsucceeded
              exact nomatch hrun.symm.trans h
          | error e =>
              rw [Answer.run_of_not_succeeded hoverflows hfailure hsucceeded] at h
              obtain rfl := Except.error.inj h
              exact .success hasked hoverflows hfailure hsucceeded
  · intro h
    cases h with
    | asked h => exact Validator.run_of_error h
    | reading h hnot hfailure =>
        exact (Validator.run_of_answer h).trans (Answer.run_of_failure hnot hfailure)
    | success h hnot hread hsucceeded =>
        exact (Validator.run_of_answer h).trans (Answer.run_of_not_succeeded hnot hread hsucceeded)

theorem Validator.hasErrors_of_run {answered : ValidatorRun}
    (h : validate.run text origin options = .ok answered) :
    answered.hasErrors = hasErrors answered.diagnostics := by
  unfold Validator.run at h
  split at h
  case h_1 => exact Raised.hasErrors_of_run h
  case h_2 => exact Answer.hasErrors_of_run h

/-- What validation contains of the failures of whoever is asked for it, and what it does not. An
    error that is raised in place of an answer, or while the answer is read, becomes the only
    diagnostic, at the first character of the text, and validation has not succeeded. If the answer
    can be read to its end, the diagnostics are those of the messages that are accepted, in the
    order of the answer and without repetitions; none of them looks like a failure, and what the
    answer says of its success is handed on. In either case the run is the same without the
    messages that are refused.

    A number that is too large to be calculated with is in the way of all this: the run is that of
    an error. It takes a message whose location holds a floating point number and a whole number
    that is huge, unless it is the setting of the user that is. The run has no answer at all if and
    only if the error to be shown cannot be shown, or an answer that can be read to its end does
    not say whether validation succeeded. A run that has an answer has errors if one of its
    diagnostics is an error. -/
theorem validation_contains_failures (validate : Validator) (text origin : Text)
    (options : Options) :
    let lines := Lines.ofText text
    let backoff : Number := .whole options.searchBackoff
    let asked := validate text origin options.stripFormatting
    let run := validate.run text origin options
    (∀ failure, asked = .error (.shown failure) → run = .ok (.failed failure)) ∧
    (∀ answer, asked = .ok answer → ¬answer.OverflowsIn text options →
      (∀ failure, answer.received.failure = some (.shown failure) → run = .ok (.failed failure)) ∧
      (∀ v, answer.received.failure = none → answer.succeeded = .ok v →
        let diagnostics := dedupe (acceptedDiagnostics lines backoff answer.received.findings)
        run = .ok ⟨diagnostics, v, hasErrors diagnostics⟩ ∧
          ∀ failure, failureDiagnostic failure ∉ diagnostics) ∧
      (validate.accepting backoff).run text origin options = run) ∧
    (∀ answer, asked = .ok answer → answer.OverflowsIn text options →
      run = .ok (.failed .overflow) ∧
        ∃ f ∈ answer.received.findings, ∃ l, f.1.location = some l ∧
          (∃ a ∈ l.numbers, a.IsReal) ∧ ∃ a ∈ backoff :: l.numbers, a.IsHuge) ∧
    (∀ e, run = .error e ↔ validate.Escapes text origin options e) ∧
    (∀ failure, (failureDiagnostic failure).range = (Range.span ⟨0, 0⟩ 1).reported) ∧
    (∀ answered, run = .ok answered →
      (answered.hasErrors = true ↔ ∃ d ∈ answered.diagnostics, d.severity = .error)) := by
  intro lines backoff asked run
  refine ⟨fun failure h => Validator.run_of_error h, fun answer h hnot => ?_,
    fun answer h hoverflows => ?_, fun e => Validator.run_eq_error_iff, fun _ => rfl,
    fun answered h => ?_⟩
  · have hrun : run = answer.run lines backoff := Validator.run_of_answer h
    refine ⟨fun failure hfailure => hrun.trans (Answer.run_of_failure hnot hfailure),
      fun v hread hv => ⟨hrun.trans (Answer.run_of_succeeded hnot hread hv), fun failure => ?_⟩, ?_⟩
    · exact failureDiagnostic_not_mem answer.spec_mem_of_mem_received lines backoff failure
    · exact (Validator.run_of_answer (Validator.accepting_of_answer h)).trans
        ((Answer.run_accepted hnot).trans hrun.symm)
  · refine ⟨(Validator.run_of_answer h).trans (Answer.run_of_overflows hoverflows), ?_⟩
    rcases hoverflows with ⟨f, hf, hoverflows⟩
    rcases hoverflows.exists_location with ⟨l, hl, hnumbers⟩
    exact ⟨f, hf, l, hl, hnumbers.real_and_huge⟩
  · rw [Validator.hasErrors_of_run h, hasErrors, List.any_eq_true]
    simp only [decide_eq_true_eq]

end Runs

/-! ## Validation by a service -/

section Services

theorem reconcile_whole (raws : List ServiceMessage) (lines : Lines) (spec : DiagnosticSpec)
    (backoff : Number) :
    (MessageBatch.whole raws).reconcile lines spec backoff =
      (reconcileAll raws lines spec backoff).mapError .shown := by
  rw [MessageBatch.reconcile, MessageBatch.whole]
  cases reconcileAll raws lines spec backoff <;> rfl

theorem reconcile_batches (messages : ValidationMessages) (lines : Lines) (backoff : Number) :
    (MessageBatches.mk (.whole messages.errors) (.whole messages.warnings)
      (.whole messages.info)).reconcile lines backoff =
        (messages.reconcile lines backoff).mapError .shown := by
  simp only [MessageBatches.reconcile, ValidationMessages.reconcile, reconcile_whole]
  cases reconcileAll messages.errors lines .validationError backoff with
  | error _ => rfl
  | ok _ =>
      cases reconcileAll messages.warnings lines .validationWarning backoff with
      | error _ => rfl
      | ok _ => cases reconcileAll messages.info lines .validationInfo backoff <;> rfl

/-- An answer that keeps to its shape is reconciled like one that need not. -/
theorem collect_answer (result : ValidateResult) (lines : Lines) (backoff : Number) :
    result.answer.collect lines backoff = (collectResult result lines backoff).mapError .shown := by
  rcases result with ⟨succeeded, syntaxErrors, messages⟩
  simp only [Answer.collect, ValidateResult.answer, collectResult, reconcile_whole]
  cases reconcileAll syntaxErrors lines .syntaxError backoff with
  | error _ => rfl
  | ok parsing =>
      cases messages with
      | none => rfl
      | some messages =>
          change Except.bind (MessageBatches.reconcile _ lines backoff) _ =
            (Except.bind (messages.reconcile lines backoff) _).mapError _
          rw [reconcile_batches]
          cases messages.reconcile lines backoff <;> rfl

/-- Validation by a service always has a run, and it is the one of a service. -/
theorem run_validator (service : Service) (text origin : Text) (options : Options) :
    let run := runValidation service text origin options
    service.validator.run text origin options =
      .ok ⟨run.diagnostics, .bool run.succeeded, run.hasErrors⟩ := by
  intro run
  simp only [run, runValidation, validateText, Validator.run, Service.validator]
  rcases service.validate text origin options.stripFormatting with failure | result
  · rfl
  · simp only [Answer.run, Answer.reconcile, collect_answer]
    simp only [bind, Except.bind, reconcileResult]
    cases collectResult result (Lines.ofText text) (.whole options.searchBackoff) <;> rfl

end Services

/-! ## Some answers -/

/-- Validation that gives the same answer for every text. -/
def Validator.answering (answer : Answer) : Validator := fun _ _ _ => .ok answer

/-- A message that is placed at the start of the text. -/
def fineMessage : ServiceMessage :=
  ⟨some (.text "Error".toList), .text "fine".toList,
    some (serviceLocation ⟨0, 0⟩ .null .null [])⟩

/-- An answer whose other messages are refused: one has no location, one has no offset, one has a
    number for its wording, one has no kind, one has a text for an offset, and one is behind the
    text. What it says of its success is no truth value. -/
def malformedAnswer : Answer where
  succeeded := .ok (.text "yes".toList)
  syntaxErrors := .whole
    [fineMessage,
      ⟨some (.text "Error".toList), .text "lost".toList, none⟩,
      ⟨some (.text "Error".toList), .text "bare".toList,
        some ⟨.int 1, .int 1, none, some .null, .null⟩⟩]
  messages := .ok (some
    { errors := .whole [⟨some .null, .int 7, some (serviceLocation ⟨0, 0⟩ .null .null [])⟩]
      warnings := .whole
        [⟨none, .text "kind".toList, some (serviceLocation ⟨0, 0⟩ .null .null [])⟩,
          ⟨some .null, .text "odd".toList,
            some (serviceLocation ⟨0, 0⟩ (.text ['a']) (.int 1) [])⟩]
      info := .whole
        [⟨some .null, .text "far".toList, some (serviceLocation ⟨8, 0⟩ .null .null [])⟩] })

/-- An answer whose syntax errors break off behind the first one. -/
def brokenAnswer (e : Raised) : Answer where
  succeeded := .ok (.bool true)
  syntaxErrors := ⟨[fineMessage], some e⟩
  messages := .ok none

/-- An answer that does not say whether validation succeeded. -/
def silentAnswer (e : Raised) : Answer where
  succeeded := .error e
  syntaxErrors := .whole [fineMessage]
  messages := .ok none

theorem isWhole_fineMessage : ∀ l ∈ fineMessage.location, ∀ a ∈ l.numbers, ¬a.IsReal := by
  decide

theorem Answer.not_overflowsIn_of_whole {answer : Answer}
    (h : ∀ f ∈ answer.received.findings, ∀ l ∈ f.1.location, ∀ a ∈ l.numbers, ¬a.IsReal)
    (text : Text) (options : Options) : ¬answer.OverflowsIn text options := by
  rintro ⟨f, hf, hoverflows⟩
  exact Finding.not_overflows_of_whole (h f hf) hoverflows

/-- The messages are left out on their own. An answer that breaks off is a failure, and one that
    does not say whether validation succeeded is not contained, as is an error that cannot be
    shown. -/
theorem validation_contains_malformed_messages :
    let run (answer : Answer) :=
      (Validator.answering answer).run "type A".toList [] .defaults
    let diagnostics := dedupe (acceptedDiagnostics (Lines.ofText "type A".toList) (.whole 8)
      malformedAnswer.received.findings)
    run malformedAnswer = .ok ⟨diagnostics, .text "yes".toList, hasErrors diagnostics⟩ ∧
      ((Validator.answering malformedAnswer).accepting (.whole 8)).run "type A".toList []
        .defaults = run malformedAnswer ∧
      (∀ failure, run (brokenAnswer (.shown failure)) = .ok (.failed failure)) ∧
      (∀ name, run (brokenAnswer (.unshowable name)) = .error (.unshowable name)) ∧
      ∀ e, run (silentAnswer e) = .error (.successUnread e) := by
  intro run diagnostics
  have hcontains (answer : Answer) := validation_contains_failures (Validator.answering answer)
    "type A".toList [] .defaults
  have hmalformed : ¬malformedAnswer.OverflowsIn "type A".toList .defaults :=
    Answer.not_overflowsIn_of_whole (by decide) _ _
  have hbroken (e : Raised) : ¬(brokenAnswer e).OverflowsIn "type A".toList .defaults :=
    Answer.not_overflowsIn_of_whole (List.forall_mem_singleton.mpr isWhole_fineMessage) _ _
  have hsilent (e : Raised) : ¬(silentAnswer e).OverflowsIn "type A".toList .defaults :=
    Answer.not_overflowsIn_of_whole (List.forall_mem_singleton.mpr isWhole_fineMessage) _ _
  refine ⟨?_, ?_, fun failure => ?_, fun name => ?_, fun e => ?_⟩
  · exact (((hcontains malformedAnswer).2.1 _ rfl hmalformed).2.1 _ rfl rfl).1
  · exact ((hcontains malformedAnswer).2.1 _ rfl hmalformed).2.2
  · exact ((hcontains (brokenAnswer (.shown failure))).2.1 _ rfl (hbroken _)).1 failure rfl
  · exact ((hcontains (brokenAnswer (.unshowable name))).2.2.2.1 _).mpr
      (.reading rfl (hbroken _) rfl)
  · exact ((hcontains (silentAnswer e)).2.2.2.1 _).mpr (.success rfl (hsilent _) rfl rfl)

/-- A message whose offsets are a fraction and a whole number of three hundred and ten digits. -/
def hugeMessage : ServiceMessage :=
  ⟨some (.text "Error".toList), .text "wide".toList,
    some (serviceLocation ⟨0, 0⟩ (.float 0.5) (.int (10 ^ 309)) [])⟩

theorem offsetSpan?_huge : offsetSpan? (.float 0.5) (.int (10 ^ 309)) = .error .overflow := by
  have hlarge : ¬(10 ^ 309 : Int).natAbs < floatOverflow := by decide +kernel
  simp only [offsetSpan?, Value.number?, Value.integer?, Option.map_some, Number.sub?,
    Number.toFloat?, if_neg hlarge]
  rfl

theorem overflows_hugeMessage :
    Finding.Overflows (Lines.ofText "type A".toList) (.whole 8) (hugeMessage, .syntaxError) := by
  -- The message names no definition, so its offsets are looked at.
  have hnames : (quotedNames (Text.withoutControls "wide".toList)).flatMap nameCandidates = [] := by
    decide +kernel
  have hnamed (line : Text) (column : Number) :
      namedHighlight? (Text.withoutControls "wide".toList) line column (.whole 8) = .ok none := by
    unfold namedHighlight?
    rw [hnames]
  have hfirst : 0 < (Lines.ofText "type A".toList).count := by decide +kernel
  rcases reportedLine_of_lt (.int 1) hfirst with ⟨text, hline⟩
  have hcount : countedNumber (.whole 1) = .whole 0 := countedNumber_succ 0
  simp only [Finding.Overflows, reconcile, hugeMessage, serviceLocation, Value.number?,
    Value.integer?, Option.map_some]
  change Except.bind (reportedLine _ _ (countedNumber (.whole 1))) _ = _
  rw [hcount]
  change Except.bind (reportedLine _ (.int 1) (.whole (0 : Nat))) _ = _
  rw [hline]
  simp only [Except.bind, diagnosticAt, requireField, highlight, hnamed, offsetSpan?_huge, bind,
    Except.mapError]
  rfl

/-- The answer can be read, and a message is accepted. But another one has an offset that is too
    large, so the run is that of an error, and the message that is accepted is not shown. -/
theorem validation_fails_on_huge_offset :
    let result : ValidateResult := ⟨true, [fineMessage, hugeMessage], none⟩
    let validate := (Service.answering result).validator
    let accepted := acceptedDiagnostics (Lines.ofText "type A".toList) (.whole 8)
      result.answer.received.findings
    validate "type A".toList ['o'] Options.defaults.stripFormatting = .ok result.answer ∧
      validate.run "type A".toList ['o'] .defaults = .ok (.failed .overflow) ∧
      (∃ d ∈ accepted, d.message = "fine".toList) ∧
      (ValidatorRun.failed .overflow).diagnostics ≠ dedupe accepted := by
  intro result validate accepted
  have hanswer : validate "type A".toList ['o'] Options.defaults.stripFormatting =
      .ok result.answer := rfl
  have hfindings : result.answer.received.findings =
      [(fineMessage, .syntaxError), (hugeMessage, .syntaxError)] := rfl
  have hoverflows : result.answer.received.Overflows (Lines.ofText "type A".toList) (.whole 8) :=
    ⟨(hugeMessage, .syntaxError), by simp [hfindings], overflows_hugeMessage⟩
  refine ⟨hanswer, (Validator.run_of_answer hanswer).trans (Answer.run_of_overflows hoverflows),
    ?_, fun heq => ?_⟩
  · have hplaced : fineMessage.Placed (Lines.ofText "type A".toList) ⟨0, 0⟩ "fine".toList :=
      .mk (by decide +kernel) wholeOffsets_null
    rcases reconcile_of_placed hplaced .syntaxError 8 with ⟨d, hd, hidentity⟩
    refine ⟨d, mem_acceptedDiagnostics.mpr ⟨(fineMessage, .syntaxError), ?_, hd⟩, ?_⟩
    · simp [hfindings]
    · exact (congrArg Prod.snd hidentity).trans (by decide +kernel)
  · have hmem : failureDiagnostic .overflow ∈ (ValidatorRun.failed .overflow).diagnostics :=
      List.mem_singleton_self _
    rw [heq] at hmem
    exact failureDiagnostic_not_mem result.answer.spec_mem_of_mem_received _ _ _ hmem

end RiddlEditor
