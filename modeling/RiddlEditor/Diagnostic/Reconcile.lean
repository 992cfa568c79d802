import RiddlEditor.Compiler.Service
import RiddlEditor.Diagnostic.Highlight
import RiddlEditor.Diagnostic.Report
import RiddlEditor.Text.ControlSequence
import RiddlEditor.Text.Lines

/-!
# Reconciliation

Messages of a compiler as diagnostics of the document that the editor shows. The two
may have drifted apart: a location may lie outside of the document, a message may
have no location at all, and a field may be missing or of the wrong type. Such a
message is refused with its reason; a batch goes on without it.

A validation answers with several lists of messages. They are reconciled one after
the other, syntax errors first, and what is reported twice is kept once. An answer
that does not keep to its shape is reconciled up to where it cannot be read on, and
then what was raised there is all there is.

## Main definitions

* `ReconcileError`: Why a message is refused.
* `reconcile`: One message as a diagnostic.
* `reconcileAll`: The diagnostics of a batch.
* `reconcileResult`: The diagnostics of a validation.
* `Answer.reconcile`: The diagnostics of an answer that need not keep to its shape.
* `failureDiagnostic`: The diagnostic of a validation that failed.
-/

namespace RiddlEditor

/-- Why a message is refused. -/
inductive ReconcileError where
  /-- The message has no location. -/
  | noLocation (message : Value)
  /-- The document has no such line. -/
  | lineOutside (line : Value) (count : Nat)
  /-- A field is missing or of the wrong type. -/
  | illTyped
  /-- The refusal would show a value that has too many digits. -/
  | unwritable
  /-- The kind is needed for the severity and is not a text. -/
  | kindNotText
  /-- A number is too large to be calculated with. -/
  | overflow
  /-- The numbers make no range. -/
  | place (e : PlaceError)

namespace ReconcileError

/-- The wording of a refusal, where it has one. -/
def message? : ReconcileError → Option Text
  | noLocation message => some ("Message has no location: ".toList ++ message.render)
  | lineOutside line count => some (lineErrorMessage (String.ofList line.shown) count).toList
  | illTyped => none
  | unwritable => some Value.longIntegerMessage
  | kindNotText => none
  | overflow => none
  | place e => some e.message.toList

/-- Whether a batch goes on without a message that is refused. Only a number that is too
    large is not foreseen there. -/
def isForeseen : ReconcileError → Bool
  | overflow => false
  | _ => true

/-- A refusal that shows a value. -/
def showing (v : Value) (e : ReconcileError) : ReconcileError :=
  if v.hasLongInteger then unwritable else e

/-- The refusal of a message for which nothing can be underlined. -/
def ofHighlight : HighlightError → ReconcileError
  | .illTyped => illTyped
  | .overflow => overflow
  | .place e => place e

end ReconcileError

/-- A reported line or column, counted from zero. What lies in front of the first one
    counts as it. -/
def countedNumber : Number → Number
  | .whole n => Number.max (.whole 0) (.whole (n - 1))
  | .real x => Number.max (.whole 0) (.real (x - 1.0))

/-- Whether a number lies between the first line and the end of the last one. -/
def Lines.covers (lines : Lines) (line : Number) : Bool :=
  !line.isNegative && line.isLess (.whole lines.count)

/-- The text of a reported line. No line has a number that is not given as a whole
    one, even where such a number lies between those of the document. -/
def reportedLine (lines : Lines) (reported : Value) : Number → Except ReconcileError (Nat × Text)
  | .whole n =>
    match lines.lines[n.toNat]? with
    | some text => .ok (n.toNat, text)
    | none => .error (.showing reported (.lineOutside reported lines.count))
  | .real x =>
    if lines.covers (.real x) then .error .illTyped
    else .error (.showing reported (.lineOutside reported lines.count))

/-- The severity of a message: that of its origin, or that of its kind. -/
def messageSeverity (spec : DiagnosticSpec) (kind : Value) : Except ReconcileError Severity :=
  match spec.severity with
  | some severity => .ok severity
  | none =>
    match kind with
    | .text s => .ok (Severity.ofKind s)
    | _ => .error .kindNotText

/-- The code of a message: that of its origin, or its kind. -/
def messageCode (spec : DiagnosticSpec) (kind : Value) : Value :=
  match spec.code with
  | some code => .text code.toList
  | none => kind

/-- A field that has to be there. -/
def requireField {α : Type} : Option α → Except ReconcileError α
  | some v => .ok v
  | none => .error .illTyped

/-- A message as a diagnostic, with the position it was reported at. The offsets are needed
    before anything is calculated with them, and the kind only behind that. -/
def diagnosticAt (raw : ServiceMessage) (spec : DiagnosticSpec) (backoff : Number)
    (location : ServiceLocation) (line : Nat) (lineText : Text) (column : Number) :
    Except ReconcileError Diagnostic :=
  match raw.message with
  | .text reported => do
    let message := reported.withoutControls
    let offset ← requireField location.offset
    let endOffset ← requireField location.endOffset
    let found ← (highlight message lineText column offset endOffset
      backoff).mapError ReconcileError.ofHighlight
    let range ← (found.range line column).mapError ReconcileError.ofHighlight
    let kind ← requireField raw.kind
    let severity ← messageSeverity spec kind
    return {
      severityKind := kind
      message
      phase := spec.phase
      range
      severity
      reportedAt := some ⟨line, column⟩
      source := spec.source.toList
      code := messageCode spec kind }
  | _ => .error .illTyped

/-- One message as a diagnostic. A location has to be there, its numbers have to be
    numbers, and its line has to be in the document, in this order; what the message
    says is looked at only then. -/
def reconcile (raw : ServiceMessage) (lines : Lines) (spec : DiagnosticSpec) (backoff : Number) :
    Except ReconcileError Diagnostic :=
  match raw.location with
  | none => .error (.showing raw.message (.noLocation raw.message))
  | some location =>
    match location.line.number?, location.column.number? with
    | some lineNumber, some column => do
      let (line, lineText) ← reportedLine lines location.line (countedNumber lineNumber)
      diagnosticAt raw spec backoff location line lineText (countedNumber column)
    | _, _ => .error .illTyped

/-- The failure of calculating with a number that is too large. -/
def Failure.overflow : Failure :=
  ⟨"OverflowError", "int too large to convert to float".toList⟩

/-- The diagnostics of a batch. Messages that are refused are left out, unless the
    refusal was not foreseen. -/
def reconcileAll (raws : List ServiceMessage) (lines : Lines) (spec : DiagnosticSpec)
    (backoff : Number) : Except Failure (List Diagnostic) :=
  match raws with
  | [] => .ok []
  | raw :: rest =>
    match reconcile raw lines spec backoff with
    | .ok d => (reconcileAll rest lines spec backoff).map (d :: ·)
    | .error e =>
      if e.isForeseen then reconcileAll rest lines spec backoff else .error Failure.overflow

/-- The diagnostics of the messages of a validation that ran. -/
def ValidationMessages.reconcile (messages : ValidationMessages) (lines : Lines)
    (backoff : Number) : Except Failure (List Diagnostic) := do
  let errors ← reconcileAll messages.errors lines .validationError backoff
  let warnings ← reconcileAll messages.warnings lines .validationWarning backoff
  let info ← reconcileAll messages.info lines .validationInfo backoff
  return errors ++ warnings ++ info

/-- The diagnostics of a validation before repeated ones are left out: syntax errors,
    then errors, warnings and remarks. -/
def collectResult (result : ValidateResult) (lines : Lines) (backoff : Number) :
    Except Failure (List Diagnostic) := do
  let parsing ← reconcileAll result.syntaxErrors lines .syntaxError backoff
  match result.messages with
  | some messages => return parsing ++ (← messages.reconcile lines backoff)
  | none => return parsing

/-- The diagnostics of a validation. -/
def reconcileResult (result : ValidateResult) (lines : Lines) (backoff : Number) :
    Except Failure (List Diagnostic) :=
  (collectResult result lines backoff).map dedupe

/-- The diagnostics of messages that may break off. -/
def MessageBatch.reconcile (batch : MessageBatch) (lines : Lines) (spec : DiagnosticSpec)
    (backoff : Number) : Except Raised (List Diagnostic) := do
  let found ← (reconcileAll batch.messages lines spec backoff).mapError Raised.shown
  match batch.failure with
  | some e => throw e
  | none => return found

/-- The diagnostics of the messages of a validation that ran, whatever they are. -/
def MessageBatches.reconcile (batches : MessageBatches) (lines : Lines) (backoff : Number) :
    Except Raised (List Diagnostic) := do
  let errors ← batches.errors.reconcile lines .validationError backoff
  let warnings ← batches.warnings.reconcile lines .validationWarning backoff
  let info ← batches.info.reconcile lines .validationInfo backoff
  return errors ++ warnings ++ info

/-- The diagnostics of an answer before repeated ones are left out. -/
def Answer.collect (answer : Answer) (lines : Lines) (backoff : Number) :
    Except Raised (List Diagnostic) := do
  let parsing ← answer.syntaxErrors.reconcile lines .syntaxError backoff
  match ← answer.messages with
  | some batches => return parsing ++ (← batches.reconcile lines backoff)
  | none => return parsing

/-- The diagnostics of an answer. -/
def Answer.reconcile (answer : Answer) (lines : Lines) (backoff : Number) :
    Except Raised (List Diagnostic) :=
  (answer.collect lines backoff).map dedupe

/-- The diagnostic that stands in for a validation that failed, at the start of the
    document. -/
def failureDiagnostic (f : Failure) : Diagnostic :=
  let spec := DiagnosticSpec.validationException
  { severityKind := .text "Error".toList
    message := "Validation error: ".toList ++ f.description
    phase := spec.phase
    range := (Range.span Position.origin 1).reported
    severity := .error
    reportedAt := some Position.origin.reported
    source := spec.source.toList
    code := messageCode spec .null }

end RiddlEditor
