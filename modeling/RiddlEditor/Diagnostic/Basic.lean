import RiddlEditor.Diagnostic.Place
import RiddlEditor.Text.Blank
import RiddlEditor.Text.Lowercase
import RiddlEditor.Value

/-!
# Diagnostics

A message about a document with the range that an editor underlines. Beside the
severity that the editor shows, a diagnostic keeps the kind that the compiler
reported, whatever that is, and the position it was reported at.

Where a message comes from decides its label, its phase and, except for syntax
errors, its severity. Syntax errors keep the severity of their kind.

## Main definitions

* `Severity`, `Severity.ofKind`: How grave a diagnostic is.
* `Phase`: What the compiler was doing.
* `DiagnosticSpec`: What messages of one origin have in common.
* `Diagnostic`: A message with its range.
* `Diagnostic.identity`: What makes two diagnostics the same.
-/

namespace RiddlEditor

/-- How grave a diagnostic is. -/
inductive Severity where
  | error
  | warning
  | information
  | hint
  deriving DecidableEq, Repr

namespace Severity

/-- The number that editors use for a severity. -/
def number : Severity → Nat
  | error => 1
  | warning => 2
  | information => 3
  | hint => 4

/-- The severity with a number. -/
def ofNumber? : Int → Option Severity
  | 1 => some error
  | 2 => some warning
  | 3 => some information
  | 4 => some hint
  | _ => none

/-- The name of a severity in listings. -/
def name : Severity → String
  | error => "ERROR"
  | warning => "WARNING"
  | information => "INFORMATION"
  | hint => "HINT"

/-- The severity that a reported kind stands for. Blanks around the kind and its case
    do not count; a kind that is not known is an error. -/
def ofKind (kind : Text) : Severity :=
  let word := kind.trim.lowercase
  if word = "warning".toList then warning
  else if word = "info".toList ∨ word = "information".toList then information
  else if word = "hint".toList then hint
  else error

end Severity

/-- What the compiler was doing when it found something. -/
inductive Phase where
  | parsing
  | validation
  deriving DecidableEq, Repr

namespace Phase

/-- The name of a phase. -/
def name : Phase → String
  | parsing => "syntax"
  | validation => "validation"

/-- The phase with a name. -/
def ofName? (s : String) : Option Phase :=
  [parsing, validation].find? fun phase => phase.name = s

end Phase

/-- What messages of one origin have in common. Without a severity of its own, a
    message has the severity of its kind. -/
structure DiagnosticSpec where
  code : Option String
  source : String
  phase : Phase
  severity : Option Severity
  deriving DecidableEq, Repr

namespace DiagnosticSpec

/-- Errors that keep the text from being parsed. -/
def syntaxError : DiagnosticSpec :=
  ⟨none, "RIDDL (syntax)", .parsing, none⟩

/-- Errors of validation. -/
def validationError : DiagnosticSpec :=
  ⟨none, "RIDDL (validation)", .validation, some .error⟩

/-- Warnings of validation. -/
def validationWarning : DiagnosticSpec :=
  ⟨none, "RIDDL (validation)", .validation, some .warning⟩

/-- Remarks of validation. -/
def validationInfo : DiagnosticSpec :=
  ⟨none, "RIDDL (info)", .validation, some .information⟩

/-- The failure of the compiler itself. -/
def validationException : DiagnosticSpec :=
  ⟨some "validation-exception", "RIDDL (exception)", .validation, some .error⟩

end DiagnosticSpec

/-- A message with the range that an editor underlines. -/
structure Diagnostic where
  severityKind : Value
  message : Text
  phase : Phase
  range : ReportedRange
  severity : Severity
  reportedAt : Option ReportedPosition
  source : Text
  code : Value

/-- What makes two diagnostics the same. -/
abbrev DiagnosticIdentity := (Nat × Option Int) × Text

/-- What makes two diagnostics the same: the position they were reported at and the
    message. One that was not reported anywhere counts as reported where its range
    starts. -/
def Diagnostic.identity (d : Diagnostic) : DiagnosticIdentity :=
  ((d.reportedAt.getD d.range.start).key, d.message)

end RiddlEditor
