import RiddlEditor.Diagnostic.Basic

/-!
# Reports

Lists of diagnostics. A compiler may find the same thing twice; in a report the
first diagnostic of each identity is kept, in its place.

## Main definitions

* `dedupe`: A list without repeated diagnostics.
* `hasErrors`: Whether a list holds an error.
* `ofPhase`: The diagnostics of one phase.
-/

namespace RiddlEditor

/-- The diagnostics whose identities are neither among `seen` nor found earlier. -/
def dedupeAfter (seen : List DiagnosticIdentity) : List Diagnostic → List Diagnostic
  | [] => []
  | d :: rest =>
    if seen.contains d.identity then dedupeAfter seen rest
    else d :: dedupeAfter (d.identity :: seen) rest

/-- A list without repeated diagnostics: of each identity the first one is kept. -/
def dedupe (diagnostics : List Diagnostic) : List Diagnostic :=
  dedupeAfter [] diagnostics

/-- Whether a list holds an error. -/
def hasErrors (diagnostics : List Diagnostic) : Bool :=
  diagnostics.any fun d => d.severity = .error

/-- The diagnostics of one phase, in order. -/
def ofPhase (phase : Phase) (diagnostics : List Diagnostic) : List Diagnostic :=
  diagnostics.filter fun d => d.phase = phase

end RiddlEditor
