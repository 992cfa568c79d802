import RiddlEditor.Diagnostic.Reconcile
import RiddlEditor.Hover
import RiddlEditor.Options
import RiddlEditor.SemanticToken
import RiddlEditor.TokenStream

/-!
# Queries

What an editor asks about one text: its diagnostics, the definition and the
references of the name at a position, a hover and the colouring. Each query cuts the
text into tokens anew, so nothing has to be kept between two queries. A service that
delivers no tokens makes an answer empty, and a validation that fails becomes a
diagnostic.

The errors left are those of a token that is in the way of all others, and, for
validation by something that is no `Service`, an error that cannot be shown and an
answer that does not say whether it succeeded.

## Main definitions

* `ValidationRun`, `validateText`, `runValidation`: The diagnostics of a text.
* `ValidatorRun`, `ValidatorError`, `Validator.run`: The same for validation by
  anything.
* `Context`: What the queries about names have in common.
* `Context.definition`, `Context.references`, `Context.hover`,
  `Context.semanticTokens`: The queries.
-/

namespace RiddlEditor

/-- The answer to a request for diagnostics. -/
structure ValidationRun where
  diagnostics : List Diagnostic
  succeeded : Bool
  hasErrors : Bool

/-- The diagnostics of what a service answers, and whether it succeeded. -/
def validateText (service : Service) (text origin : Text) (options : Options) :
    Except Failure (List Diagnostic × Bool) := do
  let result ← service.validate text origin options.stripFormatting
  let diagnostics ← reconcileResult result (Lines.ofText text) (.whole options.searchBackoff)
  return (diagnostics, result.succeeded)

/-- The diagnostics of a text. A failure becomes the only diagnostic. -/
def runValidation (service : Service) (text origin : Text) (options : Options) : ValidationRun :=
  match validateText service text origin options with
  | .ok (diagnostics, succeeded) =>
    ⟨diagnostics, succeeded, RiddlEditor.hasErrors diagnostics⟩
  | .error failure => ⟨[failureDiagnostic failure], false, true⟩

/-- The answer to a request for diagnostics of whatever validates. What it says about its
    success is handed on as it is. -/
structure ValidatorRun where
  diagnostics : List Diagnostic
  succeeded : Value
  hasErrors : Bool

/-- Why a request for diagnostics has no answer. -/
inductive ValidatorError where
  /-- The error that was raised cannot be shown. -/
  | unshowable (name : String)
  /-- The answer does not say whether validation succeeded. -/
  | successUnread (e : Raised)
  deriving DecidableEq, Repr

/-- A run whose only diagnostic is a failure. -/
def ValidatorRun.failed (failure : Failure) : ValidatorRun :=
  ⟨[failureDiagnostic failure], .bool false, true⟩

/-- The run in which an error was raised. It becomes the only diagnostic, if it can be shown. -/
def Raised.run : Raised → Except ValidatorError ValidatorRun
  | .shown failure => .ok (.failed failure)
  | .unshowable name => .error (.unshowable name)

/-- The run of an answer. Nothing is in place for one that does not say whether validation
    succeeded, since that is read behind everything else. -/
def Answer.run (answer : Answer) (lines : Lines) (backoff : Number) :
    Except ValidatorError ValidatorRun :=
  match answer.reconcile lines backoff with
  | .error e => e.run
  | .ok diagnostics => do
    let succeeded ← answer.succeeded.mapError ValidatorError.successUnread
    return ⟨diagnostics, succeeded, RiddlEditor.hasErrors diagnostics⟩

/-- The diagnostics of a text, by whatever validates it. -/
def Validator.run (validate : Validator) (text origin : Text) (options : Options) :
    Except ValidatorError ValidatorRun :=
  match validate text origin options.stripFormatting with
  | .error e => e.run
  | .ok answer => answer.run (Lines.ofText text) (.whole options.searchBackoff)

/-- A text to ask about, the service that knows it, and the resolver for its names. -/
structure Context where
  service : Service
  text : Text
  origin : Text
  resolver : Resolver

/-- The answer to a request for a definition. There is a target if the token at the
    position can name a definition. -/
structure DefinitionRun where
  target : Option Token
  definition : Option Range

/-- The answer to a request for references. -/
structure ReferencesRun where
  target : Option Token
  references : List Range

/-- The resolver of a user with settings. -/
def Options.resolver (options : Options) : Resolver :=
  ⟨options.extraKeywords⟩

namespace Context

/-- The tokens of the text, which are none if the service does not deliver any. -/
def stream (q : Context) : Except TokenError TokenStream := do
  let found ← tokenizeDocument q.service q.text q.origin
  return found.getD TokenStream.empty

/-- The token at a position, if it can name a definition. -/
def targetAt (s : TokenStream) (line column : Int) : Option Token :=
  (s.tokenAt line column).filter fun t => t.kind.isResolvable

/-- The definition of the name at a position. -/
def definition (q : Context) (line column : Int) : Except TokenError DefinitionRun := do
  let s ← q.stream
  let target := targetAt s line column
  return ⟨target, target.bind (q.resolver.definition? s.tokens)⟩

/-- The occurrences of the name at a position, in document order. -/
def references (q : Context) (line column : Int) (includeDeclaration : Bool) :
    Except TokenError ReferencesRun := do
  let s ← q.stream
  let target := targetAt s line column
  return ⟨target,
    match target with
    | some t => q.resolver.references s.tokens t includeDeclaration
    | none => []⟩

/-- The hover at a position. -/
def hover (q : Context) (line column : Int) : Except TokenError (Option Hover) := do
  let s ← q.stream
  return hoverAt? s.tokens line column q.resolver

/-- The colouring of the text. -/
def semanticTokens (q : Context) : Except TokenError (List SemanticToken) := do
  let s ← q.stream
  return classifyTokens s.tokens q.resolver

end Context

end RiddlEditor
