import RiddlEditor.Text.Quoted
import RiddlEditor.Value

/-!
# Compiler services

What a compiler offers to the editor: it cuts a text into tokens, and it validates
a text and reports messages. Lines and columns are counted from one here. A service
is not trusted: every field of what it reports may be missing or of the wrong type,
it may report failure, and it may fail with an error of its own instead of
answering.

Validation is trusted even less. What it hands over for an answer may be anything: a
list of messages may not be there, may be no list at all or may break off, and the
answer may not say whether it succeeded. A service whose answers keep to their shape,
and whose failures can be shown, is a `Service`; validation by anything else is a
`Validator`.

## Main definitions

* `ServiceLocation`, `ServiceToken`, `ServiceMessage`: What a service reports.
* `TokenizeResult`, `ValidateResult`: The two kinds of answers.
* `Failure`, `Raised`: The error of a service that does not answer.
* `Service`: A compiler service.
* `MessageBatch`, `Answer`: An answer that need not keep to its shape.
* `Validator`: Validation that gives such answers.
-/

namespace RiddlEditor

/-- A reported location. The line and the column are counted from one. An offset that is
    missing altogether is told apart from one that is null; of the other fields, none is
    read in a way that does. -/
structure ServiceLocation where
  line : Value
  column : Value
  offset : Option Value
  endOffset : Option Value
  source : Value

namespace ServiceLocation

/-- The offset of a location, read as null if it is missing. -/
def offsetOrNull (l : ServiceLocation) : Value :=
  l.offset.getD .null

/-- The end offset of a location, read as null if it is missing. -/
def endOffsetOrNull (l : ServiceLocation) : Value :=
  l.endOffset.getD .null

end ServiceLocation

/-- A reported token. A field that is missing is null. -/
structure ServiceToken where
  text : Value
  kind : Value
  location : Option ServiceLocation

/-- A reported error, warning or remark. A kind that is missing altogether is told apart
    from one that is null; a message without a wording is refused in either case. -/
structure ServiceMessage where
  kind : Option Value
  message : Value
  location : Option ServiceLocation

/-- The answer to a request for tokens. -/
structure TokenizeResult where
  succeeded : Bool
  tokens : List ServiceToken
  errors : List ServiceMessage

/-- The messages of a validation that ran, by severity. -/
structure ValidationMessages where
  errors : List ServiceMessage
  warnings : List ServiceMessage
  info : List ServiceMessage

/-- The answer to a request for validation that keeps to its shape. There are no validation
    messages if validation did not run, because the text could not be parsed for instance. -/
structure ValidateResult where
  succeeded : Bool
  syntaxErrors : List ServiceMessage
  messages : Option ValidationMessages

/-- An error that can be shown: the name of its class and what it says. -/
structure Failure where
  name : String
  detail : Text
  deriving DecidableEq, Repr

/-- What a user is told about a failure. One that says nothing shows its class. -/
def Failure.description (f : Failure) : Text :=
  if f.detail.isEmpty then f.name.toList else f.detail

/-- An error that is raised in place of an answer. -/
inductive Raised where
  /-- One that can be shown. -/
  | shown (f : Failure)
  /-- One of a class that fails in turn when it is asked what it says. -/
  | unshowable (name : String)
  deriving DecidableEq, Repr

namespace Raised

/-- The class of failed look-ups. -/
def lookupName : String := "KeyError"

/-- The error of a class with its argument, if it has one. A failed look-up shows its key as
    it would be quoted; any other error shows its argument as it is. -/
def ofArgument (name : String) : Option Value → Raised
  | none => .shown ⟨name, []⟩
  | some argument =>
    if argument.hasLongInteger then .unshowable name
    else .shown ⟨name, if name = lookupName then argument.render else argument.shown⟩

end Raised

/-- A compiler service that keeps to the shape of its answers. The second argument names the
    document; the last argument of `validate` asks for messages without control sequences. -/
structure Service where
  tokenize : Text → Text → Except Raised TokenizeResult
  validate : Text → Text → Bool → Except Failure ValidateResult

/-- Messages as an answer holds them: those that can be read, and what is raised behind them
    if they break off. Messages that are missing, or that are no list, break off at once. -/
structure MessageBatch where
  messages : List ServiceMessage
  failure : Option Raised

/-- The messages of a validation that ran, as an answer holds them. -/
structure MessageBatches where
  errors : MessageBatch
  warnings : MessageBatch
  info : MessageBatch

/-- The answer to a request for validation, whatever it is. Reading a field that is missing
    raises an error. -/
structure Answer where
  succeeded : Except Raised Value
  syntaxErrors : MessageBatch
  messages : Except Raised (Option MessageBatches)

/-- Validation by whatever gives an answer, with the arguments of a service. -/
abbrev Validator := Text → Text → Bool → Except Raised Answer

/-- A list of messages that does not break off. -/
def MessageBatch.whole (messages : List ServiceMessage) : MessageBatch :=
  ⟨messages, none⟩

/-- An answer that keeps to its shape. -/
def ValidateResult.answer (result : ValidateResult) : Answer where
  succeeded := .ok (.bool result.succeeded)
  syntaxErrors := .whole result.syntaxErrors
  messages := .ok (result.messages.map fun messages =>
    ⟨.whole messages.errors, .whole messages.warnings, .whole messages.info⟩)

/-- Validation by a service. -/
def Service.validator (service : Service) : Validator := fun text origin strip =>
  match service.validate text origin strip with
  | .ok result => .ok result.answer
  | .error failure => .error (.shown failure)

end RiddlEditor
