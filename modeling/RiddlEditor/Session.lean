import RiddlEditor.Client.Convert
import RiddlEditor.Client.DocumentName
import RiddlEditor.Query
import RiddlEditor.Revalidation.Timeline
import RiddlEditor.Uri.File

/-!
# Sessions

A language server at work for one client. It keeps the open documents and the settings,
answers the client's questions in the client's units, and validates a document again a
while after each change. What it publishes is converted against the text that the document
has at that moment.

A document is found under every spelling of its name, and answers about it carry the
spelling it was opened under. Validations go by the spelling of the request alone. A
document that is not open would be read from its file, but there are no files here.

The delay before a validation is that of the settings when the first document is opened;
later settings do not change it. All other settings count from the moment they are made.

## Main definitions

* `OpenDocument`: A document that the client has opened.
* `Session`: The state of a server.
* `Publication`: Diagnostics that a server sends.
* `SessionError`: Why a question has no answer.
* `Session.openDocument`, `Session.changeDocument`, `Session.closeDocument`:
  What a client reports.
* `Session.hover`, `Session.definition`, `Session.references`,
  `Session.semanticData`: What a client asks.
-/

namespace RiddlEditor

/-- Diagnostics that a server sends. -/
structure Publication where
  uri : Uri
  diagnostics : List ClientDiagnostic

/-- Why a question has no answer. -/
inductive SessionError where
  /-- A position or a range cannot be sent or read. -/
  | client (e : ClientError)
  /-- The tokens of the document cannot be made. -/
  | tokens (e : TokenError)
  /-- The document to be changed is not open. -/
  | notOpen
  /-- The URI of the document cannot be taken apart. -/
  | uri (e : UriError)
  /-- The document asked about is not open, and its file cannot be read. -/
  | file (e : FileError)

/-- What is said about a question that has no answer. -/
def SessionError.message? : SessionError → Option Text
  | .client e => some e.message.toList
  | .tokens e => e.message?
  | .notOpen => none
  | .uri e => some e.message
  | .file e => e.message?.map String.toList

/-- A document that the client has opened, with the spelling of its name. -/
structure OpenDocument where
  uri : Uri
  text : Text
  deriving DecidableEq, Repr

/-- The state of a server. The documents are found by their names without escapes. -/
structure Session where
  service : Service
  encoding : Encoding
  options : Options
  documents : UriMap OpenDocument
  timeline : Timeline Diagnostic
  started : Bool

namespace Session

/-- A server that a client has just started. -/
def start (service : Service) (encoding : Encoding) : Session :=
  ⟨service, encoding, Options.defaults, [], Timeline.start Options.defaultDelay [], false⟩

/-- The settings of a client. -/
def configure (s : Session) (options : Options) : Session :=
  { s with options }

/-- The server with its delay fixed. -/
def begin (s : Session) : Session :=
  if s.started then s
  else
    { s with
      timeline := { s.timeline with delay := s.options.debounceDelay }
      started := true }

/-- A document, if it is open. -/
def document? (s : Session) (uri : Uri) : Option OpenDocument :=
  s.documents.get? (documentName uri)

/-- A document in the eyes of the client. -/
def clientText (s : Session) (document : OpenDocument) : ClientText :=
  ClientText.ofText document.text s.encoding

/-- The validation of a document with the settings of the moment. -/
def validation (s : Session) (uri : Uri) (text : Text) : Validation Diagnostic :=
  ⟨none, some (runValidation s.service text uri.toList s.options).diagnostics⟩

/-- What the client receives of an output. A document without diagnostics needs no text;
    diagnostics that cannot be sent are not. -/
def publication? (s : Session) : Output Diagnostic → Option Publication
  | .validate _ _ _ => none
  | .clear uri => some ⟨uri, []⟩
  | .publish _ uri [] => some ⟨uri, []⟩
  | .publish _ uri diagnostics =>
    match s.document? uri with
    | some document =>
      match convertDiagnostics (some (s.clientText document)) diagnostics with
      | .ok converted => some ⟨uri, converted⟩
      | .error _ => none
    | none => none

/-- The server after a step of its timeline, and what the client receives. -/
def publish (s : Session) (step : Timeline Diagnostic × List (Output Diagnostic)) :
    Session × List Publication :=
  ({ s with timeline := step.1 }, step.2.filterMap s.publication?)

/-- The server with a document under a name. -/
def store (s : Session) (uri : Uri) (document : OpenDocument) : Session :=
  { s with documents := s.documents.set (documentName uri) document }

/-- A request to validate a document after a while. -/
def schedule (s : Session) (uri : Uri) (text : Text) : Session :=
  let s := s.begin
  { s with timeline := (s.timeline.schedule uri text).1 }

/-- The client has opened a document, whose URI has to be one that can be taken apart. -/
def openDocument (s : Session) (uri : Uri) (text : Text) : Except SessionError Session :=
  match UriParts.ofText uri.toList with
  | .ok _ => .ok ((s.store uri ⟨uri, text⟩).schedule uri text)
  | .error e => .error (.uri e)

/-- The client has changed a document, which has to be open. -/
def changeDocument (s : Session) (uri : Uri) (text : Text) : Except SessionError Session :=
  match s.document? uri with
  | some document => .ok ((s.store uri { document with text }).schedule uri text)
  | none => .error .notOpen

/-- The client has closed a document. -/
def closeDocument (s : Session) (uri : Uri) : Session × List Publication :=
  let s := { s with documents := s.documents.erase (documentName uri) }.begin
  s.publish (s.timeline.close uri)

/-- Time moves on. -/
def advance (s : Session) (seconds : Float) : Session × List Publication :=
  s.publish (s.timeline.advance s.validation seconds)

/-- The client ends its work. -/
def shutdown (s : Session) : Session :=
  { s with timeline := s.timeline.shutdown }

/-- The queries about a document with the settings of the moment. -/
def context (s : Session) (document : OpenDocument) : Context :=
  ⟨s.service, document.text, document.uri.toList, s.options.resolver⟩

/-- A document that the client asks about. -/
def document (s : Session) (uri : Uri) : Except SessionError OpenDocument :=
  match s.document? uri with
  | some document => .ok document
  | none =>
    match UriParts.ofText uri.toList with
    | .ok parts => .error (.file (fileError parts.filePath))
    | .error e => .error (.uri e)

/-- A position in an open document that the client asks about. The numbers of the
    position are looked at before the document is. -/
def place (s : Session) (uri : Uri) (line character : Number) :
    Except SessionError (OpenDocument × Position) := do
  let asked ← (clientPosition line character).mapError SessionError.client
  let document ← s.document uri
  return (document, (s.clientText document).fromClient asked)

/-- The hover at a position of the client. -/
def hover (s : Session) (uri : Uri) (line character : Number) :
    Except SessionError (Option ClientHover) := do
  let (document, p) ← s.place uri line character
  match ← ((s.context document).hover p.line p.column).mapError SessionError.tokens with
  | some found =>
    return some (← (convertHover (some (s.clientText document)) found).mapError SessionError.client)
  | none => return none

/-- The definition of the name at a position of the client. -/
def definition (s : Session) (uri : Uri) (line character : Number) :
    Except SessionError (Option ClientLocation) := do
  let (document, p) ← s.place uri line character
  let found ← ((s.context document).definition p.line p.column).mapError SessionError.tokens
  match found.definition with
  | some range =>
    return some (← (convertLocation document.uri (some (s.clientText document)) range).mapError
      SessionError.client)
  | none => return none

/-- The references of the name at a position of the client. -/
def references (s : Session) (uri : Uri) (line character : Number) (includeDeclaration : Bool) :
    Except SessionError (List ClientLocation) := do
  let (document, p) ← s.place uri line character
  let found ← ((s.context document).references p.line p.column includeDeclaration).mapError
    SessionError.tokens
  (convertLocations document.uri (some (s.clientText document)) found.references).mapError
    SessionError.client

/-- The colours of a document, in the wire form. -/
def semanticData (s : Session) (uri : Uri) : Except SessionError (List Int) := do
  let document ← s.document uri
  let tokens ← (s.context document).semanticTokens.mapError SessionError.tokens
  let converted ← (convertSemanticTokens (some (s.clientText document)) tokens).mapError
    SessionError.client
  return encodeSemanticTokens converted

end Session

end RiddlEditor
