import RiddlEditor.Compiler.Brackets
import RiddlEditor.Compiler.Definitions
import RiddlEditor.Compiler.Service
import RiddlEditor.Lexeme.Basic
import RiddlEditor.Text.Lines

/-!
# The local service

A compiler service that needs no compiler. It cuts a text into its lexemes and
checks what can be seen from them: faults of lexemes and brackets first and, only
if there are none, definitions that are repeated or empty.

## Main definitions

* `localTokens`: The tokens of a text, as a service reports them.
* `localMessages`: The findings about a text.
* `localService`: The service.

## Theorems

* `succeeded_iff`: When the service succeeds.
-/

namespace RiddlEditor

/-- A location as the service reports it, from a position. -/
def serviceLocation (p : Position) (offset endOffset : Value) (origin : Text) : ServiceLocation :=
  ⟨.int (p.line + 1), .int (p.column + 1), some offset, some endOffset, .text origin⟩

/-- A lexeme as the service reports it. -/
def Lexeme.toServiceToken (origin : Text) (l : Lexeme) : ServiceToken :=
  ⟨.text l.text, .text l.kind.name.toList,
    some (serviceLocation l.start (.int l.offset) (.int l.stop) origin)⟩

/-- A message in the form that was asked for: plain, or in a colour. -/
def presented (plain : Bool) (colour : Colour) (message : Text) : Text :=
  if plain then message else message.coloured colour

/-- The kind of errors. -/
def errorKind : Value := .text "Error".toList

/-- The kind of warnings about something that is missing. -/
def missingKind : Value := .text "MissingWarning".toList

/-- The message about the fault of a lexeme. -/
def LexError.toMessage (origin : Text) (plain : Bool) (e : LexError) : ServiceMessage :=
  ⟨some errorKind, .text (presented plain .red e.message),
    some (serviceLocation e.start (.int e.offset) (.int e.stop) origin)⟩

/-- The location of a bracket fault: that of the bracket, or the end of the source for
    a bracket that is not closed. -/
def BracketFault.location (source origin : Text) : BracketFault → ServiceLocation
  | .unexpected closer => serviceLocation closer.start closer.offset closer.endOffset origin
  | .mismatched _ closer => serviceLocation closer.start closer.offset closer.endOffset origin
  | .unclosed _ _ => serviceLocation (placeOf source source.length) .null .null origin

/-- The message about a bracket fault. -/
def BracketFault.toMessage (source origin : Text) (plain : Bool) (f : BracketFault) :
    ServiceMessage :=
  ⟨some errorKind, .text (presented plain .red f.message), some (f.location source origin)⟩

/-- A message about a definition, at its keyword. -/
def Definition.toMessage (kind : Value) (message origin : Text) (d : Definition) :
    ServiceMessage :=
  ⟨some kind, .text message, some (serviceLocation d.keyword.start .null .null origin)⟩

/-- The messages about lexemes and brackets. -/
def syntaxMessages (source origin : Text) (plain : Bool) : List ServiceMessage :=
  (lexErrors source).map (LexError.toMessage origin plain) ++
    (bracketFaults (lexTokens source)).map (BracketFault.toMessage source origin plain)

/-- The messages about definitions. -/
def definitionMessages (tokens : List Token) (origin : Text) (plain : Bool) :
    ValidationMessages :=
  let ds := definitions tokens
  { errors := (duplicates ds).map fun d =>
      d.toMessage errorKind (presented plain .red d.duplicateMessage) origin
    warnings := (ds.filter (Definition.isEmpty tokens)).map fun d =>
      d.toMessage missingKind (presented plain .yellow d.emptyMessage) origin
    info := [] }

/-- The tokens and faults of a text, as the service reports them. -/
def localTokens (source origin : Text) : TokenizeResult :=
  { succeeded := true
    tokens := (lexemes source).map (Lexeme.toServiceToken origin)
    errors := (lexErrors source).map (LexError.toMessage origin true) }

/-- The findings about a text. Definitions are only looked at in a text without syntax
    errors. -/
def localMessages (source origin : Text) (plain : Bool) : ValidateResult :=
  match syntaxMessages source origin plain with
  | [] =>
    { succeeded := true
      syntaxErrors := []
      messages := some (definitionMessages (lexTokens source) origin plain) }
  | errors =>
    { succeeded := false
      syntaxErrors := errors
      messages := none }

/-- The local service succeeds exactly if it has nothing to say about lexemes and brackets. -/
theorem succeeded_iff (source origin : Text) (plain : Bool) :
    (localMessages source origin plain).succeeded = true ↔
      lexErrors source = [] ∧ bracketFaults (lexTokens source) = [] := by
  have hnone : syntaxMessages source origin plain = [] ↔
      lexErrors source = [] ∧ bracketFaults (lexTokens source) = [] := by
    rw [syntaxMessages, List.append_eq_nil_iff, List.map_eq_nil_iff, List.map_eq_nil_iff]
  rw [← hnone, localMessages]
  split
  case h_1 h => exact ⟨fun _ => h, fun _ => rfl⟩
  case h_2 h => exact ⟨fun hfalse => absurd hfalse Bool.false_ne_true, fun hnil => absurd hnil h⟩

/-- The service that needs no compiler. -/
def localService : Service where
  tokenize source origin := .ok (localTokens source origin)
  validate source origin plain := .ok (localMessages source origin plain)

end RiddlEditor
