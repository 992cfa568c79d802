import RiddlEditor.Client.Encoding
import RiddlEditor.Diagnostic.Basic
import RiddlEditor.Hover
import RiddlEditor.SemanticToken

/-!
# Client values

Diagnostics, hovers, locations and colours as a client receives them. Their ranges are
converted to the units of the client, each end by itself; without a document they stay
as they are. A client can hold no fractions and no number beyond 32 bits with a sign, so a
position with such a number is refused before it is converted.

## Main definitions

* `ClientError`: Why a value cannot be sent or read.
* `clientPosition`: A position whose numbers a client can hold.
* `ClientRange`, `convertRange`: A range for a client.
* `convertDiagnostics`, `convertLocations`, `convertHover`,
  `convertSemanticTokens`: The values.
-/

namespace RiddlEditor

/-- Why a value cannot be sent or read. -/
inductive ClientError where
  /-- A line is no whole number or out of bounds. -/
  | line (n : Number)
  /-- A character is no whole number or out of bounds. -/
  | character (n : Number)
  /-- Numbers make no range. -/
  | place (e : PlaceError)

/-- The greatest number of a client. -/
def clientLimit : Nat := 2147483647

/-- The wording for a number that a client cannot hold. -/
def outOfBounds (field : String) (n : Number) : String :=
  "Position." ++ field ++ " should be in range [0:" ++ toString clientLimit ++ "], but was " ++
    String.ofList n.render ++ "."

/-- The wording of an error. -/
def ClientError.message : ClientError → String
  | .line n => outOfBounds "line" n
  | .character n => outOfBounds "character" n
  | .place e => e.message

/-- A number that a client can hold. One that is given as a floating point number is not
    one of them, even if its value is whole. -/
def clientNumber? : Number → Option Nat
  | .whole n => if 0 ≤ n ∧ n ≤ clientLimit then some n.toNat else none
  | .real _ => none

/-- A position whose numbers a client can hold. The line is looked at first. -/
def clientPosition (line character : Number) : Except ClientError Position :=
  match clientNumber? line, clientNumber? character with
  | none, _ => .error (.line line)
  | some _, none => .error (.character character)
  | some l, some c => .ok ⟨l, c⟩

/-- A range for a client. Its ends are converted by themselves. -/
structure ClientRange where
  start : Position
  stop : Position
  deriving DecidableEq, Repr

/-- A position for a client, in the units of a document if there is one. -/
def convertPosition (document : Option ClientText) (p : Position) : Position :=
  match document with
  | some d => d.toClient p
  | none => p

/-- A range for a client. -/
def convertRange (document : Option ClientText) (r : ReportedRange) :
    Except ClientError ClientRange := do
  let start ← clientPosition (.whole r.start.line) r.start.column
  let stop ← clientPosition (.whole r.stop.line) r.stop.column
  return ⟨convertPosition document start, convertPosition document stop⟩

/-- A diagnostic for a client. -/
structure ClientDiagnostic where
  range : ClientRange
  message : Text
  severity : Severity
  source : Text
  code : Value

/-- A diagnostic for a client. -/
def convertDiagnostic (document : Option ClientText) (d : Diagnostic) :
    Except ClientError ClientDiagnostic := do
  let range ← convertRange document d.range
  return ⟨range, d.message, d.severity, d.source, d.code⟩

/-- Diagnostics for a client. -/
def convertDiagnostics (document : Option ClientText) (ds : List Diagnostic) :
    Except ClientError (List ClientDiagnostic) :=
  ds.mapM (convertDiagnostic document)

/-- A range in a document for a client. -/
structure ClientLocation where
  uri : String
  range : ClientRange
  deriving DecidableEq, Repr

/-- A range in a document for a client. -/
def convertLocation (uri : String) (document : Option ClientText) (r : Range) :
    Except ClientError ClientLocation := do
  let range ← convertRange document r.reported
  return ⟨uri, range⟩

/-- Ranges in a document for a client. -/
def convertLocations (uri : String) (document : Option ClientText) (rs : List Range) :
    Except ClientError (List ClientLocation) :=
  rs.mapM (convertLocation uri document)

/-- A hover for a client. -/
structure ClientHover where
  value : Text
  range : ClientRange

/-- A hover for a client. -/
def convertHover (document : Option ClientText) (h : Hover) : Except ClientError ClientHover := do
  let range ← convertRange document h.range.reported
  return ⟨h.contents, range⟩

/-- A semantic token for a client: its column and length in the units of the client, on
    the line it had. -/
def convertSemanticToken (document : Option ClientText) (t : SemanticToken) :
    Except ClientError SemanticToken := do
  let range ← (Range.onLine t.line t.column (t.column + t.length)).mapError ClientError.place
  let converted ← convertRange document range.reported
  return { t with
    column := converted.start.column
    length := (converted.stop.column : Int) - converted.start.column }

/-- Semantic tokens for a client. -/
def convertSemanticTokens (document : Option ClientText) (ts : List SemanticToken) :
    Except ClientError (List SemanticToken) :=
  ts.mapM (convertSemanticToken document)

end RiddlEditor
