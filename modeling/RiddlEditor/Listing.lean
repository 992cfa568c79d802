import RiddlEditor.Compiler.Local
import RiddlEditor.Lexeme.Basic
import RiddlEditor.Query

/-!
# Listings

The tokens and findings of a text, line by line, for someone who wants to see what
the analysis sees. Places are counted from zero.

## Main definitions

* `tokenLine`, `tokenListing`: The tokens, numbered.
* `errorListing`: The faults of the text.
* `diagnosticListing`: The diagnostics of the text.
* `fileListing`: All of them, for the text of a file.
-/

namespace RiddlEditor

/-- A text with spaces behind it up to a width. -/
def padEnd (width : Nat) (s : Text) : Text :=
  s ++ List.replicate (width - s.length) ' '

/-- A number with zeros in front of it up to a width. -/
def padNumber (width n : Nat) : Text :=
  DecimalLayout.padded width (Text.ofNat n)

/-- A position as a line of a listing shows it. -/
def placeText (p : Position) : Text :=
  Text.ofNat p.line ++ [':'] ++ Text.ofNat p.column

/-- The line for one token. -/
def tokenLine (index : Nat) (t : Token) : Text :=
  padNumber 3 index ++ [' '] ++ padEnd 12 t.kind.name.toList ++ " at=".toList ++
    placeText t.start ++ " text=".toList ++ t.text.quoted ++ ['\n']

/-- The lines for a token list. -/
def tokenListing (tokens : List Token) : Text :=
  tokens.zipIdx.flatMap fun (t, index) => tokenLine index t

/-- The lines for the faults of a text. -/
def errorListing (errors : List LexError) : Text :=
  "\nErrors:\n".toList ++ errors.flatMap fun e =>
    ['-', ' '] ++ placeText e.start ++ [' '] ++ e.message ++ ['\n']

/-- The lines for diagnostics. -/
def diagnosticListing (diagnostics : List Diagnostic) : Text :=
  "\nDiagnostics:\n".toList ++ diagnostics.flatMap fun d =>
    ['-', ' '] ++ d.range.render ++ [' '] ++ d.severity.name.toList ++ [' ', '['] ++
      d.source ++ [']', ' '] ++ d.message ++ ['\n']

/-- The tokens of a text and, if asked for, its faults. -/
def textListing (text : Text) (withErrors : Bool) : Text :=
  tokenListing (lexTokens text) ++ if withErrors then errorListing (lexErrors text) else []

/-- The listing for the text of a file: tokens, faults and, if asked for, the
    diagnostics of the local service. -/
def fileListing (text origin : Text) (withDiagnostics : Bool) : Text :=
  let read := text.withLineFeeds
  textListing read true ++
    if withDiagnostics then
      diagnosticListing (runValidation localService read origin Options.defaults).diagnostics
    else []

end RiddlEditor
