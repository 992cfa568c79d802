import RiddlEditor.Lexeme.Basic
import RiddlEditor.Text.Lines

/-!
# Scanners

A text with a note of how far it has been read. A text is read all at once, so it is
either untouched or finished; reading it again finds nothing more, and its faults
are known only once it has been read.

## Main definitions

* `Scanner`: A text that is read once.
* `Scanner.lex`: The tokens that are still unread, and the finished scanner.
* `Scanner.errors`: The faults found so far.
* `Scanner.isAtEnd`: Whether nothing is left to read.
-/

namespace RiddlEditor

/-- A text that is read once. -/
structure Scanner where
  source : Text
  finished : Bool
  deriving DecidableEq, Repr

namespace Scanner

/-- A scanner in front of a text. -/
def ofText (s : Text) : Scanner :=
  ⟨s, false⟩

/-- The tokens that are still unread, and the scanner behind them. -/
def lex (scanner : Scanner) : List Token × Scanner :=
  (if scanner.finished then [] else lexTokens scanner.source, ⟨scanner.source, true⟩)

/-- The faults found so far. -/
def errors (scanner : Scanner) : List LexError :=
  if scanner.finished then lexErrors scanner.source else []

/-- Whether nothing is left to read. -/
def isAtEnd (scanner : Scanner) : Bool :=
  scanner.finished || scanner.source.isEmpty

end Scanner

end RiddlEditor
