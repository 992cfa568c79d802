import RiddlEditor.Diagnostic.Place
import RiddlEditor.Diagnostic.QuotedName
import RiddlEditor.Value

/-!
# Highlights

A compiler reports where it noticed something, and an editor wants to underline what
the message is about. The choice goes down a list: the definition that the message
names, if its name stands in the line; the span between the reported offsets; the
end of the line, if the column is not in it; the word under the column; and the single
character there.

A name is looked for from a little before the reported column on, since compilers
report some columns too far right, and then in the whole line.

A reported column may be a fraction. It lies in a word if its whole part does, but no
search can start at a column that is not a whole number.

## Main definitions

* `Highlight`: What is underlined, and why.
* `HighlightError`: Why nothing can be underlined.
* `namedHighlight?`: The place of a definition that a message names.
* `wordHighlight`: The word under a column.
* `highlight`: The choice.
* `Highlight.columns`, `Highlight.range`: The columns and the range of a highlight.
* `resolveColumns`: The columns of the choice, for numbers that come from outside.
-/

namespace RiddlEditor

/-- What is underlined on a line. -/
inductive Highlight where
  /-- The name of a definition. -/
  | name (column length : Nat)
  /-- The reported span, from the reported column on. -/
  | span (length : Number)
  /-- The end of the line. -/
  | lineEnd (column : Nat)
  /-- The word under the reported column. -/
  | word (column length : Nat)
  /-- The character at the reported column. -/
  | character

/-- Why nothing can be underlined. -/
inductive HighlightError where
  /-- The offsets are no numbers, or a search would start at a fraction. -/
  | illTyped
  /-- A number is too large to be calculated with. -/
  | overflow
  /-- The line or the column is negative, or the end is in front of the start. -/
  | place (e : PlaceError)
  deriving DecidableEq, Repr

/-- The characters of a word under the cursor. -/
def isIdentifierChar (c : Char) : Bool :=
  c.isAlphanum || c == '_' || c == '-'

/-- The place of a name in a line: its first occurrence from `first` on or, if there is
    none, its first occurrence. -/
def placeOfName? (line : Text) (first : Nat) (name : Text) : Option Highlight :=
  let columns := nameOccurrences line name
  ((columns.find? fun column => first ≤ column).or columns.head?).map fun column =>
    .name column name.length

/-- The column from which on a name is looked for, a little before the reported one. What
    would be in front of the line is its start. -/
def searchStart (column backoff : Number) : Except HighlightError Nat :=
  match column.sub? backoff with
  | none => .error .overflow
  | some (.whole n) => .ok n.toNat
  | some (.real x) => if Number.isLess (.whole 0) (.real x) then .error .illTyped else .ok 0

/-- The place of the first definition that a message names and the line shows. Where to
    look is of no interest for a message that names none. -/
def namedHighlight? (message line : Text) (column backoff : Number) :
    Except HighlightError (Option Highlight) :=
  match (quotedNames message).flatMap nameCandidates with
  | [] => .ok none
  | candidates => do
    let first ← searchStart column backoff
    return candidates.findSome? (placeOfName? line first)

/-- The word under a column, or the character there if it belongs to none. -/
def wordHighlight (line : Text) (column : Nat) : Highlight :=
  let before := line.take column
  let after := line.drop column
  if after.head?.any isIdentifierChar then
    let left := (before.reverse.takeWhile isIdentifierChar).length
    let right := (after.takeWhile isIdentifierChar).length
    .word (before.length - left) (left + right)
  else .character

/-- What is underlined if the message names no definition of the line. The span is the
    difference of the reported offsets, and at least one character. A column that is
    negative or no number at all lies neither in a word nor behind the line. -/
def fallbackHighlight (line : Text) (column : Number) : Option Number → Highlight
  | some difference => .span (Number.max (.whole 1) difference)
  | none =>
    match column.compare? (.whole line.length) with
    | some .lt => if column.isNegative then .character else wordHighlight line column.floor.toNat
    | some _ => .lineEnd line.length
    | none => .character

/-- The difference of two reported offsets, if both are given. -/
def offsetSpan? (offset endOffset : Value) : Except HighlightError (Option Number) :=
  match offset, endOffset with
  | .null, _ => .ok none
  | _, .null => .ok none
  | _, _ =>
    match offset.number?, endOffset.number? with
    | some first, some last =>
      match last.sub? first with
      | some difference => .ok (some difference)
      | none => .error .overflow
    | _, _ => .error .illTyped

/-- What is underlined for a message. The offsets are looked at only if the message
    names no definition of the line. -/
def highlight (message line : Text) (column : Number) (offset endOffset : Value)
    (backoff : Number) : Except HighlightError Highlight := do
  match ← namedHighlight? message line column backoff with
  | some found => return found
  | none => return fallbackHighlight line column (← offsetSpan? offset endOffset)

/-- The columns of the given length from a reported one on. -/
def columnsFrom (column length : Number) : Except HighlightError ColumnSpan :=
  match ColumnSpan.ofLength? column length with
  | some span => .ok span
  | none => .error .overflow

/-- The columns of a highlight, for a reported column. -/
def Highlight.columns (column : Number) : Highlight → Except HighlightError ColumnSpan
  | .name start length => .ok (.ofNat start length)
  | .span length => columnsFrom column length
  | .lineEnd start => .ok (.ofNat start 0)
  | .word start length => .ok (.ofNat start length)
  | .character => columnsFrom column (.whole 1)

/-- Columns in order. -/
def inOrderColumns (span : ColumnSpan) : Except HighlightError ColumnSpan :=
  if span.isReversed then .error (.place .reversedRange) else .ok span

/-- The range of a highlight on a line, for a reported column. -/
def Highlight.range (line : Nat) (column : Number) (found : Highlight) :
    Except HighlightError ReportedRange := do
  let span ← inOrderColumns (← found.columns column)
  return span.onLine line

/-- Whether the range of a highlight starts at the reported column. -/
def Highlight.startsAtColumn : Highlight → Bool
  | .span _ => true
  | .character => true
  | _ => false

/-- The refusal of a negative line. -/
def Highlight.lineError : Highlight → PlaceError
  | .lineEnd _ => .negativePosition
  | _ => .negativeRange

/-- The columns that are underlined for a message, for numbers that come from outside. The
    text of the line comes from outside too, so its number is only held to be one of a
    line. -/
def resolveColumns (message lineText : Text) (line column : Number)
    (offset endOffset : Value) (backoff : Number) : Except HighlightError ColumnSpan := do
  let found ← highlight message lineText column offset endOffset backoff
  let span ← found.columns column
  if line.isNegative then .error (.place found.lineError)
  else if column.isNegative && found.startsAtColumn then .error (.place .negativeRange)
  else inOrderColumns span

end RiddlEditor
