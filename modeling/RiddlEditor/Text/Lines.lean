import RiddlEditor.Text.Position
import RiddlEditor.Text.Basic

/-!
# Lines

The lines of a document as an editor counts them. A line feed, a carriage return
and the pair of both each end one line, and a break at the end of the text opens
one more, empty line. So a document has one line more than it has breaks, and
never none.

`positionOf` finds the line and column of an offset in another way, by counting
the breaks in front of it; it knows nothing of the list of lines.

## Main definitions

* `Text.lines`: The lines of a text, without their breaks.
* `Text.withLineFeeds`: A text with every line break written as a line feed.
* `Lines`: A text with its lines.
* `Lines.line?`, `Lines.lineAt`: One line, for a line number from outside or
  inside.
* `Lines.endPosition`: The position behind the last character.
* `countBreaks`: The number of line breaks before an offset.
* `positionOf`: The line and column of an offset.
* `placeOf`: The position of an offset of the text itself.
-/

namespace RiddlEditor

/-- A list of lines whose first line has one more character at its start. -/
def pushFirst (c : Char) : List Text → List Text
  | [] => [[c]]
  | first :: rest => (c :: first) :: rest

/-- The lines of a text, without their breaks. -/
def Text.lines : Text → List Text
  | [] => [[]]
  | '\r' :: '\n' :: rest => [] :: lines rest
  | c :: rest => if isLineBreak c then [] :: lines rest else pushFirst c (lines rest)

/-- A text with every line break written as a line feed. -/
def Text.withLineFeeds : Text → Text
  | [] => []
  | '\r' :: '\n' :: rest => '\n' :: withLineFeeds rest
  | c :: rest => (if c = '\r' then '\n' else c) :: withLineFeeds rest

/-- A text with its lines. -/
structure Lines where
  text : Text
  lines : List Text

/-- The line number of a request and the number of lines there are. -/
structure LineError where
  line : Int
  count : Nat
  deriving DecidableEq, Repr

/-- The wording of a request for a line that is not there. -/
def lineErrorMessage (line : String) (count : Nat) : String :=
  "Line " ++ line ++ " is outside the document (" ++ toString count ++ " lines)"

/-- The wording of a request for a line that is not there. -/
def LineError.message (e : LineError) : String :=
  lineErrorMessage (toString e.line) e.count

namespace Lines

/-- The lines of a document. -/
def ofText (s : Text) : Lines :=
  ⟨s, s.lines⟩

/-- The number of lines. -/
def count (d : Lines) : Nat :=
  d.lines.length

/-- Whether a line number from outside is the number of a line. -/
def has (d : Lines) (line : Int) : Bool :=
  0 ≤ line ∧ line < d.count

/-- The line with a number from outside. -/
def line? (d : Lines) (line : Int) : Except LineError Text :=
  if line < 0 then .error ⟨line, d.count⟩
  else
    match d.lines[line.toNat]? with
    | some s => .ok s
    | none => .error ⟨line, d.count⟩

/-- The position behind the last character. -/
def endPosition (d : Lines) : Position :=
  ⟨d.count - 1, (d.lines.getLast?.getD []).length⟩

end Lines

/-- The number of line breaks that end before the offset `stop`. A carriage return
    counts if no line feed follows it anywhere in the text, so the offset between
    the two halves of a pair has not passed a break. -/
def countBreaks : Nat → Text → Nat
  | 0, _ => 0
  | _ + 1, [] => 0
  | stop + 1, c :: rest =>
    (if c = '\n' ∨ c = '\r' ∧ rest.head? ≠ some '\n' then 1 else 0) + countBreaks stop rest

/-- The offset behind the last line feed or carriage return before the end of
    `s`, or zero. -/
def lastLineStart (s : Text) : Nat :=
  s.length - (s.reverse.takeWhile fun c => !isLineBreak c).length

/-- The place in a text that an offset from outside cuts it at: a negative offset
    counts from the end, and what lies beyond either end is that end. -/
def cutIndex (s : Text) (offset : Int) : Nat :=
  if offset < 0 then (s.length + offset).toNat else min offset.toNat s.length

/-- The line and column of an offset. The line is found in front of the place where
    the offset cuts the text; the column is the distance of the offset itself, so
    it is not bounded by the text. -/
def positionOf (s : Text) (offset : Int) : Nat × Int :=
  let stop := cutIndex s offset
  (countBreaks stop s, offset - lastLineStart (s.take stop))

/-- The position of an offset of the text itself. -/
def placeOf (s : Text) (offset : Nat) : Position :=
  let (line, column) := positionOf s offset
  ⟨line, column.toNat⟩

end RiddlEditor
