import RiddlEditor.Text.Position

/-!
# Ranges

The stretch of a document between two positions, the end excluded. A range never
ends before it starts; the type carries that fact, so only numbers that come
from outside have to be checked, which `Range.ofInts` does.

## Main definitions

* `Range`: Two positions in order.
* `Range.ofInts`: The range with the given numbers.
* `Range.span`: The range of a given length on one line.
* `Range.contains`: Whether a position lies in a range.
* `Range.compare`: The order of two ranges, by start and then by end.
* `Range.render`: A range as listings show it.
-/

namespace RiddlEditor

/-- Two positions in order. The second one is the first that is outside. -/
structure Range where
  start : Position
  stop : Position
  ordered : start ≤ stop
  deriving DecidableEq

namespace Range

/-- The range with the given numbers, if none is negative and the start is not
    after the end. -/
def ofInts (startLine startColumn stopLine stopColumn : Int) : Except PlaceError Range :=
  if startLine < 0 ∨ startColumn < 0 ∨ stopLine < 0 ∨ stopColumn < 0 then .error .negativeRange
  else
    let start : Position := ⟨startLine.toNat, startColumn.toNat⟩
    let stop : Position := ⟨stopLine.toNat, stopColumn.toNat⟩
    if h : start ≤ stop then .ok ⟨start, stop, h⟩ else .error .reversedRange

/-- The range of the given length that starts at a position and stays on its
    line. -/
def span (p : Position) (length : Nat) : Range :=
  ⟨p, ⟨p.line, p.column + length⟩, Or.inr ⟨rfl, Nat.le_add_right _ _⟩⟩

/-- The range between two columns of one line, for numbers from outside. -/
def onLine (line start stop : Int) : Except PlaceError Range :=
  ofInts line start line stop

/-- The range of the given length at a place, for numbers from outside. -/
def ofLength (line column length : Int) : Except PlaceError Range := do
  let p ← Position.ofInts line column
  onLine p.line p.column (p.column + length)

/-- The range without any character at a position. -/
def empty (p : Position) : Range :=
  span p 0

/-- Whether no character lies in the range. -/
def isEmpty (r : Range) : Bool :=
  r.start = r.stop

/-- Whether the range starts and ends on one line. -/
def isSingleLine (r : Range) : Bool :=
  r.start.line = r.stop.line

/-- Whether a position lies in the range, the end excluded. -/
def contains (r : Range) (p : Position) : Bool :=
  r.start ≤ p ∧ p < r.stop

/-- The order of two ranges, by start and then by end. -/
def compare (a b : Range) : Ordering :=
  (a.start.compare b.start).then (a.stop.compare b.stop)

/-- A range as listings show it. -/
def render (r : Range) : String :=
  "SourceRange(" ++ toString r.start.line ++ ":" ++ toString r.start.column ++ "-" ++
    toString r.stop.line ++ ":" ++ toString r.stop.column ++ ")"

end Range

end RiddlEditor
