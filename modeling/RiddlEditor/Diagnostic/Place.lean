import RiddlEditor.Number
import RiddlEditor.Text.Range

/-!
# Reported places

Where a diagnostic stands. Its line is one of the document's, since it was looked up
there. Its column is what the compiler reported, and that may be any number: a fraction,
or a whole number that was given as a floating point number. Such a column is kept, and
it is up to those who receive the diagnostic what they make of it.

Every position and every range of a text is also a reported one.

A stretch of a line that is given by its start and its length may end before it starts,
even if the length is positive: a large start loses its last digits when a length that is
a floating point number is added to it.

## Main definitions

* `ReportedPosition`, `ReportedRange`: A place as it was reported.
* `Position.reported`, `Range.reported`: A place of a text as a reported one.
* `ReportedPosition.key`: What makes two reported positions the same.
* `ColumnSpan`: A stretch of one line.
* `ColumnSpan.ofLength?`: The stretch of a given length.
* `ColumnSpan.isReversed`: Whether a stretch ends before it starts.

## Theorems

* `Position.key_reported_inj`: Positions of a text are told apart by their keys.
* `ColumnSpan.isReversed_ofNat`: A stretch of a text ends at or behind its start.
-/

namespace RiddlEditor

/-- A position as it was reported. -/
structure ReportedPosition where
  line : Nat
  column : Number

/-- Two positions as they were reported. -/
structure ReportedRange where
  start : ReportedPosition
  stop : ReportedPosition

/-- A position of a text as a reported one. -/
def Position.reported (p : Position) : ReportedPosition :=
  ⟨p.line, .whole p.column⟩

/-- A range of a text as a reported one. -/
def Range.reported (r : Range) : ReportedRange :=
  ⟨r.start.reported, r.stop.reported⟩

/-- What makes two reported positions the same: the line and the value of the column,
    whichever kind of number it was given as. -/
def ReportedPosition.key (p : ReportedPosition) : Nat × Option Int :=
  (p.line, p.column.steps?)

theorem Position.key_reported_inj {p q : Position} :
    p.reported.key = q.reported.key ↔ p = q := by
  obtain ⟨line, column⟩ := p
  obtain ⟨line', column'⟩ := q
  simp only [reported, ReportedPosition.key, Prod.mk.injEq, Number.steps?_whole_inj,
    Int.natCast_inj, Position.mk.injEq]

instance (r : ReportedPosition) (p : Position) : Decidable (r = p.reported) :=
  match r with
  | ⟨line, .whole column⟩ =>
    decidable_of_iff (line = p.line ∧ column = p.column) (by
      rw [Position.reported, ReportedPosition.mk.injEq, Number.whole.injEq])
  | ⟨_, .real _⟩ => isFalse fun h => nomatch congrArg ReportedPosition.column h

instance (r : Option ReportedPosition) (p : Position) : Decidable (r = some p.reported) :=
  match r with
  | none => isFalse fun h => nomatch h
  | some r => decidable_of_iff (r = p.reported) Option.some_inj.symm

instance (r : ReportedRange) (q : Range) : Decidable (r = q.reported) :=
  decidable_of_iff (r.start = q.start.reported ∧ r.stop = q.stop.reported) (by
    rw [Range.reported]
    obtain ⟨start, stop⟩ := r
    rw [ReportedRange.mk.injEq])

/-- Two columns of one line. -/
structure ColumnSpan where
  start : Number
  stop : Number

namespace ColumnSpan

/-- The stretch between two columns of a text. -/
def ofNat (start length : Nat) : ColumnSpan :=
  ⟨.whole start, .whole (start + length : Nat)⟩

/-- The stretch of the given length from a column on, if the column of its end can be
    calculated. -/
def ofLength? (column length : Number) : Option ColumnSpan :=
  (column.add? length).map fun stop => ⟨column, stop⟩

/-- Whether a stretch ends before it starts. -/
def isReversed (s : ColumnSpan) : Bool :=
  s.stop.isLess s.start

/-- The range of a stretch on a line. -/
def onLine (s : ColumnSpan) (line : Nat) : ReportedRange :=
  ⟨⟨line, s.start⟩, ⟨line, s.stop⟩⟩

/-- A stretch of a text ends at or behind its start. -/
theorem isReversed_ofNat (start length : Nat) : (ofNat start length).isReversed = false := by
  rw [isReversed, ofNat, Number.isLess_whole, decide_eq_false_iff_not]
  omega

end ColumnSpan

/-- A range as listings show it. -/
def ReportedRange.render (r : ReportedRange) : Text :=
  "SourceRange(".toList ++ Text.ofNat r.start.line ++ [':'] ++ r.start.column.render ++ ['-'] ++
    Text.ofNat r.stop.line ++ [':'] ++ r.stop.column.render ++ [')']

end RiddlEditor
