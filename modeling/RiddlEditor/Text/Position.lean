/-!
# Positions

A place in a document as a line and a column, both counted from zero. Positions
are ordered as a reader meets them: by line, then by column.

Numbers that come from outside may be negative, and no position is made of
those. `Position.ofInts` is the one way in, and it says why it refuses.

## Main definitions

* `Position`: A line and a column.
* `PlaceError`: Why numbers make no position or range.
* `Position.ofInts`: The position with the given numbers.
* `Position.compare`: The order of two positions.
* `Position.render`: A position as listings show it.
-/

namespace RiddlEditor

/-- A line and a column, counted from zero. -/
structure Position where
  line : Nat
  column : Nat
  deriving DecidableEq, Repr, Inhabited

/-- Why numbers make no position or range. -/
inductive PlaceError where
  /-- A position has a negative line or column. -/
  | negativePosition
  /-- A range has a negative line or column. -/
  | negativeRange
  /-- A range ends before it starts. -/
  | reversedRange
  deriving DecidableEq, Repr

/-- The wording of a refusal. -/
def PlaceError.message : PlaceError → String
  | .negativePosition => "SourcePosition cannot be negative"
  | .negativeRange => "SourceRange positions cannot be negative"
  | .reversedRange => "SourceRange invariant violated: start > end"

namespace Position

instance : LE Position :=
  ⟨fun a b => a.line < b.line ∨ a.line = b.line ∧ a.column ≤ b.column⟩

instance : LT Position :=
  ⟨fun a b => a.line < b.line ∨ a.line = b.line ∧ a.column < b.column⟩

instance (a b : Position) : Decidable (a ≤ b) :=
  inferInstanceAs (Decidable (a.line < b.line ∨ a.line = b.line ∧ a.column ≤ b.column))

instance (a b : Position) : Decidable (a < b) :=
  inferInstanceAs (Decidable (a.line < b.line ∨ a.line = b.line ∧ a.column < b.column))

theorem le_def {a b : Position} :
    a ≤ b ↔ a.line < b.line ∨ a.line = b.line ∧ a.column ≤ b.column :=
  Iff.rfl

theorem lt_def {a b : Position} :
    a < b ↔ a.line < b.line ∨ a.line = b.line ∧ a.column < b.column :=
  Iff.rfl

theorem le_refl (a : Position) : a ≤ a :=
  Or.inr ⟨rfl, Nat.le_refl _⟩

theorem le_trans {a b c : Position} (hab : a ≤ b) (hbc : b ≤ c) : a ≤ c := by
  simp only [le_def] at *
  omega

theorem le_total (a b : Position) : a ≤ b ∨ b ≤ a := by
  simp only [le_def]
  omega

theorem not_le {a b : Position} : ¬a ≤ b ↔ b < a := by
  simp only [le_def, lt_def]
  omega

/-- The start of every document. -/
def origin : Position :=
  ⟨0, 0⟩

/-- The position with the given numbers, if neither is negative. -/
def ofInts (line column : Int) : Except PlaceError Position :=
  if line < 0 ∨ column < 0 then .error .negativePosition
  else .ok ⟨line.toNat, column.toNat⟩

/-- The order of two positions, by line and then by column. -/
def compare (a b : Position) : Ordering :=
  (Ord.compare a.line b.line).then (Ord.compare a.column b.column)

/-- A position as listings show it. -/
def render (p : Position) : String :=
  "SourcePosition(" ++ toString p.line ++ ", " ++ toString p.column ++ ")"

end Position

end RiddlEditor
