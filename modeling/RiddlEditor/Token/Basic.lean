import RiddlEditor.Text.Range
import RiddlEditor.Token.Kind

/-!
# Tokens

A classified piece of a document at its place. The offsets are kept as the service
reports them, since nothing here counts on them; the local service reports the
offset of the first character and the offset behind the last one.

A token occupies as many columns of its first line as it has characters. A block
comment that runs over several lines is no exception: its range goes on to the
right instead of down.

## Main definitions

* `Token`: A token at its place.
* `LocationError`, `checkLocation`: When numbers make no location of a token.
* `Token.ofParts`: A token from numbers that come from outside.
* `Token.range`: The range of a token.
* `Token.spans`: Whether a token covers a position.
* `findTokenAt`: The first token that covers a position.
-/

namespace RiddlEditor

/-- A token at its place. -/
structure Token where
  text : Text
  kind : TokenKind
  start : Position
  offset : Value
  endOffset : Value

/-- Why numbers make no location of a token. -/
inductive LocationError where
  /-- The line or the column is negative. -/
  | negative
  /-- The end offset is smaller than the offset. -/
  | reversedOffsets
  /-- The offsets cannot be compared. -/
  | incomparableOffsets
  deriving DecidableEq, Repr

/-- The wording of a refusal, where it has one. -/
def LocationError.message? : LocationError → Option String
  | .negative => some "TokenLocation cannot be negative"
  | .reversedOffsets => some "TokenLocation invariant violated: offset > end_offset"
  | .incomparableOffsets => none

/-- Whether an end offset is smaller than an offset. A missing one is not; two that
    cannot be compared are refused. -/
def reversedOffsets? : Value → Value → Option Bool
  | .null, _ => some false
  | _, .null => some false
  | offset, endOffset => endOffset.less? offset

/-- The position of a token, if its numbers make a location. -/
def checkLocation (line column : Int) (offset endOffset : Value) : Except LocationError Position :=
  if line < 0 ∨ column < 0 then .error .negative
  else
    match reversedOffsets? offset endOffset with
    | none => .error .incomparableOffsets
    | some true => .error .reversedOffsets
    | some false => .ok ⟨line.toNat, column.toNat⟩

namespace Token

/-- A token from numbers that come from outside. -/
def ofParts (text : Text) (kind : TokenKind) (line column : Int) (offset endOffset : Value) :
    Except LocationError Token := do
  let start ← checkLocation line column offset endOffset
  return ⟨text, kind, start, offset, endOffset⟩

/-- The number of characters of a token. -/
def length (t : Token) : Nat :=
  t.text.length

/-- The range of a token, on its first line. -/
def range (t : Token) : Range :=
  Range.span t.start t.length

/-- Whether a token covers a position. -/
def spans (t : Token) (line column : Int) : Bool :=
  t.start.line = line ∧ t.start.column ≤ column ∧ column < t.start.column + t.length

/-- Whether one token starts at the position of another or before it. -/
def startsBefore (a b : Token) : Bool :=
  a.start ≤ b.start

theorem startsBefore_trans (a b c : Token) (hab : a.startsBefore b = true)
    (hbc : b.startsBefore c = true) : a.startsBefore c = true :=
  decide_eq_true (Position.le_trans (of_decide_eq_true hab) (of_decide_eq_true hbc))

theorem startsBefore_total (a b : Token) : (a.startsBefore b || b.startsBefore a) = true := by
  simp only [startsBefore, Bool.or_eq_true, decide_eq_true_eq]
  exact Position.le_total _ _

end Token

/-- The first token that covers a position. -/
def findTokenAt (tokens : List Token) (line column : Int) : Option Token :=
  tokens.find? fun t => t.spans line column

/-- The entry of a list at an index, where a negative index counts from the end. -/
def entryAt? {α : Type} (entries : List α) (index : Int) : Option α :=
  if 0 ≤ index then entries[index.toNat]?
  else if 0 ≤ entries.length + index then entries[(entries.length + index).toNat]?
  else none

end RiddlEditor
