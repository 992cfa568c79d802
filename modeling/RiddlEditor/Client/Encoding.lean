import RiddlEditor.Text.Lines
import RiddlEditor.Text.Range

/-!
# Client encodings

How a client counts the characters of a line. Here columns count code points; a client
counts the code units of an encoding, and it splits a document into lines at more
characters than an editor does, so a line here may be several lines there. What a
client calls a line keeps its break.

A position beyond the document or the line is moved to where the document or the line
ends, in either direction.

## Main definitions

* `Encoding`, `Encoding.units`: The encodings, and the units of a character.
* `Text.clientLines`: The lines of a document as clients split it.
* `ClientText`: A document in the eyes of a client.
* `ClientText.toClient`, `ClientText.fromClient`: Positions in either direction.
-/

namespace RiddlEditor

/-- How a client counts the characters of a line. -/
inductive Encoding where
  | utf8
  | utf16
  | utf32
  deriving DecidableEq, Repr

namespace Encoding

/-- The encoding with a name. The encoding of an unknown name is the one that every
    client can use. -/
def ofName (s : String) : Encoding :=
  if s = "utf-8" then utf8 else if s = "utf-32" then utf32 else utf16

/-- The number of code units of a character. -/
def units : Encoding → Char → Nat
  | utf8, c =>
    if c.toNat < 0x80 then 1 else if c.toNat < 0x800 then 2 else if c.toNat < 0x10000 then 3 else 4
  | utf16, c => if c.toNat < 0x10000 then 1 else 2
  | utf32, _ => 1

/-- The number of code units of a text. -/
def width (e : Encoding) : Text → Nat
  | [] => 0
  | c :: rest => e.units c + e.width rest

/-- The number of characters that it takes to reach a number of code units. A number
    that ends within a character takes the whole character. -/
def reach (e : Encoding) : Nat → Text → Nat
  | 0, _ => 0
  | _ + 1, [] => 0
  | n + 1, c :: rest => e.reach (n + 1 - e.units c) rest + 1

end Encoding

/-- Whether a character ends a line of a client. -/
def isClientBreak (c : Char) : Bool :=
  isLineBreak c || c == '\x0b' || c == '\x0c' || c == '\x1c' || c == '\x1d' || c == '\x1e' ||
    c == '\u0085' || c == '\u2028' || c == '\u2029'

/-- The lines of a document as clients split it, each with its break. No line follows
    a break at the end, and the empty document has no lines. -/
def Text.clientLines : Text → List Text
  | [] => []
  | '\r' :: '\n' :: rest => ['\r', '\n'] :: clientLines rest
  | c :: rest => if isClientBreak c then [c] :: clientLines rest else pushFirst c (clientLines rest)

/-- A document in the eyes of a client. -/
structure ClientText where
  lines : List Text
  encoding : Encoding
  deriving DecidableEq, Repr

/-- A line whose break is a single character. -/
def withSingleBreak : Text → Text
  | [] => []
  | '\r' :: '\n' :: rest => '\n' :: withSingleBreak rest
  | c :: rest => c :: withSingleBreak rest

namespace ClientText

/-- A document in the eyes of a client with the given encoding. -/
def ofText (s : Text) (encoding : Encoding) : ClientText :=
  ⟨s.clientLines, encoding⟩

/-- A position for the client. What lies behind the end of a line is its end; what lies
    behind the last line is the line after it. -/
def toClient (d : ClientText) (p : Position) : Position :=
  match d.lines[p.line]? with
  | some line => ⟨p.line, d.encoding.width (line.take p.column)⟩
  | none => ⟨d.lines.length, 0⟩

/-- The number of units that are taken of a line with the given width. What lies behind
    the line counts as the place before its last unit. -/
def clipUnits (width units : Nat) : Nat :=
  if units > width then width - 1 else units

/-- A position from the client. What lies behind the last line is the end of it, in units
    of the client. -/
def fromClient (d : ClientText) (p : Position) : Position :=
  match d.lines[p.line]? with
  | some line =>
    let shown := withSingleBreak line
    ⟨p.line, d.encoding.reach (clipUnits (d.encoding.width shown) p.column) shown⟩
  | none =>
    match d.lines.getLast? with
    | some last => ⟨d.lines.length - 1, d.encoding.width last⟩
    | none => Position.origin

end ClientText

end RiddlEditor
