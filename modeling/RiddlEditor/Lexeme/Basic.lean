import RiddlEditor.Text.ControlSequence
import RiddlEditor.Text.Lines
import RiddlEditor.Token.Basic
import RiddlEditor.Vocabulary.Words
import RiddlEditor.Text.WordChar

/-!
# Lexemes

The pieces that a source text is cut into. What lies between them is a gap of
blanks; nothing else is skipped, and comments are lexemes too. Characters that
belong to no lexeme and literals that are not closed become lexemes with a fault,
so that the rest of the text is read all the same.

`readLexeme` decides from the first character and what follows it how long a
lexeme is. It answers with the number of characters behind the first, so a lexeme
is never empty.

`Cursor` keeps the line and where it starts while the text goes by. It looks for line
breaks in gaps and in block comments only; over every other lexeme it just moves on,
which is right as long as none of them holds a line break. The place of a fault is
counted anew from the start of the text.

## Main definitions

* `Fault`: What can be wrong with a lexeme.
* `Reading`, `readLexeme`: The lexical grammar.
* `Cursor`: A place in a text that is being read.
* `Lexeme`: A lexeme at its place.
* `lexemes`: The lexemes of a text.
* `LexError`, `lexErrors`: The faults of a text, in order.
-/

namespace RiddlEditor

/-- What can be wrong with a lexeme. -/
inductive Fault where
  /-- No lexeme starts with the character. -/
  | unexpectedCharacter (c : Char)
  /-- A block comment runs to the end of the text. -/
  | unterminatedComment
  /-- A string literal ends with its line or with the text. -/
  | unterminatedString
  deriving DecidableEq, Repr

/-- The wording of a fault. -/
def Fault.message : Fault → Text
  | .unexpectedCharacter c => "Unexpected character '".toList ++ [c, '\'']
  | .unterminatedComment => "Unterminated block comment".toList
  | .unterminatedString => "Unterminated string literal".toList

/-- How a lexeme is read: its kind, the number of characters behind the first, what is
    wrong with it, and whether it may go over several lines. -/
structure Reading where
  kind : TokenKind
  more : Nat
  fault : Option Fault
  multiline : Bool
  deriving DecidableEq, Repr

/-- The blanks that may stand between lexemes. -/
def isGap (c : Char) : Bool :=
  c == ' ' || c == '\t' || c == '\n' || c == '\r' || c == '\x0c'

/-- The characters that are lexemes by themselves. -/
def punctuationMarks : List Char :=
  "\x7b\x7d()[],:;.=?+*|<>@!&/-#%^~".toList

/-- The number of characters through the first end mark of a block comment. -/
def commentEnd? : Text → Option Nat
  | [] => none
  | [_] => none
  | c :: d :: rest =>
    if c = '*' ∧ d = '/' then some 2 else (commentEnd? (d :: rest)).map (· + 1)

/-- The number of characters of a string literal behind its opening quote, and
    whether it is closed. A backslash takes the next character with it unless that
    ends the line. -/
def stringEnd : Text → Nat × Bool
  | [] => (0, false)
  | '"' :: _ => (1, true)
  | ['\\'] => (1, false)
  | '\\' :: c :: rest =>
    if isLineBreak c then (1, false)
    else
      let (n, closed) := stringEnd rest
      (n + 2, closed)
  | c :: rest =>
    if isLineBreak c then (0, false)
    else
      let (n, closed) := stringEnd rest
      (n + 1, closed)

/-- The number of characters of a number behind its first digit. A point belongs to
    the number if a digit follows it, and only one point does. -/
def numberEnd (rest : Text) : Nat :=
  let whole := (rest.takeWhile isDigit).length
  match rest.dropWhile isDigit with
  | '.' :: d :: more => if isDigit d then whole + 2 + (more.takeWhile isDigit).length else whole
  | _ => whole

/-- The kind of a word, by its exact spelling. -/
def wordKind (word : Text) : TokenKind :=
  if keywords.contains word then .keyword
  else if readabilityWords.contains word then .readability
  else if predefinedTypes.contains word then .predefined
  else .identifier

/-- The lexeme that starts with `c` and goes on in `rest`. -/
def readLexeme (c : Char) (rest : Text) : Reading :=
  if c = '/' ∧ rest.head? = some '/' then
    ⟨.comment, (rest.takeWhile fun d => !isLineBreak d).length, none, false⟩
  else if c = '/' ∧ rest.head? = some '*' then
    match commentEnd? (rest.drop 1) with
    | some n => ⟨.comment, n + 1, none, true⟩
    | none => ⟨.comment, rest.length, some .unterminatedComment, true⟩
  else if c = '"' then
    let (n, closed) := stringEnd rest
    ⟨.string, n, if closed then none else some .unterminatedString, false⟩
  else if isDigit c then ⟨.number, numberEnd rest, none, false⟩
  else if isWordStart c then
    let tail := rest.takeWhile isWordChar
    ⟨wordKind (c :: tail), tail.length, none, false⟩
  else if c = '?' ∧ rest.take 2 = ['?', '?'] then ⟨.punctuation, 2, none, false⟩
  else if punctuationMarks.contains c then ⟨.punctuation, 0, none, false⟩
  else ⟨.other, 0, some (.unexpectedCharacter c), false⟩

/-- A place in a text that is being read: its offset, its line, and the offset at which
    the line starts. -/
structure Cursor where
  offset : Nat
  line : Nat
  lineStart : Nat
  deriving DecidableEq, Repr

namespace Cursor

/-- The start of a text. -/
def start : Cursor :=
  ⟨0, 0, 0⟩

/-- The line and the column of a place. -/
def position (cursor : Cursor) : Position :=
  ⟨cursor.line, cursor.offset - cursor.lineStart⟩

/-- The place `n` characters further on, on the same line. -/
def skip (cursor : Cursor) (n : Nat) : Cursor :=
  { cursor with offset := cursor.offset + n }

/-- The place behind a line break of `n` characters. -/
def breakLine (cursor : Cursor) (n : Nat) : Cursor :=
  ⟨cursor.offset + n, cursor.line + 1, cursor.offset + n⟩

/-- The place behind a text that may hold line breaks. A carriage return and the line feed
    behind it are passed in one go. -/
def through (cursor : Cursor) : Text → Cursor
  | [] => cursor
  | '\r' :: '\n' :: rest => (cursor.breakLine 2).through rest
  | c :: rest => (if isLineBreak c then cursor.breakLine 1 else cursor.skip 1).through rest

/-- The place behind a lexeme. Line breaks are looked for only where the reading says that
    there may be some. -/
def past (cursor : Cursor) (reading : Reading) (text : Text) : Cursor :=
  if reading.multiline then cursor.through text else cursor.skip text.length

end Cursor

/-- A lexeme at its place. -/
structure Lexeme where
  text : Text
  kind : TokenKind
  start : Position
  offset : Nat
  fault : Option Fault
  deriving DecidableEq, Repr

/-- The offset behind the last character of a lexeme. -/
def Lexeme.stop (l : Lexeme) : Nat :=
  l.offset + l.text.length

/-- The lexemes of a text that starts at a cursor: a gap is passed, and then one lexeme
    after the other is read. -/
def lexFrom (cursor : Cursor) (s : Text) : List Lexeme :=
  match _found : s.dropWhile isGap with
  | [] => []
  | c :: rest =>
    let start := cursor.through (s.takeWhile isGap)
    let reading := readLexeme c rest
    let text := c :: rest.take reading.more
    ⟨text, reading.kind, start.position, start.offset, reading.fault⟩ ::
      lexFrom (start.past reading text) (rest.drop reading.more)
termination_by s.length
decreasing_by
  have h := (List.dropWhile_suffix isGap (l := s)).length_le
  rw [_found] at h
  simp only [List.length_drop, List.length_cons] at h ⊢
  omega

/-- The lexemes of a text. -/
def lexemes (s : Text) : List Lexeme :=
  lexFrom Cursor.start s

/-- A fault at its place. -/
structure LexError where
  fault : Fault
  start : Position
  offset : Nat
  stop : Nat
  deriving DecidableEq, Repr

/-- The wording of a fault at its place. -/
def LexError.message (e : LexError) : Text :=
  e.fault.message

/-- The error of a lexeme with a fault, in a text. -/
def Lexeme.error? (source : Text) (l : Lexeme) : Option LexError :=
  l.fault.map fun fault => ⟨fault, placeOf source l.offset, l.offset, l.stop⟩

/-- The faults of a text, in order. -/
def lexErrors (s : Text) : List LexError :=
  (lexemes s).filterMap (Lexeme.error? s)

/-- A lexeme as a token, with its offsets. -/
def Lexeme.toToken (l : Lexeme) : Token :=
  ⟨l.text, l.kind, l.start, .int l.offset, .int l.stop⟩

/-- The tokens of a text. -/
def lexTokens (s : Text) : List Token :=
  (lexemes s).map Lexeme.toToken

end RiddlEditor
