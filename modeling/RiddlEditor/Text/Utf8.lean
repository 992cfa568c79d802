import RiddlEditor.Text.Basic

/-!
# Texts from bytes

UTF-8 writes a character as one to four bytes, of which the first tells how many there
are. The shortest way to write a character is the only one, no surrogate is written, and
nothing above the last code point is. Each of these rules narrows down the byte after the
first, so the first byte that cannot continue a sequence is known at once.

Bytes that come from outside need not be those of a text. A sequence that breaks off is
read as one replacement character, and so is a byte that cannot start a sequence. The
byte that broke the sequence off is read again, since it may start one of its own.

## Main definitions

* `ByteRange`: Closed ranges of bytes.
* `SequenceStart`: What the first byte of a sequence tells.
* `sequenceStart?`: What a byte tells as the first of a sequence.
* `continuation`: The bytes that continue a sequence.
* `decodeUtf8`: The text of some bytes.
-/

namespace RiddlEditor

/-- A closed range of bytes. -/
structure ByteRange where
  low : UInt8
  high : UInt8

/-- Whether a byte lies in a range. -/
def ByteRange.contains (r : ByteRange) (b : UInt8) : Bool :=
  decide (r.low ≤ b) && decide (b ≤ r.high)

/-- The bytes that continue a sequence where nothing narrows them down. -/
def ByteRange.trailing : ByteRange := ⟨0x80, 0xBF⟩

/-- What the first byte of a sequence tells: the bits that it carries, and what has to
    follow it. -/
structure SequenceStart where
  bits : Nat
  awaited : List ByteRange

/-- What a byte tells as the first of a sequence, if it can be that. -/
def sequenceStart? (b : UInt8) : Option SequenceStart :=
  if b < 0x80 then some ⟨b.toNat, []⟩
  else if b < 0xC2 then none
  else if b < 0xE0 then some ⟨b.toNat - 0xC0, [.trailing]⟩
  else if b = 0xE0 then some ⟨0, [⟨0xA0, 0xBF⟩, .trailing]⟩
  else if b = 0xED then some ⟨0xD, [⟨0x80, 0x9F⟩, .trailing]⟩
  else if b < 0xF0 then some ⟨b.toNat - 0xE0, [.trailing, .trailing]⟩
  else if b = 0xF0 then some ⟨0, [⟨0x90, 0xBF⟩, .trailing, .trailing]⟩
  else if b < 0xF4 then some ⟨b.toNat - 0xF0, [.trailing, .trailing, .trailing]⟩
  else if b = 0xF4 then some ⟨4, [⟨0x80, 0x8F⟩, .trailing, .trailing]⟩
  else none

/-- The bytes that continue a sequence, up to its end or to the first that does not fit. -/
def continuation : List ByteRange → List UInt8 → List UInt8
  | r :: awaited, b :: bytes => if r.contains b then b :: continuation awaited bytes else []
  | _, _ => []

/-- What stands for bytes that make no character. -/
def replacementChar : Char := '\uFFFD'

/-- The character of a sequence, of which the bytes after the first are given. Each of
    them carries six bits. -/
def SequenceStart.character (start : SequenceStart) (bytes : List UInt8) : Char :=
  if bytes.length = start.awaited.length then
    Char.ofNat (bytes.foldl (fun bits b => bits * 0x40 + (b.toNat - 0x80)) start.bits)
  else replacementChar

/-- The text of some bytes. -/
def decodeUtf8 : List UInt8 → Text
  | [] => []
  | b :: rest =>
    match sequenceStart? b with
    | none => replacementChar :: decodeUtf8 rest
    | some start =>
      let bytes := continuation start.awaited rest
      start.character bytes :: decodeUtf8 (rest.drop bytes.length)
termination_by bytes => bytes.length
decreasing_by
  all_goals simp only [List.length_cons, List.length_drop]; omega

end RiddlEditor
