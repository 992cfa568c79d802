import RiddlEditor.Text.Basic
import RiddlEditor.Text.Blank
import RiddlEditor.Text.Numeral

/-!
# Numbers in a text

Settings may give a number as a text. Blanks around it do not count, its digits
may come from any script, and a single underscore may stand between two digits.
An integer has a sign and digits; a floating point number may also have a
fraction and an exponent, or be one of the names of infinity and of no number.

The text is first brought into a plain form, in which every foreign digit is an
ASCII digit and every foreign blank a space; a character that is neither makes
the text unreadable. The four separators of the control range are no blanks here.

## Main definitions

* `plainNumeral`: The plain form.
* `withoutUnderscores?`: The plain form without its underscores.
* `floatOfDecimal`: The floating point number nearest to a decimal.
* `Text.toFloat?`: The floating point number that a text gives.
* `IntegerError`, `Text.toInteger`: The integer that a text gives.
-/

namespace RiddlEditor

/-- A character of a numeral in plain form. What is neither a digit nor a blank nor
    ASCII becomes a question mark, which no numeral holds. -/
def plainNumeralChar (c : Char) : Char :=
  if c.toNat < 127 then c
  else if isBlank c then ' '
  else
    match decimalValue? c with
    | some value => Nat.digitChar value
    | none => '?'

/-- Whether a character of the plain form is a blank. -/
def isPlainBlank (c : Char) : Bool :=
  c == ' ' || (0x9 ≤ c.toNat && c.toNat ≤ 0xD)

/-- A numeral in plain form, without the blanks around it. -/
def plainNumeral (s : Text) : Text :=
  Text.dropEndWhile isPlainBlank ((s.map plainNumeralChar).dropWhile isPlainBlank)

/-- Whether a character of the plain form is a digit. -/
def isPlainDigit (c : Char) : Bool :=
  '0' ≤ c && c ≤ '9'

/-- A numeral without its underscores, if each of them stands between two digits. -/
def withoutUnderscores? (before : Option Char) : Text → Option Text
  | [] => some []
  | c :: rest =>
    if c = '_' then
      if before.any isPlainDigit && rest.head?.any isPlainDigit then
        withoutUnderscores? (some c) rest
      else none
    else (withoutUnderscores? (some c) rest).map (c :: ·)

/-- The number that a list of digits gives. -/
def digitsValue (digits : Text) : Nat :=
  digits.foldl (fun n c => n * 10 + (c.toNat - '0'.toNat)) 0

/-- The floating point number nearest to `digits * 10 ^ exponent`. A decimal beyond
    the widest range of exponents is infinite or zero. -/
def floatOfDecimal (negative : Bool) (digits : Nat) (exponent : Int) : Float :=
  let magnitude :=
    if digits = 0 then 0.0
    else
      let point : Int := (Nat.toDigits 10 digits).length + exponent
      if point > 400 then 1.0 / 0.0
      else if point < -400 then 0.0
      else OfScientific.ofScientific digits (exponent < 0) exponent.natAbs
  if negative then -magnitude else magnitude

/-- A sign in front of a numeral, and what follows it. -/
def splitSign : Text → Bool × Text
  | '-' :: rest => (true, rest)
  | '+' :: rest => (false, rest)
  | s => (false, s)

/-- The exponent at the end of a decimal: nothing, or a mark, a sign and digits. -/
def exponentOf? : Text → Option Int
  | [] => some 0
  | mark :: rest =>
    if mark = 'e' ∨ mark = 'E' then
      let (negative, digits) := splitSign rest
      if digits ≠ [] ∧ digits.all isPlainDigit then
        some (if negative then -(digitsValue digits : Int) else digitsValue digits)
      else none
    else none

/-- The fraction behind the point of a decimal, and what follows it. -/
def splitFraction : Text → Text × Text
  | '.' :: rest => (rest.takeWhile isPlainDigit, rest.dropWhile isPlainDigit)
  | s => ([], s)

/-- The floating point number of an unsigned numeral. -/
def unsignedFloat? (negative : Bool) (s : Text) : Option Float :=
  let name := s.map Char.toLower
  if name = "inf".toList ∨ name = "infinity".toList then
    some (if negative then -(1.0 / 0.0) else 1.0 / 0.0)
  else if name = "nan".toList then some (0.0 / 0.0)
  else
    let whole := s.takeWhile isPlainDigit
    let (fraction, rest) := splitFraction (s.dropWhile isPlainDigit)
    if whole = [] ∧ fraction = [] then none
    else
      (exponentOf? rest).map fun exponent =>
        floatOfDecimal negative (digitsValue (whole ++ fraction)) (exponent - fraction.length)

/-- The floating point number that a text gives. -/
def Text.toFloat? (s : Text) : Option Float :=
  match withoutUnderscores? none (plainNumeral s) with
  | none => none
  | some plain =>
    let (negative, unsigned) := splitSign plain
    unsignedFloat? negative unsigned

/-- Why a text gives no integer. -/
inductive IntegerError where
  /-- The text is not the numeral of an integer. -/
  | malformed
  /-- The numeral has more digits than are read. -/
  | tooLong (digits : Nat)
  deriving DecidableEq, Repr

/-- The greatest number of digits that are read. -/
def integerDigitLimit : Nat := 4300

/-- The digits at the start of an unsigned numeral, without underscores, and what
    follows them. An underscore has to be followed by a digit. -/
def leadingDigits? : Text → Option (Text × Text)
  | [] => some ([], [])
  | c :: rest =>
    if isPlainDigit c then (leadingDigits? rest).map fun (digits, tail) => (c :: digits, tail)
    else if c = '_' then
      if rest.head?.any isPlainDigit then leadingDigits? rest else none
    else some ([], c :: rest)

/-- The integer that a text gives. A numeral that is too long is refused before
    what follows its digits is looked at. -/
def Text.toInteger (s : Text) : Except IntegerError Int :=
  let (negative, unsigned) := splitSign (plainNumeral s)
  match unsigned with
  | '_' :: _ => .error .malformed
  | _ =>
    match leadingDigits? unsigned with
    | none => .error .malformed
    | some (digits, rest) =>
      if digits.length > integerDigitLimit then .error (.tooLong digits.length)
      else if digits = [] ∨ rest ≠ [] then .error .malformed
      else .ok (if negative then -(digitsValue digits : Int) else digitsValue digits)

end RiddlEditor
