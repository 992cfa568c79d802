import RiddlEditor.Text.Basic
import RiddlEditor.Text.Printable

/-!
# Quoted texts

A text written on one line between quotes, for listings and error messages. The
quote is single unless the text holds a single quote and no double one. The
quote itself and the backslash are escaped, line breaks and tabs have names, and
every other character that is not printable is written by its code point in two,
four or eight hexadecimal digits.

## Main definitions

* `quoteMark`: The quote that a text is written with.
* `escaped`: One character between quotes.
* `Text.quoted`: A text between quotes.
-/

namespace RiddlEditor

/-- The last `width` hexadecimal digits of a number. -/
def hexDigits : Nat → Nat → Text
  | 0, _ => []
  | width + 1, n => hexDigits width (n / 16) ++ [Nat.digitChar (n % 16)]

/-- The quote that a text is written with. -/
def quoteMark (s : Text) : Char :=
  if s.contains '\'' && !s.contains '"' then '"' else '\''

/-- One character between quotes of the given kind. -/
def escaped (mark c : Char) : Text :=
  if c = mark ∨ c = '\\' then ['\\', c]
  else if c = '\n' then ['\\', 'n']
  else if c = '\r' then ['\\', 'r']
  else if c = '\t' then ['\\', 't']
  else if isPrintable c then [c]
  else if c.toNat ≤ 0xFF then '\\' :: 'x' :: hexDigits 2 c.toNat
  else if c.toNat ≤ 0xFFFF then '\\' :: 'u' :: hexDigits 4 c.toNat
  else '\\' :: 'U' :: hexDigits 8 c.toNat

/-- A text between quotes. -/
def Text.quoted (s : Text) : Text :=
  let mark := quoteMark s
  mark :: s.flatMap (escaped mark) ++ [mark]

end RiddlEditor
