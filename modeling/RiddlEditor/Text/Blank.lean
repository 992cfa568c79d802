import RiddlEditor.Text.Basic
import RiddlEditor.Text.RangeTable

/-!
# Blanks

The white space of Unicode 14, together with the four separators of the control
range. Names are trimmed of them, and they may stand between a category word
and the name it introduces.

## Main definitions

* `isBlank`: Whether a character is white space.
* `Text.trim`: A text without the blanks at its ends.
-/

namespace RiddlEditor

/-- The blanks, as ascending ranges of code points. -/
def blankRanges : RangeTable :=
  [(0x9, 0xD), (0x1C, 0x20), (0x85, 0x85), (0xA0, 0xA0), (0x1680, 0x1680), (0x2000, 0x200A),
   (0x2028, 0x2029), (0x202F, 0x202F), (0x205F, 0x205F), (0x3000, 0x3000)]

/-- Whether a character is white space. -/
def isBlank (c : Char) : Bool :=
  blankRanges.covers c.toNat

/-- A text without the characters of a class at its end. -/
def Text.dropEndWhile (p : Char → Bool) (s : Text) : Text :=
  (s.reverse.dropWhile p).reverse

/-- A text without the blanks at its ends. -/
def Text.trim (s : Text) : Text :=
  Text.dropEndWhile isBlank (s.dropWhile isBlank)

end RiddlEditor
