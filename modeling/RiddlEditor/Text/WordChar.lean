import RiddlEditor.Text.Letter
import RiddlEditor.Text.Numeral

/-!
# Word characters

The characters that words of a source text and names in messages are made of.

## Main definitions

* `isAlphanumeric`: Letters, digits and other numeric characters.
* `isWordStart`: The characters a word may start with.
* `isWordChar`: The characters that continue a word.
-/

namespace RiddlEditor

/-- Whether a character is a letter or has a numeric value. -/
def isAlphanumeric (c : Char) : Bool :=
  isLetter c || isDigit c || isNumeral c

/-- Whether a word may start with a character. -/
def isWordStart (c : Char) : Bool :=
  isLetter c || c == '_'

/-- Whether a character continues a word. -/
def isWordChar (c : Char) : Bool :=
  isAlphanumeric c || c == '_'

/-- What may start a word may continue it. -/
theorem isWordChar_of_isWordStart {c : Char} (h : isWordStart c = true) : isWordChar c = true := by
  simp only [isWordStart, isWordChar, isAlphanumeric, Bool.or_eq_true] at h ⊢
  rcases h with h | h
  · exact Or.inl (Or.inl (Or.inl h))
  · exact Or.inr h

end RiddlEditor
