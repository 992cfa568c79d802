/-!
# Texts

A text is the list of its code points. Offsets, columns and lengths count code
points, so slicing a text is taking and dropping, and no operation can split a
character.

## Main definitions

* `Text`: A text as its code points.
* `isLineBreak`: The two characters that end a line.
* `Text.capitalized`: An English word with a capital first letter.
* `Text.separated`: The parts of a text between separators.
-/

namespace RiddlEditor

/-- A text as the list of its code points. -/
abbrev Text := List Char

/-- Whether a character ends a line of a document, alone or as half of a pair. -/
def isLineBreak (c : Char) : Bool :=
  c == '\n' || c == '\r'

/-- A word of the English alphabet with its first letter in upper case and the
    others in lower case. -/
def Text.capitalized : Text → Text
  | [] => []
  | c :: rest => c.toUpper :: rest.map Char.toLower

/-- The parts of a text between the occurrences of a separator. There is one more of them
    than there are separators. -/
def Text.separated (separator : Char) : Text → List Text
  | [] => [[]]
  | c :: rest =>
    if c = separator then [] :: Text.separated separator rest
    else (Text.separated separator rest).modifyHead (c :: ·)

/-- A number in decimal digits. -/
def Text.ofNat (n : Nat) : Text :=
  (toString n).toList

theorem Text.ofNat_eq_toDigits (n : Nat) : Text.ofNat n = Nat.toDigits 10 n := by
  rw [Text.ofNat, Nat.toString_eq_ofList_toDigits, String.toList_ofList]

theorem Text.not_mem_ofNat {c : Char} (h : c.isDigit = false) (n : Nat) : c ∉ Text.ofNat n := by
  intro hmem
  rw [Text.ofNat_eq_toDigits] at hmem
  have hdigit := Nat.isDigit_of_mem_toDigits (by decide) (by decide) hmem
  exact Bool.false_ne_true (h.symm.trans hdigit)

/-- A signed number in decimal digits. -/
def Text.ofInt (n : Int) : Text :=
  (toString n).toList

end RiddlEditor
