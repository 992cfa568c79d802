/-!
# Hexadecimal digits

The digits of base sixteen. The letters may be of either case.

## Main definitions

* `hexValue?`: The value of a digit.
* `isHexDigit`: Whether a character is a digit.
-/

namespace RiddlEditor

/-- The value of a hexadecimal digit. -/
def hexValue? (c : Char) : Option Nat :=
  if '0' ≤ c ∧ c ≤ '9' then some (c.toNat - '0'.toNat)
  else if 'A' ≤ c ∧ c ≤ 'F' then some (c.toNat - 'A'.toNat + 10)
  else if 'a' ≤ c ∧ c ≤ 'f' then some (c.toNat - 'a'.toNat + 10)
  else none

/-- Whether a character is a hexadecimal digit. -/
def isHexDigit (c : Char) : Bool :=
  (hexValue? c).isSome

end RiddlEditor
