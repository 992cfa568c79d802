import RiddlEditor.Value

/-!
# Token kinds

The classes that a compiler service sorts tokens into. A service reports a kind by
its name; a name that is not known here means a token of no special kind. What is
not reported as a name is read as it would be shown, so a number with too many digits
is no kind at all.

## Main definitions

* `TokenKind`: The kinds.
* `TokenKind.name`, `TokenKind.ofName`: The name of a kind, and the kind with a
  name.
* `TokenKind.ofValue?`: The kind that a value stands for.
* `TokenKind.isResolvable`: Whether a token of the kind can name a definition.

## Theorems

* `TokenKind.ofName_name`: A kind is found by its name.
* `TokenKind.ofValue?_eq_none_iff`: The values that stand for no kind.
-/

namespace RiddlEditor

/-- The kinds of tokens. -/
inductive TokenKind where
  | keyword
  | identifier
  | predefined
  | readability
  | punctuation
  | comment
  | string
  | number
  | other
  deriving DecidableEq, Repr, Inhabited

namespace TokenKind

/-- The name that services use for a kind. -/
def name : TokenKind → String
  | keyword => "Keyword"
  | identifier => "Identifier"
  | predefined => "Predefined"
  | readability => "Readability"
  | punctuation => "Punctuation"
  | comment => "Comment"
  | string => "String"
  | number => "Number"
  | other => "Other"

/-- All kinds. -/
def all : List TokenKind :=
  [keyword, identifier, predefined, readability, punctuation, comment, string, number, other]

/-- The kind with a name. An unknown name is of no special kind. -/
def ofName (s : Text) : TokenKind :=
  (all.find? fun kind => kind.name.toList == s).getD other

/-- The kind that a service reports. There is none if what it reports cannot be shown. -/
def ofValue? : Value → Option TokenKind
  | .text s => some (ofName s)
  | v => if v.hasLongInteger then none else some (ofName v.shown)

/-- Whether a token of the kind can name a definition. -/
def isResolvable : TokenKind → Bool
  | identifier => true
  | predefined => true
  | _ => false

/-- A kind is found by its name. -/
theorem ofName_name (kind : TokenKind) : ofName kind.name.toList = kind := by
  cases kind <;> decide

/-- Only a value that cannot be shown stands for no kind. -/
theorem ofValue?_eq_none_iff {v : Value} : ofValue? v = none ↔ v.hasLongInteger = true := by
  unfold ofValue?
  split
  case h_1 => simp
  case h_2 => split <;> simp_all

end TokenKind

end RiddlEditor
