import RiddlEditor.Token.Basic
import RiddlEditor.Vocabulary.Words

/-!
# Definitions

The definitions of a token list: a definition keyword with the name right behind
it. Two definitions are the same if they agree in the keyword, without regard to
case, and in the name. A definition is empty if its body is the mark for a missing
body.

## Main definitions

* `Definition`: A keyword and the name it introduces.
* `definitions`: The definitions of a token list.
* `duplicates`: The definitions that repeat an earlier one.
* `Definition.isEmpty`: Whether the body of a definition is missing.
-/

namespace RiddlEditor

/-- A keyword and the name it introduces, with the index of the name among the
    tokens. -/
structure Definition where
  keyword : Token
  name : Token
  index : Nat

/-- What two definitions have to agree in to be the same. -/
def Definition.key (d : Definition) : Text × Text :=
  (d.keyword.text.lowercase, d.name.text)

/-- The definitions of a token list whose first token has the given index. -/
def definitionsFrom (index : Nat) : List Token → List Definition
  | [] => []
  | [_] => []
  | keyword :: name :: rest =>
    let others := definitionsFrom (index + 1) (name :: rest)
    if keyword.kind = .keyword ∧ isDefinitionKeyword keyword.text [] ∧ name.kind.isResolvable then
      ⟨keyword, name, index + 1⟩ :: others
    else others

/-- The definitions of a token list, in order. -/
def definitions (tokens : List Token) : List Definition :=
  definitionsFrom 0 tokens

/-- The definitions that repeat one of the keys in `seen` or one before them. -/
def duplicatesAfter (seen : List (Text × Text)) : List Definition → List Definition
  | [] => []
  | d :: rest =>
    if seen.contains d.key then d :: duplicatesAfter seen rest
    else duplicatesAfter (d.key :: seen) rest

/-- The definitions that repeat an earlier one, in order. -/
def duplicates (ds : List Definition) : List Definition :=
  duplicatesAfter [] ds

/-- The body of a definition that is still missing. -/
def missingBody : List Text :=
  [['\x7b'], ['?', '?', '?'], ['\x7d']]

/-- Whether the body of a definition is missing. Readability words between the name
    and the body do not count. -/
def Definition.isEmpty (tokens : List Token) (d : Definition) : Bool :=
  let body := (tokens.drop (d.index + 1)).dropWhile fun t => t.kind = .readability
  (body.take 3).map Token.text = missingBody

/-- The keyword and the quoted name of a definition, as messages start. -/
def Definition.subject (d : Definition) : Text :=
  d.keyword.text.capitalized ++ " '".toList ++ d.name.text ++ ['\'']

/-- The wording for a definition that repeats an earlier one. -/
def Definition.duplicateMessage (d : Definition) : Text :=
  d.subject ++ " is defined more than once".toList

/-- The wording for a definition whose body is missing. -/
def Definition.emptyMessage (d : Definition) : Text :=
  d.subject ++ " is empty".toList

end RiddlEditor
