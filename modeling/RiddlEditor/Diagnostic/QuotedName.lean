import RiddlEditor.Text.Blank
import RiddlEditor.Text.WordChar
import RiddlEditor.Vocabulary.Words

/-!
# Quoted names

Compiler messages name the definition they are about: a category word, blanks and
the name in single quotes. A name may be a path with dots, of which the last segment
is what the source shows.

The category word has to start where a word starts, and case does not matter. Besides
the two cases of the English letters, the dotted and the dotless i, the long s and the
Kelvin sign count as the letters they look like.

## Main definitions

* `foldsTo`: Whether a character counts as a letter of a category word.
* `quotedNameAt?`: The quoted name that a text starts with.
* `quotedNames`: The quoted names of a message, in order.
* `nameCandidates`: The spellings that a name may have in the source.
* `nameOccurrences`: Where a name stands in a line as a whole word.
-/

namespace RiddlEditor

/-- Whether a character counts as a small letter when case does not matter. -/
def foldsTo (letter c : Char) : Bool :=
  c.toLower == letter ||
    (letter == 'i' && (c == '\u0130' || c == '\u0131')) ||
    (letter == 's' && c == '\u017f') ||
    (letter == 'k' && c == '\u212a')

/-- What follows a word that a text starts with, if it does. -/
def afterWord? : Text → Text → Option Text
  | [], s => some s
  | _ :: _, [] => none
  | letter :: word, c :: rest => if foldsTo letter c then afterWord? word rest else none

/-- The name in quotes behind at least one blank, and what follows the closing quote. -/
def nameInQuotes? (s : Text) : Option (Text × Text) :=
  if s.head?.any isBlank then
    match s.dropWhile isBlank with
    | '\'' :: body =>
      let name := body.takeWhile (· != '\'')
      match body.dropWhile (· != '\'') with
      | [] => none
      | _ :: rest => if name.isEmpty then none else some (name, rest)
    | _ => none
  else none

/-- The quoted name of the category word that a text starts with, and what follows. -/
def quotedNameAt? (s : Text) : Option (Text × Text) :=
  categoryWords.findSome? fun word => (afterWord? word s).bind nameInQuotes?

theorem afterWord?_length {word s rest : Text} (h : afterWord? word s = some rest) :
    rest.length ≤ s.length := by
  induction word generalizing s with
  | nil =>
    simp only [afterWord?, Option.some.injEq] at h
    exact Nat.le_of_eq (congrArg List.length h.symm)
  | cons letter word ih =>
    cases s with
    | nil => simp [afterWord?] at h
    | cons c tail =>
      simp only [afterWord?] at h
      split at h
      · exact Nat.le_succ_of_le (ih h)
      · exact absurd h (by simp)

theorem nameInQuotes?_length {s name rest : Text} (h : nameInQuotes? s = some (name, rest)) :
    rest.length < s.length := by
  unfold nameInQuotes? at h
  split at h
  · split at h
    · rename_i body hbody
      simp only at h
      split at h
      · exact absurd h (by simp)
      · rename_i quote tail htail
        split at h
        · exact absurd h (by simp)
        · simp only [Option.some.injEq, Prod.mk.injEq] at h
          have hs := (List.dropWhile_suffix isBlank (l := s)).length_le
          have hb := (List.dropWhile_suffix (· != '\'') (l := body)).length_le
          rw [hbody] at hs
          rw [htail] at hb
          simp only [List.length_cons] at hs hb
          rw [← h.2]
          omega
    · exact absurd h (by simp)
  · exact absurd h (by simp)

/-- What follows a quoted name is shorter than the text. -/
theorem quotedNameAt?_length {s name rest : Text} (h : quotedNameAt? s = some (name, rest)) :
    rest.length < s.length := by
  obtain ⟨word, -, hword⟩ := List.exists_of_findSome?_eq_some h
  obtain ⟨tail, htail, hname⟩ := Option.bind_eq_some_iff.mp hword
  exact Nat.lt_of_lt_of_le (nameInQuotes?_length hname) (afterWord?_length htail)

/-- The quoted names of a text, in order, where `inWord` says whether a word character
    comes before it. Names do not overlap. -/
def quotedNamesFrom (inWord : Bool) : Text → List Text
  | [] => []
  | c :: rest =>
    match _found : if inWord then none else quotedNameAt? (c :: rest) with
    | some (name, tail) => name :: quotedNamesFrom false tail
    | none => quotedNamesFrom (isWordChar c) rest
termination_by s => s.length
decreasing_by
  · split at _found
    · exact absurd _found (by simp)
    · exact quotedNameAt?_length _found
  · simp

/-- The quoted names of a message, in order. -/
def quotedNames (message : Text) : List Text :=
  quotedNamesFrom false message

/-- The part of a text behind its last dot, if there is a dot. -/
def lastSegment? (s : Text) : Option Text :=
  if s.contains '.' then some (s.reverse.takeWhile (· != '.')).reverse else none

/-- The spellings that a quoted name may have in the source: the name without the
    blanks around it and, if it is a path, its last segment. -/
def nameCandidates (quoted : Text) : List Text :=
  let name := quoted.trim
  if name.isEmpty then []
  else
    match lastSegment? name with
    | some last => if last.isEmpty then [name] else [name, last]
    | none => [name]

/-- Whether a name stands at the start of `s` as a whole word, when `before` is the
    character in front of it. -/
def standsAt (name : Text) (before : Option Char) (s : Text) : Bool :=
  name.isPrefixOf s && !before.any isWordChar && !(s.drop name.length).head?.any isWordChar

/-- The indices at which a name stands as a whole word in a text that starts at
    `index` and behind the character `before`. -/
def nameOccurrencesFrom (name : Text) (index : Nat) (before : Option Char) : Text → List Nat
  | [] => []
  | c :: rest =>
    let others := nameOccurrencesFrom name (index + 1) (some c) rest
    if standsAt name before (c :: rest) then index :: others else others

/-- The columns at which a name stands in a line as a whole word, in order. -/
def nameOccurrences (line name : Text) : List Nat :=
  nameOccurrencesFrom name 0 none line

end RiddlEditor
