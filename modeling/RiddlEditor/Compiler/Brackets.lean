import RiddlEditor.Token.Basic

/-!
# Brackets

Whether the brackets of a token list are well nested. The open brackets are kept on
a stack. A closing bracket that does not fit the innermost open one is reported and
closes it all the same, so that one wrong bracket leads to one report; what is open
at the end is reported once, by its innermost bracket.

`WellNested` is the language of well-nested bracket words, with the pairs of brackets
named one by one.

## Main definitions

* `closerOf?`, `isCloser`: The closing bracket of an opening one, and the closing ones.
* `BracketPair`: The three pairs.
* `BracketFault`: What can be wrong with the brackets of a text.
* `bracketFaults`: The faults of a token list.
* `brackets`: The brackets of a token list.
* `WellNested`: The words of well-nested brackets.

## Theorems

* `closerOf?_eq_some_iff`, `isCloser_iff`: The tables are those of the pairs.
-/

namespace RiddlEditor

/-- The closing bracket of an opening one. -/
def closerOf? : Text → Option Text
  | ['\x7b'] => some ['\x7d']
  | ['('] => some [')']
  | ['['] => some [']']
  | _ => none

/-- Whether a text is a closing bracket. -/
def isCloser (s : Text) : Bool :=
  s == ['\x7d'] || s == [')'] || s == [']']

/-- An opening bracket and the one that closes it. -/
inductive BracketPair : Text → Text → Prop where
  | curly : BracketPair ['\x7b'] ['\x7d']
  | round : BracketPair ['('] [')']
  | square : BracketPair ['['] [']']

theorem closerOf?_eq_some_iff {opener closer : Text} :
    closerOf? opener = some closer ↔ BracketPair opener closer := by
  constructor
  · intro h
    unfold closerOf? at h
    split at h
    · exact Option.some.inj h ▸ .curly
    · exact Option.some.inj h ▸ .round
    · exact Option.some.inj h ▸ .square
    · exact nomatch h
  · rintro (_ | _ | _) <;> rfl

theorem isCloser_iff {s : Text} : isCloser s = true ↔ ∃ opener, BracketPair opener s := by
  constructor
  · intro h
    simp only [isCloser, Bool.or_eq_true, beq_iff_eq] at h
    rcases h with (rfl | rfl) | rfl
    · exact ⟨_, .curly⟩
    · exact ⟨_, .round⟩
    · exact ⟨_, .square⟩
  · rintro ⟨_, _ | _ | _⟩ <;> rfl

/-- What can be wrong with the brackets of a text. -/
inductive BracketFault where
  /-- A closing bracket where nothing is open. -/
  | unexpected (closer : Token)
  /-- A closing bracket that does not fit the innermost open bracket, which expects
      another. -/
  | mismatched (expected : Text) (closer : Token)
  /-- The text ends inside a bracket, which expects its closing one. -/
  | unclosed (expected : Text) (opener : Token)

/-- The wording of a fault. A place in it is counted from one. -/
def BracketFault.message : BracketFault → Text
  | .unexpected closer => "Unexpected '".toList ++ closer.text ++ ['\'']
  | .mismatched expected closer =>
    "Expected '".toList ++ expected ++ "' but found '".toList ++ closer.text ++ ['\'']
  | .unclosed expected opener =>
    "Expected '".toList ++ expected ++ "' before end of input to close '".toList ++
      opener.text ++ "' at ".toList ++ Text.ofNat (opener.start.line + 1) ++ [':'] ++
      Text.ofNat (opener.start.column + 1)

/-- An open bracket and the bracket that closes it. -/
structure OpenBracket where
  opener : Token
  expected : Text

/-- The faults of the tokens that follow while the brackets of `stack` are open,
    innermost first. -/
def bracketFaultsIn (stack : List OpenBracket) : List Token → List BracketFault
  | [] =>
    match stack with
    | [] => []
    | top :: _ => [.unclosed top.expected top.opener]
  | t :: rest =>
    if t.kind ≠ .punctuation then bracketFaultsIn stack rest
    else
      match closerOf? t.text with
      | some expected => bracketFaultsIn (⟨t, expected⟩ :: stack) rest
      | none =>
        if isCloser t.text then
          match stack with
          | [] => .unexpected t :: bracketFaultsIn [] rest
          | top :: below =>
            if top.expected = t.text then bracketFaultsIn below rest
            else .mismatched top.expected t :: bracketFaultsIn below rest
        else bracketFaultsIn stack rest

/-- The faults of a token list, in order. -/
def bracketFaults (tokens : List Token) : List BracketFault :=
  bracketFaultsIn [] tokens

/-- The brackets of a token list, in order. -/
def brackets (tokens : List Token) : List Text :=
  (tokens.filter fun t =>
    t.kind = .punctuation ∧ ((closerOf? t.text).isSome ∨ isCloser t.text)).map Token.text

/-- The words of well-nested brackets. -/
inductive WellNested : List Text → Prop where
  /-- The word without brackets. -/
  | nil : WellNested []
  /-- A word in brackets, and another word behind it. -/
  | nest {opener closer : Text} {inner outer : List Text} :
      BracketPair opener closer → WellNested inner → WellNested outer →
      WellNested (opener :: (inner ++ closer :: outer))

end RiddlEditor
