import RiddlEditor.Token.Basic
import RiddlEditor.Vocabulary.Words

/-!
# Symbols

Names and the places they occur at. There is no table of symbols: a token defines a
name when the token right before it is a definition keyword, and all tokens with one
spelling belong to one symbol, whatever scope they stand in. The first definition in
the document counts.

A `Resolver` answers the questions about a token list with the definition keywords
of one configuration.

## Main definitions

* `isDefinitionAt`: Whether the token at an index follows a definition keyword.
* `Occurrence`, `occurrences`: The occurrences of a name, in document order.
* `Resolver.definition?`: The range of the first definition of a token's name.
* `Resolver.references`: The ranges of the occurrences of a token's name.
* `Resolver.isDefinition?`: Whether the token at an index defines its name.
-/

namespace RiddlEditor

/-- Whether the token at an index directly follows a definition keyword. The first
    token follows none, and neither does an index that is outside of the list. -/
def isDefinitionAt (tokens : List Token) (index : Int) (extra : List Text) : Bool :=
  if index ≤ 0 ∨ tokens.length ≤ index then false
  else
    match tokens[(index - 1).toNat]? with
    | some previous =>
      previous.kind = .keyword ∧ isDefinitionKeyword previous.text extra
    | none => false

/-- One occurrence of a name. -/
structure Occurrence where
  token : Token
  index : Nat
  isDefinition : Bool

/-- The range of an occurrence. -/
def Occurrence.range (o : Occurrence) : Range :=
  o.token.range

/-- The resolvable tokens with a spelling, each with its index. -/
def namedTokens (tokens : List Token) (name : Text) : List (Token × Nat) :=
  tokens.zipIdx.filter fun (t, _) => t.kind.isResolvable ∧ t.text = name

/-- The occurrences of a name in the order of their positions. -/
def occurrences (tokens : List Token) (name : Text) (extra : List Text) : List Occurrence :=
  let found := (namedTokens tokens name).map fun (t, index) =>
    (⟨t, index, isDefinitionAt tokens index extra⟩ : Occurrence)
  found.mergeSort fun a b => a.token.startsBefore b.token

/-- The answers about symbols with more definition keywords than the built-in ones. -/
structure Resolver where
  extraKeywords : List Text
  deriving DecidableEq, Repr

namespace Resolver

/-- The resolver that knows the built-in definition keywords only. -/
def builtIn : Resolver :=
  ⟨[]⟩

/-- The range of the first definition of the name of a token. -/
def definition? (r : Resolver) (tokens : List Token) (target : Token) : Option Range :=
  if target.kind.isResolvable then
    ((occurrences tokens target.text r.extraKeywords).find? Occurrence.isDefinition).map
      Occurrence.range
  else none

/-- The ranges of the occurrences of the name of a token, with or without its
    definitions. -/
def references (r : Resolver) (tokens : List Token) (target : Token)
    (includeDeclaration : Bool) : List Range :=
  if target.kind.isResolvable then
    ((occurrences tokens target.text r.extraKeywords).filter fun o =>
      includeDeclaration || !o.isDefinition).map Occurrence.range
  else []

/-- Whether the token at an index defines its name. A negative index counts from the
    end; there is no answer for an index outside of the list. -/
def isDefinition? (r : Resolver) (tokens : List Token) (index : Int) : Option Bool :=
  (entryAt? tokens index).map fun t =>
    t.kind.isResolvable && isDefinitionAt tokens index r.extraKeywords

/-- Whether the token at an index of the list defines its name. -/
def isDefinition (r : Resolver) (tokens : List Token) (index : Nat) : Bool :=
  (r.isDefinition? tokens index).getD false

end Resolver

end RiddlEditor
