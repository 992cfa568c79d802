import RiddlEditor.Symbols

/-!
# Semantic tokens

The colouring of a document as an editor asks for it: for each token its place, the
number of columns on its first line, the index of a type and a set of modifiers. The
wire form is a flat list of numbers in which a place is given relative to the token
before; `decodeSemanticTokens` reads it back.

## Main definitions

* `semanticTypes`, `semanticModifiers`: The legend that indices refer to.
* `SemanticToken`: One coloured token.
* `classifyTokens`: The semantic tokens of a token list.
* `encodeSemanticTokens`, `decodeSemanticTokens`: The wire form and back.
-/

namespace RiddlEditor

/-- The types of semantic tokens, by index. -/
def semanticTypes : List String :=
  ["namespace", "class", "enum", "interface", "struct", "type", "parameter", "variable",
   "property", "function", "method", "keyword", "comment", "string", "number", "operator",
   "macro"]

/-- The modifiers of semantic tokens, by the number of their bit. -/
def semanticModifiers : List String :=
  ["declaration", "definition", "readonly", "static", "deprecated", "abstract", "async",
   "modification", "documentation", "defaultLibrary"]

/-- The type that tokens of a kind are coloured as. -/
def semanticType : TokenKind → String
  | .keyword => "keyword"
  | .identifier => "variable"
  | .readability => "macro"
  | .punctuation => "operator"
  | .predefined => "type"
  | .comment => "comment"
  | .string => "string"
  | .number => "number"
  | .other => "variable"

/-- The index of the type that tokens of a kind are coloured as. -/
def semanticTypeIndex (kind : TokenKind) : Nat :=
  semanticTypes.idxOf (semanticType kind)

/-- The modifier of a token that defines its name. -/
def declarationModifier : Nat :=
  powerOfTwo (semanticModifiers.idxOf "declaration")

/-- One coloured token. The numbers may come from outside, so they may be negative. -/
structure SemanticToken where
  line : Int
  column : Int
  length : Int
  type : Int
  modifiers : Int
  deriving DecidableEq, Repr

/-- The number of characters on the first line of a text. -/
def firstLineLength (s : Text) : Nat :=
  (s.takeWhile fun c => !isLineBreak c).length

/-- The semantic token of the token at an index. A token without a character on its
    first line has none. -/
def semanticTokenAt? (tokens : List Token) (resolver : Resolver) (t : Token) (index : Nat) :
    Option SemanticToken :=
  let length := firstLineLength t.text
  if length = 0 then none
  else
    some
      { line := t.start.line
        column := t.start.column
        length := length
        type := semanticTypeIndex t.kind
        modifiers := if resolver.isDefinition tokens index then declarationModifier else 0 }

/-- The semantic tokens of a token list, in its order. -/
def classifyTokens (tokens : List Token) (resolver : Resolver) : List SemanticToken :=
  tokens.zipIdx.filterMap fun (t, index) => semanticTokenAt? tokens resolver t index

namespace SemanticToken

/-- Whether one token starts at the position of another or before it. -/
def startsBefore (a b : SemanticToken) : Bool :=
  a.line < b.line || (a.line == b.line && a.column ≤ b.column)

end SemanticToken

/-- The wire form of tokens behind a token at the given place. The column is relative
    only to a token on the same line. -/
def encodeAfter (line column : Int) : List SemanticToken → List Int
  | [] => []
  | t :: rest =>
    let lineStep := t.line - line
    let columnStep := if lineStep = 0 then t.column - column else t.column
    lineStep :: columnStep :: t.length :: t.type :: t.modifiers ::
      encodeAfter t.line t.column rest

/-- The wire form of semantic tokens, which are put into the order of their places
    first. -/
def encodeSemanticTokens (tokens : List SemanticToken) : List Int :=
  encodeAfter 0 0 (tokens.mergeSort SemanticToken.startsBefore)

/-- The tokens of a wire form behind a token at the given place. -/
def decodeAfter (line column : Int) : List Int → List SemanticToken
  | lineStep :: columnStep :: length :: type :: modifiers :: rest =>
    let newLine := line + lineStep
    let newColumn := if lineStep = 0 then column + columnStep else columnStep
    ⟨newLine, newColumn, length, type, modifiers⟩ :: decodeAfter newLine newColumn rest
  | _ => []

/-- The tokens of a wire form. -/
def decodeSemanticTokens (data : List Int) : List SemanticToken :=
  decodeAfter 0 0 data

end RiddlEditor
