import RiddlEditor.Symbols
import RiddlEditor.Vocabulary.Docs

/-!
# Hover

What a reader is shown about the token under the cursor, in Markdown: what kind of
token it is, its documentation if it is a word of the language, and for a name the
line of its definition. The last line gives the place, counted from one. A keyword
or a type without documentation shows nothing.

## Main definitions

* `Hover`: A text and the range it belongs to.
* `hoverBody?`: What is shown about a token, without the place.
* `hoverFor?`: The hover of a token.
* `hoverAt?`: The hover at a position.
-/

namespace RiddlEditor

/-- A text for the reader and the range it belongs to. -/
structure Hover where
  contents : Text
  range : Range

/-- A title and the text of a token in a code span. -/
def hoverTitle (title : String) (text : Text) : Text :=
  "**".toList ++ title.toList ++ ":** `".toList ++ text ++ ['`']

/-- The hover body of a word that needs documentation. -/
def documentedBody? (title : String) (text : Text) (doc : Option Text) : Option Text :=
  doc.map fun d => hoverTitle title text ++ "\n\n".toList ++ d

/-- The hover body of a readability word. -/
def readabilityBody (text : Text) : Text :=
  let doc :=
    match docOf? readabilityDocs text.lowercase with
    | some d => d ++ [' ']
    | none => []
  hoverTitle "Readability Word" text ++ "\n\n".toList ++ doc ++
    ("A structural keyword that improves readability. " ++
      "These words are optional syntactic sugar.").toList

/-- The sentence about the line of a definition. -/
def definedOn (definition : Range) : Text :=
  " Defined on line ".toList ++ Text.ofNat (definition.start.line + 1) ++ ['.']

/-- The hover body of a name. Its definition is looked for in the tokens. -/
def identifierBody (token : Token) (tokens : List Token) (resolver : Resolver) : Text :=
  let text := hoverTitle "Identifier" token.text ++ "\n\nUser-defined name.".toList
  if tokens.isEmpty then text
  else
    match resolver.definition? tokens token with
    | some definition => text ++ definedOn definition
    | none => text

/-- What is shown about a token, without the place. -/
def hoverBody? (token : Token) (tokens : List Token) (resolver : Resolver) : Option Text :=
  match token.kind with
  | .keyword =>
    documentedBody? "RIDDL Keyword" token.text (docOf? keywordDocs token.text.lowercase)
  | .predefined => documentedBody? "RIDDL Type" token.text (docOf? predefinedDocs token.text)
  | .readability => some (readabilityBody token.text)
  | .identifier => some (identifierBody token tokens resolver)
  | kind => some (hoverTitle kind.name token.text ++ ['\n'])

/-- The last lines of a hover, which give the place of the token. -/
def hoverFooter (p : Position) : Text :=
  "\n\n---\n\nLine ".toList ++ Text.ofNat (p.line + 1) ++ ", Column ".toList ++
    Text.ofNat (p.column + 1)

/-- The hover of a token. -/
def hoverFor? (token : Token) (tokens : List Token) (resolver : Resolver) : Option Hover :=
  (hoverBody? token tokens resolver).map fun body =>
    ⟨body ++ hoverFooter token.start, token.range⟩

/-- The hover at a position. -/
def hoverAt? (tokens : List Token) (line column : Int) (resolver : Resolver) : Option Hover :=
  (findTokenAt tokens line column).bind fun token => hoverFor? token tokens resolver

end RiddlEditor
