import RiddlEditor.Text.Lowercase
import RiddlEditor.Vocabulary.Docs

/-!
# Words

The word classes of RIDDL. A word of a source text belongs to a class only in its
exact spelling; whether a keyword introduces a definition is asked in lower case,
because other services may report keywords as they were typed.

## Main definitions

* `definitionWords`: The keywords that a name follows.
* `keywords`, `readabilityWords`, `predefinedTypes`: The classes of words.
* `categoryWords`: The words that compiler messages put in front of a name.
* `isDefinitionKeyword`: Whether a keyword introduces a definition.
-/

namespace RiddlEditor

/-- The keywords whose next token names a new definition. -/
def definitionWords : List Text :=
  ["type", "entity", "command", "event", "query", "result", "domain", "context", "handler",
   "function", "state", "adaptor", "projector", "repository", "saga", "inlet", "outlet",
   "connector", "streamlet", "flow", "source", "sink", "merge", "split", "router", "pipe",
   "epic", "story", "case", "author", "user", "term", "include", "constant", "field"].map String.toList

/-- The keywords that are neither documented nor introduce a definition. -/
def plainKeywords : List Text :=
  ["then", "end", "set", "morph", "error", "attachment", "body", "input", "output", "port"].map String.toList

/-- All keywords. -/
def keywords : List Text :=
  definitionWords ++ keywordDocs.map (·.1.toList) ++ plainKeywords

/-- The words that only make a text easier to read. -/
def readabilityWords : List Text :=
  readabilityDocs.map (·.1.toList)

/-- The types that need no definition. -/
def predefinedTypes : List Text :=
  predefinedDocs.map (·.1.toList)

/-- The words that precede a quoted name in compiler messages. -/
def categoryWords : List Text :=
  definitionWords ++
    ["record", "enumeration", "enumerator", "alternation", "aggregation", "message",
     "definition", "identifier", "reference"].map String.toList

/-- Whether a keyword introduces a definition, where `extra` holds more such keywords
    in lower case. -/
def isDefinitionKeyword (word : Text) (extra : List Text) : Bool :=
  let lower := word.lowercase
  definitionWords.contains lower || extra.contains lower

/-- The documentation of a word. -/
def docOf? (docs : List (String × String)) (word : Text) : Option Text :=
  (docs.find? fun entry => entry.1.toList == word).map (·.2.toList)

end RiddlEditor
