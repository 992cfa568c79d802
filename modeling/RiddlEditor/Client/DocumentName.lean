import RiddlEditor.Uri.Escape
import RiddlEditor.UriMap

/-!
# Document names

A client names a document by a URI, in which any character may be written as an escape.
Two spellings of a name that differ in this alone name one document, and clients are not
consistent in which of them they use.

Bytes that make no character are replaced, so two names that differ in such bytes alone
are one name.

## Main definitions

* `documentName`: What all spellings of a name have in common.
-/

namespace RiddlEditor

/-- What all spellings of a name have in common: the name without escapes. -/
def documentName (uri : Uri) : Uri :=
  String.ofList (unescape uri.toList)

end RiddlEditor
