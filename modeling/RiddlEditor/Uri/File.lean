import RiddlEditor.Uri.Parts

/-!
# Files of documents

A document that no client has opened would have to be read from its file. No file of a
document is known here, so a path is looked at only for why reading it fails.

## Main definitions

* `UriParts.filePath`: The path of a file.
* `FileError`: Why a file cannot be read.
* `fileError`: What is wrong with a path.
-/

namespace RiddlEditor

/-- The path of a file. An authority is part of it, and the letter of a drive is a small
    one without a slash in front. -/
def UriParts.filePath (parts : UriParts) : Text :=
  if parts.scheme = "file".toList ∧ parts.authority ≠ [] ∧ parts.path ≠ [] then
    '/' :: '/' :: parts.authority ++ parts.path
  else
    match parts.path with
    | '/' :: drive :: ':' :: rest =>
      if drive.isAlpha then drive.toLower :: ':' :: rest else parts.path
    | path => path

/-- Why a file cannot be read. -/
inductive FileError where
  /-- There is no such file. -/
  | missing
  /-- It is a directory. -/
  | directory
  /-- Its path is longer than a path can be. -/
  | tooLong
  /-- Its path has a null character in it. -/
  | nullCharacter
  deriving DecidableEq, Repr

/-- The wording of a refusal. -/
def FileError.message? : FileError → Option String
  | .nullCharacter => some "embedded null byte"
  | _ => none

/-- How many bytes a text takes. -/
def byteCount : Text → Nat
  | [] => 0
  | c :: rest => c.utf8Size + byteCount rest

/-- The steps of a path that lead to another directory than the one they start from or one
    above it. -/
def pathSteps (path : Text) : List Text :=
  (path.separated '/').filter fun step => step != [] && step != ['.'] && step != ['.', '.']

/-- The longest path, in bytes. -/
def pathLimit : Nat := 4095

/-- The longest step of a path, in bytes. -/
def stepLimit : Nat := 255

/-- What is wrong with a path. The first step decides, since it leads nowhere; a path without
    steps leads to a directory. -/
def fileError (path : Text) : FileError :=
  if path.contains '\x00' then .nullCharacter
  else if path.isEmpty then .missing
  else if pathLimit < byteCount path then .tooLong
  else
    match pathSteps path with
    | [] => .directory
    | first :: _ => if stepLimit < byteCount first then .tooLong else .missing

end RiddlEditor
