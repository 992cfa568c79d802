import RiddlEditor.Text.HexDigit
import RiddlEditor.Text.Utf8

/-!
# Escapes

In a URI any character may be written as the hexadecimal digits of its bytes, with a
percent sign in front of each byte. The escapes that stand side by side are read together,
since a character may take several bytes. Bytes that make no character are replaced.

## Main definitions

* `escapedByte?`: The byte that two digits stand for.
* `unescape`: A text whose escapes are resolved.
-/

namespace RiddlEditor

/-- The byte that two hexadecimal digits stand for. -/
def escapedByte? (high low : Char) : Option UInt8 :=
  match hexValue? high, hexValue? low with
  | some h, some l => some (UInt8.ofNat (h * 16 + l))
  | _, _ => none

/-- A text whose escapes, a percent sign and two hexadecimal digits, are resolved, with the
    bytes in front of it that are not read yet. A percent sign without two digits stands
    for itself. -/
def unescapeAfter (bytes : List UInt8) : Text → Text
  | '%' :: high :: low :: rest =>
    match escapedByte? high low with
    | some b => unescapeAfter (bytes ++ [b]) rest
    | none => decodeUtf8 bytes ++ '%' :: unescapeAfter [] (high :: low :: rest)
  | c :: rest => decodeUtf8 bytes ++ c :: unescapeAfter [] rest
  | [] => decodeUtf8 bytes

/-- A text whose escapes are resolved. -/
def unescape (s : Text) : Text :=
  unescapeAfter [] s

end RiddlEditor
