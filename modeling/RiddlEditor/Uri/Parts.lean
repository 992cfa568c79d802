import RiddlEditor.Text.Quoted
import RiddlEditor.Text.RangeTable
import RiddlEditor.Uri.Address
import RiddlEditor.Uri.Escape

/-!
# Parts of a URI

A URI tells by which scheme something is found, on which authority, and under which path
there. Blanks and control characters in front of it are not part of it, and neither are
tabs and line breaks anywhere.

Nearly every text can be taken apart. What is refused is an authority that could be
misread: square brackets stand around an address of the newer forms only, and no character
may pass for one that separates the parts.

## Main definitions

* `UriParts`: The parts of a URI that tell where a file is.
* `UriError`: Why a URI cannot be taken apart.
* `authorityError?`: What is wrong with an authority.
* `UriParts.ofText`: The parts of a text.
-/

namespace RiddlEditor

/-- The parts of a URI that tell where a file is, without escapes. -/
structure UriParts where
  scheme : Text
  authority : Text
  path : Text
  deriving DecidableEq, Repr

/-- Why a URI cannot be taken apart. -/
inductive UriError where
  /-- A square bracket has no partner, or the brackets do not stand around the host. -/
  | bracket
  /-- The address in brackets is of a version to come, but is not written like one. -/
  | futureAddress
  /-- The address in brackets is an IPv4 address. -/
  | bracketedIPv4
  /-- There is no address in brackets. -/
  | notAddress (host : Text)
  /-- A character of the authority passes for a separator. -/
  | lookalike (authority : Text)
  deriving DecidableEq, Repr

/-- The wording of a refusal. -/
def UriError.message : UriError → Text
  | .bracket => "Invalid IPv6 URL".toList
  | .futureAddress => "IPvFuture address is invalid".toList
  | .bracketedIPv4 => "An IPv4 address cannot be in brackets".toList
  | .notAddress host => host.quoted ++ " does not appear to be an IPv4 or IPv6 address".toList
  | .lookalike authority =>
    "netloc '".toList ++ authority ++
      "' contains invalid characters under NFKC normalization".toList

/-- The characters, apart from the ASCII ones, that compatibility normalization writes with
    a slash, a question mark, a number sign, an at sign or a colon. -/
def lookalikeRanges : RangeTable :=
  [(0x2047, 0x2049), (0x2100, 0x2101), (0x2105, 0x2106), (0x2A74, 0x2A74), (0xFE13, 0xFE13),
    (0xFE16, 0xFE16), (0xFE55, 0xFE56), (0xFE5F, 0xFE5F), (0xFE6B, 0xFE6B), (0xFF03, 0xFF03),
    (0xFF0F, 0xFF0F), (0xFF1A, 0xFF1A), (0xFF1F, 0xFF20)]

/-- Whether a character passes for one that separates parts. -/
def isLookalike (c : Char) : Bool :=
  lookalikeRanges.covers c.toNat

/-- Whether a text is what follows the letter of an address of a version to come: the
    version in hexadecimal digits, a dot, and something more. -/
def isFutureAddress (s : Text) : Bool :=
  let version := s.takeWhile isHexDigit
  let rest := s.drop version.length
  !version.isEmpty && rest.head? == some '.' && decide (2 ≤ rest.length)

/-- What is wrong with the host in square brackets. -/
def hostError? (host : Text) : Option UriError :=
  if host.head? = some 'v' then
    if isFutureAddress host.tail then none else some .futureAddress
  else if isIPv4 host then some .bracketedIPv4
  else if isIPv6 host then none
  else some (.notAddress host)

/-- The host and the port of an authority, without the name of a user. -/
def serverPart (authority : Text) : Text :=
  (authority.reverse.takeWhile (· != '@')).reverse

/-- What is wrong with a server whose host stands in square brackets: nothing stands in
    front of them, and only a port behind them. -/
def bracketedError? (server : Text) : Option UriError :=
  let before := server.takeWhile (· != '[')
  let bracketed := server.drop (before.length + 1)
  let host := bracketed.takeWhile (· != ']')
  let port := bracketed.drop (host.length + 1)
  if before.isEmpty && port.head?.all (· == ':') then hostError? host else some .bracket

/-- What is wrong with an authority that has square brackets. If they belong to the name of
    a user, the host is still held to what has to stand in brackets. -/
def serverError? (server : Text) : Option UriError :=
  if server.contains '[' then bracketedError? server
  else hostError? (server.takeWhile (· != ':'))

/-- What is wrong with the square brackets of an authority. -/
def bracketError? (authority : Text) : Option UriError :=
  match authority.contains '[', authority.contains ']' with
  | true, true => serverError? (serverPart authority)
  | false, false => none
  | _, _ => some .bracket

/-- What is wrong with an authority. -/
def authorityError? (authority : Text) : Option UriError :=
  (bracketError? authority).or
    (if authority.any isLookalike then some (.lookalike authority) else none)

/-- What is read of a text: neither the blanks and control characters in front nor any tab
    or line break. -/
def readableUri (s : Text) : Text :=
  (s.dropWhile fun c => decide (c ≤ ' ')).filter fun c => c != '\t' && c != '\n' && c != '\r'

/-- Whether a character may stand in a scheme. -/
def isSchemeChar (c : Char) : Bool :=
  c.isAlphanum || c == '+' || c == '-' || c == '.'

/-- The scheme in front of a text, in lower case, and what follows its colon. -/
def splitScheme (s : Text) : Text × Text :=
  let scheme := s.takeWhile (· != ':')
  if scheme.length < s.length ∧ scheme.head?.any Char.isAlpha ∧ scheme.all isSchemeChar then
    (scheme.map Char.toLower, s.drop (scheme.length + 1))
  else ([], s)

/-- Whether a character ends a path. -/
def endsPath (c : Char) : Bool :=
  c == '?' || c == '#'

/-- The authority in front of a text, if two slashes announce it, and what follows it. -/
def splitAuthority : Text → Text × Text
  | '/' :: '/' :: rest => rest.span fun c => !endsPath c && c != '/'
  | s => ([], s)

/-- The schemes whose paths may end in parameters. A text without a scheme is like them. -/
def parameterSchemes : List String :=
  ["", "ftp", "hdl", "prospero", "http", "imap", "https", "shttp", "rtsp", "rtsps", "rtspu",
    "sip", "sips", "mms", "sftp", "tel"]

/-- A path without the parameters of its last step. -/
def withoutParameters (path : Text) : Text :=
  let last := (path.reverse.takeWhile (· != '/')).reverse
  path.take (path.length - last.length) ++ last.takeWhile (· != ';')

/-- The path in front of a text that follows the authority. -/
def pathOf (scheme rest : Text) : Text :=
  let path := rest.takeWhile fun c => !endsPath c
  if parameterSchemes.contains (String.ofList scheme) then withoutParameters path else path

/-- The parts of a text. -/
def UriParts.ofText (s : Text) : Except UriError UriParts :=
  let (scheme, rest) := splitScheme (readableUri s)
  let (authority, rest) := splitAuthority rest
  match authorityError? authority with
  | some e => .error e
  | none => .ok ⟨scheme, unescape authority, unescape (pathOf scheme rest)⟩

end RiddlEditor
