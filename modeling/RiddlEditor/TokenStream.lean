import RiddlEditor.Compiler.Service
import RiddlEditor.Token.Basic

/-!
# Token streams

The tokens of one document in the order of their positions. A service reports its
tokens in any order and counts lines and columns from one; what it reports becomes
tokens one by one. A token without a location, without a text or without a position
in the document is left out, and an end offset in front of its offset is dropped.
Two things are not contained: offsets that cannot be compared, and a kind that cannot
be written out.

The type carries the order, so that whoever holds a stream knows it.

## Main definitions

* `TokenError`: Why there are no tokens.
* `ServiceToken.toToken?`: A reported token as a token.
* `TokenStream`: Tokens in order.
* `TokenStream.ofTokens`: Tokens put into order, where those at one position keep
  theirs.
* `tokenizeDocument`: The tokens of a document.
-/

namespace RiddlEditor

/-- Why the tokens of a document cannot be made. -/
inductive TokenError where
  /-- The offsets of a token cannot be compared. -/
  | incomparableOffsets
  /-- The kind of a token has too many digits to be written out. -/
  | unwritableKind
  deriving DecidableEq, Repr

/-- The wording of an error, where it has one. -/
def TokenError.message? : TokenError → Option Text
  | .incomparableOffsets => none
  | .unwritableKind => some Value.longIntegerMessage

/-- A reported number that counts from one, counted from zero. -/
def countedFromZero? (v : Value) : Option Nat :=
  match v.integer? with
  | some n => if 1 ≤ n then some (n - 1).toNat else none
  | none => none

/-- A reported token as a token, or nothing if it cannot be used. The offsets are
    compared and the kind is read only for a token that is usable otherwise, in this
    order, and that one of this is not possible is an error. -/
def ServiceToken.toToken? (raw : ServiceToken) : Except TokenError (Option Token) :=
  match raw.location, raw.text with
  | some location, .text text =>
    match countedFromZero? location.line, countedFromZero? location.column with
    | some line, some column =>
      match reversedOffsets? location.offsetOrNull location.endOffsetOrNull with
      | none => .error .incomparableOffsets
      | some reversed =>
        match TokenKind.ofValue? raw.kind with
        | none => .error .unwritableKind
        | some kind =>
          .ok (some
            { text
              kind
              start := ⟨line, column⟩
              offset := location.offsetOrNull
              endOffset := if reversed then .null else location.endOffsetOrNull })
    | _, _ => .ok none
  | _, _ => .ok none

/-- The usable ones among reported tokens. -/
def usableTokens : List ServiceToken → Except TokenError (List Token)
  | [] => .ok []
  | raw :: rest => do
    let token ← raw.toToken?
    let tokens ← usableTokens rest
    return token.toList ++ tokens

/-- Tokens in the order of their positions. -/
structure TokenStream where
  tokens : List Token
  sorted : tokens.Pairwise fun a b => a.start ≤ b.start

namespace TokenStream

/-- Tokens put into the order of their positions. -/
def ofTokens (tokens : List Token) : TokenStream where
  tokens := tokens.mergeSort Token.startsBefore
  sorted :=
    (List.pairwise_mergeSort Token.startsBefore_trans Token.startsBefore_total tokens).imp
      fun h => of_decide_eq_true h

/-- The stream without tokens. -/
def empty : TokenStream :=
  ⟨[], .nil⟩

/-- The number of tokens. -/
def size (s : TokenStream) : Nat :=
  s.tokens.length

/-- The first token that covers a position. -/
def tokenAt (s : TokenStream) (line column : Int) : Option Token :=
  findTokenAt s.tokens line column

/-- A stream as listings show it. -/
def render (s : TokenStream) : String :=
  "TokenStream(" ++ toString s.size ++ " tokens)"

end TokenStream

/-- The tokens of a document, or nothing if the service does not deliver any. -/
def tokenizeDocument (service : Service) (text origin : Text) :
    Except TokenError (Option TokenStream) :=
  match service.tokenize text origin with
  | .error _ => .ok none
  | .ok result =>
    if result.succeeded then do
      let tokens ← usableTokens result.tokens
      return some (TokenStream.ofTokens tokens)
    else .ok none

end RiddlEditor
