import RiddlEditor.Compiler.Local
import RiddlEditor.Proofs.Lexeme.Order
import RiddlEditor.Query

/-!
# What queries see of a text

A query does not read the text itself. It asks the service for tokens, whose lines and
columns count from one and whose kinds are names; it makes tokens of them again, leaves out
what it cannot use, and sorts the rest. With the local service nothing of this changes
anything: the query sees the tokens of the text, all of them and in their order.

So the token that a query is about is the one that covers the position, and it is found
exactly if it can name a definition.

## Main definitions

* `localContext`: The queries about a text with the local service.
* `localStream`: The tokens of a text as a stream.

## Theorems

* `toToken?_toServiceToken`: A reported lexeme becomes the token that it was.
* `tokenizeDocument_localService`, `stream_localContext`: The queries about a text see its
  tokens.
* `targetAt_eq_some`, `targetAt_eq_none`: The token that a query is about.
* `references_localContext`, `definition_localContext`: What a query answers.
* `references_of_target`, `definition_of_target`: What it answers when it is about a token.
* `references_of_no_target`, `definition_of_no_target`: What it answers when it is not.
-/

namespace RiddlEditor

/-- The queries about a text with the local service and the settings of a user. -/
def localContext (text origin : Text) (options : Options) : Context :=
  ⟨localService, text, origin, options.resolver⟩

/-- The tokens of a text as a stream. -/
def localStream (text : Text) : TokenStream :=
  ⟨lexTokens text, (lexTokens_starts_increase text).imp Position.le_of_lt⟩

theorem countedFromZero?_succ (n : Nat) : countedFromZero? (.int (n + 1)) = some n := by
  have hnat : ((n : Int) + 1 - 1).toNat = n := by omega
  simp only [countedFromZero?, Value.integer?]
  rw [if_pos (by omega), hnat]

theorem reversedOffsets?_int {first last : Int} (h : first ≤ last) :
    reversedOffsets? (.int first) (.int last) = some false := by
  have hnot : compare last first ≠ .lt := fun hlt =>
    absurd (Int.compare_eq_lt.mp hlt) (Int.not_lt.mpr h)
  have horder : (some (compare last first) == some Ordering.lt) = false := by
    rw [beq_eq_false_iff_ne]
    exact fun heq => hnot (Option.some.inj heq)
  exact congrArg some horder

/-- A reported lexeme becomes the token that it was. -/
theorem toToken?_toServiceToken (origin : Text) (l : Lexeme) :
    (l.toServiceToken origin).toToken? = .ok (some l.toToken) := by
  -- A token with reversed offsets would be left out.
  have hstop : (l.offset : Int) ≤ l.stop := by
    rw [Lexeme.stop]
    omega
  simp only [Lexeme.toServiceToken, serviceLocation, ServiceToken.toToken?,
    ServiceLocation.offsetOrNull, ServiceLocation.endOffsetOrNull, Option.getD_some,
    countedFromZero?_succ, reversedOffsets?_int hstop, TokenKind.ofValue?, TokenKind.ofName_name]
  rfl

theorem usableTokens_toServiceToken (origin : Text) (lexemes : List Lexeme) :
    usableTokens (lexemes.map (Lexeme.toServiceToken origin)) =
      .ok (lexemes.map Lexeme.toToken) := by
  induction lexemes with
  | nil => rfl
  | cons l rest ih =>
      rw [List.map_cons, usableTokens, toToken?_toServiceToken, ih]
      rfl

/-- Tokens whose positions increase are in order already. -/
theorem ofTokens_lexTokens (text : Text) :
    TokenStream.ofTokens (lexTokens text) = localStream text := by
  have hsorted : (lexTokens text).Pairwise fun a b => a.startsBefore b = true :=
    (lexTokens_starts_increase text).imp fun h => decide_eq_true (Position.le_of_lt h)
  simp only [TokenStream.ofTokens, localStream, List.mergeSort_of_pairwise hsorted]

section Queries

variable (text origin : Text) (options : Options)

/-- The local service delivers the tokens of a text. -/
theorem tokenizeDocument_localService :
    tokenizeDocument localService text origin = .ok (some (localStream text)) := by
  -- It reports every lexeme, and no report is left out.
  have htokens := usableTokens_toServiceToken origin (lexemes text)
  rw [tokenizeDocument]
  simp only [localService, localTokens, if_true]
  rw [htokens, ← ofTokens_lexTokens]
  rfl

/-- The queries about a text see its tokens. -/
theorem stream_localContext :
    (localContext text origin options).stream = .ok (localStream text) := by
  rw [Context.stream, localContext, tokenizeDocument_localService]
  rfl

variable {text}

/-- A query is about the token that covers the position, if that can name a definition. -/
theorem targetAt_eq_some {line column : Int} {t : Token} :
    Context.targetAt (localStream text) line column = some t ↔
      t ∈ lexTokens text ∧ t.kind.isResolvable = true ∧ t.spans line column = true := by
  rw [Context.targetAt, Option.filter_eq_some_iff, TokenStream.tokenAt]
  change findTokenAt (lexTokens text) line column = some t ∧ _ ↔ _
  rw [findTokenAt_eq_some]
  exact ⟨fun ⟨⟨ht, hspans⟩, hkind⟩ => ⟨ht, hkind, hspans⟩,
    fun ⟨ht, hkind, hspans⟩ => ⟨⟨ht, hspans⟩, hkind⟩⟩

/-- A query is about no token if none that can name a definition covers the position. -/
theorem targetAt_eq_none {line column : Int}
    (h : ∀ t ∈ lexTokens text, t.kind.isResolvable = true → t.spans line column = false) :
    Context.targetAt (localStream text) line column = none := by
  cases htarget : Context.targetAt (localStream text) line column with
  | none => rfl
  | some t =>
      rcases targetAt_eq_some.mp htarget with ⟨ht, hkind, hspans⟩
      exact absurd ((h t ht hkind).symm.trans hspans) Bool.false_ne_true

/-- What a query for references answers, whatever it is about. -/
theorem references_localContext (line column : Int) (includeDeclaration : Bool) :
    (localContext text origin options).references line column includeDeclaration =
      .ok ⟨Context.targetAt (localStream text) line column,
        match Context.targetAt (localStream text) line column with
        | some t => options.resolver.references (lexTokens text) t includeDeclaration
        | none => []⟩ := by
  rw [Context.references, stream_localContext]
  rfl

/-- What a query for a definition answers, whatever it is about. -/
theorem definition_localContext (line column : Int) :
    (localContext text origin options).definition line column =
      .ok ⟨Context.targetAt (localStream text) line column,
        (Context.targetAt (localStream text) line column).bind
          (options.resolver.definition? (lexTokens text))⟩ := by
  rw [Context.definition, stream_localContext]
  rfl

variable {line column : Int} {t : Token}

theorem references_of_target (h : Context.targetAt (localStream text) line column = some t)
    (includeDeclaration : Bool) :
    (localContext text origin options).references line column includeDeclaration =
      .ok ⟨some t, options.resolver.references (lexTokens text) t includeDeclaration⟩ := by
  rw [references_localContext, h]

theorem definition_of_target (h : Context.targetAt (localStream text) line column = some t) :
    (localContext text origin options).definition line column =
      .ok ⟨some t, options.resolver.definition? (lexTokens text) t⟩ := by
  rw [definition_localContext, h, Option.bind_some]

theorem references_of_no_target (h : Context.targetAt (localStream text) line column = none)
    (includeDeclaration : Bool) :
    (localContext text origin options).references line column includeDeclaration =
      .ok ⟨none, []⟩ := by
  rw [references_localContext, h]

theorem definition_of_no_target
    (h : Context.targetAt (localStream text) line column = none) :
    (localContext text origin options).definition line column = .ok ⟨none, none⟩ := by
  rw [definition_localContext, h, Option.bind_none]

end Queries

end RiddlEditor
