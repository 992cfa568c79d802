import Mathlib.Data.List.Nodup
import RiddlEditor.Proofs.Query.Stream
import RiddlEditor.Proofs.StableSort
import RiddlEditor.Proofs.TokenStream.Reported

/-!
# Reported tokens in order

A stream holds the tokens that were reported, sorted by their positions, and those at one
position stay in the order of the report. `StablySorted` says this without a sorting algorithm,
and it leaves one list only.

The offsets of a service that keeps to the types of its answers can always be compared, so
every token with a line and a column that count from one comes into the stream. In which order
the tokens are reported does not matter as long as their positions tell them apart. The local
service is such a service, and its reports are in order already: what comes out is what went in.

## Main definitions

* `StablySorted`: A list in the order of the positions, with as few changes as possible.
* `ServiceToken.WellTyped`: A reported token whose fields are of the right types.

## Theorems

* `stablySorted_ofTokens`: Tokens become a stream by a stable sort.
* `ofTokens_eq_of_perm`: Tokens at different positions have one stream in every order.
* `readableTokens_of_wellTyped`: The offsets of such tokens can be compared.
* `stream_is_what_was_reported`: The stream of a document is what was reported for it.
-/

namespace RiddlEditor

/-! ## Sorting -/

/-- A list is another one in the order of the positions, where those at one position keep
    theirs. -/
structure StablySorted (tokens sorted : List Token) : Prop where
  perm : sorted.Perm tokens
  ordered : sorted.Pairwise fun a b => a.start ≤ b.start
  stable : ∀ p : Position, (sorted.filter fun t => t.start = p) = tokens.filter fun t => t.start = p

theorem Position.le_antisymm {p q : Position} (hpq : p ≤ q) (hqp : q ≤ p) : p = q := by
  rcases p with ⟨line, column⟩
  rcases q with ⟨line', column'⟩
  simp only [Position.le_def] at hpq hqp
  rw [Position.mk.injEq]
  omega

/-- Tokens that are equal in the order of a stream have one position. -/
theorem Token.isTied_startsBefore_iff {a b : Token} :
    isTied Token.startsBefore a b = true ↔ a.start = b.start := by
  rw [isTied_iff, Token.startsBefore, Token.startsBefore, decide_eq_true_eq, decide_eq_true_eq]
  constructor
  · rintro ⟨hab, hba⟩
    exact Position.le_antisymm hab hba
  · intro h
    rw [h]
    exact ⟨Position.le_refl _, Position.le_refl _⟩

/-- Tokens become a stream by a stable sort. -/
theorem stablySorted_ofTokens (tokens : List Token) :
    StablySorted tokens (TokenStream.ofTokens tokens).tokens := by
  have hsort : StableSort Token.startsBefore tokens (TokenStream.ofTokens tokens).tokens :=
    stableSort_mergeSort Token.startsBefore_trans Token.startsBefore_total tokens
  refine ⟨hsort.perm, (TokenStream.ofTokens tokens).sorted, fun p => ?_⟩
  -- A position is that of a token, be it one that is not in the list.
  have hposition : (fun t : Token => decide (t.start = p)) =
      isTied Token.startsBefore ⟨[], .other, p, .null, .null⟩ := by
    funext t
    rw [Bool.eq_iff_iff, decide_eq_true_eq, Token.isTied_startsBefore_iff, eq_comm]
  rw [hposition]
  exact hsort.stable _

/-- Tokens at different positions have one stream, in whichever order they come. -/
theorem ofTokens_eq_of_perm {tokens others : List Token} (h : tokens.Perm others)
    (hstarts : tokens.Pairwise fun a b => a.start ≠ b.start) :
    TokenStream.ofTokens tokens = TokenStream.ofTokens others := by
  have hsame : (TokenStream.ofTokens tokens).tokens = (TokenStream.ofTokens others).tokens :=
    mergeSort_eq_of_perm Token.startsBefore_trans Token.startsBefore_total h
      (hstarts.imp fun hne htied => hne (Token.isTied_startsBefore_iff.mp htied))
  rw [TokenStream.mk.injEq, ← hsame]

/-! ## Services that keep to the types -/

/-- A value that may stand for an offset: a whole number, or nothing. -/
def Value.IsOffset (v : Value) : Prop :=
  v = .null ∨ ∃ n, v.integer? = some n

/-- A reported token whose fields are of the right types. -/
inductive ServiceToken.WellTyped : ServiceToken → Prop where
  | mk {text kind : Text} {l : ServiceLocation} {line column : Int}
      (hline : l.line.integer? = some line) (hcolumn : l.column.integer? = some column)
      (hoffset : l.offsetOrNull.IsOffset) (hend : l.endOffsetOrNull.IsOffset) :
      WellTyped ⟨.text text, .text kind, some l⟩

/-- Whole numbers are in the usual order. -/
theorem less?_of_integer? {a b : Value} {m n : Int} (ha : a.integer? = some m)
    (hb : b.integer? = some n) : a.less? b = some (compare m n == .lt) := by
  cases a <;> cases b <;>
    simp_all [Value.integer?, Value.less?, Value.compareNumbers?, Value.number?, Number.compare?]

/-- A token of the right types is not in the way. -/
theorem readableTokens_of_wellTyped {raws : List ServiceToken}
    (h : ∀ raw ∈ raws, raw.WellTyped) : ReadableTokens raws := by
  intro raw hraw _
  cases h raw hraw with
  | mk _ _ hoffset hend =>
      refine ⟨fun l hl => ?_, Value.hasLongInteger_text _⟩
      obtain rfl := Option.some.inj hl
      rcases hoffset with hnull | ⟨m, hm⟩
      · exact Or.inl hnull
      rcases hend with hnull | ⟨n, hn⟩
      · exact Or.inr (Or.inl hnull)
      · exact Or.inr (Or.inr (by rw [less?_of_integer? hn hm]; rfl))

/-- A token of the right types is usable if it has a place. -/
theorem filter_isUsable_of_wellTyped {raws : List ServiceToken}
    (h : ∀ raw ∈ raws, raw.WellTyped) :
    raws.filter ServiceToken.isUsable = raws.filter ServiceToken.isPlaced := by
  refine List.filter_congr fun raw hraw => ?_
  cases h raw hraw with
  | mk _ _ _ _ => rfl

/-- What is reported at different places becomes tokens at different positions. -/
theorem starts_ne_of_places_ne {raws : List ServiceToken} {tokens : List Token}
    (h : List.Forall₂ ServiceToken.Becomes raws tokens)
    (hplaces : raws.Pairwise fun a b => a.place? ≠ b.place?) :
    tokens.Pairwise fun a b => a.start ≠ b.start := by
  have hmap : raws.map ServiceToken.place? =
      tokens.map fun t => some ((t.start.line : Int) + 1, (t.start.column : Int) + 1) := by
    induction h with
    | nil => rfl
    | cons hfirst _ ih =>
        rw [List.map_cons, List.map_cons, hfirst.place?_eq, ih (List.pairwise_cons.mp hplaces).2]
  have hdistinct := List.pairwise_map.mp (hmap ▸ List.pairwise_map.mpr hplaces)
  exact hdistinct.imp fun hne heq => hne (by rw [heq])

section Delivered

variable {service : Service} {text origin : Text} {raws : List ServiceToken}

/-- The stream of a service that keeps to the types. -/
theorem tokenizeDocument_of_wellTyped (h : service.Delivers text origin raws)
    (htypes : ∀ raw ∈ raws, raw.WellTyped) :
    tokenizeDocument service text origin =
      .ok (some (TokenStream.ofTokens (raws.filterMap ServiceToken.token?))) := by
  rw [tokenizeDocument_of_delivers h, usableTokens_eq_ok (readableTokens_of_wellTyped htypes)]
  rfl

theorem forall₂_becomes_of_wellTyped (htypes : ∀ raw ∈ raws, raw.WellTyped) :
    List.Forall₂ ServiceToken.Becomes (raws.filter ServiceToken.isPlaced)
      (raws.filterMap ServiceToken.token?) := by
  rw [← filter_isUsable_of_wellTyped htypes]
  exact forall₂_becomes (readableTokens_of_wellTyped htypes)

end Delivered

/-- The stream of a document is what was reported for it. Each report of the local service
    becomes the token that it was made of, and the stream is the tokens of the text, all of them
    and in their order. For any other service that keeps to the types, it is the stable sort of
    the tokens whose line and column count from one, each of them counted from zero and without
    an end offset that is smaller than its offset. So two services that report the same tokens
    in different orders deliver one stream, if no two of these tokens are at one place. -/
theorem stream_is_what_was_reported (text origin : Text) :
    (localTokens text origin).tokens.map ServiceToken.toToken? =
      ((lexTokens text).map fun t => .ok (some t)) ∧
    (∃ s, tokenizeDocument localService text origin = .ok (some s) ∧
      s.tokens = lexTokens text) ∧
    (∀ (service : Service) (raws : List ServiceToken), service.Delivers text origin raws →
      (∀ raw ∈ raws, raw.WellTyped) →
      ∃ s tokens, tokenizeDocument service text origin = .ok (some s) ∧
        List.Forall₂ ServiceToken.Becomes (raws.filter ServiceToken.isPlaced) tokens ∧
        StablySorted tokens s.tokens) ∧
    ∀ (service other : Service) (raws others : List ServiceToken),
      service.Delivers text origin raws → other.Delivers text origin others →
      (∀ raw ∈ raws, raw.WellTyped) → raws.Perm others →
      ((raws.filter ServiceToken.isPlaced).Pairwise fun a b => a.place? ≠ b.place?) →
      tokenizeDocument service text origin = tokenizeDocument other text origin := by
  refine ⟨?_, ?_, ?_, ?_⟩
  · rw [localTokens, lexTokens, List.map_map, List.map_map]
    exact List.map_congr_left fun l _ => toToken?_toServiceToken origin l
  · exact ⟨localStream text, tokenizeDocument_localService text origin, rfl⟩
  · intro service raws hdelivers htypes
    exact ⟨_, _, tokenizeDocument_of_wellTyped hdelivers htypes,
      forall₂_becomes_of_wellTyped htypes, stablySorted_ofTokens _⟩
  · intro service other raws others hdelivers hdelivers' htypes hperm hplaces
    have htypes' : ∀ raw ∈ others, raw.WellTyped := fun raw hraw =>
      htypes raw (hperm.symm.subset hraw)
    rw [tokenizeDocument_of_wellTyped hdelivers htypes,
      tokenizeDocument_of_wellTyped hdelivers' htypes']
    have hstarts := starts_ne_of_places_ne (forall₂_becomes_of_wellTyped htypes) hplaces
    rw [ofTokens_eq_of_perm (hperm.filterMap _) hstarts]

/-- A name on the second line, a keyword in front of it, and a token that is at no line. -/
def scatteredTokens : List ServiceToken :=
  [⟨.text ['A'], .text "Identifier".toList, some ⟨.int 2, .int 1, some (.int 5), some (.int 4), .null⟩⟩,
    ⟨.text "type".toList, .text "Keyword".toList, some ⟨.int 1, .int 3, some (.int 2), some (.int 6), .null⟩⟩,
    ⟨.text ['?'], .text "Other".toList, some ⟨.int 0, .int 1, some .null, some .null, .null⟩⟩]

theorem wellTyped_scatteredTokens : ∀ raw ∈ scatteredTokens, raw.WellTyped := by
  intro raw hraw
  rw [scatteredTokens, List.mem_cons, List.mem_cons, List.mem_singleton] at hraw
  rcases hraw with rfl | rfl | rfl
  · exact .mk rfl rfl (Or.inr ⟨5, rfl⟩) (Or.inr ⟨4, rfl⟩)
  · exact .mk rfl rfl (Or.inr ⟨2, rfl⟩) (Or.inr ⟨6, rfl⟩)
  · exact .mk rfl rfl (Or.inl rfl) (Or.inl rfl)

/-- Three tokens come in two orders, and the stream is the same. -/
theorem scattered_tokens_have_one_stream :
    scatteredTokens ≠ scatteredTokens.reverse ∧
    tokenizeDocument (Service.reporting scatteredTokens) [] [] =
      tokenizeDocument (Service.reporting scatteredTokens.reverse) [] [] ∧
    ∃ s tokens, tokenizeDocument (Service.reporting scatteredTokens) [] [] = .ok (some s) ∧
      List.Forall₂ ServiceToken.Becomes (scatteredTokens.take 2) tokens ∧
      StablySorted tokens s.tokens := by
  obtain ⟨_, _, hsorted, hperm⟩ := stream_is_what_was_reported [] []
  refine ⟨?_, ?_, ?_⟩
  · intro h
    have hlines := congrArg (List.map fun raw : ServiceToken => raw.place?) h
    revert hlines
    decide
  · exact hperm _ _ _ _ (Service.delivers_reporting scatteredTokens)
      (Service.delivers_reporting scatteredTokens.reverse) wellTyped_scatteredTokens
      (List.reverse_perm scatteredTokens).symm (by decide)
  · exact hsorted _ _ (Service.delivers_reporting scatteredTokens) wellTyped_scatteredTokens

end RiddlEditor
