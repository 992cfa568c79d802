import RiddlEditor.Proofs.Lexeme.LineFeeds
import RiddlEditor.Proofs.Query.Colouring
import RiddlEditor.Proofs.Query.Definition

/-!
# Answers and line endings

How a text ends its lines does not matter to what is answered about it. Its tokens stay where
they are when the line breaks are written as line feeds, and what the answers look at stays,
too: keywords and names have no line break, so they keep their spelling and their length, and
every token keeps its first line. Comments over several lines do change, but no answer goes
beyond their first line.

So the marks of the tokens are the same, and with them the definitions, the references and the
colours, at every position.

## Theorems

* `marked_withLineFeeds`: The marks of the tokens stay.
* `references_withLineFeeds`, `definition?_withLineFeeds`: The answers of a resolver stay.
* `targetAt_withLineFeeds`: A position is about the same token.
* `line_endings_do_not_matter`: A text with its line breaks written as line feeds.
-/

namespace RiddlEditor

section Tokens

variable {text : Text} {t : Token} (h : t ∈ lexTokens text)
include h

/-- A keyword and a token that can name a definition keep their spelling. -/
theorem text_withLineFeeds_of_word (hkind : t.kind = .keyword ∨ t.kind.isResolvable = true) :
    (t.withLineFeeds text).text = t.text :=
  withLineFeeds_of_unbroken (unbroken_of_word h hkind)

theorem introduces_withLineFeeds (extra : List Text) :
    (t.withLineFeeds text).introduces extra = t.introduces extra := by
  by_cases hkind : t.kind = .keyword
  · have htext := text_withLineFeeds_of_word h (Or.inl hkind)
    rw [Token.introduces, htext]
    rfl
  · have hneither : ∀ u : Token, u.kind = t.kind → u.introduces extra = false := fun u hu =>
      decide_eq_false fun hu' => hkind (hu.symm.trans hu'.1)
    rw [hneither t rfl, hneither (t.withLineFeeds text) rfl]

theorem isNamed_withLineFeeds (name : Text) :
    (t.withLineFeeds text).isNamed name = t.isNamed name := by
  by_cases hkind : t.kind.isResolvable = true
  · have htext := text_withLineFeeds_of_word h (Or.inr hkind)
    rw [Token.isNamed, htext]
    rfl
  · have hneither : ∀ u : Token, u.kind = t.kind → u.isNamed name = false := fun u hu =>
      decide_eq_false fun hu' => hkind (hu ▸ hu'.1)
    rw [hneither t rfl, hneither (t.withLineFeeds text) rfl]

theorem range_withLineFeeds (hkind : t.kind.isResolvable = true) :
    (t.withLineFeeds text).range = t.range := by
  have htext := text_withLineFeeds_of_word h (Or.inr hkind)
  rw [Token.range, Token.length, htext]
  rfl

theorem spans_withLineFeeds (hkind : t.kind.isResolvable = true) (line column : Int) :
    (t.withLineFeeds text).spans line column = t.spans line column := by
  have htext := text_withLineFeeds_of_word h (Or.inr hkind)
  rw [Token.spans, Token.length, htext]
  rfl

end Tokens

/-- A token is coloured as far as its first line goes, and that stays. -/
theorem colour_withLineFeeds (text : Text) (t : Token) (defines : Bool) :
    (t.withLineFeeds text).colour defines = t.colour defines := by
  have hline : firstLine (t.withLineFeeds text).text = firstLine t.text :=
    firstLine_withLineFeeds t.text
  rw [Token.colour, hline]
  rfl

section Marks

variable (text : Text) (extra : List Text)

/-- The marks of the tokens stay. -/
theorem marked_withLineFeeds :
    marked extra (lexTokens text.withLineFeeds) =
      (marked extra (lexTokens text)).map fun m => (m.1.withLineFeeds text, m.2) := by
  have hmarks : ((lexTokens text).map (Token.withLineFeeds text)).map (Token.introduces extra) =
      (lexTokens text).map (Token.introduces extra) := by
    rw [List.map_map]
    exact List.map_congr_left fun t ht => introduces_withLineFeeds ht extra
  rw [marked, lexTokens_withLineFeeds, hmarks, List.zip_map_left]
  rfl

/-- The occurrences of a name stay. -/
theorem occurrencesOf_withLineFeeds (name : Text) :
    occurrencesOf text.withLineFeeds name extra =
      (occurrencesOf text name extra).map fun m => (m.1.withLineFeeds text, m.2) := by
  rw [occurrencesOf, marked_withLineFeeds, List.filter_map, occurrencesOf]
  refine congrArg (List.map _) (List.filter_congr fun m hm => ?_)
  exact isNamed_withLineFeeds (mem_of_mem_marked hm) name

end Marks

theorem range_of_mem_occurrencesOf {text name : Text} {extra : List Text} {m : Token × Bool}
    (h : m ∈ occurrencesOf text name extra) : (m.1.withLineFeeds text).range = m.1.range := by
  rcases mem_occurrencesOf h with ⟨_, hmem, hkind, _⟩
  exact range_withLineFeeds hmem hkind

section Resolver

variable {text : Text} (options : Options) {t : Token} (ht : t ∈ lexTokens text)
  (hkind : t.kind.isResolvable = true)
include ht hkind

/-- The references of a name stay. -/
theorem references_withLineFeeds (includeDeclaration : Bool) :
    options.resolver.references (lexTokens text.withLineFeeds) (t.withLineFeeds text)
        includeDeclaration =
      options.resolver.references (lexTokens text) t includeDeclaration := by
  have hkind' : (t.withLineFeeds text).kind.isResolvable = true := hkind
  have hoccurrences := occurrencesOf_withLineFeeds text options.extraKeywords t.text
  have hsorted := lexTokens_starts_increase
  rw [references_eq (hsorted text.withLineFeeds) _ hkind', references_eq (hsorted text) _ hkind,
    text_withLineFeeds_of_word ht (Or.inr hkind)]
  change ((occurrencesOf _ t.text options.extraKeywords).filter _).map _ =
    ((occurrencesOf _ t.text options.extraKeywords).filter _).map _
  rw [hoccurrences, List.filter_map, List.map_map]
  exact List.map_congr_left fun m hm => range_of_mem_occurrencesOf (List.mem_filter.mp hm).1

/-- The definition of a name stays. -/
theorem definition?_withLineFeeds :
    options.resolver.definition? (lexTokens text.withLineFeeds) (t.withLineFeeds text) =
      options.resolver.definition? (lexTokens text) t := by
  have hkind' : (t.withLineFeeds text).kind.isResolvable = true := hkind
  have hoccurrences := occurrencesOf_withLineFeeds text options.extraKeywords t.text
  have hsorted := lexTokens_starts_increase
  rw [definition?_eq (hsorted text.withLineFeeds) _ hkind', definition?_eq (hsorted text) _ hkind,
    text_withLineFeeds_of_word ht (Or.inr hkind)]
  change ((occurrencesOf _ t.text options.extraKeywords).find? _).map _ =
    ((occurrencesOf _ t.text options.extraKeywords).find? _).map _
  rw [hoccurrences, List.find?_map, Option.map_map]
  exact Option.map_congr fun m hm => range_of_mem_occurrencesOf (List.mem_of_find?_eq_some hm)

end Resolver

/-- The colours of a text stay. -/
theorem colours_withLineFeeds (text : Text) (extra : List Text) :
    colours extra (lexTokens text.withLineFeeds) = colours extra (lexTokens text) := by
  rw [colours, marked_withLineFeeds, List.map_map, colours]
  exact List.map_congr_left fun m _ => colour_withLineFeeds text m.1 m.2

/-- A position is about the same token. -/
theorem targetAt_withLineFeeds (text : Text) (line column : Int) :
    Context.targetAt (localStream text.withLineFeeds) line column =
      (Context.targetAt (localStream text) line column).map (Token.withLineFeeds text) := by
  cases htarget : Context.targetAt (localStream text) line column with
  | some t =>
      rcases targetAt_eq_some.mp htarget with ⟨ht, hkind, hspans⟩
      refine targetAt_eq_some.mpr ⟨?_, hkind, (spans_withLineFeeds ht hkind line column).trans hspans⟩
      rw [lexTokens_withLineFeeds]
      exact List.mem_map_of_mem ht
  | none =>
      -- A name that covers the position would cover it in the other text as well.
      refine targetAt_eq_none fun u hu hkind => ?_
      rw [lexTokens_withLineFeeds] at hu
      rcases List.mem_map.mp hu with ⟨t, ht, rfl⟩
      rw [spans_withLineFeeds ht hkind, ← Bool.not_eq_true]
      intro hspans
      rw [targetAt_eq_some.mpr ⟨ht, hkind, hspans⟩] at htarget
      exact absurd htarget (Option.some_ne_none t)

/-- A text with its line breaks written as line feeds. Its lines are the same. It has the same
    tokens and errors, with their kinds and messages and their positions, where the spelling
    of a token is written with line feeds and offsets move. The colours are the same, and at
    every position so are the definition and, with and without the declarations, the
    references. -/
theorem line_endings_do_not_matter (text origin : Text) (options : Options) :
    let other := text.mergePairs.map fun c => if c = '\r' then '\n' else c
    let q := localContext text origin options
    let q' := localContext other origin options
    (Lines.ofText other).lines = (Lines.ofText text).lines ∧
    lexTokens other = (lexTokens text).map (Token.withLineFeeds text) ∧
    lexErrors other = (lexErrors text).map (LexError.withLineFeeds text) ∧
    (∃ found, q.semanticTokens = .ok found ∧ q'.semanticTokens = .ok found) ∧
    ∀ line column : Int,
      (∃ target definition, q.definition line column = .ok ⟨target, definition⟩ ∧
        q'.definition line column = .ok ⟨target.map (Token.withLineFeeds text), definition⟩) ∧
      ∀ includeDeclaration, ∃ target references,
        q.references line column includeDeclaration = .ok ⟨target, references⟩ ∧
        q'.references line column includeDeclaration =
          .ok ⟨target.map (Token.withLineFeeds text), references⟩ := by
  rw [← withLineFeeds_eq_map_mergePairs]
  intro other q q'
  refine ⟨lines_withLineFeeds text, lexTokens_withLineFeeds text, lexErrors_withLineFeeds text,
    ⟨_, semanticTokens_localContext text origin options, ?_⟩, fun line column => ?_⟩
  · rw [semanticTokens_localContext, colours_withLineFeeds]
  · have hother := targetAt_withLineFeeds text line column
    cases htarget : Context.targetAt (localStream text) line column with
    | none =>
        rw [htarget] at hother
        exact ⟨⟨_, _, definition_of_no_target origin options htarget,
            definition_of_no_target origin options hother⟩,
          fun b => ⟨_, _, references_of_no_target origin options htarget b,
            references_of_no_target origin options hother b⟩⟩
    | some t =>
        rcases targetAt_eq_some.mp htarget with ⟨ht, hkind, _⟩
        rw [htarget] at hother
        refine ⟨⟨_, _, definition_of_target origin options htarget, ?_⟩,
          fun b => ⟨_, _, references_of_target origin options htarget b, ?_⟩⟩
        · rw [definition_of_target origin options hother, definition?_withLineFeeds options ht hkind]
          rfl
        · rw [references_of_target origin options hother, references_withLineFeeds options ht hkind]
          rfl

end RiddlEditor
