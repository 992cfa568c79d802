import RiddlEditor.Proofs.Compiler.Definitions
import RiddlEditor.Proofs.Query.Names

/-!
# References

The references of a name are its occurrences in the text, no more and no fewer, in the order
of the text. A name has no line break, so its range is a part of one line, and that part is
the name. The references without the declarations leave out those occurrences that directly
follow a definition keyword.

## Main definitions

* `occurrencesOf`: The marked occurrences of a name in a text.

## Theorems

* `text_under_range`: What a text has under the range of a name is the name.
* `references_true`, `references_false`, `references_true_eq_filter`: The references of a
  token of a text.
* `ranges_increase`: The ranges of the tokens of a text are in its order.
* `references_are_occurrences`: The references at every position of a text.
-/

namespace RiddlEditor

/-- The occurrences of a name in a text, each with whether it directly follows a definition
    keyword. -/
def occurrencesOf (text name : Text) (extra : List Text) : List (Token × Bool) :=
  (marked extra (lexTokens text)).filter fun m => m.1.isNamed name

/-- A keyword and a token that can name a definition have no line break. -/
theorem unbroken_of_word {s : Text} {t : Token} (h : t ∈ lexTokens s)
    (hkind : t.kind = .keyword ∨ t.kind.isResolvable = true) : Unbroken t.text := by
  rcases split_of_mem_lexTokens h with ⟨front, c, rest, _, _, rfl⟩
  intro d hd
  have hword := word_of_kind (reads_readLexeme c rest) hkind d hd
  exact isLineBreak_eq_false (p := isWordChar) (by decide) (by decide) d hword

theorem unbroken_of_resolvable {s : Text} {t : Token} (h : t ∈ lexTokens s)
    (hkind : t.kind.isResolvable = true) : Unbroken t.text :=
  unbroken_of_word h (Or.inr hkind)

/-- What a text has under the range of a name is the name. -/
theorem text_under_range {s : Text} {t : Token} (h : t ∈ lexTokens s)
    (hkind : t.kind.isResolvable = true) :
    t.range.start.line = t.range.stop.line ∧
      ∃ line, (Lines.ofText s).line? t.range.start.line = .ok line ∧
        line.extract t.range.start.column t.range.stop.column = t.text := by
  have hwhole := firstLine_of_unbroken (unbroken_of_resolvable h hkind)
  rcases firstLine_of_token h with ⟨line, hline, htext⟩
  rw [hwhole] at htext
  refine ⟨rfl, line, hline, ?_⟩
  -- The range is as long as the token.
  change (line.drop t.start.column).take (t.start.column + t.text.length - t.start.column) = t.text
  rw [Nat.add_sub_cancel_left, htext]

/-- The ranges of tokens of a text, taken in its order, are in that order. -/
theorem ranges_increase {s : Text} {tokens : List Token} (h : tokens.Sublist (lexTokens s)) :
    (tokens.map Token.range).Pairwise fun r r' => r.start < r'.start := by
  rw [List.pairwise_map]
  exact (lexTokens_starts_increase s).sublist h

section Resolver

variable (text : Text) (options : Options) {t : Token} (hkind : t.kind.isResolvable = true)
include hkind

theorem references_true :
    options.resolver.references (lexTokens text) t true =
      (occurrencesOf text t.text options.extraKeywords).map fun m => m.1.range := by
  rw [references_eq (lexTokens_starts_increase text) _ hkind]
  simp only [Bool.true_or, List.filter_true]
  rfl

theorem references_false :
    options.resolver.references (lexTokens text) t false =
      ((occurrencesOf text t.text options.extraKeywords).filter fun m => !m.2).map
        fun m => m.1.range := by
  rw [references_eq (lexTokens_starts_increase text) _ hkind]
  simp only [Bool.false_or]
  rfl

theorem references_true_eq_filter :
    options.resolver.references (lexTokens text) t true =
      ((lexTokens text).filter (Token.isNamed t.text)).map Token.range := by
  have htokens := map_fst_marked options.extraKeywords (lexTokens text)
  rw [references_true text options hkind]
  conv_rhs => rw [← htokens, List.filter_map, List.map_map]
  rfl

theorem references_sublist :
    (options.resolver.references (lexTokens text) t false).Sublist
      (options.resolver.references (lexTokens text) t true) := by
  rw [references_true text options hkind, references_false text options hkind]
  exact List.filter_sublist.map _

/-- The declarations are what makes the difference. -/
theorem length_references :
    (options.resolver.references (lexTokens text) t true).length =
      (options.resolver.references (lexTokens text) t false).length +
        (occurrencesOf text t.text options.extraKeywords).countP Prod.snd := by
  -- An occurrence is either among the others or marked.
  have hcount := List.length_eq_countP_add_countP (fun m : Token × Bool => !m.2)
    (l := occurrencesOf text t.text options.extraKeywords)
  simp only [Bool.not_eq_eq_eq_not, Bool.not_true, Bool.not_eq_false] at hcount
  rw [references_true text options hkind, references_false text options hkind, List.length_map,
    List.length_map, ← List.countP_eq_length_filter, hcount]
  simp

end Resolver

/-- The references at a position. If a token that can name a definition covers the position,
    they are the ranges of all tokens that can name a definition and are spelled like it, in
    the order of the text, each the part of a line that is the name; and without the
    declarations, those that directly follow a definition keyword are left out. If no such
    token covers the position, there are no references. -/
theorem references_are_occurrences (text origin : Text) (options : Options) (line column : Int) :
    let q := localContext text origin options
    q.stream.map TokenStream.tokens = .ok (lexTokens text) ∧
    (∀ t ∈ lexTokens text, t.kind.isResolvable = true → t.spans line column = true →
      ∃ all others : List Range,
        q.references line column true = .ok ⟨some t, all⟩ ∧
        q.references line column false = .ok ⟨some t, others⟩ ∧
        all = ((lexTokens text).filter (Token.isNamed t.text)).map Token.range ∧
        all.Pairwise (fun r r' => r.start < r'.start) ∧ all.Nodup ∧
        (∀ r ∈ all, r.start.line = r.stop.line ∧
          ∃ shown, (Lines.ofText text).line? r.start.line = .ok shown ∧
            shown.extract r.start.column r.stop.column = t.text) ∧
        t.range ∈ all ∧
        others = ((occurrencesOf text t.text options.extraKeywords).filter fun m => !m.2).map
          (fun m => m.1.range) ∧
        others.Sublist all ∧
        all.length =
          others.length + (occurrencesOf text t.text options.extraKeywords).countP Prod.snd) ∧
    ((∀ t ∈ lexTokens text, t.kind.isResolvable = true → t.spans line column = false) →
      ∀ includeDeclaration, q.references line column includeDeclaration = .ok ⟨none, []⟩) := by
  intro q
  refine ⟨?_, fun t ht hkind hspans => ?_, fun hnone includeDeclaration => ?_⟩
  · rw [stream_localContext]
    rfl
  · have htarget := targetAt_eq_some.mpr ⟨ht, hkind, hspans⟩
    have hall := references_true_eq_filter text options hkind
    have hincrease := ranges_increase (List.filter_sublist (p := Token.isNamed t.text)
      (l := lexTokens text))
    refine ⟨_, _, references_of_target origin options htarget true,
      references_of_target origin options htarget false, hall, ?_, ?_, ?_, ?_,
      references_false text options hkind, references_sublist text options hkind,
      length_references text options hkind⟩
    · rw [hall]
      exact hincrease
    · rw [hall]
      exact hincrease.imp fun hlt heq => Position.ne_of_lt hlt (congrArg Range.start heq)
    · -- Under each range there is the spelling that all occurrences share.
      intro r hr
      rw [hall] at hr
      rcases List.mem_map.mp hr with ⟨u, hu, rfl⟩
      rcases List.mem_filter.mp hu with ⟨hu, hnamed⟩
      rcases isNamed_iff.mp hnamed with ⟨hkind', hname⟩
      rw [← hname]
      exact text_under_range hu hkind'
    · rw [hall]
      exact List.mem_map_of_mem (List.mem_filter.mpr ⟨ht, isNamed_iff.mpr ⟨hkind, rfl⟩⟩)
  · exact references_of_no_target origin options (targetAt_eq_none hnone) includeDeclaration

end RiddlEditor
