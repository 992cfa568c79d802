import RiddlEditor.Proofs.Lexeme.Below
import RiddlEditor.Proofs.Query.Definition

/-!
# Answers above an edit

What stands below a text does not change what is answered about it. The tokens of the text are
the first ones of any text that goes on below it, as long as it leaves no block comment open,
and the answers about names only ever look back: a mark depends on the token in front of it
(`marked_prefix`), the definition is the first occurrence that is marked, and the references
come in the order of the text. So the references are the first ones that are found with more
text below, and a definition that was found stays the one that is found.

It is the tokens below that may be seen in a new light. A definition keyword at the end of the
text makes a definition of a name that comes next.

## Theorems

* `marked_prefix`: The marks of the first tokens do not depend on those behind them.
* `references_prefix`, `definition?_of_prefix`: The answers of a resolver.
* `targetAt_below`: A position is about the same token with more text below.
* `answers_above`: The answers of a text with more text below.
-/

namespace RiddlEditor

/-- The marks of the first tokens do not depend on those behind them. -/
theorem marked_prefix (extra : List Text) {tokens longer : List Token} (h : tokens <+: longer) :
    marked extra tokens <+: marked extra longer := by
  rcases h with ⟨more, rfl⟩
  -- The mark of the first token is the only one that does not come from the list.
  have hzip : ∀ first : Bool,
      tokens.zip (first :: tokens.map (Token.introduces extra)) <+:
        (tokens ++ more).zip (first :: (tokens ++ more).map (Token.introduces extra)) := by
    induction tokens with
    | nil => exact fun first => List.nil_prefix
    | cons t tokens ih =>
        intro first
        rw [List.cons_append, List.map_cons, List.map_cons, List.zip_cons_cons,
          List.zip_cons_cons]
        exact (List.prefix_cons_inj (t, first)).mpr (ih (t.introduces extra))
  exact hzip false

section Resolver

variable {tokens longer : List Token} (h : tokens <+: longer)
  (hsorted : longer.Pairwise fun a b => a.start < b.start) (r : Resolver) {t : Token}
include h hsorted

/-- The references among the first tokens are the first references. -/
theorem references_prefix (hkind : t.kind.isResolvable = true) (includeDeclaration : Bool) :
    r.references tokens t includeDeclaration <+: r.references longer t includeDeclaration := by
  have hmarked := marked_prefix r.extraKeywords h
  rw [references_eq (hsorted.sublist h.sublist) r hkind, references_eq hsorted r hkind]
  exact ((hmarked.filter _).filter _).map _

/-- A definition among the first tokens is the definition. -/
theorem definition?_of_prefix {d : Range} (hdefinition : r.definition? tokens t = some d) :
    r.definition? longer t = some d := by
  have hkind : t.kind.isResolvable = true := by
    by_contra hkind
    rw [Resolver.definition?, if_neg hkind] at hdefinition
    exact absurd hdefinition (Option.some_ne_none d).symm
  have hmarked := marked_prefix r.extraKeywords h
  rw [definition?_eq (hsorted.sublist h.sublist) r hkind] at hdefinition
  rw [definition?_eq hsorted r hkind]
  rcases Option.map_eq_some_iff.mp hdefinition with ⟨m, hfind, rfl⟩
  rw [(hmarked.filter _).find?_eq_some hfind, Option.map_some]

end Resolver

section Below

variable {upper : Text} (hclosed : ∀ e ∈ lexErrors upper, e.fault ≠ .unterminatedComment)
include hclosed

/-- The tokens of a text are the first ones of a text that goes on below it. -/
theorem lexTokens_prefix_below (lower : Text) :
    lexTokens upper <+: lexTokens (upper ++ ['\n'] ++ lower) := by
  have hlexemes := lexemes_below ((closed_iff upper).mp hclosed) lower
  rw [lexTokens, lexTokens, List.append_assoc, List.singleton_append, hlexemes]
  exact (List.prefix_append _ _).map Lexeme.toToken

/-- A position is about the same token with more text below. -/
theorem targetAt_below (lower : Text) {line column : Int} {t : Token}
    (h : Context.targetAt (localStream upper) line column = some t) :
    Context.targetAt (localStream (upper ++ ['\n'] ++ lower)) line column = some t := by
  rcases targetAt_eq_some.mp h with ⟨ht, hkind, hspans⟩
  exact targetAt_eq_some.mpr
    ⟨(lexTokens_prefix_below hclosed lower).subset ht, hkind, hspans⟩

end Below

/-- The answers of a text with more text below. If the text leaves no block comment open, then
    at every position, with and without the declarations, the references are the first ones of
    those that are found with a line feed and any text behind it; at a position inside of a
    name the question is about the same token. A definition that is found is found
    there, too. -/
theorem answers_above (upper lower origin : Text) (options : Options)
    (hclosed : ∀ e ∈ lexErrors upper, e.fault ≠ .unterminatedComment) (line column : Int) :
    let q := localContext upper origin options
    let longer := localContext (upper ++ ['\n'] ++ lower) origin options
    (∀ includeDeclaration, ∃ run later,
      q.references line column includeDeclaration = .ok run ∧
      longer.references line column includeDeclaration = .ok later ∧
      run.references <+: later.references ∧
      ∀ t, run.target = some t → later.target = some t) ∧
    ∀ target d, q.definition line column = .ok ⟨target, some d⟩ →
      longer.definition line column = .ok ⟨target, some d⟩ := by
  intro q longer
  have hfront := lexTokens_prefix_below hclosed lower
  have hsorted := lexTokens_starts_increase (upper ++ ['\n'] ++ lower)
  constructor
  · intro includeDeclaration
    refine ⟨_, _, references_localContext origin options line column includeDeclaration,
      references_localContext origin options line column includeDeclaration, ?_,
      fun t ht => targetAt_below hclosed lower ht⟩
    cases htarget : Context.targetAt (localStream upper) line column with
    | none => exact List.nil_prefix
    | some t =>
        have hkind := (targetAt_eq_some.mp htarget).2.1
        rw [targetAt_below hclosed lower htarget]
        exact references_prefix hfront hsorted options.resolver hkind includeDeclaration
  · intro target d hdefinition
    rcases exists_target_of_definition hdefinition with ⟨t, rfl, htarget, hfound⟩
    rw [definition_of_target origin options (targetAt_below hclosed lower htarget),
      definition?_of_prefix hfront hsorted options.resolver hfound]

/-- A text that ends with a keyword, asked about at a use of a name. The keyword makes a
    definition of the same name on the next line, and the first definition stays the one that
    is found. -/
theorem answers_above_definition :
    let upper := "type A is A type".toList
    let lower := "A".toList
    let t : Token := ⟨['A'], .identifier, ⟨0, 10⟩, .int 10, .int 11⟩
    let q := localContext upper [] Options.defaults
    let longer := localContext (upper ++ ['\n'] ++ lower) [] Options.defaults
    (∀ e ∈ lexErrors upper, e.fault ≠ .unterminatedComment) ∧
    (∃ run later, q.references 0 10 true = .ok run ∧ longer.references 0 10 true = .ok later ∧
      run.references <+: later.references) ∧
    longer.definition 0 10 = .ok ⟨some t, some (Range.span ⟨0, 5⟩ 1)⟩ := by
  intro upper lower t q longer
  have hclosed : ∀ e ∈ lexErrors upper, e.fault ≠ .unterminatedComment := by decide +kernel
  have hmem : (⟨['A'], .identifier, ⟨0, 10⟩, 10, none⟩ : Lexeme) ∈ lexemes upper := by
    decide +kernel
  have htarget := targetAt_eq_some.mpr
    ⟨List.mem_map_of_mem hmem, rfl, (by decide : t.spans 0 10 = true)⟩
  have hfound : Options.defaults.resolver.definition? (lexTokens upper) t =
      some (Range.span ⟨0, 5⟩ 1) := by
    rw [definition?_eq (lexTokens_starts_increase _) _ rfl]
    decide +kernel
  have hdefinition : q.definition 0 10 = .ok ⟨some t, some (Range.span ⟨0, 5⟩ 1)⟩ :=
    (definition_of_target [] Options.defaults htarget).trans
      (congrArg (fun d => Except.ok (DefinitionRun.mk (some t) d)) hfound)
  rcases answers_above upper lower [] Options.defaults hclosed 0 10 with ⟨hreferences, hstays⟩
  rcases hreferences true with ⟨run, later, hrun, hlater, hfirst, _⟩
  exact ⟨hclosed, ⟨run, later, hrun, hlater, hfirst⟩, hstays _ _ hdefinition⟩

end RiddlEditor
