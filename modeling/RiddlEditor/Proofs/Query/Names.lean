import Mathlib.Data.List.Nodup
import RiddlEditor.Proofs.Query.Stream

/-!
# Names in a token list

The questions about names go through indices: the tokens are numbered, the ones with the
right spelling are kept, each of them is asked at its index whether it follows a definition
keyword, and what is found is sorted. None of this is needed to say what the answer is. A
token list is read once, and each token gets a mark that says whether the token right before
it introduces a definition (`marked`); the occurrences of a name are the marked tokens with
that spelling.

All answers about names are answers about the marked list, so they agree with each other: the
definition is the first marked one of a spelling, the references leave the marked ones out or
not, and a semantic token shows the mark.

## Main definitions

* `Token.introduces`: A definition keyword.
* `marked`: Tokens with their marks.
* `Token.isNamed`: A token that can name a definition, with its spelling.

## Theorems

* `marked_eq_map_zipIdx`: A mark is the answer at the index of the token.
* `map_occurrences`: The occurrences of a name are the marked tokens with its spelling.
* `references_eq`, `definition?_eq`, `classifyTokens_eq`: The answers of a resolver.
* `eq_of_mem_marked`: A token has one mark.
-/

namespace RiddlEditor

/-- Whether a token is a keyword, built in or extra, that introduces a definition. -/
def Token.introduces (extra : List Text) (t : Token) : Bool :=
  t.kind = .keyword ∧ isDefinitionKeyword t.text extra

/-- The tokens of a list, each with whether the token right before it introduces a
    definition. The first token has none before it. -/
def marked (extra : List Text) (tokens : List Token) : List (Token × Bool) :=
  tokens.zip (false :: tokens.map (Token.introduces extra))

/-- Whether a token can name a definition and has a spelling. -/
def Token.isNamed (name : Text) (t : Token) : Bool :=
  t.kind.isResolvable ∧ t.text = name

theorem isNamed_iff {name : Text} {t : Token} :
    t.isNamed name = true ↔ t.kind.isResolvable = true ∧ t.text = name := by
  rw [Token.isNamed, decide_eq_true_eq]

theorem map_fst_marked (extra : List Text) (tokens : List Token) :
    (marked extra tokens).map Prod.fst = tokens := by
  rw [marked, List.map_fst_zip]
  rw [List.length_cons, List.length_map]
  exact Nat.le_succ _

theorem mem_of_mem_marked {extra : List Text} {tokens : List Token} {m : Token × Bool}
    (h : m ∈ marked extra tokens) : m.1 ∈ tokens := by
  have hmem := List.mem_map_of_mem (f := Prod.fst) h
  rwa [map_fst_marked] at hmem

theorem entryAt?_natCast {α : Type} (entries : List α) (i : Nat) :
    entryAt? entries (i : Int) = entries[i]? := by
  rw [entryAt?, if_pos (Int.natCast_nonneg i), Int.toNat_natCast]

/-- A mark is the answer at the index of the token. -/
theorem getElem?_marks {tokens : List Token} {i : Nat} (extra : List Text) (h : i < tokens.length) :
    (false :: tokens.map (Token.introduces extra))[i]? = some (isDefinitionAt tokens i extra) := by
  rw [isDefinitionAt]
  -- Only the first token has none before it; at all other indices, it is one index back.
  cases i with
  | zero => rw [if_pos (Or.inl (by omega)), List.getElem?_cons_zero]
  | succ j =>
      have hprevious : (((j + 1 : Nat) : Int) - 1).toNat = j := by omega
      rw [if_neg (by omega), hprevious, List.getElem?_cons_succ, List.getElem?_map,
        List.getElem?_eq_getElem (by omega)]
      rfl

theorem marked_eq_map_zipIdx (extra : List Text) (tokens : List Token) :
    marked extra tokens = tokens.zipIdx.map fun (t, i) => (t, isDefinitionAt tokens i extra) := by
  refine List.ext_getElem? (fun i => ?_)
  rw [List.getElem?_map, List.getElem?_zipIdx, Nat.zero_add]
  by_cases hi : i < tokens.length
  · rw [List.getElem?_eq_getElem hi]
    refine List.getElem?_zip_eq_some.mpr ⟨List.getElem?_eq_getElem hi, ?_⟩
    exact getElem?_marks extra hi
  · have hlength := congrArg List.length (map_fst_marked extra tokens)
    rw [List.length_map] at hlength
    rw [List.getElem?_eq_none (by omega), List.getElem?_eq_none (by omega)]
    rfl

section Sorted

variable {tokens : List Token} (hsorted : tokens.Pairwise fun a b => a.start < b.start)
include hsorted

/-- In a list in document order there is nothing to be sorted. -/
theorem occurrences_eq (name : Text) (extra : List Text) :
    occurrences tokens name extra = (namedTokens tokens name).map fun (t, i) =>
      ⟨t, i, isDefinitionAt tokens i extra⟩ := by
  -- The numbers change nothing about the order, and neither does the choice of a spelling.
  have hindexed : tokens.zipIdx.Pairwise fun a b => a.1.startsBefore b.1 = true := by
    have hfirst : (tokens.zipIdx.map Prod.fst).Pairwise fun a b => a.startsBefore b = true := by
      rw [List.zipIdx_map_fst]
      exact hsorted.imp fun h => decide_eq_true (Position.le_of_lt h)
    rwa [List.pairwise_map] at hfirst
  refine List.mergeSort_of_pairwise ?_
  rw [List.pairwise_map]
  exact hindexed.filter _

/-- The occurrences of a name are the marked tokens with its spelling. -/
theorem map_occurrences (name : Text) (extra : List Text) :
    (occurrences tokens name extra).map (fun o => (o.token, o.isDefinition)) =
      (marked extra tokens).filter fun m => m.1.isNamed name := by
  rw [occurrences_eq hsorted, marked_eq_map_zipIdx, List.filter_map, List.map_map]
  rfl

/-- The references of a token are the marked tokens with its spelling, with or without those
    that follow a definition keyword. -/
theorem references_eq (r : Resolver) {t : Token} (hkind : t.kind.isResolvable = true)
    (includeDeclaration : Bool) :
    r.references tokens t includeDeclaration =
      (((marked r.extraKeywords tokens).filter fun m => m.1.isNamed t.text).filter fun m =>
        includeDeclaration || !m.2).map fun m => m.1.range := by
  rw [Resolver.references, if_pos hkind, ← map_occurrences hsorted, List.filter_map,
    List.map_map]
  rfl

/-- The definition of a token is the first marked token with its spelling. -/
theorem definition?_eq (r : Resolver) {t : Token} (hkind : t.kind.isResolvable = true) :
    r.definition? tokens t =
      (((marked r.extraKeywords tokens).filter fun m => m.1.isNamed t.text).find? Prod.snd).map
        fun m => m.1.range := by
  rw [Resolver.definition?, if_pos hkind, ← map_occurrences hsorted, List.find?_map,
    Option.map_map]
  rfl

/-- A token has one mark. -/
theorem eq_of_mem_marked {extra : List Text} {m m' : Token × Bool} (h : m ∈ marked extra tokens)
    (h' : m' ∈ marked extra tokens) (hstart : m.1.start = m'.1.start) : m = m' := by
  -- The marked tokens start at different positions, as the tokens themselves do.
  have hdistinct : ((marked extra tokens).map fun m => m.1.start).Nodup := by
    have hstarts : (((marked extra tokens).map Prod.fst).map Token.start).Nodup := by
      rw [map_fst_marked, List.Nodup, List.pairwise_map]
      exact hsorted.imp Position.ne_of_lt
    rwa [List.map_map] at hstarts
  exact List.inj_on_of_nodup_map hdistinct h h' hstart

end Sorted

/-- The semantic token of a marked token. -/
def markedColour? (m : Token × Bool) : Option SemanticToken :=
  if firstLineLength m.1.text = 0 then none
  else
    some
      { line := m.1.start.line
        column := m.1.start.column
        length := firstLineLength m.1.text
        type := semanticTypeIndex m.1.kind
        modifiers := if m.1.kind.isResolvable && m.2 then declarationModifier else 0 }

/-- A semantic token shows the mark of its token, if the token can name a definition. -/
theorem classifyTokens_eq (r : Resolver) (tokens : List Token) :
    classifyTokens tokens r = (marked r.extraKeywords tokens).filterMap markedColour? := by
  rw [classifyTokens, marked_eq_map_zipIdx, List.filterMap_map]
  refine List.filterMap_congr (fun (t, i) hmem => ?_)
  have hentry : entryAt? tokens i = some t :=
    (entryAt?_natCast tokens i).trans (List.mem_zipIdx_iff_getElem?.mp hmem)
  simp only [semanticTokenAt?, markedColour?, Function.comp, Resolver.isDefinition,
    Resolver.isDefinition?, hentry, Option.map_some, Option.getD_some]

end RiddlEditor
