import Mathlib.Data.List.TFAE
import Mathlib.Tactic.TFAE
import RiddlEditor.Proofs.Compiler.Definitions
import RiddlEditor.Proofs.Query.Colouring
import RiddlEditor.Proofs.StableSort
import RiddlEditor.Proofs.TokenStream.Order

/-!
# What a definition is

Four places decide which tokens are definitions. A resolver is asked about one index, the
compiler goes through the tokens two at a time, the occurrences of a name are found first and
asked afterwards, and the colouring asks about every token. Each of them looks at the token
right before in a way of its own, with guards of its own for the first index and the last.

They agree on every token list (`definitions_agree`), for each of them finds what `DefinesAt`
says: a name right behind a keyword that introduces definitions. Nothing is asked of the list.
Its tokens need not come from a text, and they need not be in the order of their positions.

That order comes in with the question which definition of a name counts. Which token is right
before another one is told by the list, which definition is the first one by the positions, and
among those at one position by the list again (`occurrences_ordered`).

## Main definitions

* `DefinesAt`: The token at an index defines its name.
* `FirstDefinition`: The definition of a name that counts.
* `SemanticToken.isDeclaration`: A semantic token shows a definition.

## Theorems

* `isDefinition?_iff`, `index_mem_definitions_iff`, `occurrence_isDefinition_iff`,
  `isDeclaration_iff`: The four places.
* `stableSort_occurrences`, `mem_occurrences`: The occurrences of a name.
* `definition?_eq_some_iff`, `definition?_eq_none_iff`: The definition of a name.
* `definitions_agree`: All of them together.
-/

namespace RiddlEditor

/-- The token at an index defines its name: it can name a definition, and the token right
    before it introduces one. -/
def DefinesAt (extra : List Text) (tokens : List Token) (i : Nat) : Prop :=
  ∃ j keyword name, i = j + 1 ∧ tokens[j]? = some keyword ∧ tokens[i]? = some name ∧
    keyword.introduces extra = true ∧ name.kind.isResolvable = true

/-- The first definition of a name: no other one is in front of it by position, and none at its
    position is in front of it in the list. -/
structure FirstDefinition (extra : List Text) (tokens : List Token) (name : Text) (i : Nat)
    (t : Token) : Prop where
  token : tokens[i]? = some t
  text : t.text = name
  defines : DefinesAt extra tokens i
  first : ∀ j u, tokens[j]? = some u → u.text = name → DefinesAt extra tokens j →
    t.start < u.start ∨ t.start = u.start ∧ i ≤ j

/-- Whether a semantic token has the modifier of declarations. -/
def SemanticToken.isDeclaration (c : SemanticToken) : Bool :=
  c.modifiers.toNat.testBit (semanticModifiers.idxOf "declaration")

section Tokens

variable {extra : List Text} {tokens : List Token} {i : Nat} {t : Token}

/-! ## The four places -/

theorem isDefinitionAt_iff : isDefinitionAt tokens i extra = true ↔
    ∃ j keyword, i = j + 1 ∧ i < tokens.length ∧ tokens[j]? = some keyword ∧
      keyword.introduces extra = true := by
  by_cases hi : i < tokens.length
  · have hmark := getElem?_marks extra hi
    cases i with
    | zero =>
        rw [List.getElem?_cons_zero, Option.some.injEq] at hmark
        rw [← hmark]
        refine iff_of_false Bool.false_ne_true ?_
        rintro ⟨j, keyword, hj, -⟩
        exact absurd hj.symm (Nat.succ_ne_zero j)
    | succ j =>
        rw [List.getElem?_cons_succ, List.getElem?_map, Option.map_eq_some_iff] at hmark
        rcases hmark with ⟨keyword, hkeyword, hmark⟩
        rw [← hmark]
        constructor
        · exact fun h => ⟨j, keyword, rfl, hi, hkeyword, h⟩
        · rintro ⟨j', other, hj, -, hother, h⟩
          obtain rfl : j = j' := by omega
          rwa [Option.some.inj (hkeyword.symm.trans hother)]
  · have hout : isDefinitionAt tokens i extra = false := if_pos (Or.inr (by omega))
    rw [hout]
    refine iff_of_false Bool.false_ne_true ?_
    rintro ⟨j, keyword, -, hlt, -⟩
    exact hi hlt

theorem definesAt_iff (ht : tokens[i]? = some t) : DefinesAt extra tokens i ↔
    t.kind.isResolvable = true ∧ isDefinitionAt tokens i extra = true := by
  have hlt := (List.getElem?_eq_some_iff.mp ht).1
  rw [isDefinitionAt_iff]
  constructor
  · rintro ⟨j, keyword, name, hj, hkeyword, hname, hintroduces, hkind⟩
    obtain rfl := Option.some.inj (ht.symm.trans hname)
    exact ⟨hkind, j, keyword, hj, hlt, hkeyword, hintroduces⟩
  · rintro ⟨hkind, j, keyword, hj, -, hkeyword, hintroduces⟩
    exact ⟨j, keyword, t, hj, hkeyword, ht, hintroduces, hkind⟩

theorem DefinesAt.exists_token (h : DefinesAt extra tokens i) : ∃ t, tokens[i]? = some t := by
  rcases h with ⟨_, _, name, -, -, hname, -⟩
  exact ⟨name, hname⟩

/-- What a resolver says about an index. -/
theorem isDefinition?_iff (r : Resolver) :
    r.isDefinition? tokens i = some true ↔ DefinesAt r.extraKeywords tokens i := by
  rw [Resolver.isDefinition?, entryAt?_natCast]
  rcases ht : tokens[i]? with _ | t
  · refine iff_of_false (Option.some_ne_none true).symm fun h => ?_
    rcases h.exists_token with ⟨t, hsome⟩
    exact absurd (hsome.symm.trans ht) (Option.some_ne_none t)
  · rw [definesAt_iff ht, Option.map_some, Option.some.injEq, Bool.and_eq_true]

/-- An index that counts from the end is that of no definition, since no token is right before
    it. -/
theorem isDefinition?_of_neg (r : Resolver) {index : Int} (h : index < 0) :
    r.isDefinition? tokens index ≠ some true := by
  have hfirst : isDefinitionAt tokens index r.extraKeywords = false := if_pos (Or.inl (by omega))
  rw [Resolver.isDefinition?, hfirst]
  rcases entryAt? tokens index with _ | t
  · exact (Option.some_ne_none true).symm
  · rw [Option.map_some, Bool.and_false]
    exact fun h => Bool.false_ne_true (Option.some.inj h)

/-- The indices of what the compiler collects. -/
theorem index_mem_definitions_iff :
    (∃ d ∈ definitions tokens, d.index = i) ↔ DefinesAt [] tokens i := by
  constructor
  · rintro ⟨d, hd, rfl⟩
    rcases mem_definitionsFrom_iff.mp hd with ⟨j, hj, hkeyword, hname, hword, hintroduces, hkind⟩
    rw [Nat.zero_add] at hj
    exact ⟨j, d.keyword, d.name, hj, hkeyword, hj ▸ hname,
      decide_eq_true ⟨hword, hintroduces⟩, hkind⟩
  · rintro ⟨j, keyword, name, rfl, hkeyword, hname, hintroduces, hkind⟩
    rcases of_decide_eq_true hintroduces with ⟨hword, hintroduces⟩
    refine ⟨⟨keyword, name, j + 1⟩, mem_definitionsFrom_iff.mpr ?_, rfl⟩
    exact ⟨j, by rw [Nat.zero_add], hkeyword, hname, hword, hintroduces, hkind⟩

/-! ## The occurrences of a name -/

/-- The occurrences of a name are a stable sort of the tokens with its spelling, each with its
    index. -/
theorem stableSort_occurrences (tokens : List Token) (name : Text) (extra : List Text) :
    StableSort (fun a b : Occurrence => a.token.startsBefore b.token)
      ((namedTokens tokens name).map fun m => ⟨m.1, m.2, isDefinitionAt tokens m.2 extra⟩)
      (occurrences tokens name extra) :=
  stableSort_mergeSort (fun a b c => Token.startsBefore_trans a.token b.token c.token)
    (fun a b => Token.startsBefore_total a.token b.token) _

theorem mem_occurrences {name : Text} {o : Occurrence} : o ∈ occurrences tokens name extra ↔
    tokens[o.index]? = some o.token ∧ o.token.kind.isResolvable = true ∧ o.token.text = name ∧
      o.isDefinition = isDefinitionAt tokens o.index extra := by
  rw [(stableSort_occurrences tokens name extra).perm.mem_iff, List.mem_map]
  constructor
  · rintro ⟨⟨t, i⟩, hm, rfl⟩
    rcases List.mem_filter.mp hm with ⟨hmem, hnamed⟩
    rcases of_decide_eq_true hnamed with ⟨hkind, hname⟩
    exact ⟨List.mem_zipIdx_iff_getElem?.mp hmem, hkind, hname, rfl⟩
  · rintro ⟨htoken, hkind, hname, hmark⟩
    refine ⟨(o.token, o.index), List.mem_filter.mpr ⟨?_, decide_eq_true ⟨hkind, hname⟩⟩, ?_⟩
    · exact List.mem_zipIdx_iff_getElem?.mpr htoken
    · rw [← hmark]

/-- Tokens are numbered in the order of the list, and so are those with one spelling. -/
theorem indices_increase (tokens : List Token) (name : Text) :
    (namedTokens tokens name).Pairwise fun a b => a.2 < b.2 := by
  have hall : (tokens.zipIdx.map Prod.snd).Pairwise (· < ·) := by
    rw [List.zipIdx_map_snd]
    exact List.pairwise_lt_range'
  exact (List.pairwise_map.mp hall).filter _

/-- The occurrences of a name are in the order of their positions, and those at one position in
    the order of the list. -/
theorem occurrences_ordered (tokens : List Token) (name : Text) (extra : List Text) :
    (occurrences tokens name extra).Pairwise fun a b =>
      a.token.start ≤ b.token.start ∧ (b.token.start ≤ a.token.start → a.index < b.index) := by
  have hsort := stableSort_occurrences tokens name extra
  have hindices : ((namedTokens tokens name).map fun m =>
      (⟨m.1, m.2, isDefinitionAt tokens m.2 extra⟩ : Occurrence)).Pairwise
      fun a b => a.index < b.index := List.pairwise_map.mpr (indices_increase tokens name)
  have htied := hsort.pairwise_tied
    (fun a b => Token.startsBefore_total a.token b.token) hindices
  refine hsort.ordered.imp₂ (fun a b hab hba => ?_) htied
  exact ⟨of_decide_eq_true hab, fun hle => hba (decide_eq_true hle)⟩

/-- Each token that can name a definition is one occurrence of its spelling. -/
theorem filter_index_occurrences (ht : tokens[i]? = some t) (hkind : t.kind.isResolvable = true) :
    (occurrences tokens t.text extra).filter (fun o => o.index = i) =
      [⟨t, i, isDefinitionAt tokens i extra⟩] := by
  have hnodup : (occurrences tokens t.text extra).Nodup := by
    refine (stableSort_occurrences tokens t.text extra).perm.nodup_iff.mpr ?_
    refine List.pairwise_map.mpr ((indices_increase tokens t.text).imp fun hlt heq => ?_)
    exact absurd (congrArg Occurrence.index heq) (Nat.ne_of_lt hlt)
  refine List.perm_singleton.mp ((List.perm_ext_iff_of_nodup (hnodup.filter _)
    (List.nodup_singleton _)).mpr fun o => ?_)
  rw [List.mem_filter, mem_occurrences, decide_eq_true_eq, List.mem_singleton]
  constructor
  · rintro ⟨⟨htoken, -, -, hmark⟩, rfl⟩
    rcases o with ⟨u, j, mark⟩
    obtain rfl := Option.some.inj (ht.symm.trans htoken)
    rw [Occurrence.mk.injEq]
    exact ⟨rfl, rfl, hmark⟩
  · rintro rfl
    exact ⟨⟨ht, hkind, rfl, rfl⟩, rfl⟩

/-- What the occurrences of the spelling of a token say about it. -/
theorem occurrence_isDefinition_iff :
    (∃ t, tokens[i]? = some t ∧ t.kind.isResolvable = true ∧
      ∃ o ∈ occurrences tokens t.text extra, o.index = i ∧ o.isDefinition = true) ↔
      DefinesAt extra tokens i := by
  constructor
  · rintro ⟨t, ht, hkind, o, ho, rfl, hmark⟩
    rw [(mem_occurrences.mp ho).2.2.2] at hmark
    exact (definesAt_iff ht).mpr ⟨hkind, hmark⟩
  · intro h
    rcases h.exists_token with ⟨t, ht⟩
    rcases (definesAt_iff ht).mp h with ⟨hkind, hmark⟩
    exact ⟨t, ht, hkind, ⟨t, i, isDefinitionAt tokens i extra⟩,
      mem_occurrences.mpr ⟨ht, hkind, rfl, rfl⟩, rfl, hmark⟩

/-! ## The definition that counts -/

/-- A name has one first definition. -/
theorem FirstDefinition.unique {name : Text} {j : Nat} {u : Token}
    (h : FirstDefinition extra tokens name i t) (hother : FirstDefinition extra tokens name j u) :
    t = u := by
  have hle := h.first j u hother.token hother.text hother.defines
  have hge := hother.first i t h.token h.text h.defines
  have hij : i = j := by
    rcases hle with hlt | ⟨hsame, hij⟩
    · rcases hge with hgt | ⟨hsame, -⟩
      · simp only [Position.lt_def] at hlt hgt
        omega
      · exact absurd hsame.symm (Position.ne_of_lt hlt)
    · rcases hge with hgt | ⟨-, hji⟩
      · exact absurd hsame.symm (Position.ne_of_lt hgt)
      · exact Nat.le_antisymm hij hji
  subst hij
  exact Option.some.inj (h.token.symm.trans hother.token)

theorem DefinesAt.mem_occurrences (h : DefinesAt extra tokens i) (ht : tokens[i]? = some t) :
    ⟨t, i, true⟩ ∈ occurrences tokens t.text extra := by
  rcases (definesAt_iff ht).mp h with ⟨hkind, hmark⟩
  exact RiddlEditor.mem_occurrences.mpr ⟨ht, hkind, rfl, hmark.symm⟩

/-- The first marked occurrence of a name is its first definition. -/
theorem firstDefinition_of_find? {name : Text} {o : Occurrence}
    (h : (occurrences tokens name extra).find? Occurrence.isDefinition = some o) :
    FirstDefinition extra tokens name o.index o.token := by
  rcases List.find?_eq_some_iff_append.mp h with ⟨hmark, front, back, hsplit, hfront⟩
  have ho : o ∈ occurrences tokens name extra := by
    rw [hsplit]
    exact List.mem_append_right front List.mem_cons_self
  rcases mem_occurrences.mp ho with ⟨htoken, hkind, hname, hdefines⟩
  refine ⟨htoken, hname, (definesAt_iff htoken).mpr ⟨hkind, hdefines ▸ hmark⟩, ?_⟩
  rintro j u hu rfl hother
  have hmem := hother.mem_occurrences hu
  have hordered := occurrences_ordered tokens u.text extra
  rw [hsplit] at hmem hordered
  rcases List.mem_append.mp hmem with hmem | hmem
  · -- Those in front of it are not marked.
    exact absurd (hfront _ hmem) Bool.false_ne_true
  rcases List.mem_cons.mp hmem with rfl | hmem
  · exact Or.inr ⟨rfl, Nat.le_refl j⟩
  rcases List.rel_of_pairwise_cons (List.pairwise_append.mp hordered).2.1 hmem with ⟨hle, htied⟩
  by_cases hge : u.start ≤ o.token.start
  · exact Or.inr ⟨Position.le_antisymm hle hge, Nat.le_of_lt (htied hge)⟩
  · exact Or.inl (Position.not_le.mp hge)

section Target

variable {target : Token} (hkind : target.kind.isResolvable = true)
include hkind

/-- The definition that a resolver finds is the first one of the name. -/
theorem definition?_eq_some_iff (r : Resolver) {range : Range} :
    r.definition? tokens target = some range ↔
      ∃ i t, FirstDefinition r.extraKeywords tokens target.text i t ∧ t.range = range := by
  rw [Resolver.definition?, if_pos hkind, Option.map_eq_some_iff]
  constructor
  · rintro ⟨o, ho, rfl⟩
    exact ⟨o.index, o.token, firstDefinition_of_find? ho, rfl⟩
  · rintro ⟨i, t, h, rfl⟩
    have hmem := h.defines.mem_occurrences h.token
    rw [h.text] at hmem
    have hsome := List.find?_isSome.mpr ⟨_, hmem, (rfl : Occurrence.isDefinition _ = true)⟩
    rcases Option.isSome_iff_exists.mp hsome with ⟨o, ho⟩
    exact ⟨o, ho, congrArg Token.range ((firstDefinition_of_find? ho).unique h)⟩

theorem definition?_eq_none_iff (r : Resolver) : r.definition? tokens target = none ↔
    ∀ i t, tokens[i]? = some t → t.text = target.text → ¬DefinesAt r.extraKeywords tokens i := by
  rw [Resolver.definition?, if_pos hkind, Option.map_eq_none_iff, List.find?_eq_none]
  constructor
  · intro h i t ht htext hdefines
    exact h _ (htext ▸ hdefines.mem_occurrences ht) rfl
  · intro h o ho hmark
    rcases mem_occurrences.mp ho with ⟨htoken, hokind, htext, hdefines⟩
    exact h o.index o.token htoken htext ((definesAt_iff htoken).mpr ⟨hokind, hdefines ▸ hmark⟩)

end Target

/-! ## The colours -/

section Colours

variable (r : Resolver) (hlines : ∀ t ∈ tokens, firstLine t.text ≠ [])
include hlines

theorem getElem?_classifyTokens : (classifyTokens tokens r)[i]? =
    tokens[i]?.map fun t => t.colour (isDefinitionAt tokens i r.extraKeywords) := by
  rw [classifyTokens_eq_colours r hlines, colours, marked_eq_map_zipIdx, List.map_map,
    List.getElem?_map, List.getElem?_zipIdx, Option.map_map, Nat.zero_add]
  rfl

omit hlines in
theorem isDeclaration_colour (t : Token) (defines : Bool) :
    (t.colour defines).isDeclaration = (t.kind.isResolvable && defines) := by
  rw [SemanticToken.isDeclaration, Token.colour]
  rcases t.kind.isResolvable && defines with _ | _
  · exact Nat.zero_testBit _
  · exact Nat.testBit_two_pow_self

/-- What the colouring shows at an index. -/
theorem isDeclaration_iff :
    (∃ c, (classifyTokens tokens r)[i]? = some c ∧ c.isDeclaration = true) ↔
      DefinesAt r.extraKeywords tokens i := by
  rw [getElem?_classifyTokens r hlines]
  constructor
  · rintro ⟨c, hc, hdeclares⟩
    rcases Option.map_eq_some_iff.mp hc with ⟨t, ht, rfl⟩
    rw [isDeclaration_colour, Bool.and_eq_true] at hdeclares
    exact (definesAt_iff ht).mpr hdeclares
  · intro h
    rcases h.exists_token with ⟨t, ht⟩
    refine ⟨_, Option.map_eq_some_iff.mpr ⟨t, ht, rfl⟩, ?_⟩
    rw [isDeclaration_colour, Bool.and_eq_true]
    exact (definesAt_iff ht).mp h

end Colours

end Tokens

/-- All agree on what a definition is. In every token list whose tokens have something on their
    first lines, the resolver, the compiler, the occurrences of a name and the colouring find
    the same definitions: the names right behind keywords that introduce them. No index from
    the end is that of a definition, and each token has one entry among the occurrences of its
    spelling and one semantic token.

    The definition that is found for a token is the first one of its name by position and, at
    one position, in the list, whether or not the list is in the order of the positions and the
    token is in it. None is found if and only if there is none. -/
theorem definitions_agree {tokens : List Token} (hlines : ∀ t ∈ tokens, firstLine t.text ≠ []) :
    (∀ i : Nat, List.TFAE [
      DefinesAt [] tokens i,
      Resolver.builtIn.isDefinition? tokens i = some true,
      ∃ d ∈ definitions tokens, d.index = i,
      ∃ t, tokens[i]? = some t ∧ t.kind.isResolvable = true ∧
        ∃ o ∈ occurrences tokens t.text [], o.index = i ∧ o.isDefinition = true,
      ∃ c, (classifyTokens tokens .builtIn)[i]? = some c ∧ c.isDeclaration = true]) ∧
    (∀ index : Int, index < 0 → Resolver.builtIn.isDefinition? tokens index ≠ some true) ∧
    (∀ i t, tokens[i]? = some t → t.kind.isResolvable = true →
      (occurrences tokens t.text []).filter (fun o => o.index = i) =
        [⟨t, i, isDefinitionAt tokens i []⟩]) ∧
    List.Forall₂ SemanticToken.Shows tokens (classifyTokens tokens .builtIn) ∧
    ∀ target : Token, target.kind.isResolvable = true →
      (∀ range, Resolver.builtIn.definition? tokens target = some range ↔
        ∃ i t, FirstDefinition [] tokens target.text i t ∧ t.range = range) ∧
      (Resolver.builtIn.definition? tokens target = none ↔
        ∀ i t, tokens[i]? = some t → t.text = target.text → ¬DefinesAt [] tokens i) := by
  refine ⟨fun i => ?_, fun index => isDefinition?_of_neg .builtIn,
    fun i t => filter_index_occurrences, ?_, fun target hkind => ⟨fun range => ?_, ?_⟩⟩
  · tfae_have 2 ↔ 1 := isDefinition?_iff .builtIn
    tfae_have 3 ↔ 1 := index_mem_definitions_iff
    tfae_have 4 ↔ 1 := occurrence_isDefinition_iff
    tfae_have 5 ↔ 1 := isDeclaration_iff .builtIn hlines
    tfae_finish
  · rw [classifyTokens_eq_colours .builtIn hlines]
    exact forall₂_marked fun m _ => shows_colour m.1 m.2
  · exact definition?_eq_some_iff hkind .builtIn
  · exact definition?_eq_none_iff hkind .builtIn

/-- A list that holds the second of two definitions first, asked about a name that is not in
    it. -/
theorem definitions_agree_out_of_order :
    let keyword (line : Nat) : Token := ⟨"type".toList, .keyword, ⟨line, 0⟩, .null, .null⟩
    let name (line : Nat) : Token := ⟨['A'], .identifier, ⟨line, 5⟩, .null, .null⟩
    let tokens := [keyword 2, name 2, keyword 0, name 0]
    (∀ t ∈ tokens, firstLine t.text ≠ []) ∧
      Resolver.builtIn.definition? tokens (name 1) = some (Range.span ⟨0, 5⟩ 1) := by
  intro keyword name tokens
  have hlines : ∀ t ∈ tokens, firstLine t.text ≠ [] := by decide
  have hagree := (definitions_agree hlines).2.2.2.2 (name 1) rfl
  refine ⟨hlines, (hagree.1 _).mpr ⟨3, name 0, ⟨rfl, rfl, ?_, ?_⟩, rfl⟩⟩
  · exact ⟨2, keyword 0, name 0, rfl, rfl, rfl, by decide, rfl⟩
  · -- The other name is behind this one, and the keywords have another spelling.
    intro j u hu htext _
    rcases j with _ | _ | _ | _ | j
    · obtain rfl := Option.some.inj hu
      exact absurd htext (by decide)
    · obtain rfl := Option.some.inj hu
      exact Or.inl (by decide)
    · obtain rfl := Option.some.inj hu
      exact absurd htext (by decide)
    · obtain rfl := Option.some.inj hu
      exact Or.inr ⟨rfl, Nat.le_refl 3⟩
    · exact absurd hu.symm (Option.some_ne_none u)

end RiddlEditor
