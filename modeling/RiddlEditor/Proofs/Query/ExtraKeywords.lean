import RiddlEditor.Proofs.Query.Colouring

/-!
# More keywords only add definitions

A user may name keywords that introduce definitions besides the built-in ones. With more of them
nothing is taken back: what was a definition stays one, since the token in front of it is still
a keyword that introduces one (`isDefinitionAt_mono`).

The occurrences of a name are found and put into order without a look at the keywords, which
only decide how each of them is marked (`occurrences_eq_map`). So with and without the additional
keywords there is one list, and it is read with two sets of marks of which one holds the other.
The references with the declarations are the whole list. Those without them lose what is newly
marked. The definition is the first marked one, and it can only move to the front.

## Main definitions

* `Occurrence.StaysIn`: What becomes of an occurrence.
* `SemanticToken.MayBecome`: What becomes of a semantic token.
* `orderedNames`: The tokens of a name in their order, without marks.

## Theorems

* `isDefinitionAt_mono`: A definition stays one.
* `occurrences_eq_map`: The order of the occurrences does not depend on the keywords.
* `references_false_eq`: What is left without the declarations.
* `definition?_mono`: The definition stays or moves to the front.
* `more_keywords_add_definitions`: The answers with more keywords.
-/

namespace RiddlEditor

/-- What becomes of an occurrence with more keywords: it is the same token at the same index,
    and it stays a definition if it is one. -/
structure Occurrence.StaysIn (o o' : Occurrence) : Prop where
  token : o'.token = o.token
  index : o'.index = o.index
  isDefinition : o.isDefinition = true → o'.isDefinition = true

/-- What becomes of a semantic token with more keywords: it stays as it is, or the modifier of
    declarations is added to it. -/
def SemanticToken.MayBecome (c c' : SemanticToken) : Prop :=
  c' = c ∨ c.modifiers = 0 ∧ c' = { c with modifiers := declarationModifier }

/-- A member that is found early is found with a weaker condition too, or one in front of it. -/
theorem find?_mono {α : Type} {R : α → α → Prop} {l : List α} {p q : α → Bool} {a : α}
    (hl : l.Pairwise R) (hpq : ∀ b, p b = true → q b = true) (h : l.find? p = some a) :
    ∃ b, l.find? q = some b ∧ (b = a ∨ R b a) := by
  rcases List.find?_eq_some_iff_append.mp h with ⟨ha, front, back, rfl, _⟩
  cases hfront : front.find? q with
  | none => exact ⟨a, by rw [List.find?_append, hfront, List.find?_cons_of_pos (hpq a ha)]; rfl,
      Or.inl rfl⟩
  | some b =>
      refine ⟨b, by rw [List.find?_append, hfront]; rfl, Or.inr ?_⟩
      exact (List.pairwise_append.mp hl).2.2 b (List.mem_of_find?_eq_some hfront) a
        List.mem_cons_self

/-- The tokens that have a spelling, in the order of their positions and each with its index. -/
def orderedNames (tokens : List Token) (name : Text) : List (Token × Nat) :=
  (namedTokens tokens name).mergeSort fun a b => a.1.startsBefore b.1

theorem orderedNames_pairwise (tokens : List Token) (name : Text) :
    (orderedNames tokens name).Pairwise fun a b => a.1.start ≤ b.1.start := by
  refine (List.pairwise_mergeSort (fun a b c => Token.startsBefore_trans a.1 b.1 c.1)
    (fun a b => Token.startsBefore_total a.1 b.1) _).imp ?_
  exact fun h => of_decide_eq_true h

/-- The order of the occurrences of a name does not depend on the keywords. -/
theorem occurrences_eq_map (tokens : List Token) (name : Text) (extra : List Text) :
    occurrences tokens name extra = (orderedNames tokens name).map fun m =>
      ⟨m.1, m.2, isDefinitionAt tokens m.2 extra⟩ := by
  rw [orderedNames, List.map_mergeSort (s := fun a b : Occurrence =>
    a.token.startsBefore b.token) fun _ _ _ _ => rfl]
  rfl

section More

variable {tokens : List Token} {extra more : List Text} (h : extra ⊆ more)
include h

theorem isDefinitionKeyword_mono {word : Text} (hword : isDefinitionKeyword word extra = true) :
    isDefinitionKeyword word more = true := by
  simp only [isDefinitionKeyword, Bool.or_eq_true, List.contains_iff_mem] at hword ⊢
  exact hword.imp_right fun hmem => h hmem

/-- A definition stays one. -/
theorem isDefinitionAt_mono {index : Int} (hdefines : isDefinitionAt tokens index extra = true) :
    isDefinitionAt tokens index more = true := by
  unfold isDefinitionAt at hdefines ⊢
  split at hdefines
  case isTrue => exact absurd hdefines Bool.false_ne_true
  case isFalse hinside =>
    rw [if_neg hinside]
    split at hdefines
    case h_1 previous hprevious =>
      rcases of_decide_eq_true hdefines with ⟨hkind, hword⟩
      exact decide_eq_true ⟨hkind, isDefinitionKeyword_mono h hword⟩
    case h_2 => exact absurd hdefines Bool.false_ne_true

theorem isDefinition?_mono {index : Int}
    (hdefines : Resolver.isDefinition? ⟨extra⟩ tokens index = some true) :
    Resolver.isDefinition? ⟨more⟩ tokens index = some true := by
  rcases Option.map_eq_some_iff.mp hdefines with ⟨t, ht, hmark⟩
  rcases Bool.and_eq_true_iff.mp hmark with ⟨hkind, hat⟩
  refine Option.map_eq_some_iff.mpr ⟨t, ht, ?_⟩
  exact Bool.and_eq_true_iff.mpr ⟨hkind, isDefinitionAt_mono h hat⟩

theorem isDefinition_mono {index : Nat}
    (hdefines : Resolver.isDefinition ⟨extra⟩ tokens index = true) :
    Resolver.isDefinition ⟨more⟩ tokens index = true := by
  rw [Resolver.isDefinition, Option.getD_eq_iff] at hdefines
  rcases hdefines with hsome | ⟨_, hfalse⟩
  · rw [Resolver.isDefinition, isDefinition?_mono h hsome, Option.getD_some]
  · exact absurd hfalse Bool.false_ne_true

theorem forall₂_occurrences (name : Text) :
    List.Forall₂ Occurrence.StaysIn (occurrences tokens name extra)
      (occurrences tokens name more) := by
  rw [occurrences_eq_map, occurrences_eq_map, List.forall₂_map_left_iff,
    List.forall₂_map_right_iff, List.forall₂_same]
  exact fun m _ => ⟨rfl, rfl, isDefinitionAt_mono h⟩

omit h in
theorem references_eq_filter {target : Token} (hkind : target.kind.isResolvable = true)
    (includeDeclaration : Bool) :
    Resolver.references ⟨extra⟩ tokens target includeDeclaration =
      ((orderedNames tokens target.text).filter fun m =>
        includeDeclaration || !isDefinitionAt tokens m.2 extra).map fun m => m.1.range := by
  rw [Resolver.references, if_pos hkind, occurrences_eq_map, List.filter_map, List.map_map]
  rfl

omit h in
theorem definition?_eq_find? {target : Token} (hkind : target.kind.isResolvable = true) :
    Resolver.definition? ⟨extra⟩ tokens target =
      ((orderedNames tokens target.text).find? fun m => isDefinitionAt tokens m.2 extra).map
        fun m => m.1.range := by
  rw [Resolver.definition?, if_pos hkind, occurrences_eq_map, List.find?_map, Option.map_map]
  rfl

omit h in
/-- With the declarations, the keywords do not matter. -/
theorem references_true_congr {target : Token} (hkind : target.kind.isResolvable = true) :
    Resolver.references ⟨more⟩ tokens target true =
      Resolver.references ⟨extra⟩ tokens target true := by
  rw [references_eq_filter hkind, references_eq_filter hkind]
  simp only [Bool.true_or]

/-- Without the declarations, what is newly a definition is left out. -/
theorem references_false_eq {target : Token} (hkind : target.kind.isResolvable = true) :
    Resolver.references ⟨more⟩ tokens target false =
      (((occurrences tokens target.text extra).filter fun o => !o.isDefinition).filter
        fun o => !isDefinitionAt tokens o.index more).map Occurrence.range := by
  rw [references_eq_filter hkind, occurrences_eq_map, List.filter_map, List.filter_map,
    List.map_map, List.filter_filter]
  refine congrArg (List.map _) (List.filter_congr fun m _ => ?_)
  -- Who is no definition with more keywords is none with fewer.
  cases hmore : isDefinitionAt tokens m.2 more with
  | true => simp [hmore]
  | false =>
      have hextra : isDefinitionAt tokens m.2 extra = false :=
        Bool.eq_false_iff.mpr fun htrue =>
          Bool.false_ne_true (hmore.symm.trans (isDefinitionAt_mono h htrue))
      simp [hmore, hextra]

theorem references_false_sublist {target : Token} (hkind : target.kind.isResolvable = true) :
    (Resolver.references ⟨more⟩ tokens target false).Sublist
      (Resolver.references ⟨extra⟩ tokens target false) := by
  rw [references_false_eq h hkind, Resolver.references, if_pos hkind]
  exact List.filter_sublist.map _

/-- The definition stays the one that is found, or another one in front of it is found. -/
theorem definition?_mono {target : Token} (hkind : target.kind.isResolvable = true) {d : Range}
    (hfound : Resolver.definition? ⟨extra⟩ tokens target = some d) :
    ∃ e, Resolver.definition? ⟨more⟩ tokens target = some e ∧ e.start ≤ d.start := by
  rw [definition?_eq_find? hkind] at hfound ⊢
  rcases Option.map_eq_some_iff.mp hfound with ⟨m, hm, rfl⟩
  rcases find?_mono (orderedNames_pairwise tokens target.text)
    (fun _ => isDefinitionAt_mono h) hm with ⟨m', hm', hfront⟩
  refine ⟨m'.1.range, by rw [hm', Option.map_some], ?_⟩
  rcases hfront with rfl | hle
  · exact Position.le_refl _
  · exact hle

/-- A semantic token stays as it is, or it gets the modifier of declarations. -/
theorem mayBecome_semanticTokenAt? (t : Token) (index : Nat) :
    Option.Rel SemanticToken.MayBecome (semanticTokenAt? tokens ⟨extra⟩ t index)
      (semanticTokenAt? tokens ⟨more⟩ t index) := by
  unfold semanticTokenAt?
  simp only
  split
  case isTrue => exact Option.Rel.none
  case isFalse =>
    refine Option.Rel.some ?_
    cases hextra : Resolver.isDefinition ⟨extra⟩ tokens index with
    | true => exact Or.inl (by rw [isDefinition_mono h hextra])
    | false =>
        cases hmore : Resolver.isDefinition ⟨more⟩ tokens index with
        | true => exact Or.inr ⟨rfl, rfl⟩
        | false => exact Or.inl rfl

theorem forall₂_classifyTokens (tokens : List Token) :
    List.Forall₂ SemanticToken.MayBecome (classifyTokens tokens ⟨extra⟩)
      (classifyTokens tokens ⟨more⟩) := by
  refine List.rel_filterMap (R := Eq) ?_ (List.forall₂_refl _)
  rintro ⟨t, index⟩ _ rfl
  exact mayBecome_semanticTokenAt? h t index

end More

/-- More keywords only add definitions. In every token list, what is a definition with some extra
    keywords is one with more of them, and so the occurrences of every name are the same and
    marked at least where they were.

    The references of a token that can name a definition are the same with the declarations.
    Without them, those are left out that have become definitions, and nothing else changes. If
    there is a definition of its name, there is one with more keywords too, at the same position
    or an earlier one. The colours differ by added modifiers of declarations only. -/
theorem more_keywords_add_definitions (tokens : List Token) {extra more : List Text}
    (h : extra ⊆ more) :
    (∀ index : Int, isDefinitionAt tokens index extra = true →
      isDefinitionAt tokens index more = true) ∧
    (∀ index : Int, Resolver.isDefinition? ⟨extra⟩ tokens index = some true →
      Resolver.isDefinition? ⟨more⟩ tokens index = some true) ∧
    (∀ name, List.Forall₂ Occurrence.StaysIn (occurrences tokens name extra)
      (occurrences tokens name more)) ∧
    (∀ target : Token, target.kind.isResolvable = true →
      Resolver.references ⟨more⟩ tokens target true =
        Resolver.references ⟨extra⟩ tokens target true ∧
      (Resolver.references ⟨more⟩ tokens target false).Sublist
        (Resolver.references ⟨extra⟩ tokens target false) ∧
      Resolver.references ⟨more⟩ tokens target false =
        (((occurrences tokens target.text extra).filter fun o => !o.isDefinition).filter
          fun o => !isDefinitionAt tokens o.index more).map Occurrence.range ∧
      ∀ d, Resolver.definition? ⟨extra⟩ tokens target = some d →
        ∃ e, Resolver.definition? ⟨more⟩ tokens target = some e ∧ e.start ≤ d.start) ∧
    List.Forall₂ SemanticToken.MayBecome (classifyTokens tokens ⟨extra⟩)
      (classifyTokens tokens ⟨more⟩) := by
  refine ⟨fun index => isDefinitionAt_mono h, fun index => isDefinition?_mono h,
    forall₂_occurrences h, fun target hkind => ?_, forall₂_classifyTokens h tokens⟩
  exact ⟨references_true_congr hkind, references_false_sublist h hkind,
    references_false_eq h hkind, fun d => definition?_mono h hkind⟩

/-- A name behind two keywords of which one is extra. The definition moves to the front, and only
    the use of the name is left without the declarations. -/
theorem extra_keyword_adds_definition :
    let tokens := lexTokens "invariant A type A is A".toList
    let target : Token := ⟨['A'], .identifier, ⟨0, 22⟩, .int 22, .int 23⟩
    let more := ["invariant".toList]
    ([] : List Text) ⊆ more ∧ target.kind.isResolvable = true ∧
    Resolver.definition? ⟨[]⟩ tokens target = some (Range.span ⟨0, 17⟩ 1) ∧
    Resolver.definition? ⟨more⟩ tokens target = some (Range.span ⟨0, 10⟩ 1) ∧
    (∃ e, Resolver.definition? ⟨more⟩ tokens target = some e ∧ e.start ≤ ⟨0, 17⟩) ∧
    (Resolver.references ⟨more⟩ tokens target false).Sublist
      [Range.span ⟨0, 10⟩ 1, Range.span ⟨0, 22⟩ 1] := by
  intro tokens target more
  have hmore : ([] : List Text) ⊆ more := List.nil_subset more
  have hsorted := lexTokens_starts_increase "invariant A type A is A".toList
  have hfound : Resolver.definition? ⟨[]⟩ tokens target = some (Range.span ⟨0, 17⟩ 1) := by
    rw [definition?_eq hsorted _ rfl]
    decide +kernel
  have hearlier : Resolver.definition? ⟨more⟩ tokens target = some (Range.span ⟨0, 10⟩ 1) := by
    rw [definition?_eq hsorted _ rfl]
    decide +kernel
  have hothers : Resolver.references ⟨[]⟩ tokens target false =
      [Range.span ⟨0, 10⟩ 1, Range.span ⟨0, 22⟩ 1] := by
    rw [references_eq hsorted _ rfl]
    decide +kernel
  rcases more_keywords_add_definitions tokens hmore with ⟨_, _, _, htarget, _⟩
  rcases htarget target rfl with ⟨_, hsublist, _, hdefinition⟩
  exact ⟨hmore, rfl, hfound, hearlier, hdefinition _ hfound, hothers ▸ hsublist⟩

end RiddlEditor
