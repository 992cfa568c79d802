import RiddlEditor.Proofs.Query.References

/-!
# Definitions and references agree

The queries for the definition, for the references and for the colours each cut the text into
tokens anew and decide on their own which tokens are definitions. They agree all the same,
because each of them answers from the marked tokens of the text: a name has one list of
occurrences, wherever it is asked about, and its definition is the first one in that list that
is marked.

What a query answers depends on the token it is about only through the spelling
(`definition?_congr`, `references_congr`). So an answer stays the same when it is asked for
again at any place that it names.

## Main definitions

* `SemanticToken.StartsAt`: A semantic token starts at a position.
* `DefinitionAgrees`: A definition agrees with references and colours.

## Theorems

* `exists_first_definition`: The definition is the first marked occurrence.
* `answers_of_mem_occurrencesOf`: The answers are the same at every place of a name.
* `not_mem_references_false`: A marked occurrence is left out without the declarations.
* `exists_colour`: The semantic token of a name shows its mark.
* `definition_is_coherent`: The definition of a name, its references and its colours agree.
-/

namespace RiddlEditor

/-- Whether a semantic token starts at a position. -/
def SemanticToken.StartsAt (c : SemanticToken) (p : Position) : Prop :=
  c.line = p.line ∧ c.column = p.column

theorem SemanticToken.StartsAt.position_eq {c : SemanticToken} {p p' : Position}
    (h : c.StartsAt p) (h' : c.StartsAt p') : p = p' := by
  obtain ⟨line, column⟩ := p
  obtain ⟨line', column'⟩ := p'
  simp only [SemanticToken.StartsAt] at h h'
  rw [Position.mk.injEq]
  omega

section Occurrences

variable {text name : Text} {extra : List Text}

theorem mem_occurrencesOf {m : Token × Bool} (h : m ∈ occurrencesOf text name extra) :
    m ∈ marked extra (lexTokens text) ∧ m.1 ∈ lexTokens text ∧
      m.1.kind.isResolvable = true ∧ m.1.text = name := by
  rcases List.mem_filter.mp h with ⟨hmarked, hnamed⟩
  rcases isNamed_iff.mp hnamed with ⟨hkind, hname⟩
  exact ⟨hmarked, mem_of_mem_marked hmarked, hkind, hname⟩

/-- The occurrences of a name are in the order of the text. -/
theorem occurrencesOf_increase (text name : Text) (extra : List Text) :
    (occurrencesOf text name extra).Pairwise fun m m' => m.1.start < m'.1.start := by
  have hstarts : ((marked extra (lexTokens text)).map Prod.fst).Pairwise
      fun a b => a.start < b.start := by
    rw [map_fst_marked]
    exact lexTokens_starts_increase text
  rw [List.pairwise_map] at hstarts
  exact hstarts.filter _

/-- The first marked one in a list of occurrences: those in front of it are not marked. -/
theorem exists_first_definition {r : Range}
    (h : ((occurrencesOf text name extra).find? Prod.snd).map (fun m => m.1.range) = some r) :
    ∃ u, (u, true) ∈ occurrencesOf text name extra ∧ u.range = r ∧
      ∀ m ∈ occurrencesOf text name extra, m.1.start < u.start → m.2 = false := by
  rcases Option.map_eq_some_iff.mp h with ⟨⟨u, b⟩, hfind, hrange⟩
  rcases List.find?_eq_some_iff_append.mp hfind with ⟨hmark, front, back, hsplit, hfront⟩
  obtain rfl : b = true := hmark
  refine ⟨u, ?_, hrange, fun m hm hlt => ?_⟩
  · rw [hsplit]
    exact List.mem_append_right front List.mem_cons_self
  · have hincrease := occurrencesOf_increase text name extra
    rw [hsplit] at hm hincrease
    rcases List.mem_append.mp hm with hm | hm
    · exact Bool.not_eq_true' _ ▸ hfront m hm
    · -- The others do not start in front of the definition.
      have hle : u.start ≤ m.1.start := by
        rcases List.mem_cons.mp hm with rfl | hm
        · exact Position.le_refl _
        · have hbehind := (List.pairwise_append.mp hincrease).2.1
          exact Position.le_of_lt (List.rel_of_pairwise_cons hbehind hm)
      exact absurd hlt (mt Position.not_le.mpr (not_not.mpr hle))

end Occurrences

section Answers

variable {text : Text} {options : Options}

/-- What a resolver answers depends on the spelling of a token only. -/
theorem definition?_congr {t u : Token} (ht : t.kind.isResolvable = true)
    (hu : u.kind.isResolvable = true) (htext : u.text = t.text) :
    options.resolver.definition? (lexTokens text) u =
      options.resolver.definition? (lexTokens text) t := by
  have hsorted := lexTokens_starts_increase text
  rw [definition?_eq hsorted _ hu, definition?_eq hsorted _ ht, htext]

theorem references_congr {t u : Token} (ht : t.kind.isResolvable = true)
    (hu : u.kind.isResolvable = true) (htext : u.text = t.text) (includeDeclaration : Bool) :
    options.resolver.references (lexTokens text) u includeDeclaration =
      options.resolver.references (lexTokens text) t includeDeclaration := by
  have hsorted := lexTokens_starts_increase text
  rw [references_eq hsorted _ hu, references_eq hsorted _ ht, htext]

/-- A query that finds a definition is about a token. -/
theorem exists_target_of_definition {origin : Text} {line column : Int} {target : Option Token}
    {d : Range}
    (h : (localContext text origin options).definition line column = .ok ⟨target, some d⟩) :
    ∃ t, target = some t ∧ Context.targetAt (localStream text) line column = some t ∧
      options.resolver.definition? (lexTokens text) t = some d := by
  cases htarget : Context.targetAt (localStream text) line column with
  | none =>
      rw [definition_of_no_target origin options htarget, Except.ok.injEq,
        DefinitionRun.mk.injEq] at h
      exact absurd h.2.symm (Option.some_ne_none d)
  | some t =>
      rw [definition_of_target origin options htarget, Except.ok.injEq,
        DefinitionRun.mk.injEq] at h
      exact ⟨t, h.1.symm, rfl, h.2⟩

theorem width_pos_of_mem_occurrencesOf {name : Text} {extra : List Text} {m : Token × Bool}
    (h : m ∈ occurrencesOf text name extra) :
    m.1.range.start.column < m.1.range.stop.column :=
  Nat.lt_add_of_pos_right (length_pos (mem_occurrencesOf h).2.1)

/-- Anywhere in the range of an occurrence, the answers are those for the name. -/
theorem answers_of_mem_occurrencesOf (origin : Text) {t : Token}
    (hkind : t.kind.isResolvable = true) {m : Token × Bool}
    (hm : m ∈ occurrencesOf text t.text options.extraKeywords) {column : Int}
    (hfrom : (m.1.range.start.column : Int) ≤ column) (hto : column < m.1.range.stop.column) :
    (∀ b, (localContext text origin options).references m.1.range.start.line column b =
      .ok ⟨some m.1, options.resolver.references (lexTokens text) t b⟩) ∧
    (localContext text origin options).definition m.1.range.start.line column =
      .ok ⟨some m.1, options.resolver.definition? (lexTokens text) t⟩ := by
  rcases mem_occurrencesOf hm with ⟨_, hmem, hmkind, hmtext⟩
  have hspans : m.1.spans m.1.range.start.line column = true := by
    change column < ((m.1.start.column + m.1.length : Nat) : Int) at hto
    exact spans_iff.mpr ⟨rfl, hfrom, by omega⟩
  have htarget := targetAt_eq_some.mpr ⟨hmem, hmkind, hspans⟩
  refine ⟨fun b => ?_, ?_⟩
  · rw [references_of_target origin options htarget, references_congr hkind hmkind hmtext b]
  · rw [definition_of_target origin options htarget, definition?_congr hkind hmkind hmtext]

/-- An occurrence that is marked is not among the references without the declarations: an
    occurrence with the same range would be the same one, and not be marked. -/
theorem not_mem_references_false {t u : Token} (hkind : t.kind.isResolvable = true)
    (hu : (u, true) ∈ occurrencesOf text t.text options.extraKeywords) :
    u.range ∉ options.resolver.references (lexTokens text) t false := by
  intro hmem
  rw [references_false text options hkind] at hmem
  rcases List.mem_map.mp hmem with ⟨m, hm, hrange⟩
  rcases List.mem_filter.mp hm with ⟨hm, hmark⟩
  -- There is one token at the start of the range, with one mark.
  have heq := eq_of_mem_marked (lexTokens_starts_increase text) (mem_occurrencesOf hm).1
    (mem_occurrencesOf hu).1 (congrArg Range.start hrange)
  rw [heq] at hmark
  exact absurd hmark Bool.false_ne_true

theorem startsAt_of_markedColour? {m : Token × Bool} {c : SemanticToken}
    (h : markedColour? m = some c) : c.StartsAt m.1.start := by
  rw [markedColour?] at h
  split at h
  case isTrue => exact absurd h (Option.some_ne_none c).symm
  case isFalse =>
    obtain rfl := Option.some.inj h
    exact ⟨rfl, rfl⟩

/-- The semantic token of a name is as wide as the name and shows its mark, and there is no
    other one at its position. -/
theorem exists_colour {m : Token × Bool}
    (h : m ∈ marked options.extraKeywords (lexTokens text))
    (hkind : m.1.kind.isResolvable = true) :
    ∃ c ∈ classifyTokens (lexTokens text) options.resolver, c.StartsAt m.1.start ∧
      c.length = m.1.length ∧
      c.modifiers = (if m.2 = true then (declarationModifier : Int) else 0) ∧
      ∀ c' ∈ classifyTokens (lexTokens text) options.resolver, c'.StartsAt m.1.start → c' = c := by
  have hmem := mem_of_mem_marked h
  have hlength : firstLineLength m.1.text = m.1.length :=
    congrArg List.length (firstLine_of_unbroken (unbroken_of_resolvable hmem hkind))
  have hpos := length_pos hmem
  have hsome : markedColour? m = some ⟨m.1.start.line, m.1.start.column, m.1.length,
      semanticTypeIndex m.1.kind, if m.2 = true then (declarationModifier : Int) else 0⟩ := by
    rw [markedColour?, if_neg (by omega), hlength, hkind, Bool.true_and]
  rw [classifyTokens_eq]
  refine ⟨_, List.mem_filterMap.mpr ⟨m, h, hsome⟩, startsAt_of_markedColour? hsome, rfl, rfl,
    fun c' hc' hat => ?_⟩
  rcases List.mem_filterMap.mp hc' with ⟨m', hm', hsome'⟩
  -- Both are at the position of the name, and there is one token at it.
  have hstart := (startsAt_of_markedColour? hsome').position_eq hat
  rw [eq_of_mem_marked (lexTokens_starts_increase text) hm' h hstart, hsome] at hsome'
  exact (Option.some.inj hsome').symm

end Answers

/-- A definition agrees with the references that are found with it, with and without the
    declarations, and with the colours of the text. -/
structure DefinitionAgrees (q : Context) (d : Range) (all others : List Range)
    (colours : List SemanticToken) : Prop where
  /-- At its own start, the same definition is found. -/
  again : ∃ u, q.definition d.start.line d.start.column = .ok ⟨some u, some d⟩
  listed : d ∈ all
  declares : d ∉ others
  /-- The colours show it as a declaration, over its whole width. -/
  coloured : ∃ c ∈ colours, c.StartsAt d.start ∧ d.start.line = d.stop.line ∧
    c.length = (d.stop.column : Int) - d.start.column ∧ c.modifiers = declarationModifier
  /-- At every place of every reference, the same references and definition are found. -/
  everywhere : ∀ r ∈ all, r.start.column < r.stop.column ∧
    ∀ column : Int, r.start.column ≤ column → column < r.stop.column →
      ∃ u, u.range = r ∧
        q.references r.start.line column true = .ok ⟨some u, all⟩ ∧
        q.references r.start.line column false = .ok ⟨some u, others⟩ ∧
        q.definition r.start.line column = .ok ⟨some u, some d⟩
  /-- The colours show no reference in front of it as a declaration. -/
  first : ∀ r ∈ all, r.start < d.start → ∀ c ∈ colours, c.StartsAt r.start → c.modifiers = 0

/-- The definition of a name, its references and its colours agree. If there is a definition
    at a position, then the queries for the references at this position and for the colours
    have answers, and it agrees with them. -/
theorem definition_is_coherent (text origin : Text) (options : Options) {line column : Int}
    {target : Option Token} {d : Range}
    (h : (localContext text origin options).definition line column = .ok ⟨target, some d⟩) :
    let q := localContext text origin options
    ∃ all others colours,
      q.references line column true = .ok ⟨target, all⟩ ∧
      q.references line column false = .ok ⟨target, others⟩ ∧
      q.semanticTokens = .ok colours ∧
      DefinitionAgrees q d all others colours := by
  intro q
  rcases exists_target_of_definition h with ⟨t, rfl, htarget, hdefinition⟩
  have hkind := (targetAt_eq_some.mp htarget).2.1
  have hall := references_true text options hkind
  -- The definition is the first occurrence that is marked.
  have hfirst := hdefinition
  rw [definition?_eq (lexTokens_starts_increase text) _ hkind] at hfirst
  rcases exists_first_definition hfirst with ⟨u, hu, rfl, hearlier⟩
  rcases mem_occurrencesOf hu with ⟨humarked, _, hukind, _⟩
  have hcolours : q.semanticTokens = .ok (classifyTokens (lexTokens text) options.resolver) := by
    rw [Context.semanticTokens, stream_localContext]
    rfl
  refine ⟨_, _, _, references_of_target origin options htarget true,
    references_of_target origin options htarget false, hcolours, ?again, ?listed,
    not_mem_references_false hkind hu, ?coloured, ?everywhere, ?first⟩
  case again =>
    have hto : (u.range.start.column : Int) < u.range.stop.column :=
      Int.ofNat_lt.mpr (width_pos_of_mem_occurrencesOf hu)
    have hanswers := answers_of_mem_occurrencesOf origin hkind hu (Int.le_refl _) hto
    exact ⟨u, hdefinition ▸ hanswers.2⟩
  case listed =>
    rw [hall]
    exact List.mem_map_of_mem (f := fun m : Token × Bool => m.1.range) hu
  case coloured =>
    rcases exists_colour humarked hukind with ⟨c, hc, hat, hlength, hmodifiers, _⟩
    refine ⟨c, hc, hat, rfl, ?_, hmodifiers⟩
    rw [hlength]
    change (u.length : Int) = ((u.start.column + u.length : Nat) : Int) - u.start.column
    omega
  case everywhere =>
    intro r hr
    rw [hall] at hr
    rcases List.mem_map.mp hr with ⟨m, hm, rfl⟩
    refine ⟨width_pos_of_mem_occurrencesOf hm, fun column' hfrom hto => ?_⟩
    rcases answers_of_mem_occurrencesOf origin hkind hm hfrom hto with ⟨hreferences, hfound⟩
    exact ⟨m.1, rfl, hreferences true, hreferences false, hdefinition ▸ hfound⟩
  case first =>
    intro r hr hlt c hc hat
    rw [hall] at hr
    rcases List.mem_map.mp hr with ⟨m, hm, rfl⟩
    rcases mem_occurrencesOf hm with ⟨hmarked, _, hmkind, _⟩
    rcases exists_colour hmarked hmkind with ⟨c', _, _, _, hmodifiers, hunique⟩
    -- The colour at the start of the reference is its own one, and it has no mark.
    rw [hunique c hc hat, hmodifiers, hearlier m hm hlt]
    rfl

/-- A name that is defined twice, asked about at a use of it on another line than its first
    definition. -/
theorem definition_is_coherent_at_redefinition :
    let q := localContext "type A is B\r\ntype A is A".toList [] Options.defaults
    let t : Token := ⟨['A'], .identifier, ⟨1, 10⟩, .int 23, .int 24⟩
    q.definition 1 10 = .ok ⟨some t, some (Range.span ⟨0, 5⟩ 1)⟩ ∧
    ∃ all others colours,
      q.references 1 10 true = .ok ⟨some t, all⟩ ∧
      q.references 1 10 false = .ok ⟨some t, others⟩ ∧
      q.semanticTokens = .ok colours ∧
      DefinitionAgrees q (Range.span ⟨0, 5⟩ 1) all others colours := by
  intro q t
  have hmem : (⟨['A'], .identifier, ⟨1, 10⟩, 23, none⟩ : Lexeme) ∈
      lexemes "type A is B\r\ntype A is A".toList := by
    decide +kernel
  have htarget := targetAt_eq_some.mpr
    ⟨List.mem_map_of_mem hmem, rfl, (by decide : t.spans 1 10 = true)⟩
  have hfound : Options.defaults.resolver.definition?
      (lexTokens "type A is B\r\ntype A is A".toList) t = some (Range.span ⟨0, 5⟩ 1) := by
    rw [definition?_eq (lexTokens_starts_increase _) _ rfl]
    decide +kernel
  have hdefinition : q.definition 1 10 = .ok ⟨some t, some (Range.span ⟨0, 5⟩ 1)⟩ :=
    (definition_of_target [] Options.defaults htarget).trans
      (congrArg (fun d => Except.ok (DefinitionRun.mk (some t) d)) hfound)
  exact ⟨hdefinition, definition_is_coherent _ [] Options.defaults hdefinition⟩

end RiddlEditor
