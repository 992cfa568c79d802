import Mathlib.Data.List.Forall2
import RiddlEditor.Proofs.Query.Names

/-!
# The colouring of a text

An editor wants coloured stretches that lie on one line each and do not overlap. Tokens are
not of that kind: a block comment may run over several lines, and its range goes on to the
right where the text goes on below. A semantic token therefore ends with the first line of
its token, and the line it is on has that much text (`firstLine_of_token`).

No token is lost by this. A token starts with a character that is no blank, so there is
something left of it in front of the first line break (`firstLine_ne_nil`).

## Main definitions

* `Token.colour`: The semantic token of a token.
* `colours`: The semantic tokens of a token list, one for each.
* `SemanticToken.Shows`: A semantic token has the place and the length of a token.
* `SemanticToken.Within`: A semantic token lies on a line of a text.
* `SemanticToken.Precedes`: One semantic token ends, on its line, before another one starts.

## Theorems

* `forall₂_marked`: A list made of the marked tokens has one member for each token.
* `classifyTokens_eq_colours`: Each token with something on its first line has its colour.
* `semanticTokens_localContext`: Each token of a text has its colour.
* `within_colour`: A token's colour does not leave the line.
* `semantic_tokens_are_well_formed`: The colouring of every text.
-/

namespace RiddlEditor

section Marked

-- Whoever goes through the marked tokens goes through the tokens.
variable {extra : List Text} {tokens : List Token}

theorem forall_mem_marked {p : Token → Prop} :
    (∀ m ∈ marked extra tokens, p m.1) ↔ ∀ t ∈ tokens, p t := by
  constructor
  · intro h t ht
    rw [← map_fst_marked extra tokens] at ht
    rcases List.mem_map.mp ht with ⟨m, hm, rfl⟩
    exact h m hm
  · exact fun h m hm => h m.1 (mem_of_mem_marked hm)

theorem length_marked : (marked extra tokens).length = tokens.length := by
  rw [← List.length_map (f := Prod.fst), map_fst_marked]

theorem pairwise_marked {R : Token → Token → Prop} (h : tokens.Pairwise R) :
    (marked extra tokens).Pairwise fun m m' => R m.1 m'.1 := by
  rwa [← map_fst_marked extra tokens, List.pairwise_map] at h

theorem forall₂_marked {α : Type} {R : Token → α → Prop} {f : Token × Bool → α}
    (h : ∀ m ∈ marked extra tokens, R m.1 (f m)) :
    List.Forall₂ R tokens ((marked extra tokens).map f) := by
  have hmarked : List.Forall₂ R ((marked extra tokens).map Prod.fst)
      ((marked extra tokens).map f) := by
    rw [List.forall₂_map_left_iff, List.forall₂_map_right_iff, List.forall₂_same]
    exact h
  rwa [map_fst_marked] at hmarked

end Marked

/-- The semantic token of a token, which may be one that defines its name. -/
def Token.colour (t : Token) (defines : Bool) : SemanticToken where
  line := t.start.line
  column := t.start.column
  length := (firstLine t.text).length
  type := semanticTypeIndex t.kind
  modifiers := if t.kind.isResolvable && defines then declarationModifier else 0

/-- The semantic tokens of a token list, one for each token. -/
def colours (extra : List Text) (tokens : List Token) : List SemanticToken :=
  (marked extra tokens).map fun m => m.1.colour m.2

theorem length_firstLine_le (t : Token) : (firstLine t.text).length ≤ t.length :=
  (List.takeWhile_prefix _).length_le

theorem markedColour?_eq_some {m : Token × Bool} (h : firstLine m.1.text ≠ []) :
    markedColour? m = some (m.1.colour m.2) := by
  have hlength : firstLineLength m.1.text ≠ 0 := fun hzero => h (List.length_eq_zero_iff.mp hzero)
  rw [markedColour?, if_neg hlength]
  rfl

/-- Where every token has something on its first line, every token has its colour. -/
theorem classifyTokens_eq_colours (r : Resolver) {tokens : List Token}
    (hlines : ∀ t ∈ tokens, firstLine t.text ≠ []) :
    classifyTokens tokens r = colours r.extraKeywords tokens := by
  rw [classifyTokens_eq, colours, ← List.filterMap_eq_map]
  exact List.filterMap_congr fun m hm => markedColour?_eq_some (hlines m.1 (mem_of_mem_marked hm))

/-- Each token of a text has its colour. -/
theorem semanticTokens_localContext (text origin : Text) (options : Options) :
    (localContext text origin options).semanticTokens =
      .ok (colours options.extraKeywords (lexTokens text)) := by
  have hcolours := classifyTokens_eq_colours options.resolver
    fun t (ht : t ∈ lexTokens text) => firstLine_ne_nil ht
  rw [Context.semanticTokens, stream_localContext]
  exact congrArg Except.ok hcolours

namespace SemanticToken

/-- A semantic token has the place of a token, the length of its first line and the type of
    its kind. -/
structure Shows (t : Token) (colour : SemanticToken) : Prop where
  line : colour.line = t.start.line
  column : colour.column = t.start.column
  length : colour.length = (firstLine t.text).length
  type : colour.type = semanticTypeIndex t.kind

/-- A semantic token has a character, and it lies on a line of a text. -/
structure Within (s : Text) (colour : SemanticToken) : Prop where
  column : 0 ≤ colour.column
  length : 1 ≤ colour.length
  inside : ∃ shown, (Lines.ofText s).line? colour.line = .ok shown ∧
    colour.column + colour.length ≤ shown.length

/-- One semantic token starts, in reading order, before another one. -/
def StartsFirst (a b : SemanticToken) : Prop :=
  a.line < b.line ∨ a.line = b.line ∧ a.column < b.column

/-- One semantic token ends, on its line, before another one starts. -/
def Precedes (a b : SemanticToken) : Prop :=
  a.line < b.line ∨ a.line = b.line ∧ a.column + a.length ≤ b.column

end SemanticToken

theorem shows_colour (t : Token) (defines : Bool) : (t.colour defines).Shows t :=
  ⟨rfl, rfl, rfl, rfl⟩

/-- A token's colour does not leave the line, for the line has the first line of the token
    from its column on. -/
theorem within_colour {s : Text} {t : Token} (h : t ∈ lexTokens s) (defines : Bool) :
    (t.colour defines).Within s := by
  have hpos := List.length_pos_iff.mpr (firstLine_ne_nil h)
  rcases firstLine_of_token h with ⟨shown, hshown, _⟩
  have hlength := firstLine_le_line h hshown
  refine ⟨Int.natCast_nonneg _, Int.ofNat_le.mpr hpos, shown, hshown, ?_⟩
  simp only [Token.colour]
  omega

theorem precedes_colour {a b : Token} (h : a.Precedes b) (i j : Bool) :
    (a.colour i).Precedes (b.colour j) := by
  have hlength := length_firstLine_le a
  simp only [Token.Precedes] at h
  simp only [SemanticToken.Precedes, Token.colour]
  omega

theorem startsFirst_colour {a b : Token} (h : a.start < b.start) (i j : Bool) :
    (a.colour i).StartsFirst (b.colour j) := by
  simp only [Position.lt_def] at h
  simp only [SemanticToken.StartsFirst, Token.colour]
  omega

/-- The colouring of a text. There is one semantic token for each token, at its place and as
    long as its first line; their places increase. Each has at least one character, lies on
    one line of the text, and ends before the next one on that line starts. -/
theorem semantic_tokens_are_well_formed (text origin : Text) (options : Options) :
    ∃ found, (localContext text origin options).semanticTokens = .ok found ∧
      List.Forall₂ SemanticToken.Shows (lexTokens text) found ∧
      found.Pairwise SemanticToken.StartsFirst ∧
      (∀ colour ∈ found, colour.Within text) ∧
      found.Pairwise SemanticToken.Precedes := by
  refine ⟨_, semanticTokens_localContext text origin options, ?_, ?_, ?_, ?_⟩
  · exact forall₂_marked fun m _ => shows_colour m.1 m.2
  · rw [colours, List.pairwise_map]
    exact (pairwise_marked (lexTokens_starts_increase text)).imp fun h => startsFirst_colour h _ _
  · intro colour hcolour
    rcases List.mem_map.mp hcolour with ⟨m, hm, rfl⟩
    exact within_colour (mem_of_mem_marked hm) m.2
  · rw [colours, List.pairwise_map]
    exact (pairwise_marked (lexTokens_precedes text)).imp fun h => precedes_colour h _ _

-- A comment over two lines is coloured on the first, up to the pair that breaks the line.
example : classifyTokens (lexTokens "/* a\r\nb */ type T".toList) ⟨[]⟩ =
    [⟨0, 0, 4, 12, 0⟩, ⟨1, 5, 4, 11, 0⟩, ⟨1, 10, 1, 7, 1⟩] := by
  decide +kernel

end RiddlEditor
