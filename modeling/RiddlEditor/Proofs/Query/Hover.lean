import Mathlib.Data.List.Basic
import RiddlEditor.Proofs.Compiler.Highlights
import RiddlEditor.Proofs.Lexeme.Grammar
import RiddlEditor.Proofs.Query.Failures
import RiddlEditor.Proofs.Query.Names
import RiddlEditor.Proofs.Text.Stretch

/-!
# Hovers agree with lookups and definitions

A hover and a definition are two queries that cut the text into tokens each for itself, and they
choose a token in two ways: a hover is about any token at the position, and a definition only
about one that can name something. Both ask the same resolver, so the line that a hover gives for
a name is that of the definition that the other query finds.

To read the line off a hover is another matter, because a hover quotes the token, which can hold
anything. Behind the quotation it cannot: the sentence about the definition starts with a letter
that is nowhere else in the rest (`cons_infix_append_iff`), and the full stop at its end is no
digit, so that there is one line only (`definedOnLine_infix_iff`).

Which tokens have no hover is up to the tables of the documentation. They leave out some of the
keywords that the local service knows but none of its types.

## Main definitions

* `definedOnLine`: The sentence about the line of a definition.
* `Hover.NamesLineOf`: Which line a hover gives behind the name that it is about.
* `Range.ContainsPlace`: Whether a place is in a range.
* `Token.IsDocumented`: There is documentation for a keyword.

## Theorems

* `definedOnLine_infix_iff`: Which sentences are in the text behind a name.
* `hoverFor?_eq_none_iff`: Which tokens have no hover.
* `hover_agrees`: What a hover says, and when there is none.
-/

namespace RiddlEditor

/-- The sentence about the line of a definition. -/
def definedOnLine (line : Nat) : Text :=
  "Defined on line ".toList ++ Text.ofNat line ++ ['.']

/-- The hover of a name gives the line of its definition: behind the name it has the sentence
    about a line if there is a definition and it starts there, with lines counted from one. -/
def Hover.NamesLineOf (h : Hover) (name : Text) (definition : Option Range) : Prop :=
  ∃ rest, h.contents = "**Identifier:** `".toList ++ name ++ rest ∧
    ∀ line, definedOnLine line <:+: rest ↔ ∃ d, definition = some d ∧ line = d.start.line + 1

/-- A place is in a range, the end of the range excluded. -/
def Range.ContainsPlace (r : Range) (line column : Int) : Prop :=
  ∃ p : Position, (p.line : Int) = line ∧ (p.column : Int) = column ∧ r.contains p = true

/-- There is documentation for a keyword. -/
def Token.IsDocumented (t : Token) : Prop :=
  ∃ entry ∈ keywordDocs, entry.1.toList = t.text

/-! ## The sentence about the definition -/

section Sentence

variable {α : Type} {c : α} {word front rest : List α}

/-- A word whose first letter is not in front does not begin there. -/
theorem cons_infix_append_iff (h : c ∉ front) :
    c :: word <:+: front ++ rest ↔ c :: word <:+: rest := by
  induction front with
  | nil => exact Iff.rfl
  | cons a front ih =>
      rcases not_or.mp fun hmem => h (List.mem_cons.mpr hmem) with ⟨hne, hfront⟩
      rw [List.cons_append, List.infix_cons_iff, List.cons_prefix_cons, ih hfront]
      exact or_iff_right fun hstart => hne hstart.1

/-- A word whose first letter is there once begins there. -/
theorem cons_infix_cons_iff (h : c ∉ rest) : c :: word <:+: c :: rest ↔ word <+: rest := by
  rw [List.infix_cons_iff, List.cons_prefix_cons]
  constructor
  · rintro (⟨_, hstart⟩ | hoccurs)
    · exact hstart
    · exact absurd (hoccurs.subset List.mem_cons_self) h
  · exact fun hstart => Or.inl ⟨rfl, hstart⟩

end Sentence

/-- A number in front of a full stop can be read off. -/
theorem Text.ofNat_append_prefix_iff {m n : Nat} {rest : Text} :
    Text.ofNat m ++ ['.'] <+: Text.ofNat n ++ '.' :: rest ↔ m = n := by
  -- The digits end where the full stop is, and they are read back as a number.
  have hdigits (k : Nat) (tail : Text) :
      (Text.ofNat k ++ '.' :: tail).takeWhile Char.isDigit = Nat.toDigits 10 k := by
    rw [Text.ofNat_eq_toDigits]
    exact takeWhile_of_cut (fun c => Nat.isDigit_of_mem_toDigits (by decide) (by decide)) rfl
  constructor
  · rintro ⟨tail, htail⟩
    rw [List.append_assoc, List.cons_append, List.nil_append] at htail
    have hsame := congrArg (List.takeWhile Char.isDigit) htail
    rw [hdigits, hdigits] at hsame
    have hread := congrArg (fun digits => Nat.ofDigitChars 10 digits 0) hsame
    rwa [Nat.ofDigitChars_ten_toDigits, Nat.ofDigitChars_ten_toDigits] at hread
  · rintro rfl
    exact ⟨rest, by rw [List.append_assoc, List.cons_append, List.nil_append]⟩

theorem not_mem_hoverFooter (p : Position) : 'D' ∉ hoverFooter p := by
  have hline : 'D' ∉ Text.ofNat (p.line + 1) := Text.not_mem_ofNat (by decide) _
  have hcolumn : 'D' ∉ Text.ofNat (p.column + 1) := Text.not_mem_ofNat (by decide) _
  unfold hoverFooter
  simp only [List.mem_append, not_or]
  exact ⟨⟨⟨by decide, hline⟩, by decide⟩, hcolumn⟩

section Rest

variable {footer : Text} {line : Nat}

/-- The sentence begins with the only capital D behind a name. -/
theorem definedOnLine_eq (line : Nat) : definedOnLine line =
    'D' :: ("efined on line ".toList ++ (Text.ofNat line ++ ['.'])) :=
  rfl

/-- The sentence is about one line. -/
theorem definedOnLine_infix_iff {line' : Nat} (hfooter : 'D' ∉ footer) :
    definedOnLine line <:+: definedOnLine line' ++ footer ↔ line = line' := by
  have hrest : 'D' ∉ "efined on line ".toList ++ (Text.ofNat line' ++ '.' :: footer) := by
    simp only [List.mem_append, List.mem_cons, not_or]
    exact ⟨by decide, Text.not_mem_ofNat (by decide) _, by decide, hfooter⟩
  rw [definedOnLine_eq, definedOnLine_eq, List.cons_append, List.append_assoc, List.append_assoc,
    List.cons_append, List.nil_append, cons_infix_cons_iff hrest, List.prefix_append_right_inj,
    Text.ofNat_append_prefix_iff]

/-- Behind a name there is a sentence about the line of its definition only. -/
theorem definedOnLine_infix_rest_iff {definition : Option Range} (hfooter : 'D' ∉ footer) :
    definedOnLine line <:+:
        "`\n\nUser-defined name.".toList ++ ((definition.map definedOn).getD [] ++ footer) ↔
      ∃ d, definition = some d ∧ line = d.start.line + 1 := by
  rw [definedOnLine_eq, cons_infix_append_iff (by decide), ← definedOnLine_eq]
  cases definition with
  | none => exact iff_of_false (fun h => hfooter (h.subset List.mem_cons_self)) (by simp)
  | some d =>
      -- The blank is not in the sentence.
      have hblank : (((some d).map definedOn).getD [] ++ footer : Text) =
          [' '] ++ (definedOnLine (d.start.line + 1) ++ footer) := rfl
      rw [hblank, definedOnLine_eq, cons_infix_append_iff (by decide), ← definedOnLine_eq,
        definedOnLine_infix_iff hfooter]
      simp only [Option.some.injEq, exists_eq_left']

end Rest

/-! ## The hover of a token -/

section Hover

variable {t : Token} {tokens : List Token} {resolver : Resolver} {h : Hover}

theorem range_of_hoverFor? (hfound : hoverFor? t tokens resolver = some h) :
    h.range = t.range := by
  rcases Option.map_eq_some_iff.mp hfound with ⟨body, _, rfl⟩
  rfl

/-- What is shown about a name among its tokens. -/
theorem identifierBody_of_mem (ht : t ∈ tokens) :
    identifierBody t tokens resolver = "**Identifier:** `".toList ++ t.text ++
      ("`\n\nUser-defined name.".toList ++
        ((resolver.definition? tokens t).map definedOn).getD []) := by
  have hne : ¬tokens.isEmpty = true :=
    Bool.eq_false_iff.mp (List.isEmpty_eq_false_iff_exists_mem.mpr ⟨t, ht⟩)
  -- The closing mark of the title is where the text of the token ends.
  have htitle : hoverTitle "Identifier" t.text ++ "\n\nUser-defined name.".toList =
      "**Identifier:** `".toList ++ t.text ++ "`\n\nUser-defined name.".toList :=
    List.append_assoc _ ['`'] _
  rw [identifierBody, if_neg hne, htitle]
  cases resolver.definition? tokens t with
  | none => simp only [Option.map_none, Option.getD_none, List.append_nil]
  | some d => simp only [Option.map_some, Option.getD_some, List.append_assoc]

/-- The hover of a name among its tokens gives the line of its definition. -/
theorem namesLineOf_of_hoverFor? (hfound : hoverFor? t tokens resolver = some h)
    (ht : t ∈ tokens) (hkind : t.kind = .identifier) :
    h.NamesLineOf t.text (resolver.definition? tokens t) := by
  rcases Option.map_eq_some_iff.mp hfound with ⟨body, hbody, rfl⟩
  rw [hoverBody?, hkind] at hbody
  obtain rfl := Option.some.inj hbody
  rw [identifierBody_of_mem ht]
  refine ⟨"`\n\nUser-defined name.".toList ++
    (((resolver.definition? tokens t).map definedOn).getD [] ++ hoverFooter t.start), ?_,
    fun line => definedOnLine_infix_rest_iff (not_mem_hoverFooter t.start)⟩
  simp only [List.append_assoc]

theorem docOf?_eq_none_iff {docs : List (String × String)} {word : Text} :
    docOf? docs word = none ↔ ∀ entry ∈ docs, entry.1.toList ≠ word := by
  rw [docOf?, Option.map_eq_none_iff, List.find?_eq_none]
  simp only [beq_iff_eq, ne_eq]

/-- A keyword or a type without documentation has no hover, and everything else has one. -/
theorem hoverFor?_eq_none_iff :
    hoverFor? t tokens resolver = none ↔
      (t.kind = .keyword ∧ docOf? keywordDocs t.text.lowercase = none) ∨
        (t.kind = .predefined ∧ docOf? predefinedDocs t.text = none) := by
  rw [hoverFor?, Option.map_eq_none_iff, hoverBody?]
  cases t.kind <;> simp [documentedBody?]

end Hover

/-! ## The words of the local service -/

section Local

variable {text : Text} {t : Token}

/-- A word of the local service is without a hover if it is a keyword without documentation. -/
theorem hoverFor?_eq_none_iff_of_mem (ht : t ∈ lexTokens text) {tokens : List Token}
    {resolver : Resolver} :
    hoverFor? t tokens resolver = none ↔ t.kind = .keyword ∧ ¬t.IsDocumented := by
  have hkeyword (hkind : t.kind = .keyword) :
      docOf? keywordDocs t.text.lowercase = none ↔ ¬t.IsDocumented := by
    have hword : HasKind t.text .keyword :=
      hasKind_iff.mpr (hkind.symm.trans (isWord_of_kind ht (Or.inl hkind)).kind)
    rw [lowercase_of_mem_keywords t.text hword, docOf?_eq_none_iff, Token.IsDocumented]
    simp only [not_exists, not_and, ne_eq]
  have hpredefined (hkind : t.kind = .predefined) : docOf? predefinedDocs t.text ≠ none := by
    have hresolvable : t.kind.isResolvable = true := congrArg TokenKind.isResolvable hkind
    have hword : HasKind t.text .predefined :=
      hasKind_iff.mpr (hkind.symm.trans (isWord_of_kind ht (Or.inr hresolvable)).kind)
    -- The types are those of the documentation.
    rcases List.mem_map.mp hword.2.2 with ⟨entry, hentry, htext⟩
    exact fun hnone => docOf?_eq_none_iff.mp hnone entry hentry htext
  rw [hoverFor?_eq_none_iff, and_congr_right hkeyword]
  exact or_iff_left fun hmissing => hpredefined hmissing.1 hmissing.2

theorem hoverAt?_lexTokens_eq_none_iff {line column : Int} {resolver : Resolver} :
    hoverAt? (lexTokens text) line column resolver = none ↔
      (∀ t ∈ lexTokens text, t.spans line column = false) ∨
        ∃ t ∈ lexTokens text, t.spans line column = true ∧ t.kind = .keyword ∧
          ¬t.IsDocumented := by
  rw [hoverAt?]
  cases hfound : findTokenAt (lexTokens text) line column with
  | none =>
      have hnone : ∀ t ∈ lexTokens text, t.spans line column = false := fun t ht =>
        Bool.eq_false_iff.mpr (List.find?_eq_none.mp hfound t ht)
      exact iff_of_true rfl (Or.inl hnone)
  | some t =>
      rcases findTokenAt_eq_some.mp hfound with ⟨ht, hspans⟩
      rw [Option.bind_some, hoverFor?_eq_none_iff_of_mem ht]
      constructor
      · exact fun hkeyword => Or.inr ⟨t, ht, hspans, hkeyword⟩
      · rintro (hnone | ⟨u, hu, huspans, hkeyword⟩)
        · exact absurd ((hnone t ht).symm.trans hspans) Bool.false_ne_true
        · -- There is one token at a place.
          obtain rfl := Option.some.inj (hfound.symm.trans (findTokenAt_eq_some.mpr ⟨hu, huspans⟩))
          exact hkeyword

end Local

/-! ## The hover at a position -/

/-- A token that covers a place has it in its range. -/
theorem Token.containsPlace_of_spans {t : Token} {line column : Int}
    (h : t.spans line column = true) : t.range.ContainsPlace line column := by
  rcases spans_iff.mp h with ⟨hline, hfirst, hlast⟩
  obtain ⟨n, rfl⟩ := Int.eq_ofNat_of_zero_le (Int.le_trans (Int.natCast_nonneg _) hfirst)
  have hbehind : n < t.start.column + t.length := by omega
  exact ⟨⟨t.start.line, n⟩, hline, rfl,
    decide_eq_true ⟨Or.inr ⟨rfl, Int.ofNat_le.mp hfirst⟩, Or.inr ⟨rfl, hbehind⟩⟩⟩

theorem hasReadableTokens_localContext (text origin : Text) (options : Options) :
    (localContext text origin options).HasReadableTokens := by
  by_contra h
  rcases exists_firstFails_of_not_readable h with ⟨_, _, _, _, herror, _⟩
  exact nomatch (tokenizeDocument_localService text origin).symm.trans herror

/-- Hovers agree with lookups and definitions. If the tokens that a service reports can be read,
    as those of the right types can (`readableTokens_of_wellTyped`), there is a stream, and wherever
    there is one, both queries answer. A hover is then that of the token at the position, and its
    range contains the position. For a name it has, behind the name, the sentence about a line
    exactly if the other query finds a definition and that is its line. With the local service there
    is no hover exactly where no token is and on keywords without documentation. -/
theorem hover_agrees :
    (∀ q : Context, q.HasReadableTokens → ∃ s, q.stream = .ok s) ∧
    (∀ (q : Context) s, q.stream = .ok s → ∀ line column, ∃ found run,
      q.hover line column = .ok found ∧ q.definition line column = .ok run ∧
      ∀ h, found = some h → ∃ t, s.tokenAt line column = some t ∧
        hoverFor? t s.tokens q.resolver = some h ∧ h.range = t.range ∧
        h.range.ContainsPlace line column ∧
        (t.kind = .identifier → h.NamesLineOf t.text run.definition)) ∧
    (∀ text origin options line column, ∃ found,
      (localContext text origin options).hover line column = .ok found ∧
      (found = none ↔
        (∀ t ∈ lexTokens text, t.spans line column = false) ∨
          ∃ t ∈ lexTokens text, t.spans line column = true ∧ t.kind = .keyword ∧
            ¬t.IsDocumented)) := by
  refine ⟨fun q hreadable => ?_, ?_, ?_⟩
  · rcases exists_found_of_readable hreadable with ⟨found, hfound⟩
    exact ⟨_, stream_of_found hfound⟩
  · intro q s hstream line column
    refine ⟨hoverAt? s.tokens line column q.resolver,
      ⟨Context.targetAt s line column,
        (Context.targetAt s line column).bind (q.resolver.definition? s.tokens)⟩,
      by rw [Context.hover, hstream]; rfl, by rw [Context.definition, hstream]; rfl, ?_⟩
    intro h hsome
    rcases Option.bind_eq_some_iff.mp hsome with ⟨t, ht, hhover⟩
    have hspans : t.spans line column = true :=
      List.find?_some (p := fun u : Token => u.spans line column) ht
    have hrange := range_of_hoverFor? hhover
    refine ⟨t, ht, hhover, hrange, hrange ▸ Token.containsPlace_of_spans hspans, fun hkind => ?_⟩
    -- A name is what a definition is looked for.
    have htarget : Context.targetAt s line column = some t := by
      rw [Context.targetAt, TokenStream.tokenAt, ht, Option.filter_some,
        if_pos (by rw [hkind]; rfl)]
    rw [htarget]
    exact namesLineOf_of_hoverFor? hhover (List.mem_of_find?_eq_some ht) hkind
  · intro text origin options line column
    refine ⟨hoverAt? (lexTokens text) line column options.resolver, ?_,
      hoverAt?_lexTokens_eq_none_iff⟩
    rw [Context.hover, stream_localContext]
    rfl

/-- The second name of this text is defined by the first one, and its hover says so. -/
theorem hover_agrees_at_name :
    let q := localContext "type A is A".toList [] .defaults
    q.HasReadableTokens ∧ q.definition 0 10 = .ok ⟨some ⟨['A'], .identifier, ⟨0, 10⟩, .int 10,
      .int 11⟩, some (Range.span ⟨0, 5⟩ 1)⟩ ∧
    ∃ h, q.hover 0 10 = .ok (some h) ∧ h.NamesLineOf ['A'] (some (Range.span ⟨0, 5⟩ 1)) := by
  intro q
  let t : Token := ⟨['A'], .identifier, ⟨0, 10⟩, .int 10, .int 11⟩
  have hmem : (⟨['A'], .identifier, ⟨0, 10⟩, 10, none⟩ : Lexeme) ∈ lexemes "type A is A".toList := by
    decide +kernel
  have ht : t ∈ lexTokens "type A is A".toList := List.mem_map_of_mem hmem
  have hspans : t.spans 0 10 = true := by decide
  have hdefines : Options.defaults.resolver.definition? (lexTokens "type A is A".toList) t =
      some (Range.span ⟨0, 5⟩ 1) := by
    rw [definition?_eq (lexTokens_starts_increase _) _ rfl]
    decide +kernel
  have hdefinition := definition_of_target [] .defaults (targetAt_eq_some.mpr ⟨ht, rfl, hspans⟩)
  rw [hdefines] at hdefinition
  have hreadable : q.HasReadableTokens := hasReadableTokens_localContext _ _ _
  refine ⟨hreadable, hdefinition, ?_⟩
  rcases hover_agrees.1 q hreadable with ⟨s, hs⟩
  rcases hover_agrees.2.1 q s hs 0 10 with ⟨found, run, hhover, hrun, hfound⟩
  obtain rfl := Except.ok.inj (hs.symm.trans (stream_localContext _ _ _))
  obtain rfl := Except.ok.inj (hrun.symm.trans hdefinition)
  have htoken := findTokenAt_eq_some.mpr ⟨ht, hspans⟩
  cases found with
  | none =>
      rw [Context.hover, hs] at hhover
      have hnone : hoverAt? (lexTokens "type A is A".toList) 0 10 q.resolver = none :=
        Except.ok.inj hhover
      rw [hoverAt?, htoken, Option.bind_some, hoverFor?_eq_none_iff_of_mem ht] at hnone
      exact absurd hnone.1 (by decide)
  | some h =>
      rcases hfound h rfl with ⟨u, hu, _, _, _, hnames⟩
      obtain rfl := Option.some.inj (hu.symm.trans htoken)
      exact ⟨h, hhover, hnames rfl⟩

end RiddlEditor
