import RiddlEditor.Compiler.Local

/-!
# Where bracket faults are reported

The bracket check goes over the tokens once. Each token leads to at most one fault, which
is about that token, and the end of the text leads to at most one more
(`bracketFaultsIn_cons`, `bracketFaultsIn_nil`). So the faults are reported in the order of
the tokens, whatever brackets are open.

## Main definitions

* `BracketFault.closer?`: The closing bracket that a fault is about, if there is one.
* `BracketFault.position`: Where a fault is reported.
* `BracketFault.Quotes`: The texts that the wording of a fault quotes.

## Theorems

* `location_of_closer`, `location_of_end`: Where a fault is located.
* `bracketFaultsIn_cons`, `bracketFaultsIn_nil`: What one token, or the end, leads to.
* `bracketFaultsIn_pairwise`: The faults are in the order of the tokens.
* `position_of_mem_bracketFaultsIn`: A fault is at a punctuation token or at the end.
* `bracket_of_quotes`: A fault quotes brackets only.
-/

namespace RiddlEditor

namespace BracketFault

/-- The closing bracket that a fault is about, if there is one. -/
def closer? : BracketFault → Option Token
  | unexpected closer => some closer
  | mismatched _ closer => some closer
  | unclosed _ _ => none

/-- Where a fault is reported in a text that ends at a position. -/
def position (ending : Position) (f : BracketFault) : Position :=
  (f.closer?.map Token.start).getD ending

/-- Whether a text is quoted in the wording of a fault. -/
def Quotes : BracketFault → Text → Prop
  | unexpected closer, s => s = closer.text
  | mismatched expected closer, s => s = expected ∨ s = closer.text
  | unclosed expected opener, s => s = expected ∨ s = opener.text

/-- A fault about a closing bracket is located at the bracket. -/
theorem location_of_closer {f : BracketFault} {t : Token} (h : f.closer? = some t)
    (source origin : Text) :
    f.location source origin = serviceLocation t.start t.offset t.endOffset origin := by
  cases f with
  | unexpected closer =>
      obtain rfl := Option.some.inj h
      rfl
  | mismatched expected closer =>
      obtain rfl := Option.some.inj h
      rfl
  | unclosed expected opener => cases h

/-- A fault about no closing bracket is located at the end of the text. -/
theorem location_of_end {f : BracketFault} (h : f.closer? = none) (source origin : Text) :
    f.location source origin =
      serviceLocation (placeOf source source.length) .null .null origin := by
  cases f with
  | unexpected closer => cases h
  | mismatched expected closer => cases h
  | unclosed expected opener => rfl

end BracketFault

theorem bracketFaultsIn_other {t : Token} (stack : List OpenBracket) (rest : List Token)
    (h : t.kind ≠ .punctuation ∨ closerOf? t.text = none ∧ isCloser t.text = false) :
    bracketFaultsIn stack (t :: rest) = bracketFaultsIn stack rest := by
  rw [bracketFaultsIn.eq_def]
  rcases h with hkind | ⟨hopener, hcloser⟩
  · exact if_pos hkind
  · simp only [hopener, hcloser, Bool.false_eq_true, if_false, ite_self]

theorem bracketFaultsIn_opener {t : Token} {expected : Text} (stack : List OpenBracket)
    (rest : List Token) (hkind : t.kind = .punctuation) (h : closerOf? t.text = some expected) :
    bracketFaultsIn stack (t :: rest) = bracketFaultsIn (⟨t, expected⟩ :: stack) rest := by
  rw [bracketFaultsIn.eq_def]
  simp only [hkind, h, ne_eq, not_true_eq_false, if_false]

theorem bracketFaultsIn_unexpected {t : Token} (rest : List Token) (hkind : t.kind = .punctuation)
    (hopener : closerOf? t.text = none) (hcloser : isCloser t.text = true) :
    bracketFaultsIn [] (t :: rest) = .unexpected t :: bracketFaultsIn [] rest := by
  rw [bracketFaultsIn.eq_def]
  simp only [hkind, hopener, hcloser, ne_eq, not_true_eq_false, if_false, if_true]

theorem bracketFaultsIn_closer {t : Token} (top : OpenBracket) (below : List OpenBracket)
    (rest : List Token) (hkind : t.kind = .punctuation) (hopener : closerOf? t.text = none)
    (hcloser : isCloser t.text = true) :
    bracketFaultsIn (top :: below) (t :: rest) =
      if top.expected = t.text then bracketFaultsIn below rest
      else .mismatched top.expected t :: bracketFaultsIn below rest := by
  rw [bracketFaultsIn.eq_def]
  simp only [hkind, hopener, hcloser, ne_eq, not_true_eq_false, if_false, if_true]

/-- A token leads to no fault or to one that is about it. -/
theorem bracketFaultsIn_cons (stack : List OpenBracket) (t : Token) (rest : List Token) :
    ∃ stack', bracketFaultsIn stack (t :: rest) = bracketFaultsIn stack' rest ∨
      ∃ f, t.kind = .punctuation ∧ f.closer? = some t ∧
        bracketFaultsIn stack (t :: rest) = f :: bracketFaultsIn stack' rest := by
  by_cases hkind : t.kind = .punctuation
  · cases hopener : closerOf? t.text with
    | some expected =>
        exact ⟨⟨t, expected⟩ :: stack, Or.inl (bracketFaultsIn_opener stack rest hkind hopener)⟩
    | none =>
        by_cases hcloser : isCloser t.text = true
        · rcases stack with _ | ⟨top, below⟩
          · have hfault := bracketFaultsIn_unexpected rest hkind hopener hcloser
            exact ⟨[], Or.inr ⟨.unexpected t, hkind, rfl, hfault⟩⟩
          · refine ⟨below, ?_⟩
            rw [bracketFaultsIn_closer top below rest hkind hopener hcloser]
            by_cases hfits : top.expected = t.text
            · exact Or.inl (if_pos hfits)
            · exact Or.inr ⟨.mismatched top.expected t, hkind, rfl, if_neg hfits⟩
        · rw [Bool.not_eq_true] at hcloser
          exact ⟨stack, Or.inl (bracketFaultsIn_other stack rest (Or.inr ⟨hopener, hcloser⟩))⟩
  · exact ⟨stack, Or.inl (bracketFaultsIn_other stack rest (Or.inl hkind))⟩

/-- The end of the text leads to no fault or to one that is about no closing bracket. -/
theorem bracketFaultsIn_nil (stack : List OpenBracket) :
    bracketFaultsIn stack [] = [] ∨
      ∃ f, f.closer? = none ∧ bracketFaultsIn stack [] = [f] := by
  rcases stack with _ | ⟨top, below⟩
  · exact Or.inl rfl
  · exact Or.inr ⟨.unclosed top.expected top.opener, rfl, rfl⟩

/-- The closing bracket of a fault is a punctuation token. -/
theorem closer_of_mem_bracketFaultsIn {stack : List OpenBracket} {tokens : List Token}
    {f : BracketFault} (h : f ∈ bracketFaultsIn stack tokens) :
    f.closer? = none ∨ ∃ t ∈ tokens, t.kind = .punctuation ∧ f.closer? = some t := by
  induction tokens generalizing stack with
  | nil =>
      rcases bracketFaultsIn_nil stack with hnil | ⟨g, hg, hend⟩
      · rw [hnil] at h
        exact absurd h List.not_mem_nil
      · rw [hend, List.mem_singleton] at h
        exact Or.inl (h ▸ hg)
  | cons t rest ih =>
      -- The brackets that are open do not matter for what is claimed.
      have hrest : ∀ stack', f ∈ bracketFaultsIn stack' rest →
          f.closer? = none ∨ ∃ u ∈ t :: rest, u.kind = .punctuation ∧ f.closer? = some u := by
        intro stack' hf
        rcases ih hf with hnone | ⟨u, hu, hcloser⟩
        · exact Or.inl hnone
        · exact Or.inr ⟨u, List.mem_cons_of_mem t hu, hcloser⟩
      rcases bracketFaultsIn_cons stack t rest with ⟨stack', hsame | ⟨g, hkind, hg, hfault⟩⟩
      · exact hrest stack' (hsame ▸ h)
      · rw [hfault] at h
        rcases List.mem_cons.mp h with rfl | h
        · exact Or.inr ⟨t, List.mem_cons_self, hkind, hg⟩
        · exact hrest stack' h

/-- Where a fault is reported: at a punctuation token or at the end. -/
theorem position_of_mem_bracketFaultsIn {stack : List OpenBracket} {tokens : List Token}
    {f : BracketFault} (h : f ∈ bracketFaultsIn stack tokens) (ending : Position) :
    f.position ending = ending ∨
      ∃ t ∈ tokens, t.kind = .punctuation ∧ f.position ending = t.start := by
  rcases closer_of_mem_bracketFaultsIn h with hnone | ⟨t, ht, hkind, hcloser⟩
  · exact Or.inl (by rw [BracketFault.position, hnone]; rfl)
  · exact Or.inr ⟨t, ht, hkind, by rw [BracketFault.position, hcloser]; rfl⟩

/-- If the tokens are in order and in front of the end, so are the faults. -/
theorem bracketFaultsIn_pairwise {r : Position → Position → Prop} {ending : Position}
    {tokens : List Token} (h : tokens.Pairwise fun t u => r t.start u.start)
    (hending : ∀ t ∈ tokens, r t.start ending) (stack : List OpenBracket) :
    (bracketFaultsIn stack tokens).Pairwise
      fun f g => r (f.position ending) (g.position ending) := by
  induction tokens generalizing stack with
  | nil =>
      rcases bracketFaultsIn_nil stack with hnil | ⟨f, _, hend⟩
      · rw [hnil]
        exact List.Pairwise.nil
      · rw [hend]
        exact List.pairwise_singleton _ f
  | cons t rest ih =>
      rcases List.pairwise_cons.mp h with ⟨ht, hrest⟩
      have htail := ih hrest fun u hu => hending u (List.mem_cons_of_mem t hu)
      rcases bracketFaultsIn_cons stack t rest with ⟨stack', hsame | ⟨f, _, hf, hfault⟩⟩
      · rw [hsame]
        exact htail stack'
      · rw [hfault]
        -- Every later fault is at a later token or at the end.
        refine List.Pairwise.cons (fun g hg => ?_) (htail stack')
        have hstart : f.position ending = t.start := by
          rw [BracketFault.position, hf]
          rfl
        rw [hstart]
        rcases position_of_mem_bracketFaultsIn hg ending with hend | ⟨u, hu, _, hposition⟩
        · rw [hend]
          exact hending t List.mem_cons_self
        · rw [hposition]
          exact ht u hu

/-- The brackets that are open and those that close them. -/
def IsBracket (s : Text) : Prop :=
  (closerOf? s).isSome = true ∨ isCloser s = true

theorem isCloser_of_closerOf? {s expected : Text} (h : closerOf? s = some expected) :
    isCloser expected = true :=
  isCloser_iff.mpr ⟨s, closerOf?_eq_some_iff.mp h⟩

/-- A bracket is one of a pair. -/
theorem IsBracket.exists_pair {s : Text} (h : IsBracket s) :
    ∃ other, BracketPair s other ∨ BracketPair other s := by
  rcases h with h | h
  · rcases Option.isSome_iff_exists.mp h with ⟨closer, hcloser⟩
    exact ⟨closer, Or.inl (closerOf?_eq_some_iff.mp hcloser)⟩
  · rcases isCloser_iff.mp h with ⟨opener, hpair⟩
    exact ⟨opener, Or.inr hpair⟩

/-- A fault quotes brackets only, if the open brackets are brackets. -/
theorem bracket_of_quotes {stack : List OpenBracket} {tokens : List Token} {f : BracketFault}
    (hopen : ∀ o ∈ stack, IsBracket o.opener.text ∧ IsBracket o.expected)
    (h : f ∈ bracketFaultsIn stack tokens) {s : Text} (hs : f.Quotes s) : IsBracket s := by
  induction tokens generalizing stack with
  | nil =>
      rcases stack with _ | ⟨top, below⟩
      · exact absurd h List.not_mem_nil
      · rw [bracketFaultsIn, List.mem_singleton] at h
        subst h
        rcases hs with rfl | rfl
        · exact (hopen top List.mem_cons_self).2
        · exact (hopen top List.mem_cons_self).1
  | cons t rest ih =>
      by_cases hkind : t.kind = .punctuation
      · cases hopener : closerOf? t.text with
        | some expected =>
            rw [bracketFaultsIn_opener stack rest hkind hopener] at h
            refine ih (fun o ho => ?_) h
            rcases List.mem_cons.mp ho with rfl | ho
            · exact ⟨Or.inl (Option.isSome_of_eq_some hopener),
                Or.inr (isCloser_of_closerOf? hopener)⟩
            · exact hopen o ho
        | none =>
            by_cases hcloser : isCloser t.text = true
            · rcases stack with _ | ⟨top, below⟩
              · rw [bracketFaultsIn_unexpected rest hkind hopener hcloser] at h
                rcases List.mem_cons.mp h with rfl | h
                · exact Or.inr (hs ▸ hcloser)
                · exact ih hopen h
              · have hbelow := fun o ho => hopen o (List.mem_cons_of_mem top ho)
                rw [bracketFaultsIn_closer top below rest hkind hopener hcloser] at h
                by_cases hfits : top.expected = t.text
                · rw [if_pos hfits] at h
                  exact ih hbelow h
                · rw [if_neg hfits] at h
                  rcases List.mem_cons.mp h with rfl | h
                  · rcases hs with rfl | rfl
                    · exact (hopen top List.mem_cons_self).2
                    · exact Or.inr hcloser
                  · exact ih hbelow h
            · rw [Bool.not_eq_true] at hcloser
              rw [bracketFaultsIn_other stack rest (Or.inr ⟨hopener, hcloser⟩)] at h
              exact ih hopen h
      · rw [bracketFaultsIn_other stack rest (Or.inl hkind)] at h
        exact ih hopen h

end RiddlEditor
