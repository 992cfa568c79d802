import RiddlEditor.Compiler.Local
import RiddlEditor.Proofs.Compiler.Brackets
import RiddlEditor.Proofs.Lexeme.Cover

/-!
# What the bracket check accepts

The check finds nothing exactly in the well-nested words, and what it finds first is at the first
bracket behind which there is no way to go on.

As long as nothing is wrong, the stack tells what is still to come: a word that closes the open
brackets one after the other, with well-nested words in between (`Closes`). Each token that is
passed keeps this true (`Passes.closes`), so the text in front of the first fault can be continued
by closing what is open, and with the fault it can no longer be continued. Behind the first fault
the stack is only a guess, and nothing is said about it.

The brackets that are checked are those of the text itself. Every bracket outside of strings and
comments is a token of its own, and no other token has one.

## Main definitions

* `Closes`: The words that close the open brackets.
* `Continuable`: The words that can be continued to a well-nested one.
* `Passes`, `Passed`: What a token, or several tokens, without a fault do to the stack.
* `Misfits`: A closing bracket that does not fit the stack.
* `Token.EndsNesting`: A closing bracket behind which there is no way to go on.
* `Token.IsFirstToEnd`: The first such bracket.
* `Token.IsLeftOpen`: The innermost bracket that is not closed.
* `bracketMarks`: The six brackets.
* `bracketsOutside`: The brackets of a text outside of its strings and comments.

## Theorems

* `closes_opener`, `closes_closer`: What one bracket does to the words that are to come.
* `passed_or_misfit`: Where a list of tokens stops being passed.
* `Passed.top_cases`: Where the innermost open bracket was opened.
* `Passed.wellNested_iff`: What was passed is well nested exactly if nothing is open.
* `brackets_eq_outside`: The brackets that are checked are those of the text.
* `brackets_are_checked`: What the bracket check finds, and when the local service succeeds.
-/

namespace RiddlEditor

/-! ## Words -/

/-- A word that can be continued to a well-nested one. -/
def Continuable (word : List Text) : Prop :=
  ∃ more, WellNested (word ++ more)

/-- The words that close some brackets, given by what is expected for each, innermost first: a
    well-nested word and the closing bracket for each of them, and a well-nested word behind the
    last one. -/
def Closes : List Text → List Text → Prop
  | [], word => WellNested word
  | expected :: below, word =>
    ∃ inner outer, word = inner ++ expected :: outer ∧ WellNested inner ∧ Closes below outer

theorem closerOf?_of_isCloser {s : Text} (h : isCloser s = true) : closerOf? s = none := by
  rcases isCloser_iff.mp h with ⟨_, _ | _ | _⟩ <;> rfl

theorem WellNested.append {word more : List Text} (h : WellNested word) (hmore : WellNested more) :
    WellNested (word ++ more) := by
  induction h with
  | nil => exact hmore
  | nest hpair hinner _ _ ih =>
      rw [List.cons_append, List.append_assoc, List.cons_append]
      exact WellNested.nest hpair hinner ih

/-- A well-nested word starts with an opening bracket. -/
theorem exists_of_wellNested_cons {bracket : Text} {word : List Text}
    (h : WellNested (bracket :: word)) :
    ∃ closer inner outer, closerOf? bracket = some closer ∧ word = inner ++ closer :: outer ∧
      WellNested inner ∧ WellNested outer := by
  cases h with
  | nest hpair hinner houter =>
      exact ⟨_, _, _, closerOf?_eq_some_iff.mpr hpair, rfl, hinner, houter⟩

theorem Closes.append {expected : List Text} {word more : List Text} (h : Closes expected more)
    (hword : WellNested word) : Closes expected (word ++ more) := by
  cases expected with
  | nil => exact hword.append h
  | cons first below =>
      rcases h with ⟨inner, outer, rfl, hinner, houter⟩
      exact ⟨word ++ inner, outer, by rw [List.append_assoc], hword.append hinner, houter⟩

/-- What is expected for the open brackets, one behind the other, closes them. -/
theorem closes_self (expected : List Text) : Closes expected expected := by
  induction expected with
  | nil => exact WellNested.nil
  | cons first below ih => exact ⟨[], below, rfl, WellNested.nil, ih⟩

/-- The empty word closes nothing. -/
theorem closes_nil_iff {expected : List Text} : Closes expected [] ↔ expected = [] := by
  cases expected with
  | nil => exact ⟨fun _ => rfl, fun _ => WellNested.nil⟩
  | cons first below =>
      constructor
      · rintro ⟨inner, outer, hword, _, _⟩
        exact absurd hword.symm (by simp)
      · intro h
        exact absurd h (List.cons_ne_nil first below)

/-- An opening bracket is one more to be closed. -/
theorem closes_opener {opener closer : Text} {expected word : List Text}
    (hopener : closerOf? opener = some closer) (hexpected : ∀ s ∈ expected, closerOf? s = none) :
    Closes expected (opener :: word) ↔ Closes (closer :: expected) word := by
  constructor
  · intro h
    cases expected with
    | nil =>
        rcases exists_of_wellNested_cons h with ⟨found, inner, outer, hfound, rfl, hinner, houter⟩
        obtain rfl := Option.some.inj (hopener.symm.trans hfound)
        exact ⟨inner, outer, rfl, hinner, houter⟩
    | cons first below =>
        rcases h with ⟨front, outer, hword, hfront, houter⟩
        cases front with
        | nil =>
            -- What is expected is no opening bracket.
            obtain rfl := (List.cons.inj hword).1
            exact nomatch hopener.symm.trans (hexpected opener List.mem_cons_self)
        | cons bracket front =>
            rw [List.cons_append, List.cons.injEq] at hword
            rcases hword with ⟨rfl, rfl⟩
            rcases exists_of_wellNested_cons hfront with
              ⟨found, inner, rest, hfound, rfl, hinner, hrest⟩
            obtain rfl := Option.some.inj (hopener.symm.trans hfound)
            refine ⟨inner, rest ++ first :: outer, ?_, hinner, rest, outer, rfl, hrest, houter⟩
            rw [List.append_assoc, List.cons_append]
  · rintro ⟨inner, outer, rfl, hinner, houter⟩
    -- The bracket with what is in it is a well-nested word in front of the others.
    have hnest : WellNested (opener :: (inner ++ closer :: [])) :=
      WellNested.nest (closerOf?_eq_some_iff.mp hopener) hinner WellNested.nil
    have hcloses := houter.append hnest
    rwa [List.cons_append, List.append_assoc, List.cons_append, List.nil_append] at hcloses

/-- A closing bracket closes the innermost open one, if it is what is expected. -/
theorem closes_closer {closer first : Text} {below word : List Text}
    (hcloser : closerOf? closer = none) :
    Closes (first :: below) (closer :: word) ↔ first = closer ∧ Closes below word := by
  constructor
  · rintro ⟨inner, outer, hword, hinner, houter⟩
    cases inner with
    | nil =>
        obtain ⟨rfl, rfl⟩ := List.cons.inj hword
        exact ⟨rfl, houter⟩
    | cons bracket inner =>
        -- A well-nested word in front of it would start with an opening bracket.
        obtain rfl := (List.cons.inj hword).1
        rcases exists_of_wellNested_cons hinner with ⟨found, _, _, hfound, _⟩
        exact nomatch hcloser.symm.trans hfound
  · rintro ⟨rfl, h⟩
    exact ⟨[], word, rfl, WellNested.nil, h⟩

/-- Where nothing is open, no closing bracket comes first. -/
theorem not_closes_nil {closer : Text} {word : List Text} (hcloser : closerOf? closer = none) :
    ¬Closes [] (closer :: word) := by
  intro h
  rcases exists_of_wellNested_cons h with ⟨found, _, _, hfound, _⟩
  exact nomatch hcloser.symm.trans hfound

/-! ## Brackets of tokens -/

section Brackets

variable {t : Token} {rest : List Token}

/-- A token that is a closing bracket. -/
def Token.IsCloser (t : Token) : Prop :=
  t.kind = .punctuation ∧ isCloser t.text = true

/-- A token that is an opening bracket, with the bracket that closes it. -/
def Token.IsOpener (t : Token) (closer : Text) : Prop :=
  t.kind = .punctuation ∧ closerOf? t.text = some closer

theorem brackets_append (front rest : List Token) :
    brackets (front ++ rest) = brackets front ++ brackets rest := by
  rw [brackets, brackets, brackets, List.filter_append, List.map_append]

theorem brackets_cons_opener {closer : Text} (h : t.IsOpener closer) :
    brackets (t :: rest) = t.text :: brackets rest := by
  rw [brackets, List.filter_cons_of_pos (by simp [h.1, h.2]), List.map_cons, brackets]

theorem brackets_cons_closer (h : t.IsCloser) :
    brackets (t :: rest) = t.text :: brackets rest := by
  rw [brackets, List.filter_cons_of_pos (by simp [h.1, h.2]), List.map_cons, brackets]

theorem brackets_cons_other
    (h : t.kind ≠ .punctuation ∨ closerOf? t.text = none ∧ isCloser t.text = false) :
    brackets (t :: rest) = brackets rest := by
  rw [brackets, List.filter_cons_of_neg, brackets]
  rcases h with hkind | ⟨hopener, hcloser⟩
  · simp [hkind]
  · simp [hopener, hcloser]

end Brackets

/-! ## The stack in front of the first fault -/

/-- What is expected for the brackets of a stack. -/
def expectedOf (stack : List OpenBracket) : List Text :=
  stack.map OpenBracket.expected

/-- What a token without a fault does to the open brackets. -/
inductive Passes : List OpenBracket → Token → List OpenBracket → Prop where
  | other {stack : List OpenBracket} {t : Token}
      (h : t.kind ≠ .punctuation ∨ closerOf? t.text = none ∧ isCloser t.text = false) :
      Passes stack t stack
  | opener {stack : List OpenBracket} {t : Token} {closer : Text} (h : t.IsOpener closer) :
      Passes stack t (⟨t, closer⟩ :: stack)
  | closer {opener t : Token} {below : List OpenBracket} (h : t.IsCloser) :
      Passes (⟨opener, t.text⟩ :: below) t below

/-- What tokens without a fault do to the open brackets, one after the other. -/
inductive Passed : List OpenBracket → List Token → List OpenBracket → Prop where
  | nil (stack : List OpenBracket) : Passed stack [] stack
  | cons {stack stack' stack'' : List OpenBracket} {t : Token} {rest : List Token}
      (hfirst : Passes stack t stack') (hrest : Passed stack' rest stack'') :
      Passed stack (t :: rest) stack''

/-- A closing bracket that does not fit the innermost open one. -/
def Misfits (stack : List OpenBracket) (t : Token) : Prop :=
  t.IsCloser ∧ ∀ top below, stack = top :: below → top.expected ≠ t.text

/-- A token is passed, or it is a closing bracket that does not fit. -/
theorem passes_or_misfits (stack : List OpenBracket) (t : Token) :
    (∃ stack', Passes stack t stack') ∨ Misfits stack t := by
  by_cases hkind : t.kind = .punctuation
  · cases hopener : closerOf? t.text with
    | some closer => exact Or.inl ⟨_, Passes.opener ⟨hkind, hopener⟩⟩
    | none =>
        by_cases hcloser : isCloser t.text = true
        · rcases stack with _ | ⟨⟨opener, expected⟩, below⟩
          · exact Or.inr ⟨⟨hkind, hcloser⟩, fun top below h => nomatch h⟩
          · by_cases hfits : expected = t.text
            · subst hfits
              exact Or.inl ⟨below, Passes.closer ⟨hkind, hcloser⟩⟩
            · refine Or.inr ⟨⟨hkind, hcloser⟩, fun top below h => ?_⟩
              obtain rfl := (List.cons.inj h).1
              exact hfits
        · rw [Bool.not_eq_true] at hcloser
          exact Or.inl ⟨stack, Passes.other (Or.inr ⟨hopener, hcloser⟩)⟩
  · exact Or.inl ⟨stack, Passes.other (Or.inl hkind)⟩

/-- A token that is passed leads to no fault. -/
theorem Passes.faults {stack stack' : List OpenBracket} {t : Token} (h : Passes stack t stack')
    (rest : List Token) : bracketFaultsIn stack (t :: rest) = bracketFaultsIn stack' rest := by
  cases h with
  | other h => exact bracketFaultsIn_other stack rest h
  | opener h => exact bracketFaultsIn_opener stack rest h.1 h.2
  | closer h =>
      rw [bracketFaultsIn_closer _ _ rest h.1 (closerOf?_of_isCloser h.2) h.2]
      exact if_pos rfl

/-- A bracket that does not fit is a fault. -/
theorem Misfits.faults {stack : List OpenBracket} {t : Token} (h : Misfits stack t)
    (rest : List Token) :
    ∃ f stack', f.closer? = some t ∧
      bracketFaultsIn stack (t :: rest) = f :: bracketFaultsIn stack' rest := by
  rcases h with ⟨⟨hkind, hcloser⟩, hmisfits⟩
  have hopener := closerOf?_of_isCloser hcloser
  cases stack with
  | nil => exact ⟨.unexpected t, [], rfl, bracketFaultsIn_unexpected rest hkind hopener hcloser⟩
  | cons top below =>
      refine ⟨.mismatched top.expected t, below, rfl, ?_⟩
      rw [bracketFaultsIn_closer top below rest hkind hopener hcloser]
      exact if_neg (hmisfits top below rfl)

/-- What is expected is never an opening bracket. -/
def Expects (stack : List OpenBracket) : Prop :=
  ∀ s ∈ expectedOf stack, closerOf? s = none

theorem expects_nil : Expects [] :=
  fun _ hs => absurd hs List.not_mem_nil

theorem Passes.expects {stack stack' : List OpenBracket} {t : Token} (h : Passes stack t stack')
    (hexpects : Expects stack) : Expects stack' := by
  cases h with
  | other _ => exact hexpects
  | opener h =>
      intro s hs
      rcases List.mem_cons.mp hs with rfl | hs
      · exact closerOf?_of_isCloser (isCloser_of_closerOf? h.2)
      · exact hexpects s hs
  | closer _ => exact fun s hs => hexpects s (List.mem_cons_of_mem _ hs)

/-- A token that is passed and what closes the stack behind it close the stack in front of it. -/
theorem Passes.closes {stack stack' : List OpenBracket} {t : Token} (h : Passes stack t stack')
    (hexpects : Expects stack) (rest : List Token) (more : List Text) :
    Closes (expectedOf stack) (brackets (t :: rest) ++ more) ↔
      Closes (expectedOf stack') (brackets rest ++ more) := by
  cases h with
  | other h => rw [brackets_cons_other h]
  | opener h =>
      rw [brackets_cons_opener h, List.cons_append, closes_opener h.2 hexpects]
      rfl
  | closer h =>
      rw [brackets_cons_closer h, List.cons_append]
      exact (closes_closer (closerOf?_of_isCloser h.2)).trans (and_iff_right rfl)

/-- Behind a bracket that does not fit there is no way to go on. -/
theorem Misfits.not_closes {stack : List OpenBracket} {t : Token} (h : Misfits stack t)
    (more : List Text) : ¬Closes (expectedOf stack) (t.text :: more) := by
  rcases h with ⟨⟨_, hcloser⟩, hmisfits⟩
  have hopener := closerOf?_of_isCloser hcloser
  cases stack with
  | nil => exact not_closes_nil hopener
  | cons top below =>
      intro hcloses
      exact hmisfits top below rfl ((closes_closer hopener).mp hcloses).1

namespace Passed

variable {stack stack' : List OpenBracket} {tokens : List Token}

theorem faults (h : Passed stack tokens stack') (rest : List Token) :
    bracketFaultsIn stack (tokens ++ rest) = bracketFaultsIn stack' rest := by
  induction h with
  | nil stack => rfl
  | cons hfirst _ ih => rw [List.cons_append, hfirst.faults, ih]

theorem closes (h : Passed stack tokens stack') (hexpects : Expects stack) (more : List Text) :
    Closes (expectedOf stack) (brackets tokens ++ more) ↔ Closes (expectedOf stack') more := by
  induction h with
  | nil stack => exact Iff.rfl
  | cons hfirst _ ih => rw [hfirst.closes hexpects, ih (hfirst.expects hexpects)]

/-- What was passed is well nested exactly if nothing is open. -/
theorem wellNested_iff (h : Passed [] tokens stack') :
    WellNested (brackets tokens) ↔ stack' = [] := by
  have hcloses := h.closes expects_nil []
  rw [List.append_nil, closes_nil_iff] at hcloses
  exact hcloses.trans List.map_eq_nil_iff

/-- What was passed can be continued by closing what is open. -/
theorem continuable (h : Passed [] tokens stack') : Continuable (brackets tokens) :=
  ⟨expectedOf stack', (h.closes expects_nil _).mpr (closes_self _)⟩

/-- What is in front of a token that was passed was passed as well. -/
theorem front {front rest : List Token} (h : Passed stack (front ++ rest) stack') :
    ∃ stack'', Passed stack front stack'' := by
  induction front generalizing stack with
  | nil => exact ⟨stack, nil stack⟩
  | cons t front ih =>
      cases h with
      | cons hfirst hrest =>
          rcases ih hrest with ⟨stack'', hfront⟩
          exact ⟨stack'', cons hfirst hfront⟩

/-- The top of the stack was opened by one of the tokens, with a well-nested word behind it, or it
    was open before, and the tokens have closed what was above it. -/
theorem top_cases (h : Passed stack tokens stack') (hexpects : Expects stack) {top : OpenBracket}
    {below : List OpenBracket} (htop : stack' = top :: below) :
    (∃ front rest, tokens = front ++ top.opener :: rest ∧ top.opener.IsOpener top.expected ∧
        WellNested (brackets rest)) ∨
      ∃ above, stack = above ++ top :: below ∧ Closes (expectedOf above) (brackets tokens) := by
  induction h with
  | nil stack => exact Or.inr ⟨[], htop, WellNested.nil⟩
  | @cons stack _ _ t rest hfirst _ ih =>
      rcases ih (hfirst.expects hexpects) htop with
        ⟨front, tail, rfl, hopener, hnested⟩ | ⟨above, hstack, hcloses⟩
      · exact Or.inl ⟨t :: front, tail, rfl, hopener, hnested⟩
      · -- The bracket was open behind the first token, so what did that one do?
        cases hfirst with
        | other h =>
            refine Or.inr ⟨above, hstack, ?_⟩
            rwa [brackets_cons_other h]
        | @opener _ _ closer h =>
            cases above with
            | nil =>
                obtain ⟨rfl, rfl⟩ := List.cons.inj hstack
                exact Or.inl ⟨[], rest, rfl, h, hcloses⟩
            | cons first above =>
                rw [List.cons_append, List.cons.injEq] at hstack
                rcases hstack with ⟨rfl, rfl⟩
                refine Or.inr ⟨above, rfl, ?_⟩
                have habove : ∀ s ∈ expectedOf above, closerOf? s = none := by
                  intro s hs
                  refine hexpects s ?_
                  rw [expectedOf, List.map_append]
                  exact List.mem_append_left _ hs
                rw [brackets_cons_opener h, closes_opener h.2 habove]
                exact hcloses
        | @closer opener _ _ h =>
            refine Or.inr ⟨⟨opener, t.text⟩ :: above, by rw [hstack]; rfl, ?_⟩
            rw [brackets_cons_closer h]
            exact (closes_closer (closerOf?_of_isCloser h.2)).mpr ⟨rfl, hcloses⟩

end Passed

/-- Tokens are all passed, or there is a first one that is not. -/
theorem passed_or_misfit (stack : List OpenBracket) (tokens : List Token) :
    (∃ stack', Passed stack tokens stack') ∨
      ∃ front t rest stack', tokens = front ++ t :: rest ∧ Passed stack front stack' ∧
        Misfits stack' t := by
  induction tokens generalizing stack with
  | nil => exact Or.inl ⟨stack, Passed.nil stack⟩
  | cons t rest ih =>
      rcases passes_or_misfits stack t with ⟨stack', hfirst⟩ | hmisfits
      · rcases ih stack' with ⟨stack'', hrest⟩ | ⟨front, u, tail, stack'', rfl, hfront, hmisfits⟩
        · exact Or.inl ⟨stack'', Passed.cons hfirst hrest⟩
        · exact Or.inr ⟨t :: front, u, tail, stack'', rfl, Passed.cons hfirst hfront, hmisfits⟩
      · exact Or.inr ⟨[], t, rest, stack, rfl, Passed.nil stack, hmisfits⟩

/-- A closing bracket that makes the word of the brackets up to it one that cannot be continued. -/
def Token.EndsNesting (front : List Token) (t : Token) : Prop :=
  t.IsCloser ∧ ¬Continuable (brackets (front ++ [t]))

/-- A bracket that does not fit what is open ends the nesting. -/
theorem endsNesting_of_misfits {front : List Token} {t : Token} {stack : List OpenBracket}
    (hfront : Passed [] front stack) (h : Misfits stack t) : t.EndsNesting front := by
  refine ⟨h.1, ?_⟩
  rintro ⟨more, hnested⟩
  rw [brackets_append, brackets_cons_closer h.1, List.append_assoc] at hnested
  exact h.not_closes _ ((hfront.closes expects_nil _).mp hnested)

/-- No bracket that was passed ends the nesting. -/
theorem not_endsNesting_of_passed {front rest : List Token} {t : Token} {stack : List OpenBracket}
    (h : Passed [] (front ++ t :: rest) stack) : ¬t.EndsNesting front := by
  rw [← List.singleton_append, ← List.append_assoc] at h
  rcases h.front with ⟨stack', hfront⟩
  exact fun hends => hends.2 hfront.continuable

/-- The first closing bracket that ends the nesting. -/
def Token.IsFirstToEnd (tokens : List Token) (t : Token) : Prop :=
  ∃ front rest, tokens = front ++ t :: rest ∧ t.EndsNesting front ∧
    ∀ front' u rest', front = front' ++ u :: rest' → ¬u.EndsNesting front'

/-- The innermost bracket that is not closed: what is behind it is well nested. -/
def Token.IsLeftOpen (tokens : List Token) (opener : Token) (closer : Text) : Prop :=
  opener.IsOpener closer ∧
    ∃ front rest, tokens = front ++ opener :: rest ∧ WellNested (brackets rest)

/-! ## The brackets of a text -/

/-- A character that is a bracket. -/
def isBracketMark (c : Char) : Bool :=
  (closerOf? [c]).isSome || isCloser [c]

/-- The brackets of a text, in order. -/
def marksOf (s : Text) : List Text :=
  (s.filter isBracketMark).map fun c => [c]

/-- A lexeme whose characters are not looked at. -/
def Lexeme.hidesBrackets (l : Lexeme) : Bool :=
  l.kind = .string ∨ l.kind = .comment

/-- The brackets of a text outside of its strings and comments, in order. -/
def bracketsOutside (s : Text) : List Text :=
  marksOf (uncovered s 0 (((lexemes s).filter Lexeme.hidesBrackets).map Lexeme.span)).flatten

theorem marksOf_append (s t : Text) : marksOf (s ++ t) = marksOf s ++ marksOf t := by
  rw [marksOf, List.filter_append, List.map_append]
  rfl

/-- The six brackets. -/
def bracketMarks : Text :=
  ['\x7b', '\x7d', '(', ')', '[', ']']

theorem mem_of_isBracketMark {c : Char} (h : isBracketMark c = true) : c ∈ bracketMarks := by
  have hbracket : IsBracket [c] := (Bool.or_eq_true _ _).mp h
  rcases hbracket.exists_pair with ⟨_, hpair | hpair⟩ <;> cases hpair <;> decide

/-- A text of characters of a class that leaves out the brackets. -/
theorem marksOf_eq_nil {s : Text} {p : Char → Bool} (hs : ∀ c ∈ s, p c = true)
    (hp : bracketMarks.any p = false) : marksOf s = [] := by
  rw [marksOf, List.map_eq_nil_iff, List.filter_eq_nil_iff]
  intro c hc hmark
  exact List.any_eq_false.mp hp c (mem_of_isBracketMark hmark) (hs c hc)

theorem marksOf_gap {gap : Text} (hgap : ∀ c ∈ gap, isGap c = true) : marksOf gap = [] :=
  marksOf_eq_nil hgap (by decide)

theorem marksOf_number {c : Char} (hdigit : isDigit c = true) (rest : Text) :
    marksOf (c :: rest.take (numberEnd rest)) = [] := by
  rcases numberEnd_eq_length rest with ⟨text, hprefix, hlength, hchars⟩
  have hnumber : ∀ d ∈ c :: text, (isDigit d || d == '.') = true := by
    intro d hd
    rcases List.mem_cons.mp hd with rfl | hd
    · simp [hdigit]
    · rcases hchars d hd with hd | rfl
      · simp [hd]
      · simp
  rw [hlength, ← List.prefix_iff_eq_take.mp hprefix]
  exact marksOf_eq_nil hnumber (by decide)

theorem marksOf_word {c : Char} (hstart : isWordStart c = true) (rest : Text) :
    marksOf (c :: rest.takeWhile isWordChar) = [] := by
  have hword : ∀ d ∈ c :: rest.takeWhile isWordChar, isWordChar d = true := by
    intro d hd
    rcases List.mem_cons.mp hd with rfl | hd
    · exact isWordChar_of_isWordStart hstart
    · exact List.all_eq_true.mp List.all_takeWhile d hd
  exact marksOf_eq_nil hword (by decide)

/-- Every bracket is a punctuation mark. -/
theorem marksOf_stray {c : Char} (hmark : c ∉ punctuationMarks) : marksOf [c] = [] := by
  have hall : bracketMarks ⊆ punctuationMarks := by decide
  have hnone : ¬isBracketMark c = true := fun hbracket =>
    hmark (hall (mem_of_isBracketMark hbracket))
  rw [marksOf, List.filter_cons_of_neg hnone]
  rfl

/-- A mark is a bracket token if it is a bracket. -/
theorem brackets_mark {t : Token} {c : Char} (hkind : t.kind = .punctuation) (htext : t.text = [c]) :
    brackets [t] = marksOf [c] := by
  by_cases hmark : isBracketMark c = true
  · have hmarks : marksOf [c] = [[c]] := by
      rw [marksOf, List.filter_cons_of_pos hmark]
      rfl
    rw [hmarks, ← htext]
    rcases (Bool.or_eq_true _ _).mp hmark with hopener | hcloser
    · rcases Option.isSome_iff_exists.mp hopener with ⟨closer, hopener⟩
      have ht : t.IsOpener closer := ⟨hkind, htext ▸ hopener⟩
      exact brackets_cons_opener ht
    · exact brackets_cons_closer ⟨hkind, htext ▸ hcloser⟩
  · have hmarks : marksOf [c] = [] := by
      rw [marksOf, List.filter_cons_of_neg hmark]
      rfl
    rw [hmarks]
    rw [Bool.not_eq_true, isBracketMark, Bool.or_eq_false_iff, ← htext] at hmark
    refine brackets_cons_other (Or.inr ⟨?_, hmark.2⟩)
    exact Option.not_isSome_iff_eq_none.mp (by rw [hmark.1]; exact Bool.false_ne_true)

/-- Outside of strings and comments, a bracket is a token of its own. -/
theorem brackets_of_reads {c : Char} {rest : Text} {reading : Reading} (h : Reads c rest reading)
    {t : Token} (hkind : t.kind = reading.kind) (htext : t.text = reading.text c rest)
    (hstring : t.kind ≠ .string) (hcomment : t.kind ≠ .comment) :
    brackets [t] = marksOf t.text := by
  cases h with
  | lineComment rest => exact absurd hkind hcomment
  | blockComment hend => exact absurd hkind hcomment
  | openComment hend => exact absurd hkind hcomment
  | closedString hend => exact absurd hkind hstring
  | openString hend => exact absurd hkind hstring
  | number rest hdigit =>
      rw [htext, Reading.text, marksOf_number hdigit]
      exact brackets_cons_other (Or.inl (by rw [hkind]; exact TokenKind.noConfusion))
  | word rest hstart =>
      rw [htext, Reading.text, take_length_takeWhile, marksOf_word hstart]
      refine brackets_cons_other (Or.inl ?_)
      rw [hkind]
      unfold wordKind
      split_ifs <;> exact TokenKind.noConfusion
  | placeholder rest =>
      rw [htext]
      exact brackets_cons_other (Or.inr ⟨by rw [htext]; rfl, by rw [htext]; rfl⟩)
  | mark rest hmark =>
      rw [htext]
      exact brackets_mark hkind htext
  | stray rest hdigit hstart hmark hquote =>
      rw [htext, Reading.text, List.take_zero, marksOf_stray hmark]
      exact brackets_cons_other (Or.inl (by rw [hkind]; exact TokenKind.noConfusion))

/-- A string or a comment is no bracket. -/
theorem brackets_of_hidden {l : Lexeme} (h : l.hidesBrackets = true) :
    brackets [l.toToken] = [] := by
  refine brackets_cons_other (Or.inl ?_)
  rcases of_decide_eq_true h with hkind | hkind
  · exact fun h => TokenKind.noConfusion (hkind.symm.trans h)
  · exact fun h => TokenKind.noConfusion (hkind.symm.trans h)

/-- The stretch in front of a lexeme ends with the gap. -/
theorem stretch_in_front {before : Text} {reached : Nat} (h : reached ≤ before.length)
    (gap behind : Text) :
    ((before ++ gap ++ behind).take (before ++ gap).length).drop reached =
      before.drop reached ++ gap := by
  rw [List.take_left, List.drop_append_of_le_length h]

/-- The brackets of what follows a text, outside of its strings and comments, behind those that
    the text has from an offset on. -/
theorem Lexed.marksOf_uncovered {before s : Text} {lexemes : List Lexeme}
    (h : Lexed before s lexemes) {reached : Nat} (hreached : reached ≤ before.length) :
    marksOf (uncovered (before ++ s) reached
        ((lexemes.filter Lexeme.hidesBrackets).map Lexeme.span)).flatten =
      marksOf (before.drop reached) ++ brackets (lexemes.map Lexeme.toToken) := by
  induction h generalizing reached with
  | @done before gap hgap =>
      have hnone : brackets (([] : List Lexeme).map Lexeme.toToken) = [] := rfl
      rw [List.filter_nil, List.map_nil, uncovered, List.flatten_singleton,
        List.drop_append_of_le_length hreached, marksOf_append, marksOf_gap hgap, hnone]
  | @next before gap rest c lexemes hgap hc hrest ih =>
      let first := Lexeme.behind (before ++ gap) c rest
      let text := (readLexeme c rest).text c rest
      have htokens : brackets ((first :: lexemes).map Lexeme.toToken) =
          brackets [first.toToken] ++ brackets (lexemes.map Lexeme.toToken) := by
        rw [← brackets_append]
        rfl
      have hreached' : reached ≤ (before ++ gap).length := by
        rw [List.length_append]
        omega
      rw [← append_lexeme, htokens]
      by_cases hhides : first.hidesBrackets = true
      · -- The lexeme ends the stretch, and the next one starts behind it.
        have hfront : (((before ++ gap ++ text ++ rest.drop (readLexeme c rest).more).take
            first.offset).drop reached) = before.drop reached ++ gap := by
          rw [List.append_assoc (before ++ gap)]
          exact stretch_in_front hreached gap _
        have hstop : first.stop = (before ++ gap ++ text).length := stop_behind before gap c rest
        have hbehind := ih (Nat.le_of_eq hstop)
        rw [hstop, List.drop_length] at hbehind
        rw [List.filter_cons_of_pos hhides, List.map_cons, Lexeme.span, uncovered, hfront, hstop,
          List.flatten_cons, marksOf_append, marksOf_append, marksOf_gap hgap, hbehind,
          brackets_of_hidden hhides, List.append_nil]
        rfl
      · -- The lexeme belongs to the stretch.
        have hkinds : first.kind ≠ .string ∧ first.kind ≠ .comment := by
          rw [Lexeme.hidesBrackets, decide_eq_true_eq, not_or] at hhides
          exact hhides
        have hfirst : brackets [first.toToken] = marksOf text :=
          brackets_of_reads (reads_readLexeme c rest) rfl rfl hkinds.1 hkinds.2
        have hle : reached ≤ (before ++ gap ++ text).length := by
          rw [List.length_append]
          omega
        rw [List.filter_cons_of_neg hhides, ih hle, hfirst, List.drop_append_of_le_length hreached',
          List.drop_append_of_le_length hreached, marksOf_append, marksOf_append, marksOf_gap hgap,
          List.append_nil, List.append_assoc]

/-- The brackets that are checked are those of the text outside of its strings and comments. -/
theorem brackets_eq_outside (s : Text) : brackets (lexTokens s) = bracketsOutside s :=
  ((lexed_lexemes s).marksOf_uncovered (Nat.zero_le _)).symm

/-! ## What is found -/

section Check

variable {tokens : List Token}

/-- Nothing is found exactly in what is well nested. -/
theorem bracketFaults_eq_nil_iff :
    bracketFaults tokens = [] ↔ WellNested (brackets tokens) := by
  rcases passed_or_misfit [] tokens with
    ⟨stack, hpassed⟩ | ⟨front, t, rest, stack, rfl, hfront, hmisfits⟩
  · have hfaults := hpassed.faults []
    rw [List.append_nil] at hfaults
    rw [hpassed.wellNested_iff, bracketFaults, hfaults]
    cases stack with
    | nil => exact ⟨fun _ => rfl, fun _ => rfl⟩
    | cons top below =>
        exact ⟨fun h => absurd h (List.cons_ne_nil _ _), fun h => absurd h (List.cons_ne_nil _ _)⟩
  · constructor
    · intro hnone
      rcases hmisfits.faults rest with ⟨f, stack', _, hfault⟩
      rw [bracketFaults, hfront.faults, hfault] at hnone
      exact absurd hnone (List.cons_ne_nil _ _)
    · intro hnested
      -- What is behind the bracket would be a way to go on.
      refine absurd ⟨brackets rest, ?_⟩ (endsNesting_of_misfits hfront hmisfits).2
      rwa [← brackets_append, List.append_assoc]

/-- If some closing bracket ends the nesting, the first one that does is reported first. -/
theorem exists_first_fault
    (h : ∃ front t rest, tokens = front ++ t :: rest ∧ Token.EndsNesting front t) :
    ∃ t, Token.IsFirstToEnd tokens t ∧ ∃ f more, bracketFaults tokens = f :: more ∧
      f.closer? = some t := by
  rcases passed_or_misfit [] tokens with
    ⟨stack, hpassed⟩ | ⟨front, t, rest, stack, rfl, hfront, hmisfits⟩
  · rcases h with ⟨front, t, rest, rfl, hends⟩
    exact absurd hends (not_endsNesting_of_passed hpassed)
  · rcases hmisfits.faults rest with ⟨f, stack', hcloser, hfault⟩
    refine ⟨t, ⟨front, rest, rfl, endsNesting_of_misfits hfront hmisfits, ?_⟩, f,
      bracketFaultsIn stack' rest, ?_, hcloser⟩
    · rintro front' u rest' rfl
      exact not_endsNesting_of_passed hfront
    · rw [bracketFaults, hfront.faults, hfault]

/-- If none does, the innermost bracket that is not closed is all that is reported. -/
theorem exists_only_fault (hnested : ¬WellNested (brackets tokens))
    (hnone : ¬∃ front t rest, tokens = front ++ t :: rest ∧ Token.EndsNesting front t) :
    ∃ opener closer, Token.IsLeftOpen tokens opener closer ∧
      bracketFaults tokens = [.unclosed closer opener] := by
  rcases passed_or_misfit [] tokens with
    ⟨stack, hpassed⟩ | ⟨front, t, rest, stack, heq, hfront, hmisfits⟩
  · have hfaults := hpassed.faults []
    rw [List.append_nil] at hfaults
    rw [hpassed.wellNested_iff] at hnested
    rcases List.exists_cons_of_ne_nil hnested with ⟨top, below, rfl⟩
    rcases hpassed.top_cases expects_nil rfl with
      ⟨front, rest, heq, hopener, hbehind⟩ | ⟨above, habove, _⟩
    · exact ⟨top.opener, top.expected, ⟨hopener, front, rest, heq, hbehind⟩, hfaults⟩
    · -- Nothing is open at the start.
      exact absurd habove.symm (by simp)
  · exact absurd ⟨front, t, rest, heq, endsNesting_of_misfits hfront hmisfits⟩ hnone

end Check

/-- A bracket that is not closed is reported at the end of the text, and the message tells where
    the bracket is, counted from one. -/
theorem toMessage_unclosed (source origin : Text) (plain : Bool) (closer : Text) (opener : Token) :
    (BracketFault.unclosed closer opener).toMessage source origin plain =
      ⟨some errorKind,
        .text (presented plain .red ("Expected '".toList ++ closer ++
          "' before end of input to close '".toList ++ opener.text ++ "' at ".toList ++
          Text.ofNat (opener.start.line + 1) ++ [':'] ++ Text.ofNat (opener.start.column + 1))),
        some ⟨.int ((positionOf source source.length).1 + 1),
          .int ((positionOf source source.length).2 + 1), some .null, some .null,
          .text origin⟩⟩ := by
  have hline : (placeOf source source.length).line = (positionOf source source.length).1 := rfl
  have hcolumn : ((placeOf source source.length).column : Int) =
      (positionOf source source.length).2 := by
    change ((positionOf source source.length).2.toNat : Int) = _
    rw [positionOf_end, Int.toNat_natCast]
  have hmessage : (BracketFault.unclosed closer opener).message =
      "Expected '".toList ++ closer ++ "' before end of input to close '".toList ++ opener.text ++
        "' at ".toList ++ Text.ofNat (opener.start.line + 1) ++ [':'] ++
        Text.ofNat (opener.start.column + 1) := rfl
  rw [BracketFault.toMessage, BracketFault.location, serviceLocation, hline, hcolumn, hmessage]

/-- What the bracket check finds. It finds nothing exactly if the brackets of the tokens are a
    well-nested word. Otherwise, if some closing bracket makes the word of the brackets up to it
    one that cannot be continued to a well-nested one, the first message is at the first such
    bracket; and if there is none, the only message is at the end of the text and names the
    innermost bracket that is not closed, with its place. So the local service succeeds exactly
    for the texts without faulty lexemes whose brackets, outside of strings and comments, are
    well nested. -/
theorem brackets_are_checked (tokens : List Token) (source origin : Text) (plain : Bool) :
    let messages := (bracketFaults tokens).map (BracketFault.toMessage source origin plain)
    let ending := positionOf source source.length
    (messages = [] ↔ WellNested (brackets tokens)) ∧
    ((∃ front t rest, tokens = front ++ t :: rest ∧ Token.EndsNesting front t) →
      ∃ t : Token, Token.IsFirstToEnd tokens t ∧ ∃ raw more, messages = raw :: more ∧
        raw.location = some (serviceLocation t.start t.offset t.endOffset origin)) ∧
    (¬WellNested (brackets tokens) →
      (¬∃ front t rest, tokens = front ++ t :: rest ∧ Token.EndsNesting front t) →
      ∃ opener closer, Token.IsLeftOpen tokens opener closer ∧
        messages = [⟨some errorKind,
          .text (presented plain .red ("Expected '".toList ++ closer ++
            "' before end of input to close '".toList ++ opener.text ++ "' at ".toList ++
            Text.ofNat (opener.start.line + 1) ++ [':'] ++
            Text.ofNat (opener.start.column + 1))),
          some ⟨.int (ending.1 + 1), .int (ending.2 + 1), some .null, some .null,
            .text origin⟩⟩]) ∧
    ∃ result, localService.validate source origin plain = .ok result ∧
      (result.succeeded = true ↔ lexErrors source = [] ∧ WellNested (bracketsOutside source)) := by
  intro messages ending
  refine ⟨?_, fun h => ?_, fun hnested hnone => ?_, localMessages source origin plain, rfl, ?_⟩
  · exact List.map_eq_nil_iff.trans bracketFaults_eq_nil_iff
  · rcases exists_first_fault h with ⟨t, ht, f, more, hfaults, hcloser⟩
    refine ⟨t, ht, f.toMessage source origin plain,
      more.map (BracketFault.toMessage source origin plain), ?_, ?_⟩
    · simp only [messages, hfaults, List.map_cons]
    · exact congrArg some (BracketFault.location_of_closer hcloser source origin)
  · rcases exists_only_fault hnested hnone with ⟨opener, closer, hopen, hfaults⟩
    refine ⟨opener, closer, hopen, ?_⟩
    simp only [messages, hfaults, List.map_cons, List.map_nil]
    rw [toMessage_unclosed]
  · rw [succeeded_iff, bracketFaults_eq_nil_iff, brackets_eq_outside]

end RiddlEditor
