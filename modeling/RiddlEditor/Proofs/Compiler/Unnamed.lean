import RiddlEditor.Proofs.Compiler.Brackets
import RiddlEditor.Proofs.Compiler.Naming
import RiddlEditor.Lexeme.Basic

/-!
# Messages about lexemes and brackets name nothing

These messages have quotes too. What they quote is a single character, and it may be any
character, a quote or a letter among them. No name is found in them all the same, since a name is
looked for behind a category word and a blank, and the words in front of these quotes are no
category words.

Reading such a message goes word by word: a word that is no category word is passed with the
blank behind it (`quotedNamesFrom_phrase`), and so is a single character in quotes
(`quotedNamesFrom_quoted`). Where no more quotes come, there are no more names.

## Main definitions

* `IsPlainWord`: A word that is no category word.
* `phrase`: Words with a blank behind each of them.

## Theorems

* `quotedNameAt?_of_plain`, `quotedNameAt?_of_quote`: Where no name is found.
* `quotedNamesFrom_phrase`: Plain words are passed.
* `quotedNamesFrom_quoted`: A single character in quotes is passed.
* `Fault.names_nothing`, `BracketFault.names_nothing`: No message about a lexeme or a bracket
  names anything.
-/

namespace RiddlEditor

/-- A word that is not empty and no category word, whatever the case of its letters. -/
def IsPlainWord (word : Text) : Prop :=
  word ≠ [] ∧ word.all isWordChar = true ∧
    ∀ category ∈ categoryWords, afterWord? category word ≠ some []

instance (word : Text) : Decidable (IsPlainWord word) :=
  inferInstanceAs (Decidable (_ ∧ _ ∧ _))

/-- Words with a blank behind each of them. -/
def phrase : List Text → Text
  | [] => []
  | word :: words => word ++ ' ' :: phrase words

/-! ## Where no name is found -/

section Passing

variable {front behind rest : Text}

/-- No letter of a category word counts for a quote, and there are at least two of them. -/
theorem not_foldsTo_quote {category : Text} {letter : Char} (hcategory : category ∈ categoryWords)
    (hletter : letter ∈ category) : foldsTo letter '\'' = false := by
  have hall : categoryWords.all (·.all (!foldsTo · '\'')) = true := by decide +kernel
  have hletters := List.all_eq_true.mp hall category hcategory
  exact (Bool.not_eq_true' _).mp (List.all_eq_true.mp hletters letter hletter)

theorem two_le_length_of_category : ∀ category ∈ categoryWords, 2 ≤ category.length := by
  decide +kernel

/-- No name is found where a plain word starts. -/
theorem quotedNameAt?_of_plain {word : Text} (h : IsPlainWord word) (behind : Text) :
    quotedNameAt? (word ++ ' ' :: behind) = none := by
  refine quotedNameAt?_eq_none_iff.mpr ?_
  rintro name rest ⟨category, hcategory, letters, blanks, hsplit, hfolds, hnonempty, hblanks, -⟩
  rcases List.exists_cons_of_ne_nil hnonempty with ⟨blank, blanks, rfl⟩
  have hword : ∀ c ∈ word, (!isBlank c) = true := by
    intro c hc
    rw [isBlank_eq_false_of_isWordChar (List.all_eq_true.mp h.2.1 c hc), Bool.not_false]
  -- Both end with the first blank, so the category word would be the whole word.
  have hletters := (cut_iff.mpr ⟨hsplit, not_isBlank_of_folds hcategory hfolds,
    congrArg not (hblanks blank List.mem_cons_self)⟩).1
  have hspace : (!isBlank ' ') = false := by decide
  obtain rfl := (cut_iff.mpr ⟨rfl, hword, hspace⟩).1.symm.trans hletters
  exact h.2.2 category hcategory
    (afterWord?_eq_some_iff.mpr ⟨word, (List.append_nil word).symm, hfolds⟩)

/-- No name is found where a quote is among the first two characters. -/
theorem quotedNameAt?_of_quote (front : Text) (hfront : front.length < 2) (behind : Text) :
    quotedNameAt? (front ++ '\'' :: behind) = none := by
  refine quotedNameAt?_eq_none_iff.mpr ?_
  rintro name rest ⟨category, hcategory, letters, blanks, hsplit, hfolds, -⟩
  have hlength := two_le_length_of_category category hcategory
  rw [hfolds.length_eq] at hlength
  -- The quote would be one of the letters.
  have hquote : (front ++ '\'' :: behind)[front.length]? = some '\'' := by
    rw [List.getElem?_append_right (Nat.le_refl _), Nat.sub_self]
    rfl
  rw [hsplit, List.getElem?_append_left (by omega)] at hquote
  rcases exists_letter hfolds (List.mem_of_getElem? hquote) with ⟨letter, hletter, hfold⟩
  exact Bool.false_ne_true ((not_foldsTo_quote hcategory hletter).symm.trans hfold)

/-- What is left of a word is passed, and with it the blank behind the word. -/
theorem quotedNamesFrom_inWord {word : Text} (hword : ∀ c ∈ word, isWordChar c = true)
    (behind : Text) :
    quotedNamesFrom true (word ++ ' ' :: behind) = quotedNamesFrom false behind := by
  induction word with
  | nil => exact quotedNamesFrom_cons true (fun h => absurd h.symm Bool.false_ne_true)
  | cons c word ih =>
      have hstep : quotedNamesFrom true (c :: (word ++ ' ' :: behind)) = _ :=
        quotedNamesFrom_cons true (fun h => absurd h.symm Bool.false_ne_true)
      rw [List.cons_append, hstep, hword c List.mem_cons_self]
      exact ih fun d hd => hword d (List.mem_cons_of_mem c hd)

/-- A plain word is passed with the blank behind it. -/
theorem quotedNamesFrom_word {word : Text} (h : IsPlainWord word) (behind : Text) :
    quotedNamesFrom false (word ++ ' ' :: behind) = quotedNamesFrom false behind := by
  have hnone := quotedNameAt?_of_plain h behind
  have hword := List.all_eq_true.mp h.2.1
  rcases List.exists_cons_of_ne_nil h.1 with ⟨c, tail, rfl⟩
  rw [List.cons_append] at hnone ⊢
  rw [quotedNamesFrom_cons false fun _ => hnone, hword c List.mem_cons_self]
  exact quotedNamesFrom_inWord (fun d hd => hword d (List.mem_cons_of_mem c hd)) behind

/-- Plain words are passed, one after the other. -/
theorem quotedNamesFrom_phrase {words : List Text} (h : ∀ word ∈ words, IsPlainWord word)
    (behind : Text) :
    quotedNamesFrom false (phrase words ++ behind) = quotedNamesFrom false behind := by
  induction words with
  | nil => rfl
  | cons word words ih =>
      rw [phrase, List.append_assoc, List.cons_append]
      refine (quotedNamesFrom_word (h word List.mem_cons_self) _).trans ?_
      exact ih fun other hother => h other (List.mem_cons_of_mem word hother)

/-- A blank is passed. -/
theorem quotedNamesFrom_blank (behind : Text) :
    quotedNamesFrom false (' ' :: behind) = quotedNamesFrom false behind := by
  refine quotedNamesFrom_cons false fun _ => quotedNameAt?_eq_none_iff.mpr ?_
  rintro name rest ⟨category, hcategory, letters, blanks, hsplit, hfolds, -⟩
  have hlength := two_le_length_of_category category hcategory
  rw [hfolds.length_eq] at hlength
  cases letters with
  | nil => exact absurd hlength (by decide)
  | cons c letters =>
      -- The blank would be the first letter.
      obtain rfl := (List.cons.inj hsplit).1
      exact absurd (not_isBlank_of_folds hcategory hfolds ' ' List.mem_cons_self) (by decide)

/-- A quote is passed. -/
theorem quotedNamesFrom_quote (inWord : Bool) (behind : Text) :
    quotedNamesFrom inWord ('\'' :: behind) = quotedNamesFrom false behind :=
  quotedNamesFrom_cons inWord fun _ => quotedNameAt?_of_quote [] (by decide) behind

/-- A single character in quotes is passed, whatever it is. -/
theorem quotedNamesFrom_quoted (c : Char) (behind : Text) :
    quotedNamesFrom false ('\'' :: c :: '\'' :: behind) = quotedNamesFrom false behind := by
  have hnone : quotedNameAt? (c :: '\'' :: behind) = none :=
    quotedNameAt?_of_quote [c] Nat.one_lt_two behind
  rw [quotedNamesFrom_quote, quotedNamesFrom_cons false fun _ => hnone, quotedNamesFrom_quote]

/-- Plain words and a single character in quotes behind them are passed. -/
theorem quotedNamesFrom_phrase_quoted {words : List Text} (h : ∀ word ∈ words, IsPlainWord word)
    (c : Char) (behind : Text) :
    quotedNamesFrom false (phrase words ++ '\'' :: c :: '\'' :: behind) =
      quotedNamesFrom false behind := by
  rw [quotedNamesFrom_phrase h, quotedNamesFrom_quoted]

/-- Where there is no quote, there is no name. -/
theorem quotedNamesFrom_of_not_mem {s : Text} (h : '\'' ∉ s) (inWord : Bool) :
    quotedNamesFrom inWord s = [] := by
  induction s generalizing inWord with
  | nil => rw [quotedNamesFrom]
  | cons c rest ih =>
      refine (quotedNamesFrom_cons inWord fun _ => ?_).trans
        (ih (fun hmem => h (List.mem_cons_of_mem c hmem)) _)
      refine quotedNameAt?_eq_none_iff.mpr ?_
      rintro name tail ⟨category, _, letters, blanks, hsplit, -⟩
      rw [hsplit] at h
      exact h (List.mem_append_right letters (List.mem_append_right blanks List.mem_cons_self))

end Passing

/-! ## The messages -/

/-- A message about a lexeme names nothing. -/
theorem Fault.names_nothing (f : Fault) : quotedNames f.message = [] := by
  unfold quotedNames
  cases f with
  | unexpectedCharacter c =>
      have hmessage : (Fault.unexpectedCharacter c).message =
          phrase ["Unexpected".toList, "character".toList] ++ ['\'', c, '\''] := by
        change "Unexpected character '".toList ++ [c, '\''] = _
        simp [phrase]
      rw [hmessage, quotedNamesFrom_phrase_quoted (by decide +kernel), quotedNamesFrom]
  | unterminatedComment => exact quotedNamesFrom_of_not_mem (by decide) false
  | unterminatedString => exact quotedNamesFrom_of_not_mem (by decide) false

/-- A bracket is a single character. -/
theorem IsBracket.exists_char {s : Text} (h : IsBracket s) : ∃ c, s = [c] := by
  rcases h.exists_pair with ⟨_, hpair | hpair⟩ <;> cases hpair <;> exact ⟨_, rfl⟩

/-- A message about a bracket names nothing. -/
theorem BracketFault.names_nothing {tokens : List Token} {f : BracketFault}
    (h : f ∈ bracketFaults tokens) : quotedNames f.message = [] := by
  have hbracket : ∀ s, f.Quotes s → ∃ c, s = [c] := fun s hs =>
    (bracket_of_quotes (by simp) h hs).exists_char
  unfold quotedNames
  cases f with
  | unexpected closer =>
      rcases hbracket closer.text rfl with ⟨c, hc⟩
      have hmessage : (BracketFault.unexpected closer).message =
          phrase ["Unexpected".toList] ++ ['\'', c, '\''] := by
        change "Unexpected '".toList ++ closer.text ++ ['\''] = _
        simp [hc, phrase]
      rw [hmessage, quotedNamesFrom_phrase_quoted (by decide +kernel), quotedNamesFrom]
  | mismatched expected closer =>
      rcases hbracket expected (Or.inl rfl) with ⟨c, rfl⟩
      rcases hbracket closer.text (Or.inr rfl) with ⟨d, hd⟩
      have hmessage : (BracketFault.mismatched [c] closer).message =
          phrase ["Expected".toList] ++ '\'' :: c :: '\'' :: ' ' ::
            (phrase ["but".toList, "found".toList] ++ ['\'', d, '\'']) := by
        change "Expected '".toList ++ [c] ++ "' but found '".toList ++ closer.text ++ ['\''] = _
        simp [hd, phrase]
      rw [hmessage, quotedNamesFrom_phrase_quoted (by decide +kernel), quotedNamesFrom_blank,
        quotedNamesFrom_phrase_quoted (by decide +kernel), quotedNamesFrom]
  | unclosed expected opener =>
      rcases hbracket expected (Or.inl rfl) with ⟨c, rfl⟩
      rcases hbracket opener.text (Or.inr rfl) with ⟨d, hd⟩
      let place := " at ".toList ++ Text.ofNat (opener.start.line + 1) ++ [':'] ++
        Text.ofNat (opener.start.column + 1)
      have hmessage : (BracketFault.unclosed [c] opener).message =
          phrase ["Expected".toList] ++ '\'' :: c :: '\'' :: ' ' ::
            (phrase ["before".toList, "end".toList, "of".toList, "input".toList, "to".toList,
              "close".toList] ++ '\'' :: d :: '\'' :: place) := by
        change "Expected '".toList ++ [c] ++ "' before end of input to close '".toList ++
          opener.text ++ "' at ".toList ++ Text.ofNat (opener.start.line + 1) ++ [':'] ++
          Text.ofNat (opener.start.column + 1) = _
        simp [hd, phrase, place]
      -- Behind the quotes there is only the place of the bracket.
      have hplace : '\'' ∉ place := by
        have hquote : '\''.isDigit = false := by decide
        have hline := Text.not_mem_ofNat hquote (opener.start.line + 1)
        have hcolumn := Text.not_mem_ofNat hquote (opener.start.column + 1)
        simp only [place, List.mem_append, not_or]
        exact ⟨⟨⟨by decide, hline⟩, by decide⟩, hcolumn⟩
      rw [hmessage, quotedNamesFrom_phrase_quoted (by decide +kernel), quotedNamesFrom_blank,
        quotedNamesFrom_phrase_quoted (by decide +kernel),
        quotedNamesFrom_of_not_mem hplace]

end RiddlEditor
