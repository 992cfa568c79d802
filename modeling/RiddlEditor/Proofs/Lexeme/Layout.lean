import RiddlEditor.Proofs.Lexeme.Below
import RiddlEditor.Proofs.Lexeme.IllFormed

/-!
# Tokens below each other

A text can be written anew with its tokens alone, one below the other. No token is lost and none
is read differently, although what stood next to it is gone: what a lexeme is depends on its own
text, and what is behind it only decides where that text ends.

`readLexeme_alone` says so for one lexeme. It needs a reason for each form, since each form ends
in its own way: a number ends where no longer number fits, a string literal with its quote or its
line, a block comment with its end mark. The line feed that is put behind a lexeme is no part of
any of them (`readLexeme_append_break`), except for a block comment that is never closed, and that
one has nothing behind it (`Reads.drop_of_open`).

## Main definitions

* `canonicalLayout`: The tokens of a text, one below the other.
* `Lexeme.content`: What a lexeme is, apart from its place.

## Theorems

* `numberEnd_take`, `commentEnd?_take`: A number and a comment, cut off behind their ends.
* `readLexeme_alone`: A lexeme is read from its own text.
* `readLexeme_above`: So it is if something stands below it.
* `Lexed.stacked`: The lexemes of texts that stand below each other.
* `lexemes_canonicalLayout`: The lexemes of the canonical layout.
* `canonicalLayout_idem`: The canonical layout of a canonical layout is the same text.
* `canonicalLayout_keeps_tokens`: The tokens and the errors of the canonical layout.
-/

namespace RiddlEditor

/-! ## One lexeme -/

/-- The longest text of a class is the longest one in itself. -/
theorem IsLongest.alone {p : Text → Prop} {s text : Text} (h : IsLongest p s text) :
    IsLongest p text text where
  mem := h.mem
  front := List.prefix_rfl
  longest := fun _ _ hother => hother.length_le

/-- A number ends with its text if nothing stands behind it. -/
theorem numberEnd_take (rest : Text) : numberEnd (rest.take (numberEnd rest)) = numberEnd rest := by
  have hdigit : isDigit '0' = true := by decide
  -- There are as many characters as the number goes on for.
  have hlength (s : Text) : (s.take (numberEnd s)).length = numberEnd s :=
    List.length_take_of_le (Reads.number s hdigit).more_le_length
  -- Behind any digit, the longest number is the same with and without what follows it.
  have halone := (isLongest_number hdigit rest).alone
  have hsame := halone.unique (isLongest_number hdigit (rest.take (numberEnd rest)))
  have htail := congrArg List.length (List.cons.inj hsame).2
  rw [hlength, hlength] at htail
  exact htail.symm

/-- A closed comment ends with its text if nothing stands behind it. -/
theorem commentEnd?_take {rest : Text} {n : Nat} (h : commentEnd? rest = some n) :
    commentEnd? (rest.take n) = some n := by
  rcases commentEnd?_eq_some_iff.mp h with ⟨body, tail, rfl, hfirst, rfl⟩
  refine commentEnd?_eq_some_iff.mpr ⟨body, [], ?_, hfirst, rfl⟩
  rw [List.take_length_add_append, List.append_nil]
  rfl

theorem firstLine_idem (s : Text) : firstLine (firstLine s) = firstLine s :=
  firstLine_of_unbroken (unbroken_firstLine s)

/-- How a line comment is read. -/
theorem readLexeme_lineComment (rest : Text) :
    readLexeme '/' ('/' :: rest) = ⟨.comment, (firstLine rest).length + 1, none, false⟩ := by
  rw [readLexeme, if_pos ⟨rfl, rfl⟩, ← firstLine, firstLine_other (by decide), List.length_cons]

/-- A lexeme that is no comment is read from its own text. -/
theorem readLexeme_alone_of_not_comment {c : Char} {rest : Text}
    (hline : ¬(c = '/' ∧ rest.head? = some '/')) (hopen : ¬(c = '/' ∧ rest.head? = some '*')) :
    readLexeme c (rest.take (readLexeme c rest).more) = readLexeme c rest := by
  -- No comment starts when there is less of the text, either.
  have hhead {d : Char} {n : Nat} (h : (rest.take n).head? = some d) : rest.head? = some d := by
    rw [List.head?_take] at h
    split at h
    case isTrue => exact nomatch h
    case isFalse => exact h
  have hline' (n : Nat) : ¬(c = '/' ∧ (rest.take n).head? = some '/') :=
    fun h => hline ⟨h.1, hhead h.2⟩
  have hopen' (n : Nat) : ¬(c = '/' ∧ (rest.take n).head? = some '*') :=
    fun h => hopen ⟨h.1, hhead h.2⟩
  unfold readLexeme
  simp only [if_neg hline, if_neg hopen, if_neg (hline' _), if_neg (hopen' _)]
  by_cases hquote : c = '"'
  · simp only [if_pos hquote, stringEnd_take]
  · simp only [if_neg hquote]
    by_cases hdigit : isDigit c = true
    · simp only [if_pos hdigit, numberEnd_take]
    · simp only [if_neg hdigit]
      by_cases hstart : isWordStart c = true
      · simp only [if_pos hstart, take_length_takeWhile, List.takeWhile_idem]
      · simp only [if_neg hstart]
        by_cases hholder : c = '?' ∧ rest.take 2 = ['?', '?']
        · have hmarks : c = '?' ∧ (rest.take 2).take 2 = ['?', '?'] := by
            rw [hholder.2]
            exact ⟨hholder.1, rfl⟩
          simp only [if_pos hholder, if_pos hmarks]
        · -- What is left are single characters, and nothing is behind these.
          have hnothing : ¬(c = '?' ∧ (rest.take 0).take 2 = ['?', '?']) := fun h => nomatch h.2
          by_cases hmark : punctuationMarks.contains c = true
          · simp only [if_neg hholder, if_pos hmark, if_neg hnothing]
          · simp only [if_neg hholder, if_neg hmark, if_neg hnothing]

/-- A lexeme is read from its own text. -/
theorem readLexeme_alone (c : Char) (rest : Text) :
    readLexeme c (rest.take (readLexeme c rest).more) = readLexeme c rest := by
  by_cases hline : c = '/' ∧ rest.head? = some '/'
  · rcases hline with ⟨rfl, hslash⟩
    rcases List.head?_eq_some_iff.mp hslash with ⟨tail, rfl⟩
    have hfirst : tail.take (firstLine tail).length = firstLine tail :=
      take_length_takeWhile _ tail
    rw [readLexeme_lineComment, List.take_succ_cons, hfirst, readLexeme_lineComment, firstLine_idem]
  · by_cases hopen : c = '/' ∧ rest.head? = some '*'
    · rcases hopen with ⟨rfl, hstar⟩
      rcases List.head?_eq_some_iff.mp hstar with ⟨tail, rfl⟩
      rw [readLexeme_comment]
      cases hend : commentEnd? tail with
      | none =>
          -- The whole text belongs to the comment.
          simp only
          rw [List.take_succ_cons, List.take_length, readLexeme_comment, hend]
      | some n =>
          simp only
          rw [List.take_succ_cons, readLexeme_comment, commentEnd?_take hend]
    · exact readLexeme_alone_of_not_comment hline hopen

/-- A lexeme is read from its own text if something stands below it, unless it is a comment that
    is not closed. -/
theorem readLexeme_above {c : Char} {rest : Text}
    (h : (readLexeme c rest).fault ≠ some .unterminatedComment) (below : Text) :
    readLexeme c (rest.take (readLexeme c rest).more ++ '\n' :: below) = readLexeme c rest := by
  have halone := readLexeme_alone c rest
  rw [readLexeme_append_break (by rwa [halone]) (by decide), halone]

/-- Nothing is behind a comment that is not closed. -/
theorem Reads.drop_of_open {c : Char} {rest : Text} {reading : Reading} (h : Reads c rest reading)
    (hfault : reading.fault = some .unterminatedComment) : rest.drop reading.more = [] := by
  cases h with
  | openComment hend => exact List.drop_length (l := '*' :: _)
  | _ => exact nomatch hfault

/-! ## All lexemes -/

/-- What a lexeme is, apart from its place. -/
def Lexeme.content (l : Lexeme) : Text × TokenKind × Option Fault :=
  (l.text, l.kind, l.fault)

theorem Lexed.eq_nil {before : Text} {lexemes : List Lexeme} (h : Lexed before [] lexemes) :
    lexemes = [] := by
  generalize hs : ([] : Text) = s at h
  cases h with
  | done hgap => rfl
  | next hgap hc hrest => exact absurd hs.symm (List.append_ne_nil_of_right_ne_nil _ (by simp))

/-- A lexeme at another place, with something else behind it. -/
theorem Lexed.next_again (front : Text) {more rest : Text} {c : Char} {again : List Lexeme}
    (hc : isGap c = false)
    (hread : readLexeme c (rest.take (readLexeme c rest).more ++ more) = readLexeme c rest)
    (hmore : Lexed (front ++ (readLexeme c rest).text c rest) more again) :
    ∃ l, Lexed front ((readLexeme c rest).text c rest ++ more) (l :: again) ∧
      ∀ before, l.content = (Lexeme.behind before c rest).content := by
  let tail := rest.take (readLexeme c rest).more
  have hlength : tail.length = (readLexeme c rest).more :=
    List.length_take_of_le (reads_readLexeme c rest).more_le_length
  -- What is read of the new text is the lexeme, and what is left is the rest of the text.
  have htext : (readLexeme c (tail ++ more)).text c (tail ++ more) =
      (readLexeme c rest).text c rest := by
    rw [hread, Reading.text, ← hlength, List.take_left]
    rfl
  have hdrop : (tail ++ more).drop (readLexeme c (tail ++ more)).more = more := by
    rw [hread, ← hlength, List.drop_left]
  refine ⟨Lexeme.behind front c (tail ++ more), ?_, fun before => ?_⟩
  · have hgap : ∀ d ∈ ([] : Text), isGap d = true := fun _ hd => absurd hd List.not_mem_nil
    have hbehind : Lexed (front ++ [] ++ (readLexeme c (tail ++ more)).text c (tail ++ more))
        ((tail ++ more).drop (readLexeme c (tail ++ more)).more) again := by
      rw [htext, hdrop, List.append_nil]
      exact hmore
    have hnext := Lexed.next hgap hc hbehind
    rwa [List.append_nil] at hnext
  · unfold Lexeme.content Lexeme.behind
    simp only [htext]
    rw [hread]

/-- The lexemes of texts that stand below each other. -/
theorem Lexed.stacked {before s : Text} {lexemes : List Lexeme} (h : Lexed before s lexemes)
    (front : Text) :
    ∃ again, Lexed front (['\n'].intercalate (lexemes.map Lexeme.text)) again ∧
      again.map Lexeme.content = lexemes.map Lexeme.content := by
  induction h generalizing front with
  | done => exact ⟨[], Lexed.done fun _ hd => absurd hd List.not_mem_nil, rfl⟩
  | @next before gap rest c lexemes hgap hc hrest ih =>
      let text := (readLexeme c rest).text c rest
      cases lexemes with
      | nil =>
          -- The last lexeme has nothing behind it.
          have hread := readLexeme_alone c rest
          rw [← List.append_nil (rest.take _)] at hread
          rcases Lexed.next_again front hc hread
            (Lexed.done fun _ hd => absurd hd List.not_mem_nil) with ⟨l, hlexed, hcontent⟩
          refine ⟨[l], ?_, congrArg (· :: []) (hcontent _)⟩
          rw [List.append_nil] at hlexed
          rw [List.map_singleton, List.intercalate_singleton]
          exact hlexed
      | cons l' lexemes =>
          -- The comment is closed, since there is a lexeme behind it.
          have hclosed : (readLexeme c rest).fault ≠ some .unterminatedComment := by
            intro hfault
            rw [(reads_readLexeme c rest).drop_of_open hfault] at hrest
            exact absurd hrest.eq_nil (List.cons_ne_nil l' lexemes)
          have hfeed : ∀ d ∈ ['\n'], isGap d = true := List.forall_mem_singleton.mpr (by decide)
          rcases ih (front ++ text ++ ['\n']) with ⟨again, hagain, hsame⟩
          have hmore := Lexed.gap_append hfeed hagain
          rcases Lexed.next_again front hc (readLexeme_above hclosed _) hmore with
            ⟨l, hlexed, hcontent⟩
          refine ⟨l :: again, ?_, congrArg₂ List.cons (hcontent _) hsame⟩
          rw [List.map_cons, List.map_cons, List.intercalate_cons_cons, List.append_assoc]
          exact hlexed

/-- The tokens of a text, one below the other. -/
def canonicalLayout (s : Text) : Text :=
  ['\n'].intercalate ((lexTokens s).map Token.text)

theorem canonicalLayout_eq (s : Text) :
    canonicalLayout s = ['\n'].intercalate ((lexemes s).map Lexeme.text) :=
  congrArg _ List.map_map

/-- The lexemes of the canonical layout are those of the text. -/
theorem lexemes_canonicalLayout (s : Text) :
    (lexemes (canonicalLayout s)).map Lexeme.content = (lexemes s).map Lexeme.content := by
  rcases (lexed_lexemes s).stacked [] with ⟨again, hagain, hsame⟩
  rw [canonicalLayout_eq, ← hagain.eq_lexemes, hsame]

/-- The canonical layout of a canonical layout is the same text. -/
theorem canonicalLayout_idem (s : Text) :
    canonicalLayout (canonicalLayout s) = canonicalLayout s := by
  have htexts := congrArg (List.map Prod.fst) (lexemes_canonicalLayout s)
  rw [List.map_map, List.map_map] at htexts
  calc canonicalLayout (canonicalLayout s)
      = ['\n'].intercalate ((lexemes (canonicalLayout s)).map Lexeme.text) := canonicalLayout_eq _
    _ = ['\n'].intercalate ((lexemes s).map Lexeme.text) := congrArg _ htexts
    _ = canonicalLayout s := (canonicalLayout_eq s).symm

/-- What a token is, apart from its place. -/
def Token.content (t : Token) : Text × TokenKind :=
  (t.text, t.kind)

/-- When the tokens of a text are written one below the other, they are read again: the same
    texts with the same kinds, and the same errors. -/
theorem canonicalLayout_keeps_tokens (s : Text) :
    (lexTokens (canonicalLayout s)).map Token.content = (lexTokens s).map Token.content ∧
    (lexErrors (canonicalLayout s)).map LexError.message = (lexErrors s).map LexError.message := by
  have hsame := lexemes_canonicalLayout s
  constructor
  · have hcontents := congrArg (List.map fun content => (content.1, content.2.1)) hsame
    rw [List.map_map, List.map_map] at hcontents
    rw [lexTokens, lexTokens, List.map_map, List.map_map]
    exact hcontents
  · -- The wording of an error is that of the fault, wherever it is.
    have hmessages (lexemes : List Lexeme) :
        (lexemes.filterMap Lexeme.located?).map LexError.message =
          (lexemes.map Lexeme.content).filterMap fun content => content.2.2.map Fault.message := by
      rw [List.map_filterMap, List.filterMap_map]
      refine List.filterMap_congr fun l _ => ?_
      rw [Lexeme.located?, Option.map_map]
      rfl
    rw [lexErrors_eq, lexErrors_eq, hmessages, hmessages, hsame]

-- Marks that could have made one lexeme stay apart, and an open string stays open.
example : canonicalLayout "?? 1.x\"a\\".toList = "?\n?\n1\n.\nx\n\"a\\".toList := by
  decide +kernel

end RiddlEditor
