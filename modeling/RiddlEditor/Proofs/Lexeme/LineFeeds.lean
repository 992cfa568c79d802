import RiddlEditor.Proofs.Lexeme.Cover
import RiddlEditor.Proofs.Lexeme.FirstLine
import RiddlEditor.Proofs.Text.LineFeeds

/-!
# Lexemes and line endings

When the line breaks of a text are written as line feeds, the text is cut into the same
lexemes. Each of them keeps its kind, its fault and its position; only offsets move, and only
the text of a comment over several lines is written anew.

Most lexemes depend on the rest of their line alone (`readLexeme_congr`), which stays. A block
comment is looked through for its end mark, and there a pair counts as two characters and a
line feed as one, so what stays is not the number of characters that a lexeme has but the text
that it goes over (`readLexeme_withLineFeeds`). The cursor counts lines, and columns from the
last break, and both stay.

## Main definitions

* `Lexeme.withLineFeeds`, `Token.withLineFeeds`, `LexError.withLineFeeds`: Something of a text
  when the text is written with line feeds.

## Theorems

* `commentEnd?_withLineFeeds`: A block comment ends with the same end mark.
* `readLexeme_withLineFeeds`: A lexeme goes over the same text.
* `Lexed.withLineFeeds`, `lexemes_withLineFeeds`: The lexemes of a text.
* `lexTokens_withLineFeeds`, `lexErrors_withLineFeeds`: Its tokens and errors.
-/

namespace RiddlEditor

/-! ## One lexeme -/

/-- A block comment ends with the same end mark. -/
theorem commentEnd?_withLineFeeds (rest : Text) :
    commentEnd? rest.withLineFeeds = (commentEnd? rest).map rest.movedOffset := by
  induction rest using breakInduction with
  | nil => rfl
  | pair rest ih =>
      rw [withLineFeeds_pair, commentEnd?_cons (by simp), commentEnd?_cons (by simp),
        commentEnd?_cons (by simp), ih, Option.map_map, Option.map_map, Option.map_map]
      exact Option.map_congr fun n _ => (movedOffset_pair rest n).symm
  | single c rest hbreak hpair ih =>
      have hmark : ¬(c = '*' ∧ rest.head? = some '/') := by
        rintro ⟨rfl, _⟩
        exact absurd hbreak (by decide)
      rw [withLineFeeds_single hbreak hpair, commentEnd?_cons (by simp), commentEnd?_cons hmark, ih,
        Option.map_map, Option.map_map]
      exact Option.map_congr fun n _ => (movedOffset_cons hpair n).symm
  | other c rest hbreak ih =>
      -- The first line stays, so the character is in front of a slash in both texts or in none.
      have hslash : rest.withLineFeeds.head? = some '/' ↔ rest.head? = some '/' := by
        rw [← head?_firstLine (by decide), firstLine_withLineFeeds, head?_firstLine (by decide)]
      rw [withLineFeeds_other hbreak]
      by_cases hmark : c = '*' ∧ rest.head? = some '/'
      · rcases hmark with ⟨rfl, hhead⟩
        rcases List.head?_eq_some_iff.mp hhead with ⟨tail, rfl⟩
        rw [withLineFeeds_other (by decide), commentEnd?, commentEnd?, if_pos ⟨rfl, rfl⟩,
          if_pos ⟨rfl, rfl⟩]
        rfl
      · have hmark' : ¬(c = '*' ∧ rest.withLineFeeds.head? = some '/') := fun hc =>
          hmark ⟨hc.1, hslash.mp hc.2⟩
        rw [commentEnd?_cons hmark', commentEnd?_cons hmark, ih, Option.map_map, Option.map_map]
        exact Option.map_congr fun n _ =>
          (movedOffset_cons (not_pair_of_other rest hbreak) n).symm

/-- Only a block comment may go over several lines. -/
theorem Reads.single_line {c : Char} {rest : Text} {reading : Reading}
    (h : Reads c rest reading) (hopen : ¬OpensComment c rest) : reading.multiline = false := by
  cases h with
  | blockComment hend => exact absurd ⟨rfl, rfl⟩ hopen
  | openComment hend => exact absurd ⟨rfl, rfl⟩ hopen
  | _ => rfl

/-- A lexeme goes over the same text. -/
theorem readLexeme_withLineFeeds {c : Char} {rest : Text} (hc : isGap c = false) :
    readLexeme c rest.withLineFeeds =
      { readLexeme c rest with more := rest.movedOffset (readLexeme c rest).more } := by
  by_cases hopen : OpensComment c rest
  · rcases hopen with ⟨rfl, hhead⟩
    rcases List.head?_eq_some_iff.mp hhead with ⟨rest, rfl⟩
    have hbreak : isLineBreak '*' = false := by decide
    have hstar := movedOffset_cons (not_pair_of_other rest hbreak)
    rw [withLineFeeds_other (by decide), readLexeme_comment, readLexeme_comment,
      commentEnd?_withLineFeeds]
    cases commentEnd? rest with
    | some n => simp only [Option.map_some, hstar]
    | none => simp only [Option.map_none, hstar, movedOffset_length]
  · -- The lexeme is on one line, and the line stays.
    have hreads := reads_readLexeme c rest
    have hunbroken : Unbroken (rest.take (readLexeme c rest).more) :=
      (unbroken_of_single_line hreads hc (hreads.single_line hopen)).tail
    have hmore : rest.movedOffset (readLexeme c rest).more = (readLexeme c rest).more := by
      rw [Text.movedOffset, withLineFeeds_of_unbroken hunbroken,
        List.length_take_of_le hreads.more_le_length]
    rw [hmore, ← readLexeme_congr hopen (firstLine_withLineFeeds rest).symm]

/-- The text is parted behind a lexeme in the same way. -/
theorem withLineFeeds_cut {c : Char} (rest : Text) (hc : isGap c = false) :
    rest.withLineFeeds = Text.withLineFeeds (rest.take (readLexeme c rest).more) ++
      Text.withLineFeeds (rest.drop (readLexeme c rest).more) := by
  have hunsplit := unsplit_behind_lexeme (reads_readLexeme c rest) hc []
  rw [← withLineFeeds_append hunsplit.tail, List.take_append_drop]

theorem text_withLineFeeds {c : Char} (rest : Text) (hc : isGap c = false) :
    (readLexeme c rest.withLineFeeds).text c rest.withLineFeeds =
      ((readLexeme c rest).text c rest).withLineFeeds := by
  rw [readLexeme_withLineFeeds hc, Reading.text, Reading.text,
    withLineFeeds_other (isLineBreak_of_isGap hc)]
  refine congrArg (c :: ·) ?_
  conv_lhs => rw [withLineFeeds_cut rest hc]
  exact List.take_left

theorem drop_withLineFeeds {c : Char} (rest : Text) (hc : isGap c = false) :
    rest.withLineFeeds.drop (readLexeme c rest.withLineFeeds).more =
      Text.withLineFeeds (rest.drop (readLexeme c rest).more) := by
  rw [readLexeme_withLineFeeds hc]
  conv_lhs => rw [withLineFeeds_cut rest hc]
  exact List.drop_left

/-- What is in front of a lexeme, and the lexeme. -/
theorem withLineFeeds_append_lexeme (front : Text) {c : Char} (rest : Text) (hc : isGap c = false) :
    (front ++ (readLexeme c rest).text c rest).withLineFeeds =
      front.withLineFeeds ++ ((readLexeme c rest).text c rest).withLineFeeds :=
  withLineFeeds_append (unsplit_of_not_gap front _ hc)

/-! ## All lexemes -/

/-- A lexeme of a text when the text is written with line feeds. -/
def Lexeme.withLineFeeds (source : Text) (l : Lexeme) : Lexeme :=
  { l with
    text := l.text.withLineFeeds
    offset := source.movedOffset l.offset }

/-- The position behind a text stays. -/
theorem Cursor.position_withLineFeeds (before : Text) :
    (Cursor.behind before.withLineFeeds).position = (Cursor.behind before).position := by
  rw [Cursor.position_behind, Cursor.position_behind, lines_withLineFeeds, lastLine_withLineFeeds]

theorem Lexeme.behind_withLineFeeds (before : Text) {c : Char} (rest : Text)
    (hc : isGap c = false) :
    Lexeme.behind before.withLineFeeds c rest.withLineFeeds =
      (Lexeme.behind before c rest).withLineFeeds (before ++ c :: rest) := by
  have htext := text_withLineFeeds rest hc
  rw [Lexeme.behind, Lexeme.behind, Lexeme.withLineFeeds, htext, movedOffset_append,
    Cursor.position_withLineFeeds, readLexeme_withLineFeeds hc]

/-- A gap stays a gap. -/
theorem isGap_withLineFeeds {gap : Text} (h : ∀ c ∈ gap, isGap c = true) :
    ∀ c ∈ gap.withLineFeeds, isGap c = true := by
  have hfeed : isGap '\n' = true := by decide
  induction gap using breakInduction with
  | nil => exact h
  | pair rest ih =>
      rw [withLineFeeds_pair]
      exact List.forall_mem_cons.mpr ⟨hfeed, ih fun c hc =>
        h c (List.mem_cons_of_mem _ (List.mem_cons_of_mem _ hc))⟩
  | single c rest hbreak hpair ih =>
      rw [withLineFeeds_single hbreak hpair]
      exact List.forall_mem_cons.mpr ⟨hfeed, ih (List.forall_mem_cons.mp h).2⟩
  | other c rest hbreak ih =>
      rw [withLineFeeds_other hbreak]
      have hall := List.forall_mem_cons.mp h
      exact List.forall_mem_cons.mpr ⟨hall.1, ih hall.2⟩

/-- The lexemes of what follows a text. -/
theorem Lexed.withLineFeeds {before s : Text} {lexemes : List Lexeme} (h : Lexed before s lexemes)
    (hunsplit : Unsplit before s) :
    Lexed before.withLineFeeds s.withLineFeeds
      (lexemes.map (Lexeme.withLineFeeds (before ++ s))) := by
  induction h with
  | done hgap => exact Lexed.done (isGap_withLineFeeds hgap)
  | @next before gap rest c lexemes hgap hc hrest ih =>
      have hborder := unsplit_behind_lexeme (reads_readLexeme c rest) hc (before ++ gap)
      have hfront : (before ++ gap).withLineFeeds = before.withLineFeeds ++ gap.withLineFeeds :=
        withLineFeeds_append (hunsplit.of_prefix (List.prefix_append gap (c :: rest)))
      have hnext := ih hborder
      rw [append_lexeme, withLineFeeds_append_lexeme _ _ hc, ← text_withLineFeeds rest hc,
        ← drop_withLineFeeds rest hc, hfront] at hnext
      have hlexeme := Lexeme.behind_withLineFeeds (before ++ gap) rest hc
      rw [hfront, List.append_assoc] at hlexeme
      rw [withLineFeeds_append (unsplit_of_not_gap gap rest hc),
        withLineFeeds_other (isLineBreak_of_isGap hc), List.map_cons, ← hlexeme]
      exact Lexed.next (isGap_withLineFeeds hgap) hc hnext

/-- The lexemes of a text. -/
theorem lexemes_withLineFeeds (s : Text) :
    lexemes s.withLineFeeds = (lexemes s).map (Lexeme.withLineFeeds s) :=
  ((lexed_lexemes s).withLineFeeds (Unsplit.of_getLast (by decide))).eq_lexemes.symm

/-! ## Tokens and errors -/

/-- Where an offset of a text, as it is reported, is when the text is written with line feeds.
    What is no offset stays as it is. -/
def Value.moved (source : Text) : Value → Value
  | .int n => .int (source.movedOffset n.toNat)
  | v => v

/-- A token of a text when the text is written with line feeds. -/
def Token.withLineFeeds (source : Text) (t : Token) : Token where
  text := t.text.withLineFeeds
  kind := t.kind
  start := t.start
  offset := t.offset.moved source
  endOffset := t.endOffset.moved source

/-- An error of a text when the text is written with line feeds. -/
def LexError.withLineFeeds (source : Text) (e : LexError) : LexError where
  fault := e.fault
  start := e.start
  offset := source.movedOffset e.offset
  stop := source.movedOffset e.stop

/-- The end of a lexeme moves like its start. -/
theorem stop_withLineFeeds {s : Text} {l : Lexeme} (h : l ∈ lexemes s) :
    (l.withLineFeeds s).stop = s.movedOffset l.stop := by
  rcases split_of_mem_lexemes h with ⟨front, c, rest, rfl, hc, rfl⟩
  have htext := Reading.isPrefix_text (readLexeme c rest) c rest
  rcases htext with ⟨tail, htail⟩
  have hcut : front ++ c :: rest = front ++ (readLexeme c rest).text c rest ++ tail := by
    rw [List.append_assoc, htail]
  have hstop : (Lexeme.behind front c rest).stop =
      (front ++ (readLexeme c rest).text c rest).length := by
    rw [List.length_append]
    rfl
  rw [hstop]
  conv_rhs => rw [hcut, movedOffset_append, withLineFeeds_append_lexeme _ _ hc]
  rw [List.length_append]
  refine congrArg (· + _) ?_
  exact movedOffset_append front (c :: rest)

theorem toToken_withLineFeeds {s : Text} {l : Lexeme} (h : l ∈ lexemes s) :
    (l.withLineFeeds s).toToken = l.toToken.withLineFeeds s := by
  rw [Lexeme.toToken, stop_withLineFeeds h]
  rfl

theorem located?_withLineFeeds {s : Text} {l : Lexeme} (h : l ∈ lexemes s) :
    (l.withLineFeeds s).located? = l.located?.map (LexError.withLineFeeds s) := by
  rw [Lexeme.located?, Lexeme.located?, stop_withLineFeeds h, Option.map_map]
  rfl

/-- The tokens of a text. -/
theorem lexTokens_withLineFeeds (s : Text) :
    lexTokens s.withLineFeeds = (lexTokens s).map (Token.withLineFeeds s) := by
  rw [lexTokens, lexTokens, lexemes_withLineFeeds, List.map_map, List.map_map]
  exact List.map_congr_left fun l hl => toToken_withLineFeeds hl

/-- The errors of a text. -/
theorem lexErrors_withLineFeeds (s : Text) :
    lexErrors s.withLineFeeds = (lexErrors s).map (LexError.withLineFeeds s) := by
  rw [lexErrors_eq, lexErrors_eq, lexemes_withLineFeeds, List.filterMap_map, List.map_filterMap]
  exact List.filterMap_congr fun l hl => located?_withLineFeeds hl

end RiddlEditor
