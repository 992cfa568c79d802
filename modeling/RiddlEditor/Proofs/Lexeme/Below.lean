import RiddlEditor.Proofs.Lexeme.Cover
import RiddlEditor.Proofs.Lexeme.FirstLine

/-!
# Texts below each other

When a text is put below another one, both keep their lexemes. Those of the upper text stay
where they are, and those of the lower text move down, by as many lines and characters as
there are above them. So what is read above never has to be read again when something is
changed below.

It takes two things. A lexeme of the upper text does not see the line feed behind it
(`readLexeme_append_break`), unless it is a comment that is not closed; that one would swallow
the lower text. And the cursor behind a line feed has no column, so the lines below count
their columns as if nothing were above them (`position_behind_append`).

## Main definitions

* `Position.below`, `Lexeme.below`, `Token.below`, `LexError.below`: Something that stands
  below a text.

## Theorems

* `Lexed.append_feed`: The lexemes of two texts, one below the other.
* `Lexed.put_below`: What stands below a text is read as if it stood alone.
* `lexemes_below`: The lexemes of two texts.
* `closed_iff`: The comments of a text are closed, by its errors and by its lexemes.
* `tokens_and_errors_below`: The tokens and the errors of two texts.
-/

namespace RiddlEditor

/-- A position in a text that stands below some lines. -/
def Position.below (lines : Nat) (p : Position) : Position :=
  ⟨p.line + lines, p.column⟩

/-- A lexeme of a text that stands below some lines, with so many characters in front of
    it. -/
def Lexeme.below (lines characters : Nat) (l : Lexeme) : Lexeme :=
  { l with
    start := l.start.below lines
    offset := l.offset + characters }

/-- A fault of a text that stands below some lines. -/
def LexError.below (lines characters : Nat) (e : LexError) : LexError where
  fault := e.fault
  start := e.start.below lines
  offset := e.offset + characters
  stop := e.stop + characters

/-- An offset so many characters further on. What is no offset stays as it is. -/
def Value.further (characters : Nat) : Value → Value
  | .int n => .int (n + characters)
  | v => v

/-- A token of a text that stands below some lines. -/
def Token.below (lines characters : Nat) (t : Token) : Token where
  text := t.text
  kind := t.kind
  start := t.start.below lines
  offset := t.offset.further characters
  endOffset := t.endOffset.further characters

theorem stop_below (lines characters : Nat) (l : Lexeme) :
    (l.below lines characters).stop = l.stop + characters :=
  Nat.add_right_comm l.offset characters l.text.length

theorem toToken_below (lines characters : Nat) (l : Lexeme) :
    (l.below lines characters).toToken = l.toToken.below lines characters := by
  have hstop : ((l.below lines characters).stop : Int) = (l.stop : Int) + characters := by
    rw [stop_below]
    exact Int.natCast_add _ _
  have hoffset : ((l.below lines characters).offset : Int) = (l.offset : Int) + characters :=
    Int.natCast_add _ _
  simp only [Lexeme.toToken, Token.below, Value.further, hstop, hoffset]
  rfl

section Feed

variable (upper : Text)

theorem lastLine_feed : lastLine (upper ++ ['\n']) = [] := by
  rw [← List.length_eq_zero_iff, length_lastLine, List.reverse_concat,
    List.takeWhile_cons_of_neg (by decide)]
  rfl

theorem unsplit_feed (s : Text) : Unsplit (upper ++ ['\n']) s := by
  refine Unsplit.of_getLast ?_
  rw [List.getLast?_concat]
  decide

/-- Below a line feed the cursor counts lines further, and columns from the start. -/
theorem position_behind_append (s : Text) :
    (Cursor.behind (upper ++ ['\n'] ++ s)).position =
      (Cursor.behind s).position.below ((upper ++ ['\n']).lines.length - 1) := by
  have hunsplit := unsplit_feed upper s
  have hlines := length_lines_append hunsplit
  have hpos := List.length_pos_iff.mpr (lines_ne_nil s)
  have hupper := List.length_pos_iff.mpr (lines_ne_nil (upper ++ ['\n']))
  have hlast : lastLine (upper ++ ['\n'] ++ s) = lastLine s := by
    by_cases hbroken : Unbroken s
    · -- The only line of the text is all that is behind the line feed.
      rw [lastLine_append_unbroken _ hbroken, lastLine_feed, List.nil_append, lastLine,
        lines_of_unbroken hbroken]
      rfl
    · exact lastLine_append_broken hunsplit hbroken
  rw [Cursor.position_behind, Cursor.position_behind, hlast, Position.below, Position.mk.injEq]
  refine ⟨?_, rfl⟩
  simp only
  omega

end Feed

/-- What stands below a text is read as if it stood alone. -/
theorem Lexed.put_below {before s : Text} {lexemes : List Lexeme} (h : Lexed before s lexemes)
    (upper : Text) :
    Lexed (upper ++ ['\n'] ++ before) s
      (lexemes.map (Lexeme.below ((upper ++ ['\n']).lines.length - 1) (upper.length + 1))) := by
  induction h with
  | done hgap => exact Lexed.done hgap
  | @next before gap rest c lexemes hgap hc hrest ih =>
      have hlexeme : Lexeme.behind (upper ++ ['\n'] ++ before ++ gap) c rest =
          (Lexeme.behind (before ++ gap) c rest).below ((upper ++ ['\n']).lines.length - 1)
            (upper.length + 1) := by
        have hlength : (upper ++ ['\n'] ++ (before ++ gap)).length =
            (before ++ gap).length + (upper.length + 1) := by
          rw [List.length_append, List.length_append, List.length_singleton, Nat.add_comm]
        rw [List.append_assoc (upper ++ ['\n']), Lexeme.behind, position_behind_append, hlength]
        rfl
      rw [List.map_cons, ← hlexeme]
      refine Lexed.next hgap hc ?_
      rwa [← List.append_assoc, ← List.append_assoc] at ih

/-- A gap in front of a gap is a longer gap. -/
theorem Lexed.gap_append {before gap s : Text} {lexemes : List Lexeme}
    (hgap : ∀ c ∈ gap, isGap c = true) (h : Lexed (before ++ gap) s lexemes) :
    Lexed before (gap ++ s) lexemes := by
  have hmore : ∀ {more : Text}, (∀ c ∈ more, isGap c = true) → ∀ c ∈ gap ++ more, isGap c = true :=
    fun hmore c hc => (List.mem_append.mp hc).elim (hgap c) (hmore c)
  cases h with
  | done hrest => exact Lexed.done (hmore hrest)
  | @next _ more rest c lexemes hrest hc hnext =>
      rw [← List.append_assoc]
      rw [List.append_assoc before] at hnext ⊢
      exact Lexed.next (hmore hrest) hc hnext

/-- A lexeme does not see the line feed behind its text. -/
theorem behind_append_feed (before : Text) {c : Char} {rest : Text}
    (h : (Lexeme.behind before c rest).fault ≠ some .unterminatedComment) (below : Text) :
    Lexeme.behind before c (rest ++ '\n' :: below) = Lexeme.behind before c rest := by
  have hread : readLexeme c (rest ++ '\n' :: below) = readLexeme c rest :=
    readLexeme_append_break h (by decide) below
  have hmore := (reads_readLexeme c rest).more_le_length
  rw [Lexeme.behind, Lexeme.behind, hread, Reading.text, Reading.text,
    List.take_append_of_le_length hmore]

/-- The lexemes of two texts, one below the other: those of the upper text, if all its
    comments are closed, and those that are behind it. -/
theorem Lexed.append_feed {before s below : Text} {lexemes more : List Lexeme}
    (h : Lexed before s lexemes)
    (hclosed : ∀ l ∈ lexemes, l.fault ≠ some .unterminatedComment)
    (hbelow : Lexed (before ++ s ++ ['\n']) below more) :
    Lexed before (s ++ '\n' :: below) (lexemes ++ more) := by
  induction h with
  | @done before gap hgap =>
      have hall : ∀ c ∈ gap ++ ['\n'], isGap c = true := by
        intro c hc
        rcases List.mem_append.mp hc with hc | hc
        · exact hgap c hc
        · rw [List.mem_singleton.mp hc]
          decide
      rw [List.append_assoc] at hbelow
      have hlonger := Lexed.gap_append hall hbelow
      rwa [List.append_assoc, List.singleton_append] at hlonger
  | @next before gap rest c lexemes hgap hc hrest ih =>
      have hfirst := hclosed _ List.mem_cons_self
      have hlexeme := behind_append_feed (before ++ gap) hfirst below
      have hread : readLexeme c (rest ++ '\n' :: below) = readLexeme c rest :=
        readLexeme_append_break hfirst (by decide) below
      have hmore := (reads_readLexeme c rest).more_le_length
      rw [← append_lexeme] at hbelow
      have hnext := ih (fun l hl => hclosed l (List.mem_cons_of_mem _ hl)) hbelow
      rw [List.cons_append, ← hlexeme, List.append_assoc, List.cons_append]
      refine Lexed.next hgap hc ?_
      rw [hread, Reading.text, List.take_append_of_le_length hmore,
        List.drop_append_of_le_length hmore]
      exact hnext

section Below

variable {upper : Text} (hclosed : ∀ l ∈ lexemes upper, l.fault ≠ some .unterminatedComment)
include hclosed

/-- The lexemes of two texts, one below the other. -/
theorem lexemes_below (lower : Text) :
    lexemes (upper ++ '\n' :: lower) =
      lexemes upper ++ (lexemes lower).map
        (Lexeme.below ((upper ++ ['\n']).lines.length - 1) (upper.length + 1)) := by
  have hlower := (lexed_lexemes lower).put_below upper
  rw [List.append_nil] at hlower
  exact ((lexed_lexemes upper).append_feed hclosed hlower).eq_lexemes.symm

end Below

theorem located?_below (lines characters : Nat) (l : Lexeme) :
    (l.below lines characters).located? =
      l.located?.map (LexError.below lines characters) := by
  rw [Lexeme.located?, Lexeme.located?, stop_below, Option.map_map]
  rfl

/-- A text whose comments are all closed, by its errors and by its lexemes. -/
theorem closed_iff (s : Text) :
    (∀ e ∈ lexErrors s, e.fault ≠ .unterminatedComment) ↔
      ∀ l ∈ lexemes s, l.fault ≠ some .unterminatedComment := by
  rw [lexErrors_eq]
  constructor
  · intro h l hl hfault
    have hlocated : l.located? = some ⟨.unterminatedComment, l.start, l.offset, l.stop⟩ := by
      rw [Lexeme.located?, hfault, Option.map_some]
    exact h _ (List.mem_filterMap.mpr ⟨l, hl, hlocated⟩) rfl
  · intro h e he
    rcases List.mem_filterMap.mp he with ⟨l, hl, hlocated⟩
    rcases Option.map_eq_some_iff.mp hlocated with ⟨fault, hfault, rfl⟩
    exact fun heq => h l hl (hfault.trans (congrArg some heq))

/-- The tokens and the errors of two texts, one below the other. If the upper text leaves no
    block comment open, its tokens and errors stay as they are, and behind them come those of
    the lower text, moved down by the line breaks and the characters in front of it. -/
theorem tokens_and_errors_below (upper lower : Text)
    (hclosed : ∀ e ∈ lexErrors upper, e.fault ≠ .unterminatedComment) :
    let lines := (Lines.ofText (upper ++ ['\n'])).count - 1
    let characters := upper.length + 1
    lexTokens (upper ++ ['\n'] ++ lower) =
      lexTokens upper ++ (lexTokens lower).map (Token.below lines characters) ∧
    lexErrors (upper ++ ['\n'] ++ lower) =
      lexErrors upper ++ (lexErrors lower).map (LexError.below lines characters) := by
  intro lines characters
  have hlexemes := lexemes_below ((closed_iff upper).mp hclosed) lower
  rw [List.append_assoc, List.singleton_append]
  constructor
  · have htokens : (Lexeme.toToken ∘ Lexeme.below lines characters) =
        Token.below lines characters ∘ Lexeme.toToken :=
      funext (toToken_below lines characters)
    rw [lexTokens, hlexemes, List.map_append, List.map_map]
    change _ ++ (lexemes lower).map (Lexeme.toToken ∘ Lexeme.below lines characters) = _
    rw [htokens, ← List.map_map]
    rfl
  · have herrors : (Lexeme.located? ∘ Lexeme.below lines characters) =
        fun l => l.located?.map (LexError.below lines characters) :=
      funext (located?_below lines characters)
    rw [lexErrors_eq, hlexemes, List.filterMap_append, List.filterMap_map]
    change _ ++ (lexemes lower).filterMap (Lexeme.located? ∘ Lexeme.below lines characters) = _
    rw [herrors, ← List.map_filterMap, ← lexErrors_eq, ← lexErrors_eq]

/-- An upper text with a string that is not closed: behind its last backslash there is a
    carriage return, which makes a pair with the line feed. The lower text is on the next line,
    seven characters further on. -/
theorem tokens_and_errors_below_open_string :
    let upper := "/ \"a\\\r".toList
    let lower := "?/$".toList
    (∀ e ∈ lexErrors upper, e.fault ≠ .unterminatedComment) ∧
    lexTokens (upper ++ ['\n'] ++ lower) =
      lexTokens upper ++ (lexTokens lower).map (Token.below 1 7) ∧
    lexErrors (upper ++ ['\n'] ++ lower) =
      [⟨.unterminatedString, ⟨0, 2⟩, 2, 5⟩, ⟨.unexpectedCharacter '$', ⟨1, 2⟩, 9, 10⟩] := by
  intro upper lower
  have hclosed : ∀ e ∈ lexErrors upper, e.fault ≠ .unterminatedComment := by decide +kernel
  have hbelow := tokens_and_errors_below upper lower hclosed
  refine ⟨hclosed, hbelow.1, ?_⟩
  rw [hbelow.2]
  decide +kernel

end RiddlEditor
