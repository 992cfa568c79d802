import Mathlib.Data.List.Basic
import Mathlib.Data.List.TakeWhile
import RiddlEditor.Proofs.Lexeme.Reading
import RiddlEditor.Proofs.Text.Place
import RiddlEditor.Proofs.Text.Stretch

/-!
# The places of lexemes

The cursor keeps the line and the column while the text goes by. Behind any text that does
not end in the middle of a line break it stands where counting from the start would put it
(`Cursor.through_behind`), and every lexeme ends and every gap ends at such a place. So a
lexeme is where `positionOf` says that its offset is.

`Lexed` tells what the lexemes of a text are without a cursor: a gap, a lexeme with
everything that belongs to it, and the same again behind it. The facts about all lexemes
of a text are inductions over it.

## Main definitions

* `Cursor.behind`: Where the cursor is when a text has gone by.
* `Lexeme.behind`: The lexeme that starts behind a text.
* `Lexed`: The lexemes of what follows a text.
* `Lexeme.located?`: The fault of a lexeme in the place of the lexeme.

## Theorems

* `Cursor.through_behind`: Going through a text leads behind it.
* `lexed_lexemes`: The lexemes of a text are read one behind the other.
* `Lexed.eq_lexFrom`: A text has one list of lexemes.
* `Lexed.split`: Where a lexeme cuts its text.
* `Lexed.pairwise`: A lexeme starts where those in front of it have ended.
* `start_eq_placeOf`, `offsetOf_start`: The position of a lexeme and its offset.
* `lexErrors_eq`: The faults of a text are those of its lexemes, in their places.
* `lexemes_pairwise`, `eq_of_offset_eq`: The offset of a lexeme tells it apart.
* `lexeme_places`: The three ways to find a position agree.
-/

namespace RiddlEditor

/-- Where the cursor is when a text has gone by. -/
def Cursor.behind (before : Text) : Cursor :=
  ⟨before.length, before.lines.length - 1, before.length - (lastLine before).length⟩

theorem Cursor.position_behind (before : Text) :
    (Cursor.behind before).position = ⟨before.lines.length - 1, (lastLine before).length⟩ := by
  have hle := length_lastLine_le before
  rw [Cursor.position, Cursor.behind, Nat.sub_sub_self hle]

/-- Going on over a text without line breaks. -/
theorem Cursor.skip_behind (before : Text) {text : Text} (h : Unbroken text) :
    (Cursor.behind before).skip text.length = Cursor.behind (before ++ text) := by
  have hlines := length_lines_append (h.unsplit before)
  rw [lines_of_unbroken h, List.length_singleton] at hlines
  have hle := length_lastLine_le before
  rw [Cursor.skip, Cursor.behind, Cursor.behind, lastLine_append_unbroken before h,
    List.length_append, List.length_append, Nat.add_sub_add_right, Nat.succ.inj hlines]

/-- Going on over a line break. -/
theorem Cursor.breakLine_behind {before lineBreak : Text} (h : Unsplit before lineBreak)
    (hbreak : lineBreak.lines = [[], []]) :
    (Cursor.behind before).breakLine lineBreak.length = Cursor.behind (before ++ lineBreak) := by
  have hlines := length_lines_append h
  -- Nothing of the line break is left for the new line.
  have hbroken : ¬Unbroken lineBreak := fun hc => by
    have htail := (tail_lines_eq_nil lineBreak).mpr hc
    rw [hbreak] at htail
    exact absurd htail (by decide)
  have hpos := List.length_pos_iff.mpr (lines_ne_nil before)
  have hlast : lastLine (before ++ lineBreak) = [] := by
    rw [lastLine_append_broken h hbroken, lastLine, hbreak]
    rfl
  rw [hbreak] at hlines
  simp only [List.length_cons, List.length_nil] at hlines
  rw [Cursor.breakLine, Cursor.behind, Cursor.behind, hlast, List.length_append,
    List.length_nil, Nat.sub_zero, Cursor.mk.injEq]
  refine ⟨rfl, ?_, rfl⟩
  simp only
  omega

theorem Cursor.through_single (cursor : Cursor) {c : Char} {rest : Text}
    (hbreak : isLineBreak c = true) (hpair : ¬(c = '\r' ∧ rest.head? = some '\n')) :
    cursor.through (c :: rest) = (cursor.breakLine 1).through rest := by
  rw [Cursor.through, if_pos hbreak]
  exact pair_absurd hpair

theorem Cursor.through_other (cursor : Cursor) {c : Char} {rest : Text}
    (hbreak : isLineBreak c = false) :
    cursor.through (c :: rest) = (cursor.skip 1).through rest := by
  rw [Cursor.through, if_neg (Bool.not_eq_true _ ▸ hbreak)]
  exact pair_absurd (not_pair_of_other rest hbreak)

/-- Going through a text leads behind it. -/
theorem Cursor.through_behind {before text : Text} (h : Unsplit before text) :
    (Cursor.behind before).through text = Cursor.behind (before ++ text) := by
  -- The text in front grows by one break or one character at a time.
  induction text using breakInduction generalizing before with
  | nil => rw [Cursor.through, List.append_nil]
  | pair rest ih =>
      have hpair : Unsplit before ['\r', '\n'] := Unsplit.of_head (by decide)
      have hrest : Unsplit (before ++ ['\r', '\n']) rest := by
        refine Unsplit.of_getLast ?_
        rw [List.getLast?_append]
        simp
      have hstep : (Cursor.behind before).breakLine 2 = _ :=
        Cursor.breakLine_behind hpair (by decide)
      rw [Cursor.through, hstep, ih hrest, List.append_assoc]
      rfl
  | single c rest hbreak hpair ih =>
      have hunsplit : Unsplit before [c] := fun hc => h ⟨hc.1, hc.2⟩
      have hrest : Unsplit (before ++ [c]) rest := by
        refine fun hc => hpair ⟨?_, hc.2⟩
        rw [List.getLast?_concat, Option.some.injEq] at hc
        exact hc.1
      have hlines : Text.lines [c] = [[], []] := lines_single hbreak (fun hc => nomatch hc.2)
      have hstep : (Cursor.behind before).breakLine 1 = _ :=
        Cursor.breakLine_behind hunsplit hlines
      rw [Cursor.through_single _ hbreak hpair, hstep, ih hrest, List.append_assoc]
      rfl
  | other c rest hbreak ih =>
      have hone : Unbroken [c] := unbroken_nil.cons hbreak
      have hstep : (Cursor.behind before).skip 1 = _ := Cursor.skip_behind before hone
      have hrest := hone.unsplit_append (List.cons_ne_nil c []) before rest
      rw [Cursor.through_other _ hbreak, hstep, ih hrest, List.append_assoc]
      rfl

/-- Passing a lexeme leads behind it. -/
theorem Cursor.past_behind {before : Text} {c : Char} {rest : Text} (hgap : isGap c = false) :
    (Cursor.behind before).past (readLexeme c rest) ((readLexeme c rest).text c rest) =
      Cursor.behind (before ++ (readLexeme c rest).text c rest) := by
  by_cases hline : (readLexeme c rest).multiline = true
  · -- The cursor goes through the lexeme as it goes through a gap.
    have hborder : Unsplit before ((readLexeme c rest).text c rest) :=
      unsplit_of_not_gap before _ hgap
    rw [Cursor.past, if_pos hline, Cursor.through_behind hborder]
  · -- The cursor does not look, and there is nothing to be seen.
    have hunbroken := unbroken_of_single_line (reads_readLexeme c rest) hgap
      (Bool.not_eq_true _ ▸ hline)
    rw [Cursor.past, if_neg hline, Cursor.skip_behind before hunbroken]

/-- The lexeme that starts with `c` behind a text and goes on in `rest`. -/
def Lexeme.behind (before : Text) (c : Char) (rest : Text) : Lexeme :=
  let reading := readLexeme c rest
  ⟨reading.text c rest, reading.kind, (Cursor.behind before).position, before.length,
    reading.fault⟩

/-- The lexemes of what follows a text: a gap, a lexeme with everything that belongs to it,
    and the same again behind it. -/
inductive Lexed : Text → Text → List Lexeme → Prop where
  | done {before gap : Text} (hgap : ∀ c ∈ gap, isGap c = true) : Lexed before gap []
  | next {before gap rest : Text} {c : Char} {lexemes : List Lexeme}
      (hgap : ∀ c ∈ gap, isGap c = true) (hc : isGap c = false)
      (hrest : Lexed (before ++ gap ++ (readLexeme c rest).text c rest)
        (rest.drop (readLexeme c rest).more) lexemes) :
      Lexed before (gap ++ c :: rest) (Lexeme.behind (before ++ gap) c rest :: lexemes)

theorem isGap_of_mem_takeWhile (s : Text) : ∀ c ∈ s.takeWhile isGap, isGap c = true :=
  List.all_eq_true.mp List.all_takeWhile

theorem isGap_of_dropWhile {s : Text} {c : Char} {rest : Text}
    (h : s.dropWhile isGap = c :: rest) : isGap c = false :=
  (cut_iff.mp ⟨rfl, h⟩).2.2

theorem lexFrom_of_nil {cursor : Cursor} {s : Text} (h : s.dropWhile isGap = []) :
    lexFrom cursor s = [] := by
  rw [lexFrom]
  split
  case h_1 => rfl
  case h_2 c rest hfound =>
    rw [h] at hfound
    exact absurd hfound (List.cons_ne_nil c rest).symm

/-- One lexeme of a text whose gap starts behind another text. -/
theorem lexFrom_of_cons {before s : Text} {c : Char} {rest : Text} (h : Unsplit before s)
    (hfound : s.dropWhile isGap = c :: rest) (hc : isGap c = false) :
    lexFrom (Cursor.behind before) s =
      Lexeme.behind (before ++ s.takeWhile isGap) c rest ::
        lexFrom (Cursor.behind (before ++ s.takeWhile isGap ++ (readLexeme c rest).text c rest))
          (rest.drop (readLexeme c rest).more) := by
  have hgap : Unsplit before (s.takeWhile isGap) := h.of_prefix (List.takeWhile_prefix isGap)
  rw [lexFrom]
  split
  case h_1 hnil =>
    rw [hfound] at hnil
    exact absurd hnil (List.cons_ne_nil c rest)
  case h_2 d tail hcons =>
    rw [hfound, List.cons.injEq] at hcons
    rcases hcons with ⟨rfl, rfl⟩
    rw [Cursor.through_behind hgap, ← Cursor.past_behind hc]
    rfl

/-- The lexemes of a text are read one behind the other. -/
theorem lexed_lexFrom {before s : Text} (h : Unsplit before s) :
    Lexed before s (lexFrom (Cursor.behind before) s) := by
  have hsplit := List.takeWhile_append_dropWhile (p := isGap) (l := s)
  cases hfound : s.dropWhile isGap with
  | nil =>
      rw [hfound, List.append_nil] at hsplit
      rw [lexFrom_of_nil hfound]
      exact Lexed.done (hsplit ▸ isGap_of_mem_takeWhile s)
  | cons c rest =>
      rw [hfound] at hsplit
      have hc := isGap_of_dropWhile hfound
      have hborder := unsplit_behind_lexeme (reads_readLexeme c rest) hc
        (before ++ s.takeWhile isGap)
      have hnext := Lexed.next (isGap_of_mem_takeWhile s) hc (lexed_lexFrom hborder)
      rw [lexFrom_of_cons h hfound hc]
      rwa [hsplit] at hnext
termination_by s.length
decreasing_by
  have hlength := congrArg List.length hsplit
  rw [hfound] at hlength
  simp only [List.length_append, List.length_cons, List.length_drop] at hlength ⊢
  omega

theorem lexed_lexemes (s : Text) : Lexed [] s (lexemes s) :=
  lexed_lexFrom (Unsplit.of_getLast (by simp))

/-- A text has one list of lexemes. -/
theorem Lexed.eq_lexFrom {before s : Text} {lexemes : List Lexeme} (h : Lexed before s lexemes)
    (hunsplit : Unsplit before s) : lexemes = lexFrom (Cursor.behind before) s := by
  induction h with
  | @done before gap hgap =>
      have hall : gap.dropWhile isGap = [] := by
        rw [List.dropWhile_eq_nil_iff]
        exact hgap
      exact (lexFrom_of_nil hall).symm
  | @next before gap rest c lexemes hgap hc hrest ih =>
      rcases cut_iff.mpr ⟨rfl, hgap, hc⟩ with ⟨hpassed, hfound⟩
      rw [lexFrom_of_cons hunsplit hfound hc, hpassed]
      congr 1
      exact ih (unsplit_behind_lexeme (reads_readLexeme c rest) hc (before ++ gap))

theorem Lexed.eq_lexemes {s : Text} {found : List Lexeme} (h : Lexed [] s found) :
    found = lexemes s :=
  h.eq_lexFrom (Unsplit.of_getLast (by decide))

/-- Where a lexeme cuts its text. -/
theorem Lexed.split {before s : Text} {lexemes : List Lexeme} (h : Lexed before s lexemes)
    {l : Lexeme} (hl : l ∈ lexemes) :
    ∃ front c rest, before ++ s = front ++ c :: rest ∧ isGap c = false ∧
      before.length ≤ front.length ∧ l = Lexeme.behind front c rest := by
  induction h with
  | done _ => exact absurd hl List.not_mem_nil
  | @next before gap rest c lexemes hgap hc hrest ih =>
      rcases List.mem_cons.mp hl with rfl | hl
      · refine ⟨before ++ gap, c, rest, ?_, hc, ?_, rfl⟩
        · rw [List.append_assoc]
        · rw [List.length_append]
          omega
      · -- What was read and what is left make up what was there.
        rcases ih hl with ⟨front, d, tail, hsplit, hd, hle, rfl⟩
        refine ⟨front, d, tail, ?_, hd, ?_, rfl⟩
        · rw [← hsplit, List.append_assoc, List.append_assoc, Reading.text, List.cons_append,
            List.take_append_drop]
        · rw [List.length_append, List.length_append] at hle
          omega

/-- A lexeme starts where those in front of it have ended. -/
theorem Lexed.pairwise {before s : Text} {lexemes : List Lexeme} (h : Lexed before s lexemes) :
    lexemes.Pairwise (fun l l' => l.stop ≤ l'.offset) := by
  induction h with
  | done _ => exact List.Pairwise.nil
  | next hgap hc hrest ih =>
      refine List.Pairwise.cons (fun l hl => ?_) ih
      rcases hrest.split hl with ⟨front, d, tail, _, _, hle, rfl⟩
      rw [List.length_append] at hle
      exact hle

/-- Where a lexeme of a text cuts it. -/
theorem split_of_mem_lexemes {s : Text} {l : Lexeme} (h : l ∈ lexemes s) :
    ∃ front c rest, s = front ++ c :: rest ∧ isGap c = false ∧ l = Lexeme.behind front c rest := by
  rcases (lexed_lexemes s).split h with ⟨front, c, rest, hsplit, hc, _, hl⟩
  exact ⟨front, c, rest, hsplit, hc, hl⟩

theorem start_eq_placeOf {s : Text} {l : Lexeme} (h : l ∈ lexemes s) :
    l.start = placeOf s l.offset := by
  rcases split_of_mem_lexemes h with ⟨front, c, rest, rfl, hc, rfl⟩
  rw [Lexeme.behind, placeOf_append (unsplit_of_not_gap front rest hc), Cursor.position_behind]

/-- The fault of a lexeme in the place of the lexeme. -/
def Lexeme.located? (l : Lexeme) : Option LexError :=
  l.fault.map fun fault => ⟨fault, l.start, l.offset, l.stop⟩

/-- The faults of a text are those of its lexemes, in their places. -/
theorem lexErrors_eq (s : Text) : lexErrors s = (lexemes s).filterMap Lexeme.located? := by
  refine List.filterMap_congr (fun l hl => ?_)
  rw [Lexeme.error?, Lexeme.located?, start_eq_placeOf hl]

theorem offsetOf_start {s : Text} {l : Lexeme} (h : l ∈ lexemes s) :
    s.offsetOf l.start = l.offset := by
  rw [start_eq_placeOf h]
  rcases split_of_mem_lexemes h with ⟨front, c, rest, rfl, hc, rfl⟩
  exact offsetOf_placeOf (unsplit_of_not_gap front rest hc)

theorem start_line_lt {s : Text} {l : Lexeme} (h : l ∈ lexemes s) :
    l.start.line < (Lines.ofText s).count := by
  rw [start_eq_placeOf h]
  rcases split_of_mem_lexemes h with ⟨front, c, rest, rfl, hc, rfl⟩
  exact placeOf_line_lt (unsplit_of_not_gap front rest hc)

theorem offset_lt_length {s : Text} {l : Lexeme} (h : l ∈ lexemes s) : l.offset < s.length := by
  rcases split_of_mem_lexemes h with ⟨front, c, rest, rfl, _, rfl⟩
  rw [List.length_append, List.length_cons]
  exact Nat.lt_add_of_pos_right (Nat.succ_pos _)

/-- No two lexemes of a text are at the same place. -/
theorem eq_of_offset_eq {s : Text} {l l' : Lexeme} (h : l ∈ lexemes s) (h' : l' ∈ lexemes s)
    (heq : l.offset = l'.offset) : l = l' := by
  rcases split_of_mem_lexemes h with ⟨front, c, rest, hsplit, _, rfl⟩
  rcases split_of_mem_lexemes h' with ⟨front', c', rest', hsplit', _, rfl⟩
  rcases List.append_inj (hsplit.symm.trans hsplit') heq with ⟨rfl, hrest⟩
  rw [List.cons.injEq] at hrest
  rw [hrest.1, hrest.2]

/-- The lexemes of a text are in the order of their offsets. -/
theorem lexemes_pairwise (s : Text) : (lexemes s).Pairwise (fun l l' => l.offset < l'.offset) := by
  refine (lexed_lexemes s).pairwise.imp_of_mem (fun hl _ hle => ?_)
  rcases split_of_mem_lexemes hl with ⟨front, c, rest, _, _, rfl⟩
  exact Nat.lt_of_lt_of_le (Nat.lt_add_of_pos_right (Nat.succ_pos _)) hle

/-- Where a token cuts its text. -/
theorem split_of_mem_lexTokens {s : Text} {token : Token} (h : token ∈ lexTokens s) :
    ∃ front c rest, s = front ++ c :: rest ∧ isGap c = false ∧
      token = (Lexeme.behind front c rest).toToken := by
  rcases List.mem_map.mp h with ⟨l, hl, rfl⟩
  rcases split_of_mem_lexemes hl with ⟨front, c, rest, hsplit, hc, rfl⟩
  exact ⟨front, c, rest, hsplit, hc, rfl⟩

/-- The place of a token is that of its offset. -/
theorem positionOf_token {s : Text} {token : Token} (h : token ∈ lexTokens s) :
    ∃ offset : Nat, token.offset = .int offset ∧
      positionOf s offset = (token.start.line, (token.start.column : Int)) := by
  rcases split_of_mem_lexTokens h with ⟨front, c, rest, rfl, hc, rfl⟩
  refine ⟨front.length, rfl, ?_⟩
  rw [positionOf_append (unsplit_of_not_gap front rest hc), Lexeme.toToken, Lexeme.behind]
  simp only [Cursor.position_behind]

/-- The first line of a token stands on the line of the token, from its column on. -/
theorem firstLine_of_token {s : Text} {token : Token} (h : token ∈ lexTokens s) :
    ∃ text, (Lines.ofText s).line? token.start.line = .ok text ∧
      (text.drop token.start.column).take (firstLine token.text).length =
        firstLine token.text := by
  rcases split_of_mem_lexTokens h with ⟨front, c, rest, rfl, hc, rfl⟩
  have hfirst := firstLine_prefix ((readLexeme c rest).isPrefix_text c rest)
  have hline := line?_append (unsplit_of_not_gap front rest hc)
  refine ⟨lastLine front ++ firstLine (c :: rest), ?_, ?_⟩
  · rw [Lexeme.toToken, Lexeme.behind]
    simp only [Cursor.position_behind]
    exact hline
  · rw [Lexeme.toToken, Lexeme.behind]
    simp only [Cursor.position_behind, List.drop_left]
    exact (List.prefix_iff_eq_take.mp hfirst).symm

/-- A token starts with a character that is no line break. -/
theorem firstLine_ne_nil {s : Text} {t : Token} (h : t ∈ lexTokens s) : firstLine t.text ≠ [] := by
  rcases split_of_mem_lexTokens h with ⟨front, c, rest, _, hc, rfl⟩
  change firstLine (c :: _) ≠ []
  rw [firstLine_other (isLineBreak_of_isGap hc)]
  exact List.cons_ne_nil c _

/-- The first line of a token ends on the line of the token. -/
theorem firstLine_le_line {s line : Text} {t : Token} (h : t ∈ lexTokens s)
    (hline : (Lines.ofText s).line? t.start.line = .ok line) :
    t.start.column + (firstLine t.text).length ≤ line.length := by
  rcases firstLine_of_token h with ⟨line', hline', hstands⟩
  obtain rfl := Except.ok.inj (hline.symm.trans hline')
  have hpos := List.length_pos_iff.mpr (firstLine_ne_nil h)
  have hlength := congrArg List.length hstands
  rw [List.length_take, List.length_drop] at hlength
  omega

/-- The three ways to find a position agree. A lexeme is where its offset is counted to be
    from the start of the text; the line and the column of an offset count from the start
    of a line that the list of lines has; the end of the text is the end of its last line;
    and a lexeme can be read again on its line, as far as it goes. -/
theorem lexeme_places (s : Text) :
    (∀ token ∈ lexTokens s, ∃ offset : Nat, token.offset = .int offset ∧
      positionOf s offset = (token.start.line, (token.start.column : Int))) ∧
    (∀ offset ≤ s.length, Unsplit (s.take offset) (s.drop offset) →
      ∃ (line column : Nat) (text : Text), positionOf s offset = (line, (column : Int)) ∧
        line < (Lines.ofText s).count ∧ (Lines.ofText s).line? line = .ok text ∧
        column ≤ text.length ∧ offset = s.lineStart line + column) ∧
    positionOf s s.length =
      ((Lines.ofText s).endPosition.line, ((Lines.ofText s).endPosition.column : Int)) ∧
    (∀ token ∈ lexTokens s, ∃ text, (Lines.ofText s).line? token.start.line = .ok text ∧
      (text.drop token.start.column).take (firstLine token.text).length =
        firstLine token.text) := by
  refine ⟨fun token htoken => ?_, fun offset hle hborder => ?_, ?_, fun token htoken => ?_⟩
  · exact positionOf_token htoken
  · exact positionOf_spec hle hborder
  · exact positionOf_end s
  · exact firstLine_of_token htoken

end RiddlEditor
