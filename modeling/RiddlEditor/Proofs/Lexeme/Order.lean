import RiddlEditor.Proofs.Lexeme.Place

/-!
# The order of tokens

The offsets of the lexemes say that each of them ends before the next one starts. An editor
knows a token by its line and its columns instead, and there the same has to be shown anew:
the cursor moves on when characters go by (`position_append`), so what comes behind a lexeme
is on a later line or behind its last column.

It follows that a position lies on one token at most. A block comment over several lines is
no exception, although its range goes on to the right beyond the end of its first line: there
is no other token on the rest of that line.

## Main definitions

* `Token.Precedes`: One token ends, on its line, before another one starts.

## Theorems

* `position_append`: Where the cursor is when more characters have gone by.
* `lexTokens_precedes`: Each token of a text precedes those behind it.
* `lexTokens_starts_increase`: The positions of the tokens increase.
* `findTokenAt_eq_some`: The token at a position is the only one that covers it.
-/

namespace RiddlEditor

theorem Position.ne_of_lt {p q : Position} (h : p < q) : p ≠ q := by
  rintro rfl
  simp only [Position.lt_def] at h
  omega

theorem Position.le_of_lt {p q : Position} (h : p < q) : p ≤ q := by
  simp only [Position.lt_def] at h
  simp only [Position.le_def]
  omega

/-- When characters without a line break have gone by, the cursor is as many columns further
    on; when there was a break among them, it is on a later line. -/
theorem position_append (before : Text) {text : Text} (h : Unsplit before text) :
    (Unbroken text ∧ (Cursor.behind (before ++ text)).position =
        ⟨(Cursor.behind before).position.line,
          (Cursor.behind before).position.column + text.length⟩) ∨
      (Cursor.behind before).position.line < (Cursor.behind (before ++ text)).position.line := by
  rw [Cursor.position_behind, Cursor.position_behind]
  have hlines := length_lines_append h
  have hbefore := List.length_pos_iff.mpr (lines_ne_nil before)
  by_cases hbreak : Unbroken text
  · left
    rw [lines_of_unbroken hbreak, List.length_singleton] at hlines
    refine ⟨hbreak, ?_⟩
    rw [lastLine_append_unbroken before hbreak, List.length_append, Position.mk.injEq]
    refine ⟨?_, rfl⟩
    simp only
    omega
  · right
    -- A text with a break has at least two lines.
    have htail : text.lines.tail ≠ [] := fun hnil => hbreak ((tail_lines_eq_nil text).mp hnil)
    have hmore := List.length_pos_iff.mpr htail
    rw [List.length_tail] at hmore
    simp only
    omega

/-- One token ends, on its line, before another one starts. -/
def Token.Precedes (a b : Token) : Prop :=
  a.start.line < b.start.line ∨
    a.start.line = b.start.line ∧ a.start.column + a.length ≤ b.start.column

theorem Token.Precedes.start_lt {a b : Token} (h : a.Precedes b) (hpos : 0 < a.length) :
    a.start < b.start := by
  simp only [Token.Precedes] at h
  simp only [Position.lt_def]
  omega

theorem text_ne_nil {s : Text} {t : Token} (h : t ∈ lexTokens s) : t.text ≠ [] := by
  rcases split_of_mem_lexTokens h with ⟨front, c, rest, _, _, rfl⟩
  exact List.cons_ne_nil c _

theorem length_pos {s : Text} {t : Token} (h : t ∈ lexTokens s) : 0 < t.length :=
  List.length_pos_iff.mpr (text_ne_nil h)

/-- A lexeme that has ended when another one starts precedes it. -/
theorem precedes_of_stop_le {s : Text} {l l' : Lexeme} (hl : l ∈ lexemes s) (hl' : l' ∈ lexemes s)
    (h : l.stop ≤ l'.offset) : l.toToken.Precedes l'.toToken := by
  rcases split_of_mem_lexemes hl with ⟨front, c, rest, hsplit, hc, rfl⟩
  rcases split_of_mem_lexemes hl' with ⟨front', c', rest', hsplit', hc', rfl⟩
  let text := (readLexeme c rest).text c rest
  -- The first lexeme is a part of what has gone by when the second one starts.
  have htext : front ++ text <+: s := by
    rw [hsplit]
    exact (List.prefix_append_right_inj front).mpr (Reading.isPrefix_text _ c rest)
  have hfront' : front' <+: s := ⟨c' :: rest', hsplit'.symm⟩
  have hlength : (front ++ text).length ≤ front'.length := by
    rw [List.length_append]
    exact h
  rcases List.prefix_of_prefix_length_le htext hfront' hlength with ⟨gap, rfl⟩
  -- A lexeme starts with no line feed, so what is in front of it does not end in half a break.
  have hunsplit : Unsplit front (text ++ gap) := unsplit_of_not_gap front _ hc
  have hposition := position_append front hunsplit
  rw [← List.append_assoc, List.length_append] at hposition
  simp only [Token.Precedes, Lexeme.toToken, Lexeme.behind, Token.length]
  rcases hposition with ⟨_, hsame⟩ | hlater
  · right
    rw [hsame]
    exact ⟨rfl, by simp only [text]; omega⟩
  · exact Or.inl hlater

/-- Each token of a text precedes those behind it. -/
theorem lexTokens_precedes (s : Text) : (lexTokens s).Pairwise Token.Precedes := by
  rw [lexTokens, List.pairwise_map]
  exact (lexed_lexemes s).pairwise.imp_of_mem fun hl hl' h => precedes_of_stop_le hl hl' h

/-- The positions of the tokens of a text increase. -/
theorem lexTokens_starts_increase (s : Text) :
    (lexTokens s).Pairwise fun a b => a.start < b.start :=
  (lexTokens_precedes s).imp_of_mem fun ha _ h => h.start_lt (length_pos ha)

theorem spans_iff {t : Token} {line column : Int} :
    t.spans line column = true ↔
      (t.start.line : Int) = line ∧ (t.start.column : Int) ≤ column ∧
        column < t.start.column + t.length := by
  simp only [Token.spans, decide_eq_true_eq]

/-- Of tokens that precede each other in turn, the one at a position is any that covers it. -/
theorem find?_spans_of_precedes {tokens : List Token} (h : tokens.Pairwise Token.Precedes)
    {t : Token} (ht : t ∈ tokens) {line column : Int} (hspans : t.spans line column = true) :
    findTokenAt tokens line column = some t := by
  rw [findTokenAt]
  induction h with
  | nil => exact absurd ht List.not_mem_nil
  | @cons a tokens hfirst _ ih =>
      by_cases ha : a.spans line column = true
      · rw [List.find?_cons_of_pos (p := fun u : Token => u.spans line column) ha]
        rcases List.mem_cons.mp ht with rfl | ht
        · rfl
        · -- The first token has ended where the other one starts.
          have hprecedes := hfirst t ht
          rw [spans_iff] at ha hspans
          simp only [Token.Precedes] at hprecedes
          omega
      · rw [List.find?_cons_of_neg (p := fun u : Token => u.spans line column) ha]
        rcases List.mem_cons.mp ht with rfl | ht
        · exact absurd hspans ha
        · exact ih ht

/-- The token at a position is the only one that covers it. -/
theorem findTokenAt_eq_some {s : Text} {t : Token} {line column : Int} :
    findTokenAt (lexTokens s) line column = some t ↔
      t ∈ lexTokens s ∧ t.spans line column = true := by
  constructor
  · intro h
    exact ⟨List.mem_of_find?_eq_some h,
      List.find?_some (p := fun u : Token => u.spans line column) h⟩
  · rintro ⟨ht, hspans⟩
    exact find?_spans_of_precedes (lexTokens_precedes s) ht hspans

end RiddlEditor
