import RiddlEditor.Proofs.Text.Place

/-!
# Columns as cuts

The facts about lines and offsets are facts about a text that is cut in two. Here it is shown
that every column of a line is such a cut, the end of the line included, and that the cut is not in
the middle of a line break (`exists_cut_of_line`). So the offset that a position leads to has that
position, and there stands the character that the line has at that column.

## Theorems

* `exists_cut_of_line`: A column of a line cuts the text.
* `positionOf_offsetOf`: The position of the offset of a position.
* `getElem?_offsetOf`: The character at the offset of a position.
* `lineStart_add_length_le`: A line has ended when a later one starts.
-/

namespace RiddlEditor

/-- A character in front of a text does not part a pair with what is behind the text. -/
theorem Unsplit.cons {c : Char} {a b : Text} (h : Unsplit a b)
    (hc : ¬(c = '\r' ∧ (a ++ b).head? = some '\n')) : Unsplit (c :: a) b := by
  cases a with
  | nil =>
      rintro ⟨hlast, hhead⟩
      exact hc ⟨Option.some.inj hlast, hhead⟩
  | cons d a => exact h

theorem lastLine_of_unbroken {s : Text} (h : Unbroken s) : lastLine s = s := by
  rw [lastLine, lines_of_unbroken h]
  rfl

/-- A character that is no line break goes into the first line, so it counts for the last one if
    there is no other. -/
theorem length_lastLine_cons {c : Char} {a : Text} (hbreak : isLineBreak c = false) :
    (lastLine (c :: a)).length = (lastLine a).length + if a.lines.length = 1 then 1 else 0 := by
  have hone : Unbroken [c] := unbroken_nil.cons hbreak
  have hlines : a.lines.length = 1 ↔ Unbroken a := by
    have hpos := List.length_pos_iff.mpr (lines_ne_nil a)
    rw [← tail_lines_eq_nil, ← List.length_eq_zero_iff, List.length_tail]
    omega
  by_cases ha : Unbroken a
  · rw [if_pos (hlines.mpr ha), lastLine_of_unbroken ha, lastLine_of_unbroken (ha.cons hbreak),
      List.length_cons]
  · have hunsplit : Unsplit [c] a := hone.unsplit_append (List.cons_ne_nil c []) [] a
    rw [if_neg fun h => ha (hlines.mp h), ← List.singleton_append,
      lastLine_append_broken hunsplit ha, Nat.add_zero]

theorem length_lines_cons {c : Char} {a : Text} (hbreak : isLineBreak c = false) :
    (Text.lines (c :: a)).length = a.lines.length := by
  rw [lines_other hbreak, lines_eq_cons a]
  rfl

section Cut

variable {s text : Text} {n column : Nat}

/-- The start of a text is a cut. -/
theorem exists_cut_at_start (s : Text) :
    ∃ a b, s = a ++ b ∧ Unsplit a b ∧ a.lines.length = 1 ∧ (lastLine a).length = 0 :=
  ⟨[], s, rfl, Unsplit.of_getLast (by decide), rfl, rfl⟩

/-- A column of a line cuts the text, and not in the middle of a line break. -/
theorem exists_cut_of_line (hline : s.lines[n]? = some text) (hle : column ≤ text.length) :
    ∃ a b, s = a ++ b ∧ Unsplit a b ∧ a.lines.length = n + 1 ∧ (lastLine a).length = column := by
  induction s using breakInduction generalizing n text column with
  | nil =>
      cases n with
      | zero =>
          obtain rfl := Option.some.inj hline
          obtain rfl := Nat.le_zero.mp hle
          exact exists_cut_at_start []
      | succ n => exact nomatch hline
  | pair rest ih =>
      rw [lines_pair] at hline
      cases n with
      | zero =>
          obtain rfl := Option.some.inj hline
          obtain rfl := Nat.le_zero.mp hle
          exact exists_cut_at_start _
      | succ n =>
          rcases ih hline hle with ⟨a, b, rfl, hunsplit, hlines, hcolumn⟩
          have hfeed : Unsplit ('\n' :: a) b := hunsplit.cons fun h => absurd h.1 (by decide)
          refine ⟨'\r' :: '\n' :: a, b, rfl, hfeed, ?_, ?_⟩
          · rw [lines_pair, List.length_cons, hlines]
          · rw [lastLine_of_lines (lines_pair a), hcolumn]
  | single c rest hbreak hpair ih =>
      rw [lines_single hbreak hpair] at hline
      cases n with
      | zero =>
          obtain rfl := Option.some.inj hline
          obtain rfl := Nat.le_zero.mp hle
          exact exists_cut_at_start _
      | succ n =>
          rcases ih hline hle with ⟨a, b, rfl, hunsplit, hlines, hcolumn⟩
          have hpair' : ¬(c = '\r' ∧ a.head? = some '\n') := fun h =>
            hpair ⟨h.1, by rw [List.head?_append, h.2, Option.some_or]⟩
          refine ⟨c :: a, b, rfl, hunsplit.cons hpair, ?_, ?_⟩
          · rw [lines_single hbreak hpair', List.length_cons, hlines]
          · rw [lastLine_of_lines (lines_single hbreak hpair'), hcolumn]
  | other c rest hbreak ih =>
      have hpair := not_pair_of_other rest hbreak
      rw [lines_other hbreak, lines_eq_cons rest] at hline
      -- The character goes into the first line.
      cases n with
      | zero =>
          obtain rfl := Option.some.inj hline
          cases column with
          | zero => exact exists_cut_at_start _
          | succ column =>
              have hfirst : rest.lines[0]? = some (firstLine rest) := by
                rw [lines_eq_cons rest]
                rfl
              rcases ih hfirst (Nat.le_of_succ_le_succ hle) with
                ⟨a, b, rfl, hunsplit, hlines, hcolumn⟩
              refine ⟨c :: a, b, rfl, hunsplit.cons hpair, ?_, ?_⟩
              · rw [length_lines_cons hbreak, hlines]
              · rw [length_lastLine_cons hbreak, if_pos hlines, hcolumn]
      | succ n =>
          have hlater : rest.lines[n + 1]? = some text := by
            rw [lines_eq_cons rest]
            exact hline
          rcases ih hlater hle with ⟨a, b, rfl, hunsplit, hlines, hcolumn⟩
          refine ⟨c :: a, b, rfl, hunsplit.cons hpair, ?_, ?_⟩
          · rw [length_lines_cons hbreak, hlines]
          · rw [length_lastLine_cons hbreak, if_neg (by omega), hcolumn, Nat.add_zero]

/-- The position of the offset of a position. -/
theorem positionOf_offsetOf (hline : s.lines[n]? = some text) (hle : column ≤ text.length) :
    positionOf s (s.offsetOf ⟨n, column⟩) = (n, (column : Int)) := by
  rcases exists_cut_of_line hline hle with ⟨a, b, rfl, hunsplit, hlines, rfl⟩
  have hn : a.lines.length - 1 = n := by omega
  have hoffset := lineStart_append hunsplit
  have hposition := positionOf_append hunsplit
  rw [hn] at hoffset hposition
  rw [Text.offsetOf, hoffset, hposition]

/-- At the offset of a position there stands the character that the line has at that column. -/
theorem getElem?_offsetOf (hline : s.lines[n]? = some text) (hlt : column < text.length) :
    s[s.offsetOf ⟨n, column⟩]? = text[column]? := by
  rcases exists_cut_of_line hline (Nat.le_of_lt hlt) with ⟨a, b, rfl, hunsplit, hlines, rfl⟩
  have hn : a.lines.length - 1 = n := by omega
  have hoffset := lineStart_append hunsplit
  have hcut := getElem?_lines_append hunsplit
  rw [hn] at hoffset hcut
  -- The line is what it has in front of the cut and what it has behind it.
  obtain rfl := Option.some.inj (hline.symm.trans hcut)
  rw [List.length_append] at hlt
  rw [Text.offsetOf, hoffset, List.getElem?_append_right (Nat.le_refl _),
    List.getElem?_append_right (Nat.le_refl _), Nat.sub_self, Nat.sub_self]
  cases b with
  | nil => exact absurd hlt (Nat.lt_irrefl _)
  | cons c b =>
      by_cases hbreak : isLineBreak c = true
      · rw [firstLine_break hbreak] at hlt
        exact absurd hlt (Nat.lt_irrefl _)
      · rw [firstLine_other (Bool.not_eq_true _ ▸ hbreak)]
        rfl

/-- A line has ended when a later one starts. -/
theorem lineStart_add_length_le {m : Nat} (hline : s.lines[n]? = some text) (hlt : n < m) :
    s.lineStart n + text.length ≤ s.lineStart m := by
  -- In front of the later line there are this line and all lines and breaks in front of it.
  have hlines : s.lines.take n ++ [text] <+: s.lines.take m := by
    have htake : s.lines.take (n + 1) = s.lines.take n ++ [text] := by
      rw [List.take_add_one, hline]
      rfl
    rw [← htake]
    exact List.take_prefix_take_left hlt
  have hbreaks : s.breaks.take n <+: s.breaks.take m := List.take_prefix_take_left (by omega)
  rcases hlines with ⟨lines, hlines⟩
  rcases hbreaks with ⟨breaks, hbreaks⟩
  unfold Text.lineStart
  rw [← hlines, ← hbreaks]
  simp only [List.map_append, List.sum_append, List.map_cons, List.map_nil, List.sum_cons,
    List.sum_nil]
  omega

end Cut

end RiddlEditor
