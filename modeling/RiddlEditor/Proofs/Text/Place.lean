import Mathlib.Algebra.GroupWithZero.Nat
import RiddlEditor.Proofs.Text.Lines

/-!
# Offsets as lines and columns

The list of lines and the line and column of an offset are found in two ways that know
nothing of each other. Here they are brought together.

The bridge is the text in front of an offset: its lines count the line of the offset, and
the length of the last of them is the column (`positionOf_append`). The list of lines
forgets the breaks, so where a line starts is told by the lines and the breaks together.

## Main definitions

* `Text.breaks`: The line breaks of a text.
* `Text.interleave`: A text from its lines and its breaks.
* `Text.lineStart`: The offset at which a line starts.
* `Text.offsetOf`: The offset that a position leads back to.

## Theorems

* `positionOf_append`: The line and column of a cut.
* `interleave_lines_breaks`: A text is its lines with its breaks in between.
* `lineStart_append`: Where the line of a cut starts.
* `line?_append`: The line of a cut, as it is asked for.
* `offsetOf_placeOf`: A position leads back to the cut that it is the place of.
* `positionOf_end`: The end of a text is the end of its last line.
* `positionOf_spec`: What the line and the column of an offset say.
-/

namespace RiddlEditor

/-- The lines in front of a cut are the line breaks in front of it, and one more. -/
theorem countBreaks_append {a b : Text} (h : Unsplit a b) :
    countBreaks a.length (a ++ b) + 1 = a.lines.length := by
  induction a using breakInduction with
  | nil => cases b <;> rfl
  | pair rest ih =>
      rw [lines_pair]
      change _ = (Text.lines rest).length + 1
      rw [← ih h.tail.tail]
      simp [countBreaks, Nat.add_comm]
  | single c rest hbreak hpair ih =>
      -- A carriage return counts, since no line feed follows it even behind the cut.
      have hcounts : c = '\n' ∨ c = '\r' ∧ (rest ++ b).head? ≠ some '\n' := by
        rcases isLineBreak_iff.mp hbreak with hc | hc
        · exact Or.inl hc
        · exact Or.inr ⟨hc, fun hhead => h.head hpair ⟨hc, hhead⟩⟩
      rw [lines_single hbreak hpair]
      change _ = (Text.lines rest).length + 1
      rw [← ih h.tail, List.length_cons, List.cons_append, countBreaks, if_pos hcounts]
      omega
  | other c rest hbreak ih =>
      have hcounts : ¬(c = '\n' ∨ c = '\r' ∧ (rest ++ b).head? ≠ some '\n') := by
        rintro (rfl | ⟨rfl, _⟩) <;> exact absurd hbreak (by decide)
      have hlines := congrArg List.length (lines_eq_cons rest)
      rw [lines_other hbreak, lines_eq_cons rest, pushFirst, List.length_cons,
        List.length_cons, List.cons_append, countBreaks, if_neg hcounts, Nat.zero_add, ih h.tail, hlines,
        List.length_cons]

/-- The line and the column of a cut, as they are counted from the start of the text. -/
theorem positionOf_append {a b : Text} (h : Unsplit a b) :
    positionOf (a ++ b) a.length = (a.lines.length - 1, ((lastLine a).length : Int)) := by
  have hstop : cutIndex (a ++ b) a.length = a.length := by
    rw [cutIndex, if_neg (by omega), Int.toNat_natCast, List.length_append]
    omega
  have hline := countBreaks_append h
  have hcolumn := length_lastLine_le a
  rw [positionOf, hstop, List.take_left, lastLineStart, ← length_lastLine]
  refine Prod.ext ?_ ?_
  · simp only
    omega
  · simp only
    omega

/-- The line breaks of a text. -/
def Text.breaks : Text → List Text
  | [] => []
  | '\r' :: '\n' :: rest => ['\r', '\n'] :: breaks rest
  | c :: rest => if isLineBreak c then [c] :: breaks rest else breaks rest

/-- A text from its lines and its breaks, in turns. -/
def Text.interleave : List Text → List Text → Text
  | line :: lines, lineBreak :: breaks => line ++ lineBreak ++ interleave lines breaks
  | lines, _ => lines.flatten

/-- The offset at which a line starts: the lines and the breaks in front of it have been
    passed. -/
def Text.lineStart (s : Text) (line : Nat) : Nat :=
  ((s.lines.take line).map List.length).sum + ((s.breaks.take line).map List.length).sum

theorem breaks_pair (rest : Text) :
    Text.breaks ('\r' :: '\n' :: rest) = ['\r', '\n'] :: Text.breaks rest := by
  rw [Text.breaks]

theorem breaks_single {c : Char} {rest : Text} (hbreak : isLineBreak c = true)
    (hpair : ¬(c = '\r' ∧ rest.head? = some '\n')) :
    Text.breaks (c :: rest) = [c] :: Text.breaks rest := by
  rw [Text.breaks, if_pos hbreak]
  exact pair_absurd hpair

theorem breaks_other {c : Char} {rest : Text} (hbreak : isLineBreak c = false) :
    Text.breaks (c :: rest) = Text.breaks rest := by
  rw [Text.breaks, if_neg (Bool.not_eq_true _ ▸ hbreak)]
  exact pair_absurd (not_pair_of_other rest hbreak)

/-- There is a break between any two lines. -/
theorem length_breaks (s : Text) : s.breaks.length + 1 = s.lines.length := by
  induction s using breakInduction with
  | nil => rfl
  | pair rest ih => rw [breaks_pair, lines_pair, List.length_cons, List.length_cons, ih]
  | single c rest hbreak hpair ih =>
      rw [breaks_single hbreak hpair, lines_single hbreak hpair, List.length_cons,
        List.length_cons, ih]
  | other c rest hbreak ih =>
      rw [breaks_other hbreak, ih, lines_other hbreak, lines_eq_cons rest]
      rfl

/-- A text is its lines with its breaks in between. -/
theorem interleave_lines_breaks (s : Text) : Text.interleave s.lines s.breaks = s := by
  induction s using breakInduction with
  | nil => rfl
  | pair rest ih => rw [breaks_pair, lines_pair, Text.interleave, ih]; rfl
  | single c rest hbreak hpair ih =>
      rw [breaks_single hbreak hpair, lines_single hbreak hpair, Text.interleave, ih]
      rfl
  | other c rest hbreak ih =>
      -- The character is put in front of the first line, and there is one.
      rw [lines_eq_cons rest] at ih
      rw [breaks_other hbreak, lines_other hbreak, lines_eq_cons rest]
      cases hbreaks : rest.breaks with
      | nil =>
          rw [hbreaks] at ih
          exact congrArg (c :: ·) ih
      | cons lineBreak breaks =>
          rw [hbreaks] at ih
          exact congrArg (c :: ·) ih

/-- The breaks of two texts put together. -/
theorem breaks_append {a b : Text} (h : Unsplit a b) :
    Text.breaks (a ++ b) = a.breaks ++ b.breaks := by
  induction a using breakInduction with
  | nil => rfl
  | pair rest ih =>
      rw [List.cons_append, List.cons_append, breaks_pair, breaks_pair, ih h.tail.tail,
        List.cons_append]
  | single c rest hbreak hpair ih =>
      rw [List.cons_append, breaks_single hbreak (h.head hpair), breaks_single hbreak hpair,
        ih h.tail, List.cons_append]
  | other c rest hbreak ih =>
      rw [List.cons_append, breaks_other hbreak, breaks_other hbreak, ih h.tail]

/-- The length of a text whose lines and breaks are put together. -/
theorem length_interleave {lines breaks : List Text} (h : breaks.length ≤ lines.length) :
    (Text.interleave lines breaks).length =
      (lines.map List.length).sum + (breaks.map List.length).sum := by
  induction lines generalizing breaks with
  | nil =>
      rw [List.length_nil, Nat.le_zero, List.length_eq_zero_iff] at h
      rw [h]
      rfl
  | cons line lines ih =>
      cases breaks with
      | nil => simp [Text.interleave]
      | cons lineBreak breaks =>
          have hrest := ih (Nat.le_of_succ_le_succ h)
          simp only [Text.interleave, List.length_append, List.map_cons, List.sum_cons, hrest]
          omega

/-- The start of the line that a cut is in. -/
theorem lineStart_append {a b : Text} (h : Unsplit a b) :
    Text.lineStart (a ++ b) (a.lines.length - 1) + (lastLine a).length = a.length := by
  have hbreaks := length_breaks a
  have hlines : a.lines.dropLast ++ [lastLine a] = a.lines := by
    rw [lastLine, List.getLast?_eq_some_getLast (lines_ne_nil a)]
    exact List.dropLast_concat_getLast (lines_ne_nil a)
  -- In front of the cut are all lines of the first text but the last, and all its breaks.
  have hlength : ((a.lines.dropLast ++ [lastLine a]).map List.length).sum +
      (a.breaks.map List.length).sum = a.length := by
    rw [hlines, ← length_interleave (by omega), interleave_lines_breaks]
  have htake : Text.lineStart (a ++ b) (a.lines.length - 1) =
      (a.lines.dropLast.map List.length).sum + (a.breaks.map List.length).sum := by
    rw [Text.lineStart, lines_append h, breaks_append h, ← hbreaks, Nat.add_sub_cancel,
      List.take_left, List.take_left' (by rw [List.length_dropLast]; omega)]
  rw [List.map_append, List.sum_append] at hlength
  rw [htake, ← hlength]
  simp only [List.map_cons, List.map_nil, List.sum_cons, List.sum_nil]
  omega

theorem line?_of_getElem? {s line : Text} {n : Nat} (h : s.lines[n]? = some line) :
    (Lines.ofText s).line? n = .ok line := by
  rw [Lines.line?, if_neg (by omega), Int.toNat_natCast, Lines.ofText, h]

theorem getElem?_of_line? {s shown : Text} {n : Nat}
    (h : (Lines.ofText s).line? n = .ok shown) : s.lines[n]? = some shown := by
  rw [Lines.line?, if_neg (by omega), Int.toNat_natCast] at h
  split at h
  case h_1 line hline =>
    rw [Except.ok.injEq] at h
    rw [← h]
    exact hline
  case h_2 => exact absurd h (by simp only [reduceCtorEq, not_false_eq_true])

/-- The line that a cut is in, as it is asked for from outside. -/
theorem line?_append {a b : Text} (h : Unsplit a b) :
    (Lines.ofText (a ++ b)).line? ((a.lines.length - 1 : Nat) : Int) =
      .ok (lastLine a ++ firstLine b) :=
  line?_of_getElem? (getElem?_lines_append h)

/-- The place of a cut, as a position. -/
theorem placeOf_append {a b : Text} (h : Unsplit a b) :
    placeOf (a ++ b) a.length = ⟨a.lines.length - 1, (lastLine a).length⟩ := by
  rw [placeOf, positionOf_append h]
  rfl

/-- The offset that a position leads back to. -/
def Text.offsetOf (s : Text) (p : Position) : Nat :=
  s.lineStart p.line + p.column

theorem offsetOf_placeOf {a b : Text} (h : Unsplit a b) :
    Text.offsetOf (a ++ b) (placeOf (a ++ b) a.length) = a.length := by
  rw [placeOf_append h, Text.offsetOf, lineStart_append h]

theorem placeOf_line_lt {a b : Text} (h : Unsplit a b) :
    (placeOf (a ++ b) a.length).line < (Lines.ofText (a ++ b)).count := by
  have hfront := List.length_pos_iff.mpr (lines_ne_nil a)
  have hback := List.length_pos_iff.mpr (lines_ne_nil b)
  have hcount := length_lines_append h
  rw [placeOf_append h]
  change a.lines.length - 1 < (Text.lines (a ++ b)).length
  omega

/-- The end of a text is the end of its last line. -/
theorem positionOf_end (s : Text) :
    positionOf s s.length =
      ((Lines.ofText s).endPosition.line, ((Lines.ofText s).endPosition.column : Int)) := by
  have hend := positionOf_append (Unsplit.nil s)
  rw [List.append_nil] at hend
  exact hend

/-- The end of a text as a position. -/
theorem placeOf_end (s : Text) : placeOf s s.length = (Lines.ofText s).endPosition := by
  rw [placeOf, positionOf_end]
  rfl

/-- What the line and the column of an offset say: there is such a line, it reaches at least
    as far as the column, and the column counts from where the line starts. -/
theorem positionOf_spec {s : Text} {offset : Nat} (hle : offset ≤ s.length)
    (h : Unsplit (s.take offset) (s.drop offset)) :
    ∃ (line column : Nat) (text : Text), positionOf s offset = (line, (column : Int)) ∧
      line < (Lines.ofText s).count ∧ (Lines.ofText s).line? line = .ok text ∧
      column ≤ text.length ∧ offset = s.lineStart line + column := by
  have hcut := List.take_append_drop offset s
  have hlength : (s.take offset).length = offset := by
    rw [List.length_take, Nat.min_eq_left hle]
  have hposition := positionOf_append h
  have hline := line?_append h
  have hstart := lineStart_append h
  have hlt := placeOf_line_lt h
  rw [placeOf_append h, hcut] at hlt
  rw [hcut, hlength] at hposition hstart
  rw [hcut] at hline
  refine ⟨_, _, _, hposition, hlt, hline, ?_, hstart.symm⟩
  rw [List.length_append]
  omega

-- A pair ends one line, and so does each of its halves alone.
example : positionOf "a\r\nb\rc\nd".toList 7 = (3, 0) := by
  decide

end RiddlEditor
