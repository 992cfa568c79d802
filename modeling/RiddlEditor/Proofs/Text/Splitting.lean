import RiddlEditor.Proofs.Text.Place

/-!
# Splitting a text into lines

A text is its lines, with a terminator behind each of them but the last. What the lines and
the terminators have to be like is told without splitting anything: no line has a line break,
a terminator is one of three, and put together in turns they are the text.

This alone leaves a choice. A carriage return and a line feed next to each other are one
terminator, but they could also be two with an empty line in between. So a carriage return
that is a terminator of its own must not stand in front of a line feed, and then there is one
way to split a text (`isSplitting_iff`).

Two texts put together have the lines of both, with the lines at the border joined. That is so
unless the border is inside of a pair: there the two halves are a terminator each, and together
they are one, so a line gets lost (`length_lines_of_split`).

## Main definitions

* `IsTerminator`: What ends a line.
* `IsSplitting`: A text as lines with terminators in between.
* `Text.pairs`: How often a line feed follows a carriage return.
* `joinLines`: The lines of two texts with the lines at the border joined.

## Theorems

* `IsSplitting.cons`, `IsSplitting.exists_rest`: The first line and its terminator.
* `isSplitting_iff`: There is one way to split a text.
* `length_breaks_add_pairs`: The line breaks of a text, counted by characters.
* `lines_append_eq_join_iff`: When the lines of two texts are joined.
* `lines_are_exact`: What the lines of a document are.
-/

namespace RiddlEditor

/-- What ends a line. -/
inductive IsTerminator : Text → Prop where
  | lineFeed : IsTerminator ['\n']
  | pair : IsTerminator ['\r', '\n']
  | carriageReturn : IsTerminator ['\r']

/-- A text as lines with terminators in between. -/
structure IsSplitting (s : Text) (lines terminators : List Text) : Prop where
  /-- The lines have no line breaks. -/
  unbroken : ∀ line ∈ lines, '\r' ∉ line ∧ '\n' ∉ line
  terminator : ∀ t ∈ terminators, IsTerminator t
  length_eq : terminators.length + 1 = lines.length
  rebuilt : Text.interleave lines terminators = s
  /-- What follows a carriage return in the text does not make a pair of it. -/
  whole : ∀ i, terminators[i]? = some ['\r'] → ∀ rest,
    s = Text.interleave (lines.take (i + 1)) (terminators.take (i + 1)) ++ rest →
      rest.head? ≠ some '\n'

theorem unbroken_iff {s : Text} : Unbroken s ↔ '\r' ∉ s ∧ '\n' ∉ s := by
  constructor
  · intro h
    constructor
    · intro hmem
      exact absurd (h '\r' hmem) (by decide)
    · intro hmem
      exact absurd (h '\n' hmem) (by decide)
  · rintro ⟨hreturn, hfeed⟩ c hc
    rw [Bool.eq_false_iff]
    intro hbreak
    rcases isLineBreak_iff.mp hbreak with rfl | rfl
    · exact hfeed hc
    · exact hreturn hc

/-! ## One way to split a text -/

theorem isSplitting_singleton {s line : Text} :
    IsSplitting s [line] [] ↔ s = line ∧ Unbroken line := by
  constructor
  · intro h
    refine ⟨?_, unbroken_iff.mpr (h.unbroken line List.mem_cons_self)⟩
    rw [← h.rebuilt]
    simp [Text.interleave]
  · rintro ⟨rfl, h⟩
    refine ⟨?_, by simp, rfl, by simp [Text.interleave], by simp⟩
    intro line hline
    rw [List.mem_singleton.mp hline]
    exact unbroken_iff.mp h

/-- A line and its terminator are put in front of a text. -/
theorem IsSplitting.cons {line t rest : Text} {lines terminators : List Text}
    (hline : Unbroken line) (ht : IsTerminator t) (hunsplit : Unsplit t rest)
    (h : IsSplitting rest lines terminators) :
    IsSplitting (line ++ t ++ rest) (line :: lines) (t :: terminators) := by
  refine ⟨?_, ?_, congrArg (· + 1) h.length_eq, congrArg (line ++ t ++ ·) h.rebuilt, ?_⟩
  · intro l hl
    rcases List.mem_cons.mp hl with rfl | hl
    · exact unbroken_iff.mp hline
    · exact h.unbroken l hl
  · intro u hu
    rcases List.mem_cons.mp hu with rfl | hu
    · exact ht
    · exact h.terminator u hu
  · intro i hi tail htail
    simp only [List.take_succ_cons, Text.interleave, List.append_assoc,
      List.append_cancel_left_eq] at htail
    -- The terminator in question is the one in front, or one of those behind it.
    cases i with
    | zero =>
        obtain rfl : t = ['\r'] := Option.some.inj hi
        obtain rfl : rest = tail := by simpa [Text.interleave] using htail
        exact fun hhead => hunsplit ⟨rfl, hhead⟩
    | succ i => exact h.whole i hi tail htail

/-- The first line and its terminator are split off, and what is behind them is split. -/
theorem IsSplitting.exists_rest {s line t : Text} {lines terminators : List Text}
    (h : IsSplitting s (line :: lines) (t :: terminators)) :
    ∃ rest, s = line ++ t ++ rest ∧ Unbroken line ∧ IsTerminator t ∧ Unsplit t rest ∧
      IsSplitting rest lines terminators := by
  have hs : s = line ++ t ++ Text.interleave lines terminators := h.rebuilt.symm
  have ht : IsTerminator t := h.terminator t List.mem_cons_self
  refine ⟨_, hs, unbroken_iff.mpr (h.unbroken line List.mem_cons_self), ht, ?_, ?_⟩
  · -- Only a carriage return alone could make a pair with what follows it.
    rintro ⟨hlast, hhead⟩
    cases ht with
    | lineFeed => simp at hlast
    | pair => simp at hlast
    | carriageReturn =>
        refine h.whole 0 rfl _ ?_ hhead
        simpa [Text.interleave] using hs
  · refine ⟨fun l hl => h.unbroken l (List.mem_cons_of_mem line hl),
      fun u hu => h.terminator u (List.mem_cons_of_mem t hu),
      Nat.succ.inj h.length_eq, rfl, fun i hi rest hrest => ?_⟩
    refine h.whole (i + 1) hi rest ?_
    rw [hs, hrest]
    simp only [List.take_succ_cons, Text.interleave, List.append_assoc]

/-- A character that is no line break goes into the first line. -/
theorem IsSplitting.push {s line : Text} {lines terminators : List Text} {c : Char}
    (hc : isLineBreak c = false) (h : IsSplitting s (line :: lines) terminators) :
    IsSplitting (c :: s) ((c :: line) :: lines) terminators := by
  cases terminators with
  | nil =>
      obtain rfl : lines = [] := List.length_eq_zero_iff.mp (Nat.succ.inj h.length_eq).symm
      rcases isSplitting_singleton.mp h with ⟨rfl, hline⟩
      exact isSplitting_singleton.mpr ⟨rfl, hline.cons hc⟩
  | cons t terminators =>
      rcases h.exists_rest with ⟨rest, rfl, hline, ht, hunsplit, hrest⟩
      exact hrest.cons (hline.cons hc) ht hunsplit

/-- The lines and the breaks of a text are a splitting of it. -/
theorem isSplitting_lines_breaks (s : Text) : IsSplitting s s.lines s.breaks := by
  induction s using breakInduction with
  | nil => exact isSplitting_singleton.mpr ⟨rfl, unbroken_nil⟩
  | pair rest ih =>
      rw [lines_pair, breaks_pair]
      exact ih.cons unbroken_nil .pair (Unsplit.of_getLast (by simp))
  | single c rest hbreak hpair ih =>
      rw [lines_single hbreak hpair, breaks_single hbreak hpair]
      have ht : IsTerminator [c] := by
        rcases isLineBreak_iff.mp hbreak with rfl | rfl
        · exact .lineFeed
        · exact .carriageReturn
      have hunsplit : Unsplit [c] rest := by simpa [Unsplit] using hpair
      exact ih.cons unbroken_nil ht hunsplit
  | other c rest hbreak ih =>
      rw [lines_other hbreak, breaks_other hbreak]
      rw [lines_eq_cons rest] at ih ⊢
      exact ih.push hbreak

/-- A terminator splits off the line in front of it. -/
theorem lines_terminated {line t rest : Text} (hline : Unbroken line) (ht : IsTerminator t)
    (h : Unsplit t rest) :
    Text.lines (line ++ t ++ rest) = line :: rest.lines ∧
      Text.breaks (line ++ t ++ rest) = t :: rest.breaks := by
  induction line with
  | nil =>
      cases ht with
      | lineFeed =>
          have hbreak : isLineBreak '\n' = true := by decide
          have hpair : ¬('\n' = '\r' ∧ rest.head? = some '\n') := by simp
          exact ⟨lines_single hbreak hpair, breaks_single hbreak hpair⟩
      | pair => exact ⟨lines_pair rest, breaks_pair rest⟩
      | carriageReturn =>
          have hbreak : isLineBreak '\r' = true := by decide
          have hpair : ¬('\r' = '\r' ∧ rest.head? = some '\n') := by simpa [Unsplit] using h
          exact ⟨lines_single hbreak hpair, breaks_single hbreak hpair⟩
  | cons c line ih =>
      have hc : isLineBreak c = false := hline c List.mem_cons_self
      rcases ih hline.tail with ⟨hlines, hbreaks⟩
      rw [List.cons_append, List.cons_append, lines_other hc, breaks_other hc, hlines, hbreaks]
      exact ⟨rfl, rfl⟩

/-- The lines and the terminators of a text are determined, one terminator after the other. -/
theorem IsSplitting.unique {s : Text} {lines terminators : List Text}
    (h : IsSplitting s lines terminators) : lines = s.lines ∧ terminators = s.breaks := by
  induction terminators generalizing s lines with
  | nil =>
      obtain ⟨line, rfl⟩ := List.length_eq_one_iff.mp h.length_eq.symm
      rcases isSplitting_singleton.mp h with ⟨rfl, hline⟩
      have hlines := lines_of_unbroken hline
      have hbreaks := length_breaks s
      rw [hlines] at hbreaks
      exact ⟨hlines.symm, (List.length_eq_zero_iff.mp (Nat.succ.inj hbreaks)).symm⟩
  | cons t terminators ih =>
      cases lines with
      | nil => exact absurd h.length_eq (Nat.succ_ne_zero _)
      | cons line lines =>
          rcases h.exists_rest with ⟨rest, rfl, hline, ht, hunsplit, hrest⟩
          rcases ih hrest with ⟨rfl, rfl⟩
          rcases lines_terminated hline ht hunsplit with ⟨hlines, hbreaks⟩
          exact ⟨hlines.symm, hbreaks.symm⟩

/-- There is one way to split a text. -/
theorem isSplitting_iff {s : Text} {lines terminators : List Text} :
    IsSplitting s lines terminators ↔ lines = s.lines ∧ terminators = s.breaks := by
  constructor
  · exact IsSplitting.unique
  · rintro ⟨rfl, rfl⟩
    exact isSplitting_lines_breaks s

/-! ## Counting line breaks -/

/-- How often a line feed follows a carriage return. -/
def Text.pairs (s : Text) : Nat :=
  (s.zip s.tail).count ('\r', '\n')

theorem pairs_cons (c : Char) (rest : Text) :
    Text.pairs (c :: rest) =
      rest.pairs + if c = '\r' ∧ rest.head? = some '\n' then 1 else 0 := by
  cases rest with
  | nil => simp [Text.pairs]
  | cons d rest => simp [Text.pairs, List.count_cons]

/-- Every line feed and every carriage return counts, and a pair only once. -/
theorem length_breaks_add_pairs (s : Text) :
    s.breaks.length + s.pairs = s.count '\n' + s.count '\r' := by
  induction s using breakInduction with
  | nil => rfl
  | pair rest ih =>
      rw [breaks_pair, List.length_cons, pairs_cons, pairs_cons]
      simp
      omega
  | single c rest hbreak hpair ih =>
      rw [breaks_single hbreak hpair, List.length_cons, pairs_cons, if_neg hpair]
      rcases isLineBreak_iff.mp hbreak with rfl | rfl
      · simp
        omega
      · simp
        omega
  | other c rest hbreak ih =>
      rw [breaks_other hbreak, pairs_cons, if_neg (not_pair_of_other rest hbreak)]
      have hfeed : c ≠ '\n' := fun h => absurd hbreak (by simp [h, isLineBreak])
      have hreturn : c ≠ '\r' := fun h => absurd hbreak (by simp [h, isLineBreak])
      rw [List.count_cons_of_ne hfeed, List.count_cons_of_ne hreturn]
      omega

/-! ## Two texts put together -/

/-- The lines of two texts, with the last line of the first and the first line of the second
    joined. -/
def joinLines (first second : List Text) : List Text :=
  first.dropLast ++ (first.getLast?.getD [] ++ second.head?.getD []) :: second.tail

/-- A pair that is parted by the border is a terminator in each of the texts, but only one in
    both together. -/
theorem length_lines_of_split {a b : Text} (hlast : a.getLast? = some '\r')
    (hhead : b.head? = some '\n') :
    (Text.lines (a ++ b)).length + 2 = a.lines.length + b.lines.length := by
  rcases List.getLast?_eq_some_iff.mp hlast with ⟨front, rfl⟩
  rcases List.head?_eq_some_iff.mp hhead with ⟨rest, rfl⟩
  have hsplit := length_lines_append (a := front) (b := ['\r']) (Unsplit.of_head (by simp))
  have hwhole := length_lines_append (a := front) (b := '\r' :: '\n' :: rest)
    (Unsplit.of_head (by simp))
  have hrest : Text.lines ('\n' :: rest) = [] :: Text.lines rest :=
    lines_single (by decide) (by simp)
  rw [lines_pair, List.length_cons] at hwhole
  rw [hrest, List.length_cons, List.append_assoc, List.singleton_append]
  have hreturn : (Text.lines ['\r']).length = 2 := rfl
  omega

theorem length_joinLines {first second : List Text} (hfirst : first ≠ []) (hsecond : second ≠ []) :
    (joinLines first second).length + 1 = first.length + second.length := by
  have hone := List.length_pos_iff.mpr hfirst
  have hother := List.length_pos_iff.mpr hsecond
  rw [joinLines, List.length_append, List.length_dropLast, List.length_cons, List.length_tail]
  omega

/-- The lines of two texts are joined exactly if the border is not inside of a pair. -/
theorem lines_append_eq_join_iff {a b : Text} :
    Text.lines (a ++ b) = joinLines a.lines b.lines ↔ Unsplit a b := by
  constructor
  · rintro hjoin ⟨hlast, hhead⟩
    have hless := length_lines_of_split hlast hhead
    have hlength := length_joinLines (lines_ne_nil a) (lines_ne_nil b)
    rw [← hjoin] at hlength
    omega
  · intro h
    rw [lines_append h, joinLines, lastLine, lines_eq_cons b]
    rfl

/-- What the lines of a document are. They and the terminators between them are the only ones
    from which the text can be put together, as long as lines have no line breaks and no pair is
    taken for two terminators. There is one line more than there are line breaks, with a pair
    counted once. The lines of two texts put together are those of both, joined at the border,
    exactly if the border is not inside of a pair. -/
theorem lines_are_exact (s : Text) :
    (∃ terminators, IsSplitting s (Lines.ofText s).lines terminators ∧
      ∀ lines' terminators', IsSplitting s lines' terminators' →
        lines' = (Lines.ofText s).lines ∧ terminators' = terminators) ∧
    (Lines.ofText s).count = countBreaks s.length s + 1 ∧
    (Lines.ofText s).count + s.pairs = s.count '\n' + s.count '\r' + 1 ∧
    ∀ a b : Text, (Lines.ofText (a ++ b)).lines =
      joinLines (Lines.ofText a).lines (Lines.ofText b).lines ↔
        ¬(a.getLast? = some '\r' ∧ b.head? = some '\n') := by
  refine ⟨⟨s.breaks, isSplitting_iff.mpr ⟨rfl, rfl⟩, fun _ _ h => isSplitting_iff.mp h⟩, ?_, ?_,
    fun a b => lines_append_eq_join_iff⟩
  · have hcount := countBreaks_append (Unsplit.nil s)
    rw [List.append_nil] at hcount
    exact hcount.symm
  · have hlength := length_breaks s
    have hbreaks := length_breaks_add_pairs s
    change s.lines.length + _ = _
    omega

-- The pair is one terminator, and the carriage returns around it are one each.
example : Text.lines "a\r\r\nb\r".toList = ["a".toList, [], "b".toList, []] := by
  decide

end RiddlEditor
