import RiddlEditor.Text.Lines

/-!
# Lines

How the lines of a text change when texts are put together. Cutting a text in two cuts one
line in two and leaves the others alone, as long as the cut does not part a carriage
return from its line feed (`lines_append`).

Proofs follow the breaks of a text: it is empty, or it starts with a pair, with a single
break, or with another character (`breakInduction`).

## Main definitions

* `Unsplit`: Two texts whose border is not in the middle of a line break.
* `Unbroken`: A text without line breaks.
* `firstLine`, `lastLine`: The line in front of the first break, and the one behind the
  last.

## Theorems

* `lines_append`: The lines of two texts put together.
* `unbroken_of_mem_lines`: A line has no line break.
* `tail_lines_eq_nil`: A text is one line exactly if it has no line break.
* `firstLine_append`: The first line of a text behind another one without breaks.
* `lastLine_append_unbroken`, `lastLine_append_broken`: The last line of two texts put
  together.
* `length_lastLine`: The last line is found from the end of the text, too.
* `getElem?_lines_append`: The line that a cut is in.
-/

namespace RiddlEditor

theorem isLineBreak_iff {c : Char} : isLineBreak c = true ↔ c = '\n' ∨ c = '\r' := by
  rw [isLineBreak, Bool.or_eq_true, beq_iff_eq, beq_iff_eq]

/-- A character that is no line break does not start a pair. -/
theorem not_pair_of_other {c : Char} (rest : Text) (hbreak : isLineBreak c = false) :
    ¬(c = '\r' ∧ rest.head? = some '\n') := by
  rintro ⟨rfl, _⟩
  exact absurd hbreak (by decide)

/-- The form in which the recursions over line breaks exclude a pair. -/
theorem pair_absurd {c : Char} {rest : Text} (hpair : ¬(c = '\r' ∧ rest.head? = some '\n'))
    (tail : Text) (hc : c = '\r') (hrest : rest = '\n' :: tail) : False :=
  hpair ⟨hc, by rw [hrest, List.head?_cons]⟩

/-- Whether a border between two texts is not in the middle of a line break. -/
def Unsplit (a b : Text) : Prop :=
  ¬(a.getLast? = some '\r' ∧ b.head? = some '\n')

theorem Unsplit.nil (a : Text) : Unsplit a [] := by
  simp [Unsplit]

theorem Unsplit.of_head {a b : Text} (h : b.head? ≠ some '\n') : Unsplit a b :=
  fun hc => h hc.2

theorem Unsplit.of_getLast {a b : Text} (h : a.getLast? ≠ some '\r') : Unsplit a b :=
  fun hc => h hc.1

theorem Unsplit.tail {c : Char} {rest b : Text} (h : Unsplit (c :: rest) b) : Unsplit rest b := by
  cases rest with
  | nil => simp [Unsplit]
  | cons d rest => simpa only [Unsplit, List.getLast?_cons_cons] using h

theorem Unsplit.of_prefix {a b front : Text} (h : Unsplit a b) (hfront : front <+: b) :
    Unsplit a front := by
  intro hc
  rcases hfront with ⟨tail, rfl⟩
  refine h ⟨hc.1, ?_⟩
  rw [List.head?_append, hc.2, Option.some_or]

/-- The first character of a text does not part a pair with what is behind the text. -/
theorem Unsplit.head {c : Char} {rest b : Text} (h : Unsplit (c :: rest) b)
    (hc : ¬(c = '\r' ∧ rest.head? = some '\n')) :
    ¬(c = '\r' ∧ (rest ++ b).head? = some '\n') := by
  cases rest with
  | nil => simpa [Unsplit] using h
  | cons d rest => exact hc

/-- Whether a text has no line break. -/
def Unbroken (s : Text) : Prop :=
  ∀ c ∈ s, isLineBreak c = false

instance (s : Text) : Decidable (Unbroken s) :=
  List.decidableBAll (fun c => isLineBreak c = false) s

theorem unbroken_nil : Unbroken [] :=
  fun _ hd => absurd hd List.not_mem_nil

theorem Unbroken.cons {c : Char} {rest : Text} (hc : isLineBreak c = false)
    (hrest : Unbroken rest) : Unbroken (c :: rest) := by
  intro d hd
  rcases List.mem_cons.mp hd with rfl | hd
  · exact hc
  · exact hrest d hd

theorem Unbroken.tail {c : Char} {rest : Text} (h : Unbroken (c :: rest)) : Unbroken rest :=
  fun d hd => h d (List.mem_cons_of_mem c hd)

theorem not_unbroken_of_break {c : Char} (rest : Text) (hbreak : isLineBreak c = true) :
    ¬Unbroken (c :: rest) := fun h =>
  absurd ((h c List.mem_cons_self).symm.trans hbreak) Bool.false_ne_true

/-- Induction along the line breaks of a text. -/
@[elab_as_elim]
theorem breakInduction {motive : Text → Prop} (s : Text) (nil : motive [])
    (pair : ∀ rest, motive rest → motive ('\r' :: '\n' :: rest))
    (single : ∀ c rest, isLineBreak c = true → ¬(c = '\r' ∧ rest.head? = some '\n') →
      motive rest → motive (c :: rest))
    (other : ∀ c rest, isLineBreak c = false → motive rest → motive (c :: rest)) : motive s := by
  induction s using Text.lines.induct with
  | case1 => exact nil
  | case2 rest ih => exact pair rest ih
  | case3 c rest hpair hbreak ih =>
      refine single c rest hbreak (fun hc => ?_) ih
      cases rest with
      | nil => simp at hc
      | cons d rest =>
          rw [List.head?_cons, Option.some.injEq] at hc
          exact hpair rest hc.1 (by rw [hc.2])
  | case4 c rest hpair hbreak ih => exact other c rest (Bool.not_eq_true _ ▸ hbreak) ih

theorem lines_pair (rest : Text) : Text.lines ('\r' :: '\n' :: rest) = [] :: Text.lines rest := by
  rw [Text.lines]

theorem lines_single {c : Char} {rest : Text} (hbreak : isLineBreak c = true)
    (hpair : ¬(c = '\r' ∧ rest.head? = some '\n')) :
    Text.lines (c :: rest) = [] :: Text.lines rest := by
  rw [Text.lines, if_pos hbreak]
  exact pair_absurd hpair

theorem lines_other {c : Char} {rest : Text} (hbreak : isLineBreak c = false) :
    Text.lines (c :: rest) = pushFirst c (Text.lines rest) := by
  rw [Text.lines, if_neg (Bool.not_eq_true _ ▸ hbreak)]
  exact pair_absurd (not_pair_of_other rest hbreak)

/-- The part of a text in front of its first line break. -/
def firstLine (s : Text) : Text :=
  s.takeWhile fun c => !isLineBreak c

/-- The line behind the last break of a text. -/
def lastLine (s : Text) : Text :=
  s.lines.getLast?.getD []

theorem firstLine_break {c : Char} {rest : Text} (hbreak : isLineBreak c = true) :
    firstLine (c :: rest) = [] :=
  List.takeWhile_cons_of_neg (by simp [hbreak])

theorem firstLine_other {c : Char} {rest : Text} (hbreak : isLineBreak c = false) :
    firstLine (c :: rest) = c :: firstLine rest :=
  List.takeWhile_cons_of_pos (by simp [hbreak])

/-- A text has a first line, which is what comes before its first break. -/
theorem lines_eq_cons (s : Text) : s.lines = firstLine s :: s.lines.tail := by
  induction s using breakInduction with
  | nil => rfl
  | pair rest _ => rw [lines_pair]; rfl
  | single c rest hbreak hpair _ =>
      rw [lines_single hbreak hpair, firstLine_break hbreak]
      rfl
  | other c rest hbreak ih =>
      rw [lines_other hbreak, ih, firstLine_other hbreak]
      rfl

theorem lines_ne_nil (s : Text) : s.lines ≠ [] := by
  rw [lines_eq_cons s]
  exact List.cons_ne_nil _ _

theorem lastLine_of_lines {s t : Text} {line : Text} (h : s.lines = line :: t.lines) :
    lastLine s = lastLine t := by
  rw [lastLine, h, lines_eq_cons t, List.getLast?_cons_cons, ← lines_eq_cons t]
  rfl

theorem dropLast_of_lines {s t : Text} {line : Text} (h : s.lines = line :: t.lines) :
    s.lines.dropLast = line :: t.lines.dropLast := by
  rw [h, List.dropLast_cons_of_ne_nil (lines_ne_nil t)]

/-- The lines of two texts put together: the last line of the first and the first line of
    the second become one, and the others stay. -/
theorem lines_append {a b : Text} (h : Unsplit a b) :
    Text.lines (a ++ b) =
      a.lines.dropLast ++ (lastLine a ++ firstLine b) :: b.lines.tail := by
  induction a using breakInduction with
  | nil => exact lines_eq_cons b
  | pair rest ih =>
      have hlines := lines_pair rest
      rw [dropLast_of_lines hlines, lastLine_of_lines hlines, List.cons_append,
        List.cons_append, lines_pair, ih h.tail.tail, List.cons_append]
  | single c rest hbreak hpair ih =>
      have hlines := lines_single hbreak hpair
      rw [dropLast_of_lines hlines, lastLine_of_lines hlines, List.cons_append,
        lines_single hbreak (h.head hpair), ih h.tail, List.cons_append]
  | other c rest hbreak ih =>
      rw [List.cons_append, lines_other hbreak, ih h.tail, lines_other hbreak, lastLine,
        lastLine, lines_other hbreak]
      -- The character goes into the line that is cut exactly when there is only one.
      rcases rest.lines with _ | ⟨line, _ | ⟨next, lines⟩⟩
      · rfl
      · rfl
      · rfl

theorem Unbroken.unsplit {b : Text} (h : Unbroken b) (a : Text) : Unsplit a b := by
  refine Unsplit.of_head (fun hhead => ?_)
  have hfeed : isLineBreak '\n' = false := h '\n' (List.mem_of_mem_head? hhead)
  exact absurd hfeed (by decide)

/-- The line feed of a pair could only be the end of the first text. -/
theorem Unbroken.unsplit_append {b : Text} (h : Unbroken b) (hb : b ≠ []) (a rest : Text) :
    Unsplit (a ++ b) rest := by
  refine Unsplit.of_getLast (fun hlast => ?_)
  rw [List.getLast?_append, List.getLast?_eq_some_getLast hb, Option.some_or,
    Option.some.injEq] at hlast
  have hreturn := h (b.getLast hb) (List.getLast_mem hb)
  rw [hlast] at hreturn
  exact absurd hreturn (by decide)

theorem unbroken_firstLine (s : Text) : Unbroken (firstLine s) := by
  intro c hc
  have hnot := List.all_eq_true.mp List.all_takeWhile c hc
  exact Bool.not_eq_true' _ ▸ hnot

/-- Every line of a text is without line breaks. -/
theorem unbroken_of_mem_lines {s line : Text} (h : line ∈ s.lines) : Unbroken line := by
  induction s using breakInduction generalizing line with
  | nil =>
      obtain rfl := List.mem_singleton.mp h
      exact unbroken_nil
  | pair rest ih =>
      rw [lines_pair] at h
      rcases List.mem_cons.mp h with rfl | h
      · exact unbroken_nil
      · exact ih h
  | single c rest hbreak hpair ih =>
      rw [lines_single hbreak hpair] at h
      rcases List.mem_cons.mp h with rfl | h
      · exact unbroken_nil
      · exact ih h
  | other c rest hbreak ih =>
      rw [lines_other hbreak, lines_eq_cons rest] at h
      rcases List.mem_cons.mp h with rfl | h
      · exact Unbroken.cons hbreak (unbroken_firstLine rest)
      · exact ih (List.mem_of_mem_tail h)

theorem unbroken_lastLine (s : Text) : Unbroken (lastLine s) := by
  have hlast : s.lines.getLast (lines_ne_nil s) ∈ s.lines := List.getLast_mem _
  rw [lastLine, List.getLast?_eq_some_getLast (lines_ne_nil s)]
  exact unbroken_of_mem_lines hlast

theorem firstLine_of_unbroken {s : Text} (h : Unbroken s) : firstLine s = s := by
  induction s with
  | nil => rfl
  | cons c rest ih =>
      rw [firstLine_other (h c List.mem_cons_self), ih h.tail]

/-- What is in front of all breaks is on the first line. -/
theorem firstLine_append {a : Text} (h : Unbroken a) (b : Text) :
    firstLine (a ++ b) = a ++ firstLine b := by
  refine List.takeWhile_append_of_pos fun c hc => ?_
  rw [h c hc, Bool.not_false]

theorem firstLine_prefix {a b : Text} (h : a <+: b) : firstLine a <+: firstLine b := by
  rcases h with ⟨tail, rfl⟩
  rw [firstLine, firstLine, List.takeWhile_append]
  split
  case isTrue hall =>
    rw [(List.takeWhile_prefix _).eq_of_length hall]
    exact List.prefix_append a _
  case isFalse => exact List.prefix_rfl

/-- A text is one line exactly if it has no line break. -/
theorem tail_lines_eq_nil (s : Text) : s.lines.tail = [] ↔ Unbroken s := by
  induction s using breakInduction with
  | nil => exact ⟨fun _ => unbroken_nil, fun _ => rfl⟩
  | pair rest _ =>
      rw [lines_pair]
      exact ⟨fun h => absurd h (lines_ne_nil rest),
        fun h => absurd h (not_unbroken_of_break _ (by decide))⟩
  | single c rest hbreak hpair _ =>
      rw [lines_single hbreak hpair]
      exact ⟨fun h => absurd h (lines_ne_nil rest),
        fun h => absurd h (not_unbroken_of_break rest hbreak)⟩
  | other c rest hbreak ih =>
      -- The character goes into the first line, so there are as many lines as before.
      rw [lines_other hbreak, lines_eq_cons rest]
      exact ih.trans ⟨Unbroken.cons hbreak, Unbroken.tail⟩

theorem lines_of_unbroken {s : Text} (h : Unbroken s) : s.lines = [s] := by
  rw [lines_eq_cons, firstLine_of_unbroken h, (tail_lines_eq_nil s).mpr h]

theorem length_lines_append {a b : Text} (h : Unsplit a b) :
    (Text.lines (a ++ b)).length + 1 = a.lines.length + b.lines.length := by
  have ha := List.length_pos_iff.mpr (lines_ne_nil a)
  have hb := congrArg List.length (lines_eq_cons b)
  rw [lines_append h, List.length_append, List.length_dropLast, List.length_cons]
  rw [List.length_cons] at hb
  omega

/-- Each line but the first is opened by a break. -/
theorem length_lines_le (s : Text) : s.lines.length ≤ s.length + 1 := by
  induction s using breakInduction with
  | nil => exact Nat.le_refl 1
  | pair rest ih =>
      rw [lines_pair, List.length_cons, List.length_cons, List.length_cons]
      omega
  | single c rest hbreak hpair ih =>
      rw [lines_single hbreak hpair, List.length_cons, List.length_cons]
      omega
  | other c rest hbreak ih =>
      rw [lines_other hbreak, lines_eq_cons rest, List.length_cons]
      rw [lines_eq_cons rest, List.length_cons] at ih
      exact Nat.le_succ_of_le ih

theorem lastLine_append_unbroken (a : Text) {b : Text} (h : Unbroken b) :
    lastLine (a ++ b) = lastLine a ++ b := by
  rw [lastLine, lines_append (h.unsplit a), firstLine_of_unbroken h,
    (tail_lines_eq_nil b).mpr h, List.getLast?_concat]
  rfl

theorem lastLine_append_broken {a b : Text} (h : Unsplit a b) (hb : ¬Unbroken b) :
    lastLine (a ++ b) = lastLine b := by
  -- The last line is among those behind the border.
  have htail : b.lines.tail ≠ [] := fun hnil => hb ((tail_lines_eq_nil b).mp hnil)
  rw [lastLine, lastLine, lines_append h, lines_eq_cons b, List.tail_cons]
  rcases List.exists_cons_of_ne_nil htail with ⟨line, lines, hlines⟩
  rw [hlines, List.getLast?_append, List.getLast?_cons_cons, List.getLast?_cons_cons,
    List.getLast?_eq_some_getLast (List.cons_ne_nil _ _), Option.some_or]

/-- The line that a cut is in: what is left of it in front, and what is left behind. -/
theorem getElem?_lines_append {a b : Text} (h : Unsplit a b) :
    (Text.lines (a ++ b))[a.lines.length - 1]? = some (lastLine a ++ firstLine b) := by
  rw [lines_append h, ← List.length_dropLast, List.getElem?_append_right (Nat.le_refl _),
    Nat.sub_self]
  rfl

/-- What comes in front of the last break does not count for the last line. -/
theorem takeWhile_reverse_cons {c : Char} {rest : Text}
    (h : isLineBreak c = true ∨ ¬Unbroken rest) :
    ((c :: rest).reverse.takeWhile fun d => !isLineBreak d) =
      rest.reverse.takeWhile fun d => !isLineBreak d := by
  rw [List.reverse_cons, List.takeWhile_append]
  split
  case isFalse => rfl
  case isTrue hall =>
    -- The run from the end goes through everything behind the character.
    have hrest := (List.takeWhile_prefix _).eq_of_length hall
    have hunbroken : Unbroken rest := fun d hd =>
      unbroken_firstLine rest.reverse d (by rw [firstLine, hrest]; exact List.mem_reverse.mpr hd)
    rcases h with hbreak | hbroken
    · rw [List.takeWhile_cons_of_neg (by simp [hbreak]), List.append_nil, hrest]
    · exact absurd hunbroken hbroken

/-- The two ways to find the last line agree. -/
theorem length_lastLine (s : Text) :
    (lastLine s).length = (s.reverse.takeWhile fun c => !isLineBreak c).length := by
  induction s using breakInduction with
  | nil => rfl
  | pair rest ih =>
      rw [lastLine_of_lines (lines_pair rest), ih, takeWhile_reverse_cons (Or.inl (by decide)),
        takeWhile_reverse_cons (Or.inl (by decide))]
  | single c rest hbreak hpair ih =>
      rw [lastLine_of_lines (lines_single hbreak hpair), ih,
        takeWhile_reverse_cons (Or.inl hbreak)]
  | other c rest hbreak ih =>
      by_cases hrest : Unbroken rest
      · -- Without a break the whole text is the last line, from both ends.
        have hall : Unbroken (c :: rest) := Unbroken.cons hbreak hrest
        have hreverse : Unbroken (c :: rest).reverse := fun d hd => hall d (List.mem_reverse.mp hd)
        rw [lastLine, lines_of_unbroken hall, ← firstLine, firstLine_of_unbroken hreverse,
          List.length_reverse]
        rfl
      · -- Otherwise the character is in front of a break, which hides it.
        have hunsplit : Unsplit [c] rest :=
          (unbroken_nil.cons hbreak).unsplit_append (List.cons_ne_nil c []) [] rest
        rw [takeWhile_reverse_cons (Or.inr hrest), ← ih,
          ← lastLine_append_broken hunsplit hrest]
        rfl

theorem length_lastLine_le (s : Text) : (lastLine s).length ≤ s.length := by
  have hle := (List.takeWhile_prefix (fun c => !isLineBreak c) (l := s.reverse)).length_le
  rw [List.length_reverse] at hle
  rw [length_lastLine]
  exact hle

end RiddlEditor
