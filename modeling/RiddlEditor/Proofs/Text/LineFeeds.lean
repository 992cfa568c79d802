import RiddlEditor.Proofs.Text.Lines

/-!
# Line endings

An editor on one system ends a line with a line feed, on another one with a carriage return or
with the pair of both. `Text.withLineFeeds` writes a text with line feeds alone. The text has
the same lines after that, and nothing else of it changes.

A pair becomes shorter, so the offsets behind it move. What is in front of a cut and what is
behind it are written anew on their own as long as the cut does not part a pair
(`withLineFeeds_append`), so an offset moves to the length of what is in front of it
(`Text.movedOffset`).

## Main definitions

* `Text.mergePairs`: A text with each pair written as a line feed.
* `Text.movedOffset`: Where an offset of a text is when it is written with line feeds.

## Theorems

* `withLineFeeds_eq_map_mergePairs`: The pairs can be written first.
* `lines_withLineFeeds`: The lines of a text stay.
* `withLineFeeds_append`: Two texts put together.
* `withLineFeeds_of_unbroken`: A text without line breaks stays.
* `firstLine_withLineFeeds`, `lastLine_withLineFeeds`: The lines at the borders of a text stay.
-/

namespace RiddlEditor

/-- A text with each pair written as a line feed. A carriage return alone stays. -/
def Text.mergePairs : Text → Text
  | [] => []
  | '\r' :: '\n' :: rest => '\n' :: mergePairs rest
  | c :: rest => c :: mergePairs rest

theorem withLineFeeds_pair (rest : Text) :
    Text.withLineFeeds ('\r' :: '\n' :: rest) = '\n' :: rest.withLineFeeds := by
  rw [Text.withLineFeeds]

theorem withLineFeeds_cons {c : Char} {rest : Text}
    (hpair : ¬(c = '\r' ∧ rest.head? = some '\n')) :
    Text.withLineFeeds (c :: rest) = (if c = '\r' then '\n' else c) :: rest.withLineFeeds := by
  rw [Text.withLineFeeds]
  exact pair_absurd hpair

/-- A text is written with line feeds in two steps as well: first all pairs, and then the
    carriage returns that are left. -/
theorem withLineFeeds_eq_map_mergePairs (s : Text) :
    s.withLineFeeds = s.mergePairs.map fun c => if c = '\r' then '\n' else c := by
  induction s using Text.mergePairs.induct with
  | case1 => rfl
  | case2 rest ih =>
      rw [withLineFeeds_pair, Text.mergePairs, List.map_cons, ih]
      rfl
  | case3 c rest hpair ih =>
      rw [Text.withLineFeeds.eq_3 c rest hpair, Text.mergePairs.eq_3 c rest hpair, List.map_cons,
        ih]

theorem withLineFeeds_single {c : Char} {rest : Text} (hbreak : isLineBreak c = true)
    (hpair : ¬(c = '\r' ∧ rest.head? = some '\n')) :
    Text.withLineFeeds (c :: rest) = '\n' :: rest.withLineFeeds := by
  rw [withLineFeeds_cons hpair]
  rcases isLineBreak_iff.mp hbreak with rfl | rfl <;> rfl

theorem withLineFeeds_other {c : Char} {rest : Text} (hbreak : isLineBreak c = false) :
    Text.withLineFeeds (c :: rest) = c :: rest.withLineFeeds := by
  have hreturn : c ≠ '\r' := by
    rintro rfl
    exact absurd hbreak (by decide)
  rw [withLineFeeds_cons (not_pair_of_other rest hbreak), if_neg hreturn]

/-- A line feed at the start of a text is one break. -/
theorem lines_feed (rest : Text) : Text.lines ('\n' :: rest) = [] :: rest.lines :=
  lines_single (by decide) (fun h => absurd h.1 (by decide))

/-- The lines of a text stay. -/
theorem lines_withLineFeeds (s : Text) : s.withLineFeeds.lines = s.lines := by
  induction s using breakInduction with
  | nil => rfl
  | pair rest ih => rw [withLineFeeds_pair, lines_feed, lines_pair, ih]
  | single c rest hbreak hpair ih =>
      rw [withLineFeeds_single hbreak hpair, lines_feed, lines_single hbreak hpair, ih]
  | other c rest hbreak ih =>
      rw [withLineFeeds_other hbreak, lines_other hbreak, lines_other hbreak, ih]

theorem firstLine_withLineFeeds (s : Text) : firstLine s.withLineFeeds = firstLine s := by
  have hlines := lines_withLineFeeds s
  rw [lines_eq_cons, lines_eq_cons s] at hlines
  exact (List.cons.inj hlines).1

theorem lastLine_withLineFeeds (s : Text) : lastLine s.withLineFeeds = lastLine s := by
  rw [lastLine, lines_withLineFeeds, lastLine]

/-- Two texts put together, with their border not in the middle of a pair. -/
theorem withLineFeeds_append {a b : Text} (h : Unsplit a b) :
    Text.withLineFeeds (a ++ b) = a.withLineFeeds ++ b.withLineFeeds := by
  induction a using breakInduction with
  | nil => rfl
  | pair rest ih =>
      rw [List.cons_append, List.cons_append, withLineFeeds_pair, withLineFeeds_pair,
        ih h.tail.tail, List.cons_append]
  | single c rest hbreak hpair ih =>
      rw [List.cons_append, withLineFeeds_single hbreak (h.head hpair),
        withLineFeeds_single hbreak hpair, ih h.tail, List.cons_append]
  | other c rest hbreak ih =>
      rw [List.cons_append, withLineFeeds_other hbreak, withLineFeeds_other hbreak, ih h.tail,
        List.cons_append]

/-- A text without line breaks stays. -/
theorem withLineFeeds_of_unbroken {s : Text} (h : Unbroken s) : s.withLineFeeds = s := by
  induction s with
  | nil => rfl
  | cons c rest ih => rw [withLineFeeds_other (h c List.mem_cons_self), ih h.tail]

/-- Where an offset of a text is when the text is written with line feeds: as far from the
    start as what is in front of it. -/
def Text.movedOffset (s : Text) (offset : Nat) : Nat :=
  (Text.withLineFeeds (s.take offset)).length

theorem movedOffset_append (front rest : Text) :
    Text.movedOffset (front ++ rest) front.length = front.withLineFeeds.length := by
  rw [Text.movedOffset, List.take_left]

theorem movedOffset_length (s : Text) : s.movedOffset s.length = s.withLineFeeds.length := by
  rw [Text.movedOffset, List.take_length]

/-- A pair counts as one character. -/
theorem movedOffset_pair (rest : Text) (n : Nat) :
    Text.movedOffset ('\r' :: '\n' :: rest) (n + 2) = rest.movedOffset n + 1 := by
  rw [Text.movedOffset, List.take_succ_cons, List.take_succ_cons, withLineFeeds_pair]
  rfl

/-- So does a character that starts no pair. -/
theorem movedOffset_cons {c : Char} {rest : Text}
    (hpair : ¬(c = '\r' ∧ rest.head? = some '\n')) (n : Nat) :
    Text.movedOffset (c :: rest) (n + 1) = rest.movedOffset n + 1 := by
  have hfront : ¬(c = '\r' ∧ (rest.take n).head? = some '\n') := by
    rintro ⟨hc, hhead⟩
    rw [List.head?_take] at hhead
    split at hhead
    case isTrue => exact absurd hhead (Option.some_ne_none _).symm
    case isFalse => exact hpair ⟨hc, hhead⟩
  rw [Text.movedOffset, List.take_succ_cons, withLineFeeds_cons hfront]
  rfl

end RiddlEditor
