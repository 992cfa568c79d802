import Mathlib.Data.List.Forall2
import RiddlEditor.Proofs.Lexeme.Order

/-!
# Nothing is lost between tokens

A text is its tokens with blanks in between. The offsets that a token reports are where it
was cut out of the text, so the text can be put together again: what lies between the end of
one token and the start of the next is blank, and so is what lies in front of the first token
and behind the last.

`Lexed` already says this of the lexemes in its own way, by what it reads one after the
other. Here it is said of the offsets alone, for anyone who has nothing but the text and the
tokens.

## Main definitions

* `Lexeme.span`: The offsets that a lexeme lies between.
* `uncovered`: What a text has outside of some spans.
* `Token.CutFrom`: A token is what a text has between two offsets.

## Theorems

* `Lexed.interleave`: The lexemes and what lies between them make up the text.
* `Lexed.blank_of_uncovered`: What lies between the lexemes is blank.
* `Lexed.blank_of_outside`: A character outside of all lexemes is blank.
* `cutFrom_span`: A token is what its text has between the offsets of the token.
* `tokens_cover_text`: The tokens and the blanks between them make up the text.
-/

namespace RiddlEditor

/-- The offsets that a lexeme lies between. -/
def Lexeme.span (l : Lexeme) : Nat × Nat :=
  (l.offset, l.stop)

/-- What a text has outside of some spans, from an offset on: the stretch in front of each
    span, and the one behind the last. -/
def uncovered (s : Text) (reached : Nat) : List (Nat × Nat) → List Text
  | [] => [s.drop reached]
  | (start, stop) :: spans => (s.take start).drop reached :: uncovered s stop spans

theorem isGap_iff {c : Char} : isGap c = true ↔ c ∈ [' ', '\t', '\n', '\r', '\x0c'] := by
  simp only [isGap, Bool.or_eq_true, beq_iff_eq, List.mem_cons, List.not_mem_nil, or_false,
    or_assoc]

theorem drop_take_gap (before gap rest : Text) :
    ((before ++ (gap ++ rest)).take (before ++ gap).length).drop before.length = gap := by
  rw [← List.append_assoc, List.take_left, List.drop_left]

/-- What has been read of a text and what is left of it, behind one more lexeme. -/
theorem append_lexeme (before gap : Text) (c : Char) (rest : Text) :
    before ++ gap ++ (readLexeme c rest).text c rest ++ rest.drop (readLexeme c rest).more =
      before ++ (gap ++ c :: rest) := by
  rw [List.append_assoc, List.append_assoc, Reading.text, List.cons_append,
    List.take_append_drop]

/-- The lexeme behind a gap ends where the text behind it starts. -/
theorem stop_behind (before gap : Text) (c : Char) (rest : Text) :
    (Lexeme.behind (before ++ gap) c rest).stop =
      (before ++ gap ++ (readLexeme c rest).text c rest).length := by
  rw [List.length_append]
  rfl

/-- The stretches of a text that starts with a gap and a lexeme: the gap, and those behind
    the lexeme. -/
theorem uncovered_next (before gap : Text) (c : Char) (rest : Text) (lexemes : List Lexeme) :
    uncovered (before ++ (gap ++ c :: rest)) before.length
        ((Lexeme.behind (before ++ gap) c rest :: lexemes).map Lexeme.span) =
      gap :: uncovered (before ++ gap ++ (readLexeme c rest).text c rest ++
          rest.drop (readLexeme c rest).more)
        (before ++ gap ++ (readLexeme c rest).text c rest).length (lexemes.map Lexeme.span) := by
  have hgap : ((before ++ (gap ++ c :: rest)).take
      (Lexeme.behind (before ++ gap) c rest).offset).drop before.length = gap :=
    drop_take_gap before gap (c :: rest)
  rw [List.map_cons, Lexeme.span, uncovered, hgap, stop_behind, append_lexeme]

/-- The lexemes and what lies between them make up the text. -/
theorem Lexed.interleave {before s : Text} {lexemes : List Lexeme} (h : Lexed before s lexemes) :
    Text.interleave (uncovered (before ++ s) before.length (lexemes.map Lexeme.span))
      (lexemes.map Lexeme.text) = s := by
  induction h with
  | @done before gap hgap =>
      rw [List.map_nil, List.map_nil, uncovered, List.drop_left]
      exact List.append_nil gap
  | @next before gap rest c lexemes hgap hc hrest ih =>
      -- The gap and the lexeme come first, and the rest is put together already.
      rw [uncovered_next, List.map_cons, Text.interleave, ih, List.append_assoc]
      refine congrArg (gap ++ ·) ?_
      exact congrArg (c :: ·) (List.take_append_drop (readLexeme c rest).more rest)

/-- What lies between the lexemes is blank. -/
theorem Lexed.blank_of_uncovered {before s : Text} {lexemes : List Lexeme}
    (h : Lexed before s lexemes) {gap : Text}
    (hmem : gap ∈ uncovered (before ++ s) before.length (lexemes.map Lexeme.span)) :
    ∀ c ∈ gap, isGap c = true := by
  induction h with
  | @done before gap' hgap =>
      rw [List.map_nil, uncovered, List.drop_left, List.mem_singleton] at hmem
      rw [hmem]
      exact hgap
  | @next before gap' rest c lexemes hgap hc hrest ih =>
      rw [uncovered_next] at hmem
      rcases List.mem_cons.mp hmem with rfl | hmem
      · exact hgap
      · exact ih hmem

/-- A character outside of all lexemes is blank. -/
theorem Lexed.blank_of_outside {before s : Text} {lexemes : List Lexeme}
    (h : Lexed before s lexemes) {i : Nat} {d : Char} (hle : before.length ≤ i)
    (hd : (before ++ s)[i]? = some d)
    (houtside : ∀ l ∈ lexemes, ¬(l.offset ≤ i ∧ i < l.stop)) : isGap d = true := by
  induction h with
  | @done before gap hgap =>
      rw [List.getElem?_append_right hle] at hd
      exact hgap d (List.mem_of_getElem? hd)
  | @next before gap rest c lexemes hgap hc hrest ih =>
      let first := Lexeme.behind (before ++ gap) c rest
      have hfirst : ¬((before ++ gap).length ≤ i ∧ i < first.stop) :=
        houtside first List.mem_cons_self
      by_cases hin : i < (before ++ gap).length
      · -- The gap comes before the lexeme.
        rw [← List.append_assoc, List.getElem?_append_left hin,
          List.getElem?_append_right hle] at hd
        exact hgap d (List.mem_of_getElem? hd)
      · -- The lexeme does not cover the character, so it is behind it.
        have hstop : first.stop = _ := stop_behind before gap c rest
        rw [← append_lexeme] at hd
        refine ih ?_ hd (fun l hl => houtside l (List.mem_cons_of_mem first hl))
        rw [← hstop]
        omega

/-- A token is what a text has between two offsets, and it reports these offsets. -/
structure Token.CutFrom (s : Text) (t : Token) (span : Nat × Nat) : Prop where
  offset : t.offset = .int span.1
  endOffset : t.endOffset = .int span.2
  nonempty : t.text ≠ []
  inside : span.2 ≤ s.length
  text : s.extract span.1 span.2 = t.text
  length : (t.length : Int) = (span.2 : Int) - span.1

/-- A token is what its text has between the offsets of the token. -/
theorem cutFrom_span {s : Text} {l : Lexeme} (h : l ∈ lexemes s) :
    l.toToken.CutFrom s l.span := by
  rcases split_of_mem_lexemes h with ⟨front, c, rest, rfl, _, rfl⟩
  let text := (readLexeme c rest).text c rest
  have htext : text <+: c :: rest := Reading.isPrefix_text _ c rest
  have hlength := htext.length_le
  refine ⟨rfl, rfl, List.cons_ne_nil c _, ?_, ?_, ?_⟩
  · rw [List.length_append]
    exact Nat.add_le_add_left hlength front.length
  · -- Behind what is in front of the lexeme comes its text.
    change ((front ++ c :: rest).drop front.length).take
      (front.length + text.length - front.length) = text
    rw [List.drop_left, Nat.add_sub_cancel_left]
    exact (List.prefix_iff_eq_take.mp htext).symm
  · change (text.length : Int) = ((front.length + text.length : Nat) : Int) - front.length
    omega

/-- A text is its tokens with blanks in between. Each token is what the text has between the
    offsets that it reports, it is not empty, and it ends before the next one starts; a
    character that no token covers is blank. So the tokens and the blanks between them give
    the text back, and the positions of the tokens increase. -/
theorem tokens_cover_text (s : Text) :
    ∃ spans : List (Nat × Nat),
      List.Forall₂ (Token.CutFrom s) (lexTokens s) spans ∧
      spans.Pairwise (fun a b => a.2 ≤ b.1) ∧
      (∀ (i : Nat) (c : Char), s[i]? = some c →
        (∀ span ∈ spans, ¬(span.1 ≤ i ∧ i < span.2)) → c ∈ [' ', '\t', '\n', '\r', '\x0c']) ∧
      Text.interleave (uncovered s 0 spans) ((lexTokens s).map Token.text) = s ∧
      (∀ gap ∈ uncovered s 0 spans, ∀ c ∈ gap, c ∈ [' ', '\t', '\n', '\r', '\x0c']) ∧
      (lexTokens s).Pairwise fun a b => a.start < b.start := by
  have hlexed := lexed_lexemes s
  have htexts : (lexTokens s).map Token.text = (lexemes s).map Lexeme.text := List.map_map
  refine ⟨(lexemes s).map Lexeme.span, ?_, ?_, ?_, ?_, ?_, lexTokens_starts_increase s⟩
  · rw [lexTokens, List.forall₂_map_left_iff, List.forall₂_map_right_iff, List.forall₂_same]
    exact fun l hl => cutFrom_span hl
  · rw [List.pairwise_map]
    exact hlexed.pairwise
  · intro i c hc houtside
    refine isGap_iff.mp (hlexed.blank_of_outside (Nat.zero_le i) hc (fun l hl => ?_))
    exact houtside l.span (List.mem_map_of_mem hl)
  · rw [htexts]
    exact hlexed.interleave
  · intro gap hgap c hc
    exact isGap_iff.mp (hlexed.blank_of_uncovered hgap c hc)

end RiddlEditor
