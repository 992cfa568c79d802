import RiddlEditor.Proofs.Lexeme.Cover
import RiddlEditor.Proofs.Lexeme.FirstLine

/-!
# Words side by side

A lexeme starts behind the one in front of it and a gap. Between two words there is something
in the gap, since a word goes on as long as it can. If both are on one line, that line has
them one behind the other, with what it has in front of the first and behind the second.

## Main definitions

* `Token.IsWord`: A token that is a word, with the kind that its text has.

## Theorems

* `Lexed.split_adjacent`: Where two lexemes cut their text.
* `isWord_of_kind`: Keywords and names are words.
* `exists_gap_of_adjacent`: Where two words cut their text.
* `exists_line_of_adjacent`: What the line of two words has.
-/

namespace RiddlEditor

/-- Where two lexemes cut their text, one behind the other. -/
theorem Lexed.split_adjacent {before s : Text} {front rest : List Lexeme} {l l' : Lexeme}
    (h : Lexed before s (front ++ l :: l' :: rest)) :
    ∃ left c tail gap c' tail', before ++ s = left ++ c :: tail ∧ isGap c = false ∧
      l = Lexeme.behind left c tail ∧
      tail.drop (readLexeme c tail).more = gap ++ c' :: tail' ∧ (∀ d ∈ gap, isGap d = true) ∧
      l' = Lexeme.behind (left ++ (readLexeme c tail).text c tail ++ gap) c' tail' := by
  induction front generalizing before s with
  | nil =>
      cases h with
      | @next _ gap tail c _ hgap hc hrest =>
          generalize htail : tail.drop (readLexeme c tail).more = behind at hrest
          cases hrest with
          | @next _ gap' tail' c' _ hgap' _ _ =>
              exact ⟨before ++ gap, c, tail, gap', c', tail', (List.append_assoc ..).symm, hc, rfl,
                htail, hgap', rfl⟩
  | cons first front ih =>
      cases h with
      | @next _ gap tail c _ hgap hc hrest =>
          rcases ih hrest with ⟨left, d, tail', gap', d', tail'', hsplit, hfound⟩
          refine ⟨left, d, tail', gap', d', tail'', ?_, hfound⟩
          rw [← hsplit, append_lexeme]

/-! ## Words -/

/-- A token that is a word, with the kind that its text has. -/
structure Token.IsWord (t : Token) : Prop where
  nonempty : t.text ≠ []
  chars : ∀ c ∈ t.text, isWordChar c = true
  kind : t.kind = wordKind t.text

theorem drop_length_takeWhile (p : Char → Bool) (s : Text) :
    s.drop (s.takeWhile p).length = s.dropWhile p := by
  calc s.drop (s.takeWhile p).length
      = (s.takeWhile p ++ s.dropWhile p).drop (s.takeWhile p).length := by
        rw [List.takeWhile_append_dropWhile]
    _ = s.dropWhile p := List.drop_left

/-- How a keyword and what may name a definition are read: as far as there are word
    characters. -/
theorem reads_word {c : Char} {rest : Text} {reading : Reading} (h : Reads c rest reading)
    (hkind : reading.kind = .keyword ∨ reading.kind.isResolvable = true) :
    isWordStart c = true ∧ reading.text c rest = c :: rest.takeWhile isWordChar ∧
      rest.drop reading.more = rest.dropWhile isWordChar ∧
      reading.kind = wordKind (reading.text c rest) := by
  cases h with
  | word rest hstart =>
      have htext : Reading.text ⟨wordKind (c :: rest.takeWhile isWordChar),
          (rest.takeWhile isWordChar).length, none, false⟩ c rest =
            c :: rest.takeWhile isWordChar := by
        rw [Reading.text, take_length_takeWhile]
      exact ⟨hstart, htext, drop_length_takeWhile isWordChar rest, by rw [htext]⟩
  | _ =>
      -- The kind is written in the reading, and it is neither.
      rcases hkind with hkind | hkind
      · exact TokenKind.noConfusion hkind
      · exact absurd hkind Bool.false_ne_true

/-- Keywords and names are words. -/
theorem isWord_of_kind {s : Text} {t : Token} (h : t ∈ lexTokens s)
    (hkind : t.kind = .keyword ∨ t.kind.isResolvable = true) : t.IsWord := by
  rcases split_of_mem_lexTokens h with ⟨front, c, rest, _, _, rfl⟩
  rcases reads_word (reads_readLexeme c rest) hkind with ⟨hstart, htext, _, hword⟩
  refine ⟨List.cons_ne_nil _ _, ?_, hword⟩
  change ∀ d ∈ (readLexeme c rest).text c rest, isWordChar d = true
  rw [htext]
  intro d hd
  rcases List.mem_cons.mp hd with rfl | hd
  · exact isWordChar_of_isWordStart hstart
  · exact List.all_eq_true.mp List.all_takeWhile d hd

theorem isWordChar_of_isGap {c : Char} (h : isGap c = true) : isWordChar c = false := by
  have hgap := isGap_iff.mp h
  simp only [List.mem_cons, List.not_mem_nil, or_false] at hgap
  rcases hgap with rfl | rfl | rfl | rfl | rfl <;> decide

section Adjacent

variable {s : Text} {front rest : List Token} {t u : Token}

/-- Where two words cut their text: there is a gap between them, and the second one goes on as
    long as it can. -/
theorem exists_gap_of_adjacent (h : lexTokens s = front ++ t :: u :: rest)
    (ht : t.kind = .keyword ∨ t.kind.isResolvable = true)
    (hu : u.kind = .keyword ∨ u.kind.isResolvable = true) :
    ∃ left gap right, s = left ++ (t.text ++ (gap ++ (u.text ++ right))) ∧ gap ≠ [] ∧
      (∀ c ∈ gap, isGap c = true) ∧ right.head?.any isWordChar = false ∧
      t.start = (Cursor.behind left).position ∧
      u.start = (Cursor.behind (left ++ (t.text ++ gap))).position := by
  rw [lexTokens] at h
  rcases List.map_eq_append_iff.mp h with ⟨lexemes, tail, hlexemes, _, hfirst⟩
  rcases List.map_eq_cons_iff.mp hfirst with ⟨l, tail, rfl, rfl, hsecond⟩
  rcases List.map_eq_cons_iff.mp hsecond with ⟨l', tail, rfl, rfl, _⟩
  have hlexed := lexed_lexemes s
  rw [hlexemes] at hlexed
  rcases hlexed.split_adjacent with ⟨left, c, tail, gap, c', tail', hs, _, rfl, hbehind, hgap, rfl⟩
  rcases reads_word (reads_readLexeme c tail) ht with ⟨_, _, hdrop, _⟩
  rcases reads_word (reads_readLexeme c' tail') hu with ⟨hstart, _, hdrop', _⟩
  refine ⟨left, gap, tail'.drop (readLexeme c' tail').more, ?_, ?_, hgap, ?_, rfl, ?_⟩
  · -- What the lexemes are cut from is put together again.
    have hwhole (c : Char) (rest : Text) : (readLexeme c rest).text c rest ++
        rest.drop (readLexeme c rest).more = c :: rest := append_lexeme [] [] c rest
    change s = left ++ ((readLexeme c tail).text c tail ++ (gap ++
      ((readLexeme c' tail').text c' tail' ++ tail'.drop (readLexeme c' tail').more)))
    rw [hwhole c' tail', ← hbehind, hwhole c tail]
    exact hs
  · -- Without a gap the first word would go on with the second.
    rintro rfl
    have hnot := head?_dropWhile isWordChar tail
    rw [← hdrop, hbehind] at hnot
    exact Bool.false_ne_true (hnot.symm.trans (isWordChar_of_isWordStart hstart))
  · rw [hdrop']
    exact head?_dropWhile isWordChar tail'
  · rw [← List.append_assoc]
    rfl

/-- What the line of two words has: the first one, a gap, and the second one. -/
theorem exists_line_of_adjacent (h : lexTokens s = front ++ t :: u :: rest)
    (ht : t.kind = .keyword ∨ t.kind.isResolvable = true)
    (hu : u.kind = .keyword ∨ u.kind.isResolvable = true) (hline : u.start.line = t.start.line) :
    ∃ left gap right,
      s.lines[t.start.line]? = some (left ++ (t.text ++ (gap ++ (u.text ++ right)))) ∧
      t.start.column = left.length ∧
      u.start.column = left.length + t.text.length + gap.length ∧
      gap ≠ [] ∧ (∀ c ∈ gap, isWordChar c = false) ∧ right.head?.any isWordChar = false := by
  rcases exists_gap_of_adjacent h ht hu with
    ⟨left, gap, right, hs, hnonempty, hgap, hright, hstart, hstart'⟩
  have htokens : t ∈ lexTokens s ∧ u ∈ lexTokens s := by
    rw [h]
    exact ⟨by simp, by simp⟩
  have hword := isWord_of_kind htokens.1 ht
  have hword' := isWord_of_kind htokens.2 hu
  have hunsplit (more : Text) : Unsplit left (t.text ++ more) := by
    refine Unsplit.of_head fun hhead => ?_
    rcases List.exists_cons_of_ne_nil hword.nonempty with ⟨c, tail, htext⟩
    rw [htext, List.cons_append, List.head?_cons, Option.some.injEq] at hhead
    have hc := hword.chars c (htext ▸ List.mem_cons_self)
    rw [hhead] at hc
    exact absurd hc (by decide)
  rw [Cursor.position_behind] at hstart hstart'
  -- No line ends between the start of the first word and that of the second.
  have hunbroken : Unbroken (t.text ++ gap) := by
    have hlength := length_lines_append (hunsplit gap)
    have hleft := List.length_pos_iff.mpr (lines_ne_nil left)
    rw [hstart, hstart'] at hline
    rw [← tail_lines_eq_nil, ← List.length_eq_zero_iff, List.length_tail]
    simp only at hline
    omega
  have hname : Unbroken u.text := fun c hc =>
    isLineBreak_eq_false (p := isWordChar) (by decide) (by decide) c (hword'.chars c hc)
  refine ⟨lastLine left, gap, firstLine right, ?_, ?_, ?_, hnonempty,
    fun c hc => isWordChar_of_isGap (hgap c hc), ?_⟩
  · rw [hs, hstart, getElem?_lines_append (hunsplit _), ← List.append_assoc t.text,
      firstLine_append hunbroken, firstLine_append hname, List.append_assoc]
  · rw [hstart]
  · rw [hstart', lastLine_append_unbroken left hunbroken, List.length_append, List.length_append,
      Nat.add_assoc]
  · cases hhead : (firstLine right).head? with
    | none => rfl
    | some c =>
        have hc := unbroken_firstLine right c (List.mem_of_mem_head? hhead)
        rw [(head?_firstLine hc right).mp hhead] at hright
        exact hright

end Adjacent

end RiddlEditor
