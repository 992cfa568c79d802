import Mathlib.Data.List.Find
import Mathlib.Data.List.Pairwise
import RiddlEditor.Proofs.Lexeme.Order
import RiddlEditor.Proofs.Text.Cut

/-!
# The token under the cursor

An editor asks for the token at a line and a column. The answer is found by columns: a token
covers as many columns of its first line as it has characters, and nothing else. A block comment
over several lines so claims columns that its first line does not have, and none on its other
lines.

Still the answer is the token that has the character under the cursor, if that token starts on the
line of the cursor. For a position on the line of a token, columns and offsets are the same up to
where the line starts (`spans_iff_offsetOf`), and the offsets of the tokens do not overlap. A
character of a later line of a comment is found by no one, since all tokens that start on its line
are behind the comment.

## Main definitions

* `Token.Covers`: A token has the character at an offset.

## Theorems

* `spans_iff_offsetOf`: On the line of a token, covered columns are covered offsets.
* `start_line_le_of_covers`: A token with a character of a line starts on that line or before.
* `eq_of_covers`, `spans_subsingleton`: One token at most has a character or covers a position.
* `token_under_cursor`: What is found at a position.
-/

namespace RiddlEditor

/-- A token has the character at an offset, by the offsets that it reports. -/
def Token.Covers (t : Token) (offset : Nat) : Prop :=
  ∃ first last : Nat, t.offset = .int first ∧ t.endOffset = .int last ∧ first ≤ offset ∧
    offset < last

theorem covers_toToken {l : Lexeme} {offset : Nat} :
    l.toToken.Covers offset ↔ l.offset ≤ offset ∧ offset < l.stop := by
  constructor
  · rintro ⟨first, last, hfirst, hlast, hcovers⟩
    obtain rfl : l.offset = first := Int.ofNat.inj (Value.int.inj hfirst)
    obtain rfl : l.stop = last := Int.ofNat.inj (Value.int.inj hlast)
    exact hcovers
  · intro hcovers
    exact ⟨l.offset, l.stop, rfl, rfl, hcovers⟩

section Text

variable {s : Text}

/-- On the line of a token, the columns that it covers are the offsets that it covers. -/
theorem spans_iff_offsetOf {t : Token} (ht : t ∈ lexTokens s) {line column : Nat} :
    t.spans line column = true ↔ t.start.line = line ∧ t.Covers (s.offsetOf ⟨line, column⟩) := by
  rcases List.mem_map.mp ht with ⟨l, hl, rfl⟩
  have hoffset := offsetOf_start hl
  have hstop : l.stop = l.offset + l.toToken.length := rfl
  rw [spans_iff, covers_toToken, Int.natCast_inj]
  refine and_congr_right fun hline => ?_
  -- Both count from the start of the same line.
  obtain rfl : l.start.line = line := hline
  change s.lineStart l.start.line + l.start.column = l.offset at hoffset
  change _ ↔ l.offset ≤ s.lineStart l.start.line + column ∧
    s.lineStart l.start.line + column < l.stop
  change ((l.start.column : Int) ≤ column ∧ (column : Int) < l.start.column + _) ↔ _
  omega

/-- A token that has a character of a line starts on that line or on an earlier one. -/
theorem start_line_le_of_covers {t : Token} (ht : t ∈ lexTokens s) {line column : Nat}
    {text : Text} (htext : s.lines[line]? = some text) (hlt : column < text.length)
    (hcovers : t.Covers (s.offsetOf ⟨line, column⟩)) : t.start.line ≤ line := by
  rcases List.mem_map.mp ht with ⟨l, hl, rfl⟩
  by_contra hlater
  have hoffset := offsetOf_start hl
  have hended := lineStart_add_length_le htext (Nat.lt_of_not_le hlater)
  rw [covers_toToken] at hcovers
  -- The token would start behind the end of the line.
  unfold Text.offsetOf at hoffset hcovers
  simp only [Lexeme.toToken] at hended hcovers
  omega

/-- Two tokens that cover one position are the same. -/
theorem spans_subsingleton (s : Text) (line column : Int) :
    {t | t ∈ lexTokens s ∧ t.spans line column = true}.Subsingleton := by
  intro t ht u hu
  have hfound := findTokenAt_eq_some.mpr ht
  rw [findTokenAt_eq_some.mpr hu] at hfound
  exact (Option.some.inj hfound).symm

/-- Of tokens that precede each other in turn and cover one position, there is one at most. -/
theorem length_le_one_of_spans {tokens : List Token} (h : tokens.Pairwise Token.Precedes)
    {line column : Int} (hspans : ∀ t ∈ tokens, t.spans line column = true) :
    tokens.length ≤ 1 := by
  rcases tokens with _ | ⟨t, _ | ⟨u, more⟩⟩
  · exact Nat.zero_le 1
  · exact Nat.le_refl 1
  · -- The first one has ended where the second one starts.
    have hprecedes := List.rel_of_pairwise_cons h List.mem_cons_self
    have ht := spans_iff.mp (hspans t List.mem_cons_self)
    have hu := spans_iff.mp (hspans u (List.mem_cons_of_mem t List.mem_cons_self))
    simp only [Token.Precedes] at hprecedes
    omega

/-- One token at most has the character at an offset. -/
theorem eq_of_covers {t u : Token} (ht : t ∈ lexTokens s) (hu : u ∈ lexTokens s) {offset : Nat}
    (hcovers : t.Covers offset) (hcovers' : u.Covers offset) : t = u := by
  rcases List.mem_map.mp ht with ⟨l, hl, rfl⟩
  rcases List.mem_map.mp hu with ⟨l', hl', rfl⟩
  rw [covers_toToken] at hcovers hcovers'
  -- Of two lexemes, one has ended when the other one starts.
  have hsymm : Std.Symm fun l l' : Lexeme => l.stop ≤ l'.offset ∨ l'.stop ≤ l.offset :=
    ⟨fun _ _ h => h.symm⟩
  have happart : (lexemes s).Pairwise fun l l' => l.stop ≤ l'.offset ∨ l'.stop ≤ l.offset :=
    (lexed_lexemes s).pairwise.imp fun h => Or.inl h
  by_contra hne
  have hended := happart.forall hl hl' fun heq => hne (congrArg Lexeme.toToken heq)
  omega

/-- What is found at a position of a text. -/
theorem findTokenAt_eq_some_iff_covers {t : Token} {line column : Nat} :
    findTokenAt (lexTokens s) line column = some t ↔
      t ∈ lexTokens s ∧ t.Covers (s.offsetOf ⟨line, column⟩) ∧ t.start.line = line := by
  rw [findTokenAt_eq_some]
  refine and_congr_right fun ht => ?_
  rw [spans_iff_offsetOf ht]
  exact and_comm

end Text

/-- The token that is found at a position of a text is the one with the character that stands
    there, if it starts on that line. Nothing is found if no token has the character, or if the
    token that has it started on an earlier line. Whatever the position is, one token at most
    covers it, so the order in which the tokens are looked through does not matter. -/
theorem token_under_cursor (s : Text) :
    (∀ (line column : Nat) (text : Text), (Lines.ofText s).line? line = .ok text →
      column < text.length →
      let offset := s.offsetOf ⟨line, column⟩
      positionOf s offset = (line, (column : Int)) ∧ s[offset]? = text[column]? ∧
      (∀ t, findTokenAt (lexTokens s) line column = some t ↔
        t ∈ lexTokens s ∧ t.Covers offset ∧ t.start.line = line) ∧
      (findTokenAt (lexTokens s) line column = none ↔
        (∀ t ∈ lexTokens s, ¬t.Covers offset) ∨
          ∃ t ∈ lexTokens s, t.Covers offset ∧ t.start.line < line)) ∧
    ∀ line column : Int,
      ((lexTokens s).filter fun t => t.spans line column).length ≤ 1 ∧
      ∀ tokens, tokens.Perm (lexTokens s) →
        findTokenAt tokens line column = findTokenAt (lexTokens s) line column := by
  refine ⟨fun line column text hline hlt => ?_, fun line column => ⟨?_, fun tokens hperm => ?_⟩⟩
  · intro offset
    have htext := getElem?_of_line? hline
    refine ⟨positionOf_offsetOf htext (Nat.le_of_lt hlt), getElem?_offsetOf htext hlt,
      fun t => findTokenAt_eq_some_iff_covers, fun hnone => ?_, fun hcovered => ?_⟩
    · by_cases hcovered : ∃ t ∈ lexTokens s, t.Covers offset
      · rcases hcovered with ⟨t, ht, hcovers⟩
        have hle := start_line_le_of_covers ht htext hlt hcovers
        refine Or.inr ⟨t, ht, hcovers, Nat.lt_of_le_of_ne hle fun heq => ?_⟩
        -- On the line of the cursor the token would have been found.
        have hfound := findTokenAt_eq_some_iff_covers.mpr ⟨ht, hcovers, heq⟩
        exact nomatch hnone.symm.trans hfound
      · exact Or.inl fun t ht hcovers => hcovered ⟨t, ht, hcovers⟩
    · by_contra hsome
      rcases Option.ne_none_iff_exists'.mp hsome with ⟨u, hu⟩
      rcases findTokenAt_eq_some_iff_covers.mp hu with ⟨hmem, hcovers, hline⟩
      rcases hcovered with hnone | ⟨t, ht, hcovers', hearlier⟩
      · exact hnone u hmem hcovers
      · rw [eq_of_covers ht hmem hcovers' hcovers, hline] at hearlier
        exact absurd hearlier (Nat.lt_irrefl line)
  · exact length_le_one_of_spans ((lexTokens_precedes s).filter _)
      fun t ht => (List.mem_filter.mp ht).2
  · refine (List.find?_eq_find?_of_perm hperm.symm ?_).symm
    exact spans_subsingleton s line column

/-- At the start of the second line of a comment nothing is found, although the comment has the
    character. -/
theorem no_token_inside_comment :
    let s : Text := "/*\n*/x".toList
    (Lines.ofText s).line? 1 = .ok "*/x".toList ∧
      (∃ t ∈ lexTokens s, t.Covers (s.offsetOf ⟨1, 0⟩) ∧ t.start.line < 1) ∧
      findTokenAt (lexTokens s) 1 0 = none := by
  intro s
  have hline : (Lines.ofText s).line? 1 = .ok "*/x".toList := rfl
  have hcomment : ∃ l ∈ lexemes s, (l.offset ≤ s.offsetOf ⟨1, 0⟩ ∧ s.offsetOf ⟨1, 0⟩ < l.stop) ∧
      l.start.line < 1 := by decide +kernel
  rcases hcomment with ⟨l, hl, hcovers, hearlier⟩
  have htoken : ∃ t ∈ lexTokens s, t.Covers (s.offsetOf ⟨1, 0⟩) ∧ t.start.line < 1 :=
    ⟨l.toToken, List.mem_map_of_mem hl, covers_toToken.mpr hcovers, hearlier⟩
  rcases (token_under_cursor s).1 1 0 "*/x".toList hline (by decide) with ⟨_, _, _, hiff⟩
  exact ⟨hline, htoken, hiff.mpr (Or.inr htoken)⟩

end RiddlEditor
