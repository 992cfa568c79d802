import RiddlEditor.Client.Encoding
import RiddlEditor.Proofs.Text.Lines

/-!
# Positions there and back

A client counts the units of an encoding where an editor counts characters, and it splits a
document at more characters. The first difference does no harm: the units of a part of a line
lead back to the characters of that part (`reach_width`). The second one does: behind a
character that ends a line for the client alone, all lines have other numbers there, and a
position is converted on the wrong line.

So a position comes back as long as the text in front of it has no such character
(`PlainBreaks`). What comes behind the position does not matter, for both sides agree on the
line up to there.

## Main definitions

* `PlainBreaks`: A text in which only line breaks end a line of a client.

## Theorems

* `reach_width`: The units of the front of a line lead back to its characters.
* `clientLines_append`: The line of a client that a cut is in.
* `toClient_cut`, `fromClient_cut`: The place of a cut, for a client and back.
-/

namespace RiddlEditor

namespace Encoding

theorem units_pos (e : Encoding) (c : Char) : 0 < e.units c := by
  cases e with
  | utf8 =>
      simp only [units]
      split
      · decide
      · split
        · decide
        · split <;> decide
  | utf16 =>
      simp only [units]
      split <;> decide
  | utf32 => exact Nat.one_pos

theorem width_append (e : Encoding) (s t : Text) : e.width (s ++ t) = e.width s + e.width t := by
  induction s with
  | nil => rw [List.nil_append, width, Nat.zero_add]
  | cons c rest ih => rw [List.cons_append, width, width, ih, Nat.add_assoc]

theorem reach_cons (e : Encoding) {n : Nat} (hn : 0 < n) (c : Char) (rest : Text) :
    e.reach n (c :: rest) = e.reach (n - e.units c) rest + 1 := by
  obtain ⟨m, rfl⟩ := Nat.exists_eq_succ_of_ne_zero (Nat.ne_of_gt hn)
  rw [reach]

/-- The units of the front of a line lead back to its characters. -/
theorem reach_width (e : Encoding) (s t : Text) : e.reach (e.width s) (s ++ t) = s.length := by
  induction s with
  | nil => rw [width, reach, List.length_nil]
  | cons c rest ih =>
      have hpos := e.units_pos c
      rw [width, List.cons_append, reach_cons e (by omega), Nat.add_sub_cancel_left, ih,
        List.length_cons]

end Encoding

/-- A text in which only line breaks end a line of a client. -/
def PlainBreaks (s : Text) : Prop :=
  ∀ c ∈ s, isClientBreak c = true → isLineBreak c = true

instance (s : Text) : Decidable (PlainBreaks s) :=
  List.decidableBAll (fun c => isClientBreak c = true → isLineBreak c = true) s

theorem PlainBreaks.tail {c : Char} {rest : Text} (h : PlainBreaks (c :: rest)) :
    PlainBreaks rest :=
  fun d hd => h d (List.mem_cons_of_mem c hd)

theorem isClientBreak_of_isLineBreak {c : Char} (h : isLineBreak c = true) :
    isClientBreak c = true := by
  simp only [isClientBreak, h, Bool.true_or]

section ClientLines

theorem clientLines_pair (rest : Text) :
    Text.clientLines ('\r' :: '\n' :: rest) = ['\r', '\n'] :: Text.clientLines rest := rfl

theorem clientLines_cons {c : Char} {rest : Text}
    (hpair : ¬(c = '\r' ∧ rest.head? = some '\n')) :
    Text.clientLines (c :: rest) = if isClientBreak c then [c] :: Text.clientLines rest
      else pushFirst c (Text.clientLines rest) := by
  rw [Text.clientLines.eq_def]
  split
  case h_1 heq => exact absurd heq (List.cons_ne_nil c rest)
  case h_2 heq =>
    obtain ⟨rfl, rfl⟩ := List.cons.inj heq
    exact absurd ⟨rfl, rfl⟩ hpair
  case h_3 heq =>
    obtain ⟨rfl, rfl⟩ := List.cons.inj heq
    rfl

theorem clientLines_single {c : Char} {rest : Text} (hbreak : isLineBreak c = true)
    (hpair : ¬(c = '\r' ∧ rest.head? = some '\n')) :
    Text.clientLines (c :: rest) = [c] :: Text.clientLines rest := by
  rw [clientLines_cons hpair, if_pos (isClientBreak_of_isLineBreak hbreak)]

theorem clientLines_other {c : Char} {rest : Text} (hbreak : isClientBreak c = false) :
    Text.clientLines (c :: rest) = pushFirst c (Text.clientLines rest) := by
  have hpair : ¬(c = '\r' ∧ rest.head? = some '\n') := by
    rintro ⟨rfl, _⟩
    exact absurd hbreak (by decide)
  rw [clientLines_cons hpair, hbreak, if_neg Bool.false_ne_true]

theorem getElem?_zero_pushFirst (c : Char) (lines : List Text) :
    (pushFirst c lines)[0]? = some (c :: lines[0]?.getD []) := by
  cases lines <;> rfl

theorem getElem?_succ_pushFirst (c : Char) (lines : List Text) (i : Nat) :
    (pushFirst c lines)[i + 1]? = lines[i + 1]? := by
  cases lines <;> rfl

theorem head_clientLines_ne_nil {s : Text} (h : s ≠ []) : s.clientLines[0]?.getD [] ≠ [] := by
  obtain ⟨c, rest, rfl⟩ := List.exists_cons_of_ne_nil h
  by_cases hpair : c = '\r' ∧ rest.head? = some '\n'
  · rcases hpair with ⟨rfl, hhead⟩
    obtain ⟨tail, rfl⟩ := List.head?_eq_some_iff.mp hhead
    rw [clientLines_pair]
    exact List.cons_ne_nil _ _
  · rw [clientLines_cons hpair]
    by_cases hbreak : isClientBreak c = true
    · rw [if_pos hbreak]
      exact List.cons_ne_nil _ _
    · rw [if_neg hbreak, getElem?_zero_pushFirst]
      exact List.cons_ne_nil _ _

/-- The line of a client that a cut is in: what an editor's line has in front of the cut, and
    what the client has behind it. -/
theorem clientLines_append {a b : Text} (hplain : PlainBreaks a) (h : Unsplit a b) :
    (Text.clientLines (a ++ b))[a.lines.length - 1]?.getD [] =
      lastLine a ++ b.clientLines[0]?.getD [] := by
  induction a using breakInduction with
  | nil => rfl
  | pair rest ih =>
      have hlines := lines_pair rest
      have hpos := List.length_pos_iff.mpr (lines_ne_nil rest)
      have hindex : rest.lines.length = rest.lines.length - 1 + 1 := by omega
      rw [lastLine_of_lines hlines, hlines, List.length_cons, Nat.add_sub_cancel,
        List.cons_append, List.cons_append, clientLines_pair, hindex, List.getElem?_cons_succ]
      exact ih hplain.tail.tail h.tail.tail
  | single c rest hbreak hpair ih =>
      have hlines := lines_single hbreak hpair
      have hpos := List.length_pos_iff.mpr (lines_ne_nil rest)
      have hindex : rest.lines.length = rest.lines.length - 1 + 1 := by omega
      rw [lastLine_of_lines hlines, hlines, List.length_cons, Nat.add_sub_cancel,
        List.cons_append, clientLines_single hbreak (h.head hpair), hindex,
        List.getElem?_cons_succ]
      exact ih hplain.tail h.tail
  | other c rest hbreak ih =>
      have hclient : isClientBreak c = false := by
        rw [← Bool.not_eq_true]
        intro hc
        exact absurd (hbreak.symm.trans (hplain c List.mem_cons_self hc)) Bool.false_ne_true
      have ih := ih hplain.tail h.tail
      rw [List.cons_append, clientLines_other hclient, lines_other hbreak, lastLine,
        lines_other hbreak]
      rw [lastLine] at ih
      -- The character goes into the line of the cut exactly when that is the first one.
      rcases hrest : rest.lines with _ | ⟨line, _ | ⟨next, lines⟩⟩
      · exact absurd hrest (lines_ne_nil rest)
      · rw [hrest] at ih
        change (pushFirst c (Text.clientLines (rest ++ b)))[0]?.getD [] = _
        rw [getElem?_zero_pushFirst]
        exact congrArg (c :: ·) ih
      · rw [hrest] at ih
        change (pushFirst c (Text.clientLines (rest ++ b)))[lines.length + 1]?.getD [] = _
        rw [getElem?_succ_pushFirst]
        exact ih

end ClientLines

/-- Only the end of a line is shown in another way. -/
theorem withSingleBreak_append {s : Text} (h : Unbroken s) (t : Text) :
    withSingleBreak (s ++ t) = s ++ withSingleBreak t := by
  induction s with
  | nil => rfl
  | cons c rest ih =>
      have hreturn : c ≠ '\r' := by
        rintro rfl
        exact absurd (h '\r' List.mem_cons_self) (by decide)
      rw [List.cons_append, withSingleBreak, ih h.tail, List.cons_append]
      exact fun _ hc _ => hreturn hc

section Cut

variable {a b : Text} (hplain : PlainBreaks a) (h : Unsplit a b)
  (hne : lastLine a ≠ [] ∨ b ≠ []) (e : Encoding)
include hplain h hne

/-- A client has the line of a cut, and it starts like the line of an editor. -/
theorem clientLine_cut :
    ∃ rest, (ClientText.ofText (a ++ b) e).lines[a.lines.length - 1]? =
      some (lastLine a ++ rest) := by
  have hline := clientLines_append hplain h
  refine ⟨b.clientLines[0]?.getD [], ?_⟩
  change (Text.clientLines (a ++ b))[a.lines.length - 1]? = _
  cases hfound : (Text.clientLines (a ++ b))[a.lines.length - 1]? with
  | some line =>
      rw [hfound] at hline
      exact congrArg some hline
  | none =>
      -- There would be nothing in front of the cut, and nothing behind it.
      rw [hfound] at hline
      rcases List.append_eq_nil_iff.mp hline.symm with ⟨hlast, hhead⟩
      rcases hne with hne | hne
      · exact absurd hlast hne
      · exact absurd hhead (head_clientLines_ne_nil hne)

/-- The place of a cut for a client: its column counts the units in front of the cut. -/
theorem toClient_cut :
    (ClientText.ofText (a ++ b) e).toClient ⟨a.lines.length - 1, (lastLine a).length⟩ =
      ⟨a.lines.length - 1, e.width (lastLine a)⟩ := by
  rcases clientLine_cut hplain h hne e with ⟨rest, hline⟩
  rw [ClientText.toClient, hline]
  simp only [List.take_left]
  rfl

/-- From there the place of the cut comes back. -/
theorem fromClient_cut :
    (ClientText.ofText (a ++ b) e).fromClient ⟨a.lines.length - 1, e.width (lastLine a)⟩ =
      ⟨a.lines.length - 1, (lastLine a).length⟩ := by
  rcases clientLine_cut hplain h hne e with ⟨rest, hline⟩
  -- The units in front of the cut do not go beyond the line.
  have hclip : ClientText.clipUnits (e.width (lastLine a ++ withSingleBreak rest))
      (e.width (lastLine a)) = e.width (lastLine a) := by
    rw [ClientText.clipUnits, if_neg]
    rw [Encoding.width_append]
    omega
  rw [ClientText.fromClient, hline]
  simp only [withSingleBreak_append (unbroken_lastLine a)]
  change Position.mk _ (e.reach (ClientText.clipUnits (e.width _) _) _) = _
  rw [hclip, Encoding.reach_width]

end Cut

end RiddlEditor
