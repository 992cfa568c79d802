import RiddlEditor.Client.Convert
import RiddlEditor.Proofs.Client.Lines
import RiddlEditor.Proofs.Diagnostic.Reconcile
import RiddlEditor.Proofs.Lexeme.Order

/-!
# Positions of tokens for a client

A place in the first line of a token is a cut of the text (`exists_cut`), and the cut is not
in the middle of a line break. So what holds of cuts holds of the places of tokens: sent to a
client and back, they are what they were, unless a character in front of them ends a line for
the client alone. A form feed is such a character, and the language counts it as a blank, so
a document may well have one (`position_lost_behind_formFeed`).

## Main definitions

* `Range.Sendable`: A client can hold the numbers of a range.

## Theorems

* `exists_cut`: A place in the first line of a token cuts the text.
* `convertRange_reported`: A range for a client is its two ends for the client.
* `sendable_of_convertRange`: Only a range that a client can hold is converted.
* `position_comes_back`: A place in a token comes back from a client.
* `position_lost_behind_formFeed`: Behind a form feed it does not.
-/

namespace RiddlEditor

/-- Whether a client can hold the numbers of a range. Its first line is not behind its last
    one. -/
def Range.Sendable (r : Range) : Prop :=
  r.stop.line ≤ clientLimit ∧ r.start.column ≤ clientLimit ∧ r.stop.column ≤ clientLimit

instance (r : Range) : Decidable r.Sendable :=
  inferInstanceAs (Decidable (_ ∧ _ ∧ _))

theorem clientPosition_whole {p : Position} (hline : p.line ≤ clientLimit)
    (hcolumn : p.column ≤ clientLimit) :
    clientPosition (.whole p.line) (.whole p.column) = .ok p := by
  have hnumber : ∀ n : Nat, n ≤ clientLimit → clientNumber? (.whole n) = some n := by
    intro n hn
    rw [clientNumber?, if_pos (by omega), Int.toNat_natCast]
  rw [clientPosition, hnumber _ hline, hnumber _ hcolumn]

/-- A range for a client is its two ends for the client. -/
theorem convertRange_reported (document : ClientText) {r : Range} (h : r.Sendable) :
    convertRange (some document) r.reported =
      .ok ⟨document.toClient r.start, document.toClient r.stop⟩ := by
  rcases h with ⟨hline, hfrom, hto⟩
  have hfirst : r.start.line ≤ clientLimit := by
    have hordered := r.ordered
    simp only [Position.le_def] at hordered
    omega
  have hstart : clientPosition (.whole r.reported.start.line) r.reported.start.column =
      .ok r.start := clientPosition_whole hfirst hfrom
  have hstop : clientPosition (.whole r.reported.stop.line) r.reported.stop.column =
      .ok r.stop := clientPosition_whole hline hto
  rw [convertRange, hstart, hstop]
  rfl

theorem bounded_of_clientPosition {p q : Position}
    (h : clientPosition (.whole p.line) (.whole p.column) = .ok q) :
    p.line ≤ clientLimit ∧ p.column ≤ clientLimit := by
  by_cases hline : p.line ≤ clientLimit
  · refine ⟨hline, ?_⟩
    by_contra hcolumn
    rw [clientPosition, clientNumber?, clientNumber?, if_pos (by omega), if_neg (by omega)] at h
    exact nomatch h
  · rw [clientPosition, clientNumber?, clientNumber?, if_neg (by omega)] at h
    exact nomatch h

/-- A range is converted only if a client can hold its numbers. -/
theorem sendable_of_convertRange {document : Option ClientText} {r : Range} {shown : ClientRange}
    (h : convertRange document r.reported = .ok shown) : r.Sendable := by
  rcases bind_eq_ok h with ⟨start, hstart, h⟩
  rcases bind_eq_ok h with ⟨stop, hstop, _⟩
  have hfirst := bounded_of_clientPosition (p := r.start) hstart
  have hlast := bounded_of_clientPosition (p := r.stop) hstop
  exact ⟨hlast.1, hfirst.2, hlast.2⟩

/-- A place in the first line of a token cuts the text, with something in front of the cut on
    its line or something behind it. -/
theorem exists_cut {s : Text} {t : Token} (ht : t ∈ lexTokens s) {column : Nat}
    (hfrom : t.start.column ≤ column)
    (hto : column ≤ t.start.column + (firstLine t.text).length) :
    ∃ a b, s = a ++ b ∧ Unsplit a b ∧ (lastLine a ≠ [] ∨ b ≠ []) ∧
      (⟨t.start.line, column⟩ : Position) = ⟨a.lines.length - 1, (lastLine a).length⟩ := by
  rcases split_of_mem_lexTokens ht with ⟨front, c, rest, rfl, hc, rfl⟩
  let text := (readLexeme c rest).text c rest
  let start := (Cursor.behind front).position
  change start.column ≤ column at hfrom
  change column ≤ start.column + (firstLine text).length at hto
  -- The characters of the token in front of the place.
  let passed := (firstLine text).take (column - start.column)
  have hlength : passed.length = column - start.column := by
    rw [List.length_take]
    omega
  have hunbroken : Unbroken passed := fun d hd =>
    unbroken_firstLine text d (List.mem_of_mem_take hd)
  have htext : text <+: c :: rest := Reading.isPrefix_text _ c rest
  have hpassed : passed <+: c :: rest :=
    ((List.take_prefix _ _).trans (List.takeWhile_prefix _)).trans htext
  rcases hpassed with ⟨behind, hbehind⟩
  have hplace : (⟨start.line, column⟩ : Position) =
      ⟨(front ++ passed).lines.length - 1, (lastLine (front ++ passed)).length⟩ := by
    rw [← Cursor.position_behind]
    rcases position_append front (hunbroken.unsplit front) with ⟨_, hsame⟩ | hlater
    · rw [hsame, hlength, Nat.add_sub_cancel' hfrom]
    · have hlines := length_lines_append (hunbroken.unsplit front)
      rw [lines_of_unbroken hunbroken, List.length_singleton] at hlines
      simp only [Cursor.position_behind] at hlater
      omega
  by_cases hnil : passed = []
  · -- At the start of the token, the whole token is behind the place.
    rw [hnil, List.append_nil] at hplace
    exact ⟨front, c :: rest, rfl, unsplit_of_not_gap front rest hc,
      Or.inr (List.cons_ne_nil c rest), hplace⟩
  · refine ⟨front ++ passed, behind, ?_, hunbroken.unsplit_append hnil front behind, ?_, hplace⟩
    · rw [List.append_assoc, hbehind]
    · rw [lastLine_append_unbroken front hunbroken]
      exact Or.inl (List.append_ne_nil_of_right_ne_nil _ hnil)

/-- A place in the first line of a token comes back from a client, in every encoding, if no
    character in front of it ends a line for the client alone. The end of the line counts as a
    place of it; all others lead to the same token. -/
theorem position_comes_back (s : Text) (e : Encoding) {t : Token} (ht : t ∈ lexTokens s)
    {column : Nat} (hfrom : t.start.column ≤ column)
    (hto : column ≤ t.start.column + (firstLine t.text).length)
    (hplain : PlainBreaks (s.take (s.offsetOf ⟨t.start.line, column⟩)))
    {r : Range} (hr : r.start = ⟨t.start.line, column⟩) (hsend : r.Sendable) :
    let document := ClientText.ofText s e
    ∃ shown, convertRange (some document) r.reported = .ok shown ∧
      document.fromClient shown.start = r.start ∧
      (column < t.start.column + (firstLine t.text).length →
        findTokenAt (lexTokens s) (document.fromClient shown.start).line
          (document.fromClient shown.start).column = some t) := by
  intro document
  -- What is in front of the place is what the cut has in front of it.
  have hback : document.fromClient (document.toClient r.start) = r.start := by
    rcases exists_cut ht hfrom hto with ⟨a, b, hsplit, hunsplit, hne, hplace⟩
    have hoffset : s.offsetOf ⟨t.start.line, column⟩ = a.length := by
      rw [hplace, ← placeOf_append hunsplit, hsplit]
      exact offsetOf_placeOf hunsplit
    rw [hoffset, hsplit, List.take_left] at hplain
    change (ClientText.ofText s e).fromClient ((ClientText.ofText s e).toClient r.start) = _
    rw [hr, hplace, hsplit, toClient_cut hplain hunsplit hne e,
      fromClient_cut hplain hunsplit hne e]
  refine ⟨_, convertRange_reported document hsend, hback, fun hlt => ?_⟩
  have hwidth : (firstLine t.text).length ≤ t.length := (List.takeWhile_prefix _).length_le
  change findTokenAt (lexTokens s) (document.fromClient (document.toClient r.start)).line
    (document.fromClient (document.toClient r.start)).column = some t
  rw [hback, hr]
  refine findTokenAt_eq_some.mpr ⟨ht, spans_iff.mpr ⟨rfl, ?_, ?_⟩⟩
  · exact Int.ofNat_le.mpr hfrom
  · simp only
    omega

/-- A name behind a character that takes two units, on the second line of its text. -/
theorem position_comes_back_behind_emoji :
    let s : Text := "T\r\n\"😀\"User".toList
    let document := ClientText.ofText s .utf16
    PlainBreaks (s.take (s.offsetOf ⟨1, 5⟩)) ∧
    ∃ shown, convertRange (some document) (Range.span ⟨1, 5⟩ 2).reported = .ok shown ∧
      document.fromClient shown.start = ⟨1, 5⟩ ∧
      findTokenAt (lexTokens s) 1 5 =
        some ⟨"User".toList, .identifier, ⟨1, 3⟩, .int 6, .int 10⟩ := by
  intro s document
  have hmem : (⟨"User".toList, .identifier, ⟨1, 3⟩, 6, none⟩ : Lexeme) ∈ lexemes s := by
    decide +kernel
  have hwhole : PlainBreaks s := by decide
  have hplain : PlainBreaks (s.take (s.offsetOf ⟨1, 5⟩)) := fun c hc =>
    hwhole c (List.mem_of_mem_take hc)
  have hsend : (Range.span ⟨1, 5⟩ 2).Sendable := by decide
  rcases position_comes_back s .utf16 (List.mem_map_of_mem hmem) (by decide) (by decide) hplain
    rfl hsend with ⟨shown, hshown, hback, hfound⟩
  refine ⟨hplain, shown, hshown, hback, ?_⟩
  have hfound := hfound (by decide)
  rw [hback] at hfound
  exact hfound

/-- Behind a form feed a position does not come back. The client counts the form feed as the
    end of a line, so the name is converted on another line than its own, and what comes back
    is a blank in front of it. -/
theorem position_lost_behind_formFeed :
    let s := "\x0cx\r\n   UserId".toList
    let document := ClientText.ofText s .utf16
    ∃ t ∈ lexTokens s, t.start = ⟨1, 3⟩ ∧
      convertRange (some document) t.range.reported = .ok ⟨⟨1, 3⟩, ⟨1, 3⟩⟩ ∧
      document.fromClient ⟨1, 3⟩ = ⟨1, 1⟩ ∧ findTokenAt (lexTokens s) 1 1 = none := by
  intro s document
  have hmem : (⟨"UserId".toList, .identifier, ⟨1, 3⟩, 7, none⟩ : Lexeme) ∈ lexemes s := by
    decide +kernel
  refine ⟨_, List.mem_map_of_mem hmem, rfl, ?_, by decide +kernel, ?_⟩
  · rw [convertRange_reported document (by decide)]
    have hstart : document.toClient ⟨1, 3⟩ = ⟨1, 3⟩ := by decide +kernel
    have hstop : document.toClient ⟨1, 9⟩ = ⟨1, 3⟩ := by decide +kernel
    exact congrArg Except.ok (congrArg₂ ClientRange.mk hstart hstop)
  · rw [← Option.not_isSome_iff_eq_none]
    decide +kernel

end RiddlEditor
