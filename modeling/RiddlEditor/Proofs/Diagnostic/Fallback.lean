import RiddlEditor.Proofs.Diagnostic.Named

/-!
# What is highlighted without a name

If a message names nothing of the line, the highlight is chosen by the reported offsets, by the
end of the line, and by the character at the reported column, in this order. The word under a
column is found by looking from the column to both sides, which is the same as the longest
stretch of the line around the column without other characters: the characters next to it are of
another class, so no longer stretch gets past them.

Each of these rules gives columns of the line, with the exception of the offsets, and none of them
can fail.

## Main definitions

* `IsIdentifierLetter`: The characters of a word under the cursor.
* `IsStretch`, `IsWordAt`: The longest stretch of a line around a column.
* `IsChosen`: What is highlighted without offsets.
* `offsetValue`, `offsetDifference?`: Offsets that may be missing, and how far they are apart.

## Theorems

* `isWordAt_of_cut`: A stretch between other characters is the longest.
* `wordHighlight_of_letter`, `wordHighlight_of_other`: The word under a column, or the character.
* `exists_isChosen`: What is highlighted without offsets.
* `exists_columns`: The columns of a highlight without a name.
* `fallback_highlight_is_exact`: What is highlighted if a message names nothing of the line.
-/

namespace RiddlEditor

/-! ## The word under a column -/

/-- The English letters, the digits, the low line and the hyphen. -/
def IsIdentifierLetter (c : Char) : Prop :=
  ('A' ≤ c ∧ c ≤ 'Z') ∨ ('a' ≤ c ∧ c ≤ 'z') ∨ ('0' ≤ c ∧ c ≤ '9') ∨ c = '_' ∨ c = '-'

theorem isIdentifierChar_iff {c : Char} : isIdentifierChar c = true ↔ IsIdentifierLetter c := by
  have hrange : ∀ low high : Char,
      (decide (low ≤ c) && decide (c ≤ high)) = true ↔ low ≤ c ∧ c ≤ high := by
    intro low high
    rw [Bool.and_eq_true, decide_eq_true_iff, decide_eq_true_iff]
  have hupper : c.isUpper = true ↔ 'A' ≤ c ∧ c ≤ 'Z' := decide_eq_true_iff
  have hlower : c.isLower = true ↔ 'a' ≤ c ∧ c ≤ 'z' := hrange 'a' 'z'
  have hdigit : c.isDigit = true ↔ '0' ≤ c ∧ c ≤ '9' := hrange '0' '9'
  have hclass : isIdentifierChar c = (c.isUpper || c.isLower || c.isDigit || c == '_' || c == '-') :=
    rfl
  rw [hclass, IsIdentifierLetter]
  simp only [Bool.or_eq_true, beq_iff_eq, hupper, hlower, hdigit, or_assoc]

/-- A stretch of a line around a column with characters of words only. -/
def IsStretch (lineText : Text) (column start length : Nat) : Prop :=
  start ≤ column ∧ column < start + length ∧
    ∀ i, start ≤ i → i < start + length → ∃ c, lineText[i]? = some c ∧ IsIdentifierLetter c

/-- The longest stretch around a column: every other one is within it. -/
def IsWordAt (lineText : Text) (column start length : Nat) : Prop :=
  IsStretch lineText column start length ∧ ∀ start' length',
    IsStretch lineText column start' length' → start ≤ start' ∧ start' + length' ≤ start + length

section Word

variable {front word back lineText : Text} {column : Nat}

/-- A stretch between other characters is the longest. -/
theorem isWordAt_of_cut (hword : ∀ c ∈ word, isIdentifierChar c = true)
    (hfront : front.getLast?.any isIdentifierChar = false)
    (hback : back.head?.any isIdentifierChar = false) (hle : front.length ≤ column)
    (hlt : column < front.length + word.length) :
    IsWordAt (front ++ (word ++ back)) column front.length word.length := by
  refine ⟨⟨hle, hlt, fun i hi hi' => ?_⟩, fun start' length' hother => ⟨?_, ?_⟩⟩
  · have hwithin : i - front.length < word.length := by omega
    refine ⟨word[i - front.length], ?_, isIdentifierChar_iff.mp (hword _ (List.getElem_mem _))⟩
    rw [List.getElem?_append_right hi, List.getElem?_append_left hwithin,
      List.getElem?_eq_getElem hwithin]
  · rcases hother with ⟨hle', hlt', hall⟩
    by_contra hbefore
    -- It would have the last character in front of the word.
    rcases hall (front.length - 1) (by omega) (by omega) with ⟨c, hc, hletter⟩
    rw [List.getElem?_append_left (by omega), ← List.getLast?_eq_getElem?] at hc
    rw [hc, Option.any_some, isIdentifierChar_iff.mpr hletter] at hfront
    exact Bool.false_ne_true hfront.symm
  · rcases hother with ⟨hle', hlt', hall⟩
    by_contra hbehind
    -- It would have the first character behind the word.
    rcases hall (front.length + word.length) (by omega) (by omega) with ⟨c, hc, hletter⟩
    rw [List.getElem?_append_right (by omega), List.getElem?_append_right (by omega),
      Nat.add_sub_cancel_left, Nat.sub_self, ← List.head?_eq_getElem?] at hc
    rw [hc, Option.any_some, isIdentifierChar_iff.mpr hletter] at hback
    exact Bool.false_ne_true hback.symm

/-- Looking to both sides of a column finds the longest stretch around it. -/
theorem wordHighlight_append (before : Text) {after : Text}
    (h : after.head?.any isIdentifierChar = true) :
    ∃ start length, wordHighlight (before ++ after) before.length = .word start length ∧
      IsWordAt (before ++ after) before.length start length := by
  let front := Text.dropEndWhile isIdentifierChar before
  let left := (before.reverse.takeWhile isIdentifierChar).reverse
  let right := after.takeWhile isIdentifierChar
  let back := after.dropWhile isIdentifierChar
  have hbefore : front ++ left = before := dropEndWhile_append_takeWhile _ _
  have hafter : right ++ back = after := List.takeWhile_append_dropWhile
  have hright : 0 < right.length := List.length_pos_iff.mpr (takeWhile_ne_nil_iff.mpr h)
  have hlength : front.length + left.length = before.length := by
    rw [← List.length_append, hbefore]
  refine ⟨front.length, (left ++ right).length, ?_, ?_⟩
  · have hleft : (before.reverse.takeWhile isIdentifierChar).length = left.length :=
      List.length_reverse.symm
    unfold wordHighlight
    simp only [List.take_left, List.drop_left, if_pos h, hleft, Highlight.word.injEq,
      List.length_append]
    exact ⟨by omega, rfl⟩
  · have hline : before ++ after = front ++ ((left ++ right) ++ back) := by
      rw [List.append_assoc, hafter, ← List.append_assoc, hbefore]
    have hword : ∀ c ∈ left ++ right, isIdentifierChar c = true := by
      intro c hc
      rcases List.mem_append.mp hc with hc | hc
      · exact List.mem_takeWhile_imp (List.mem_reverse.mp hc)
      · exact List.mem_takeWhile_imp hc
    rw [hline]
    refine isWordAt_of_cut hword (getLast?_dropEndWhile _ _) (head?_dropWhile _ _) ?_ ?_
    · omega
    · rw [List.length_append]
      omega

/-- The word under a column is the longest stretch around it. -/
theorem wordHighlight_of_letter {c : Char} (hc : lineText[column]? = some c)
    (hletter : IsIdentifierLetter c) :
    ∃ start length, wordHighlight lineText column = .word start length ∧
      IsWordAt lineText column start length := by
  have hlt : column < lineText.length := (List.getElem?_eq_some_iff.mp hc).1
  have hhead : (lineText.drop column).head?.any isIdentifierChar = true := by
    rw [List.head?_drop, hc, Option.any_some, isIdentifierChar_iff]
    exact hletter
  have hcolumn : (lineText.take column).length = column := List.length_take_of_le (Nat.le_of_lt hlt)
  have hword := wordHighlight_append (lineText.take column) hhead
  rwa [List.take_append_drop, hcolumn] at hword

/-- A character that belongs to no word stands alone. -/
theorem wordHighlight_of_other {c : Char} (hc : lineText[column]? = some c)
    (hother : ¬IsIdentifierLetter c) : wordHighlight lineText column = .character := by
  have hhead : ¬(lineText.drop column).head?.any isIdentifierChar = true := by
    rw [List.head?_drop, hc, Option.any_some, isIdentifierChar_iff]
    exact hother
  rw [wordHighlight, if_neg hhead]

end Word

/-! ## The choice without a name -/

/-- The columns that are chosen without offsets: the empty ones at the end of the line for a column
    that is not in it, and otherwise the word under the column or the character there. They are
    columns of the line, and the column is one of them if the line has it. -/
structure IsChosen (lineText : Text) (column start length : Nat) : Prop where
  lineEnd : (start = lineText.length ∧ length = 0) ↔ lineText.length ≤ column
  word : ∀ c, lineText[column]? = some c → IsIdentifierLetter c →
    IsWordAt lineText column start length
  character : ∀ c, lineText[column]? = some c → ¬IsIdentifierLetter c → start = column ∧ length = 1
  inside : start + length ≤ lineText.length
  covers : column < lineText.length → start ≤ column ∧ column < start + length

section Choice

variable {lineText : Text} {column : Nat}

/-- A stretch ends on the line. -/
theorem IsStretch.end_le {start length : Nat} (h : IsStretch lineText column start length) :
    start + length ≤ lineText.length := by
  rcases h with ⟨hle, hlt, hall⟩
  rcases hall (start + length - 1) (by omega) (by omega) with ⟨c, hc, _⟩
  have hlast := (List.getElem?_eq_some_iff.mp hc).1
  omega

theorem isChosen_lineEnd (h : lineText.length ≤ column) :
    IsChosen lineText column lineText.length 0 where
  lineEnd := iff_of_true ⟨rfl, rfl⟩ h
  word := fun _ hc => absurd (List.getElem?_eq_some_iff.mp hc).1 (Nat.not_lt_of_le h)
  character := fun _ hc => absurd (List.getElem?_eq_some_iff.mp hc).1 (Nat.not_lt_of_le h)
  inside := Nat.le_refl _
  covers := fun hlt => absurd hlt (Nat.not_lt_of_le h)

theorem isChosen_word {c : Char} (hc : lineText[column]? = some c) (hletter : IsIdentifierLetter c)
    {start length : Nat} (h : IsWordAt lineText column start length) :
    IsChosen lineText column start length where
  lineEnd := by
    have hlt : column < lineText.length := (List.getElem?_eq_some_iff.mp hc).1
    have hle := h.1.1
    refine iff_of_false (fun hend => ?_) (Nat.not_le_of_lt hlt)
    omega
  word := fun _ _ _ => h
  character := by
    intro d hd hother
    obtain rfl := Option.some.inj (hc.symm.trans hd)
    exact absurd hletter hother
  inside := h.1.end_le
  covers := fun _ => ⟨h.1.1, h.1.2.1⟩

theorem isChosen_character {c : Char} (hc : lineText[column]? = some c)
    (hother : ¬IsIdentifierLetter c) : IsChosen lineText column column 1 where
  lineEnd := by
    have hlt : column < lineText.length := (List.getElem?_eq_some_iff.mp hc).1
    refine iff_of_false (fun hend => ?_) (Nat.not_le_of_lt hlt)
    omega
  word := by
    intro d hd hletter
    obtain rfl := Option.some.inj (hc.symm.trans hd)
    exact absurd hletter hother
  character := fun _ _ _ => ⟨rfl, rfl⟩
  inside := (List.getElem?_eq_some_iff.mp hc).1
  covers := fun _ => ⟨Nat.le_refl column, Nat.lt_succ_self column⟩

/-- What is highlighted without offsets. -/
theorem exists_isChosen (lineText : Text) (column : Nat) :
    ∃ start length, (fallbackHighlight lineText (.whole column) none).columns (.whole column) =
        .ok (.ofNat start length) ∧ IsChosen lineText column start length := by
  by_cases hlt : column < lineText.length
  · rw [fallbackHighlight_of_lt hlt]
    have hc := List.getElem?_eq_getElem hlt
    by_cases hletter : IsIdentifierLetter lineText[column]
    · rcases wordHighlight_of_letter hc hletter with ⟨start, length, hword, hlongest⟩
      exact ⟨start, length, by rw [hword]; rfl, isChosen_word hc hletter hlongest⟩
    · rw [wordHighlight_of_other hc hletter]
      exact ⟨column, 1, rfl, isChosen_character hc hletter⟩
  · have hle := Nat.le_of_not_lt hlt
    rw [fallbackHighlight_of_le hle]
    exact ⟨lineText.length, 0, rfl, isChosen_lineEnd hle⟩

end Choice

/-- An offset of a message, which may be missing. -/
def offsetValue : Option Int → Value
  | some offset => .int offset
  | none => .null

/-- The difference of two offsets, if there are both. -/
def offsetDifference? (offset endOffset : Option Int) : Option Number :=
  offset.bind fun first => endOffset.map fun last => .whole (last - first)

theorem offsetSpan?_offsetValue (offset endOffset : Option Int) :
    offsetSpan? (offsetValue offset) (offsetValue endOffset) =
      .ok (offsetDifference? offset endOffset) := by
  cases offset with
  | none => rfl
  | some first =>
      cases endOffset with
      | none => rfl
      | some last => rfl

/-- With both offsets, their difference decides, and otherwise neither of them is looked at. -/
theorem exists_columns (lineText : Text) (column : Nat) (offset endOffset : Option Int) :
    ∃ start length, (fallbackHighlight lineText (.whole column)
        (offsetDifference? offset endOffset)).columns (.whole column) =
          .ok (.ofNat start length) ∧
      (∀ first last, offset = some first → endOffset = some last →
        start = column ∧ (length : Int) = max 1 (last - first)) ∧
      (offset = none ∨ endOffset = none → IsChosen lineText column start length) := by
  rcases exists_isChosen lineText column with ⟨start, length, hcolumns, hchosen⟩
  cases offset with
  | none => exact ⟨start, length, hcolumns, nofun, fun _ => hchosen⟩
  | some first =>
      cases endOffset with
      | none => exact ⟨start, length, hcolumns, nofun, fun _ => hchosen⟩
      | some last =>
          refine ⟨column, _, columns_of_difference (last - first), ?_, nofun⟩
          intro first' last' hfirst hlast
          obtain rfl := Option.some.inj hfirst
          obtain rfl := Option.some.inj hlast
          exact ⟨rfl, by omega⟩

/-- What is highlighted if a message names nothing of the line. There always is something. With both
    offsets it starts at the column and is as long as they are apart, but at least one character.
    Otherwise it is what is chosen for the column, which is never beyond the line. -/
theorem fallback_highlight_is_exact (message lineText : Text) (line column backoff : Nat)
    (offset endOffset : Option Int)
    (hnone : ∀ found, namedHighlight? message lineText (.whole column) (.whole backoff) ≠
      .ok (some found)) :
    ∃ found start length,
      highlight message lineText (.whole column) (offsetValue offset) (offsetValue endOffset)
        (.whole backoff) = .ok found ∧
      found.range line (.whole column) = .ok (Range.span ⟨line, start⟩ length).reported ∧
      resolveColumns message lineText (.whole line) (.whole column) (offsetValue offset)
        (offsetValue endOffset) (.whole backoff) = .ok (.ofNat start length) ∧
      (∀ first last, offset = some first → endOffset = some last →
        start = column ∧ (length : Int) = max 1 (last - first)) ∧
      (offset = none ∨ endOffset = none → IsChosen lineText column start length) := by
  have hnamed : namedHighlight? message lineText (.whole column) (.whole backoff) = .ok none := by
    rcases namedHighlight?_whole message lineText column backoff with ⟨named, hnamed, _⟩
    cases named with
    | none => exact hnamed
    | some found => exact absurd hnamed (hnone found)
  have hfound := highlight_of_none hnamed (offsetValue offset) (offsetValue endOffset)
  rw [offsetSpan?_offsetValue] at hfound
  rcases exists_columns lineText column offset endOffset with ⟨start, length, hcolumns, hrest⟩
  exact ⟨_, start, length, hfound, range_of_columns hcolumns line,
    resolveColumns_of_columns hfound hcolumns line, hrest⟩

/-- A column of a word, for a message whose name only stands within that word. -/
theorem word_is_highlighted_without_name :
    let message := "Type 'A' is unused".toList
    let lineText := "type AB-c is".toList
    (∀ found, namedHighlight? message lineText (.whole 6) (.whole 2) ≠ .ok (some found)) ∧
      ∃ start length, resolveColumns message lineText (.whole 0) (.whole 6) .null .null (.whole 2) =
        .ok (.ofNat start length) ∧ IsWordAt lineText 6 start length := by
  intro message lineText
  have hcandidates : (quotedNames message).flatMap nameCandidates = ["A".toList] := by
    decide +kernel
  have hnone : ∀ found, namedHighlight? message lineText (.whole 6) (.whole 2) ≠
      .ok (some found) := by
    intro found hfound
    unfold namedHighlight? at hfound
    rw [hcandidates] at hfound
    exact nomatch hfound
  rcases fallback_highlight_is_exact message lineText 0 6 2 none none hnone with
    ⟨_, start, length, _, _, hcolumns, _, hchosen⟩
  have hletter : IsIdentifierLetter 'B' := isIdentifierChar_iff.mp (by decide)
  exact ⟨hnone, start, length, hcolumns, (hchosen (Or.inl rfl)).word 'B' rfl hletter⟩

end RiddlEditor
