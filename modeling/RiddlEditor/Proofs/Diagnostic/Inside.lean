import RiddlEditor.Proofs.Diagnostic.NameSearch
import RiddlEditor.Proofs.Diagnostic.QuotedNames
import RiddlEditor.Proofs.Diagnostic.Reconcile

/-!
# Highlights inside of a line

A highlight is chosen for a column of a line, and where its range ends is another question. A
name, a word and a single character come from the line itself, so their ranges end on it, and
behind its last character there is only the empty range at its end. The reported offsets are
different: they say how far the highlight reaches, and nothing compares that with the line.

So a highlight without offsets lies inside of the line, whatever the message and whatever the
column is. With offsets it is as long as they say, unless the message names something.

## Main definitions

* `Highlight.IsInside`: A highlight with columns of the line.

## Theorems

* `isInside_of_namedHighlight?`: What is highlighted for a name is inside.
* `isInside_wordHighlight`: So is the word under a column.
* `fallbackHighlight_of_lt`, `fallbackHighlight_of_le`, `columns_of_difference`: What is
  highlighted if no name is.
* `isInside_of_null`: A highlight without offsets is inside.
* `highlight_of_none`, `highlight_of_unnamed`: A message that names nothing of the line, or nothing
  at all.
* `columns_of_offsets`, `columns_of_end`: The two cases in which its columns are known.
-/

namespace RiddlEditor

/-- A highlight with columns of the line: it starts and ends on it. -/
def Highlight.IsInside (line : Text) (column : Nat) (found : Highlight) : Prop :=
  ∃ start length, found.columns (.whole column) = .ok (.ofNat start length) ∧
    start + length ≤ line.length

section Inside

variable {message line : Text} {column : Nat}

/-- A name that stands in a line ends on it. -/
theorem StandsAsWord.end_le {name : Text} {place : Nat} (h : StandsAsWord line name place) :
    place + name.length ≤ line.length := by
  rcases h with ⟨front, rest, rfl, rfl, _, _⟩
  simp only [List.length_append]
  omega

/-- No spelling of a name is empty. -/
theorem ne_nil_of_mem_nameCandidates {quoted name : Text} (h : name ∈ nameCandidates quoted) :
    name ≠ [] := by
  have hspells : Spells quoted (nameCandidates quoted) := spells_iff.mpr rfl
  generalize nameCandidates quoted = spellings at h hspells
  cases hspells with
  | blank => exact absurd h List.not_mem_nil
  | plain htrim =>
      obtain rfl := List.mem_singleton.mp h
      exact (isTrimmed_iff.mp htrim).2
  | path htrim _ _ hlast =>
      rcases List.mem_pair.mp h with rfl | rfl
      · exact (isTrimmed_iff.mp htrim).2
      · exact hlast

/-- What is highlighted for a name is inside of the line. -/
theorem isInside_of_namedHighlight? {first backoff : Number} {found : Highlight}
    (h : namedHighlight? message line first backoff = .ok (some found)) :
    found.IsInside line column := by
  unfold namedHighlight? at h
  split at h
  case h_1 => exact nomatch h
  case h_2 hcandidates =>
    rcases bind_eq_ok h with ⟨start, _, h⟩
    rcases List.exists_of_findSome?_eq_some (Except.ok.inj h) with ⟨name, hname, hplace⟩
    rcases List.mem_flatMap.mp hname with ⟨quoted, _, hmem⟩
    rcases isPlace_of_placeOfName? (ne_nil_of_mem_nameCandidates hmem) hplace with
      ⟨place, rfl, hstands⟩
    exact ⟨place, name.length, rfl, hstands.stands.end_le⟩

/-- The word under a column of the line, or the character there, is inside of the line. -/
theorem isInside_wordHighlight (h : column < line.length) :
    (wordHighlight line column).IsInside line column := by
  unfold wordHighlight
  simp only
  by_cases hword : (line.drop column).head?.any isIdentifierChar = true
  · rw [if_pos hword]
    -- The word does not go back behind the start of the line, and it ends with the line.
    have hleft :=
      (List.takeWhile_prefix isIdentifierChar (l := (line.take column).reverse)).length_le
    have hright := (List.takeWhile_prefix isIdentifierChar (l := line.drop column)).length_le
    refine ⟨_, _, rfl, ?_⟩
    simp only [List.length_reverse, List.length_take, List.length_drop] at *
    omega
  · rw [if_neg hword]
    exact ⟨column, 1, rfl, h⟩

/-- A column of the line is in a word or a character of its own. -/
theorem fallbackHighlight_of_lt (h : column < line.length) :
    fallbackHighlight line (.whole column) none = wordHighlight line column := by
  have hcompare : Number.compare? (.whole column) (.whole line.length) = some .lt :=
    congrArg some (Int.compare_eq_lt.mpr (Int.ofNat_lt.mpr h))
  unfold fallbackHighlight
  rw [hcompare]
  simp only [isNegative_natCast, Bool.false_eq_true, if_false, Number.floor, Int.toNat_natCast]

/-- Behind the last character of a line there is nothing to highlight but its end. -/
theorem fallbackHighlight_of_le (h : line.length ≤ column) :
    fallbackHighlight line (.whole column) none = .lineEnd line.length := by
  unfold fallbackHighlight
  simp only [Number.compare?]
  split
  case h_1 hlt =>
    have hcompare := Int.compare_eq_lt.mp (Option.some.inj hlt)
    omega
  case h_2 => rfl
  case h_3 hnone => cases hnone

/-- With offsets, a highlight is as long as they are apart, and at least one character. -/
theorem columns_of_difference (difference : Int) :
    (fallbackHighlight line (.whole column) (some (.whole difference))).columns (.whole column) =
      .ok (.ofNat column (max 1 difference).toNat) := by
  have hlength : Number.max (.whole 1) (.whole difference) =
      .whole ((max 1 difference).toNat : Int) := by
    rw [Number.max_whole]
    refine congrArg Number.whole ?_
    omega
  unfold fallbackHighlight
  simp only [hlength]
  rfl

/-- Where no name is found, a highlight without offsets is inside of the line, even if its column is
    not. -/
theorem isInside_fallbackHighlight :
    (fallbackHighlight line (.whole column) none).IsInside line column := by
  by_cases h : column < line.length
  · rw [fallbackHighlight_of_lt h]
    exact isInside_wordHighlight h
  · rw [fallbackHighlight_of_le (Nat.le_of_not_lt h)]
    exact ⟨line.length, 0, rfl, Nat.le_refl _⟩

/-- A highlight without offsets is inside of the line. -/
theorem isInside_of_null {backoff : Number} {found : Highlight}
    (h : highlight message line (.whole column) .null .null backoff = .ok found) :
    found.IsInside line column := by
  rcases bind_eq_ok h with ⟨named, hnamed, h⟩
  cases named with
  | some place =>
      obtain rfl := Except.ok.inj h
      exact isInside_of_namedHighlight? hnamed
  | none =>
      obtain rfl := Except.ok.inj h
      exact isInside_fallbackHighlight

end Inside

/-! ## Messages that name nothing -/

section Unnamed

variable {message line : Text} {column : Nat} {backoff : Number} {found : Highlight}

/-- What is highlighted if no name is. -/
theorem highlight_of_none (h : namedHighlight? message line (.whole column) backoff = .ok none)
    (offset endOffset : Value) :
    highlight message line (.whole column) offset endOffset backoff =
      (offsetSpan? offset endOffset).map (fallbackHighlight line (.whole column)) := by
  unfold highlight
  rw [h]
  change (offsetSpan? offset endOffset >>= fun difference => _) = _
  cases offsetSpan? offset endOffset with
  | error e => rfl
  | ok difference => rfl

/-- What is highlighted for a message that names nothing. -/
theorem highlight_of_unnamed (hnone : quotedNames message = []) (offset endOffset : Value) :
    highlight message line (.whole column) offset endOffset backoff =
      (offsetSpan? offset endOffset).map (fallbackHighlight line (.whole column)) := by
  refine highlight_of_none ?_ offset endOffset
  unfold namedHighlight?
  rw [hnone, List.flatMap_nil]

/-- With offsets, the highlight is as long as they are apart. -/
theorem columns_of_offsets (hnone : quotedNames message = []) {first last : Nat}
    (hlt : first < last)
    (h : highlight message line (.whole column) (.int first) (.int last) backoff = .ok found) :
    found.columns (.whole column) = .ok (.ofNat column (last - first)) := by
  rw [highlight_of_unnamed hnone] at h
  obtain rfl := Except.ok.inj h
  have hlength : (max 1 ((last : Int) - first)).toNat = last - first := by omega
  rw [← hlength]
  exact columns_of_difference _

/-- Without offsets, the column behind the last character of a line is the end of the line. -/
theorem columns_of_end (hnone : quotedNames message = [])
    (h : highlight message line (.whole line.length) .null .null backoff = .ok found) :
    found.columns (.whole line.length) = .ok (.ofNat line.length 0) := by
  rw [highlight_of_unnamed hnone] at h
  obtain rfl := Except.ok.inj h
  rw [fallbackHighlight_of_le (Nat.le_refl _)]
  rfl

end Unnamed

end RiddlEditor
