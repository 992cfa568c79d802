import RiddlEditor.Proofs.Diagnostic.Inside

/-!
# What is highlighted for a name

The spellings that a message offers are tried one after the other, each of them in the whole line,
and the first one that stands there as a whole word is highlighted. If none does, the message
names nothing of the line, and what is highlighted is no name.

So whether a name is highlighted is a question of the message and the line alone, and the column
matters only for which of its occurrences it is. What is underlined then is the spelling itself.

## Main definitions

* `IsFirstStanding`: The first of some names that stands in a line.

## Theorems

* `namedHighlight?_of_candidates`: The spellings are tried in their order.
* `namedHighlight?_eq_some_iff`: What is highlighted for a name.
* `namedHighlight?_eq_none_iff`: When no name is highlighted.
* `highlight_eq_name_iff`: No other rule highlights a name.
* `named_highlight_is_exact`: When a name is highlighted, which one, and where.
-/

namespace RiddlEditor

/-- The first of some names that stands in a line as a whole word. -/
def IsFirstStanding (line : Text) (names : List Text) (name : Text) : Prop :=
  ∃ front back, names = front ++ name :: back ∧ (∃ column, StandsAsWord line name column) ∧
    ∀ other ∈ front, ∀ column, ¬StandsAsWord line other column

/-- Where a name stands in a line, the line has its characters. -/
theorem StandsAsWord.text_eq {line name : Text} {place : Nat} (h : StandsAsWord line name place) :
    (line.drop place).take name.length = name := by
  rcases h with ⟨front, rest, rfl, rfl, _, _⟩
  rw [List.drop_left, List.take_left]

section Named

variable {message line : Text} {candidates : List Text} {column backoff : Nat}

/-- The spellings of a message are tried in their order. -/
theorem namedHighlight?_of_candidates (h : Candidates message candidates) (line : Text)
    (column backoff : Nat) :
    namedHighlight? message line (.whole column) (.whole backoff) =
      .ok (candidates.findSome? (placeOfName? line (column - backoff))) := by
  obtain rfl := candidates_iff.mp h
  unfold namedHighlight?
  split
  case h_1 hnil => rw [hnil, List.findSome?_nil]
  case h_2 => rw [searchStart_whole]; rfl

/-- No spelling that a message offers is empty. -/
theorem Candidates.ne_nil (h : Candidates message candidates) {name : Text}
    (hname : name ∈ candidates) : name ≠ [] := by
  obtain rfl := candidates_iff.mp h
  rcases List.mem_flatMap.mp hname with ⟨quoted, _, hmem⟩
  exact ne_nil_of_mem_nameCandidates hmem

/-- What is highlighted for a name is the first one that stands in the line, at its place. -/
theorem namedHighlight?_eq_some_iff (h : Candidates message candidates) {found : Highlight} :
    namedHighlight? message line (.whole column) (.whole backoff) = .ok (some found) ↔
      ∃ name place, IsFirstStanding line candidates name ∧
        IsPlace line name (column - backoff) place ∧ found = .name place name.length := by
  rw [namedHighlight?_of_candidates h, Except.ok.injEq, List.findSome?_eq_some_iff]
  constructor
  · rintro ⟨front, name, back, rfl, hfound, hfront⟩
    have hname : name ≠ [] := h.ne_nil (List.mem_append_right front List.mem_cons_self)
    rcases (placeOfName?_eq_some hname).mp hfound with ⟨place, rfl, hplace⟩
    refine ⟨name, place, ⟨front, back, rfl, ⟨place, hplace.stands⟩, ?_⟩, hplace, rfl⟩
    intro other hother
    exact (placeOfName?_eq_none (h.ne_nil (List.mem_append_left _ hother))).mp (hfront other hother)
  · rintro ⟨name, place, ⟨front, back, rfl, _, hfront⟩, hplace, rfl⟩
    have hname : name ≠ [] := h.ne_nil (List.mem_append_right front List.mem_cons_self)
    refine ⟨front, name, back, rfl, (placeOfName?_eq_some hname).mpr ⟨place, rfl, hplace⟩, ?_⟩
    intro other hother
    exact (placeOfName?_eq_none (h.ne_nil (List.mem_append_left _ hother))).mpr
      (hfront other hother)

/-- No name is highlighted if no spelling stands in the line. -/
theorem namedHighlight?_eq_none_iff (h : Candidates message candidates) :
    namedHighlight? message line (.whole column) (.whole backoff) = .ok none ↔
      ∀ name ∈ candidates, ∀ place, ¬StandsAsWord line name place := by
  rw [namedHighlight?_of_candidates h, Except.ok.injEq, List.findSome?_eq_none_iff]
  exact forall₂_congr fun name hname => placeOfName?_eq_none (h.ne_nil hname)

/-- A name is highlighted if one of the spellings stands in the line. -/
theorem exists_namedHighlight_iff (h : Candidates message candidates) :
    (∃ start length, namedHighlight? message line (.whole column) (.whole backoff) =
        .ok (some (.name start length))) ↔
      ∃ name ∈ candidates, ∃ place, StandsAsWord line name place := by
  constructor
  · rintro ⟨start, length, hfound⟩
    rcases (namedHighlight?_eq_some_iff h).mp hfound with
      ⟨name, _, ⟨front, back, hsplit, hstands, _⟩, _⟩
    exact ⟨name, hsplit ▸ List.mem_append_right front List.mem_cons_self, hstands⟩
  · rintro ⟨name, hname, place, hstands⟩
    have hchoice := namedHighlight?_of_candidates h line column backoff
    cases hfirst : candidates.findSome? (placeOfName? line (column - backoff)) with
    | none =>
        rw [hfirst] at hchoice
        exact absurd hstands ((namedHighlight?_eq_none_iff h).mp hchoice name hname place)
    | some found =>
        rw [hfirst] at hchoice
        rcases (namedHighlight?_eq_some_iff h).mp hchoice with ⟨other, start, _, _, rfl⟩
        exact ⟨start, other.length, hchoice⟩

end Named

section Choice

variable {message line : Text} {column backoff : Number} {start length : Nat}

/-- What is highlighted without a name is no name. -/
theorem fallbackHighlight_ne_name {difference : Option Number} :
    fallbackHighlight line column difference ≠ .name start length := by
  have hword : ∀ column, wordHighlight line column ≠ .name start length := by
    intro column
    unfold wordHighlight
    simp only
    split <;> exact nofun
  unfold fallbackHighlight
  split
  case h_1 => exact nofun
  case h_2 =>
    split
    case h_1 =>
      split
      case isTrue => exact nofun
      case isFalse => exact hword _
    case h_2 => exact nofun
    case h_3 => exact nofun

/-- Whatever the offsets are, a name is highlighted for a message that names something of the line,
    and for no other message. -/
theorem highlight_eq_name_iff {offset endOffset : Value} :
    highlight message line column offset endOffset backoff = .ok (.name start length) ↔
      namedHighlight? message line column backoff = .ok (some (.name start length)) := by
  constructor
  · intro h
    unfold highlight at h
    rcases bind_eq_ok h with ⟨named, hnamed, h⟩
    cases named with
    | some found => rw [hnamed, Except.ok.inj h]
    | none =>
        rcases bind_eq_ok h with ⟨difference, _, h⟩
        exact absurd (Except.ok.inj h) fallbackHighlight_ne_name
  · intro h
    unfold highlight
    rw [h]
    rfl

end Choice

/-- What is highlighted for a name is the first spelling of the message that stands in the line as a
    whole word, and nothing else decides whether a name is highlighted. Its place is the first one
    from a little before the column on or, if there is none, the first one of the line, and its
    range has the characters of the spelling and ends on the line. -/
theorem named_highlight_is_exact (message lineText : Text) (line column backoff : Nat)
    (offset endOffset : Value) :
    let found := highlight message lineText (.whole column) offset endOffset (.whole backoff)
    ∃ candidates, (∀ other, Candidates message other ↔ other = candidates) ∧
      ((∃ start length, found = .ok (.name start length)) ↔
        ∃ name ∈ candidates, ∃ place, StandsAsWord lineText name place) ∧
      ∀ start length, found = .ok (.name start length) →
        ∃ name, IsFirstStanding lineText candidates name ∧
          IsPlace lineText name (column - backoff) start ∧ length = name.length ∧
          (Highlight.name start length).range line (.whole column) =
            .ok (Range.span ⟨line, start⟩ length).reported ∧
          resolveColumns message lineText (.whole line) (.whole column) offset endOffset
            (.whole backoff) = .ok (.ofNat start length) ∧
          start + length ≤ lineText.length ∧ (lineText.drop start).take length = name := by
  intro found
  refine ⟨_, fun other => candidates_iff, ?_, fun start length hfound => ?_⟩
  · simp only [found, highlight_eq_name_iff]
    exact exists_namedHighlight_iff (candidates_iff.mpr rfl)
  · have hnamed := highlight_eq_name_iff.mp hfound
    rcases (namedHighlight?_eq_some_iff (candidates_iff.mpr rfl)).mp hnamed with
      ⟨name, place, hfirst, hplace, hsame⟩
    obtain ⟨rfl, rfl⟩ := Highlight.name.inj hsame
    exact ⟨name, hfirst, hplace, rfl, range_name line start name.length (.whole column),
      resolveColumns_of_columns hfound rfl line, hplace.stands.end_le, hplace.stands.text_eq⟩

end RiddlEditor
