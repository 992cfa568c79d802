import Mathlib.Data.List.Basic
import RiddlEditor.Diagnostic.Highlight
import RiddlEditor.Proofs.Text.Stretch

/-!
# Where a name stands in a line

A name stands in a line as a whole word where its characters are and no word character is next
to them on either side. The occurrences of a name are found from left to right, those that
overlap included, and none is missed. The place of a name is the first of them from some column
on or, if there is none, the first of all.

A name that follows another word stands behind the gap between the two. It may also stand in
front of that word, but not between the start of the word and its own place: there is the other
word, which is as long as it can be, and the gap.

## Main definitions

* `StandsAsWord`: A name stands at a column as a whole word.
* `IsFirst`: The first column from some column on at which something is the case.
* `IsPlace`: The column at which a name is highlighted.

## Theorems

* `mem_nameOccurrences`: The occurrences of a name are where it stands as a whole word.
* `nameOccurrences_pairwise`: They are found from left to right.
* `placeOfName?_eq_some`, `placeOfName?_eq_none`: The place of a name.
* `exists_namedHighlight`: The first name of a message is highlighted at its place.
* `range_of_columns`, `resolveColumns_of_columns`: The range of a highlight from its columns.
* `not_stands_between`, `stands_behind`: Where a name stands that follows another word.
-/

namespace RiddlEditor

/-- A name stands in a line at a column as a whole word. -/
def StandsAsWord (line name : Text) (column : Nat) : Prop :=
  ∃ front rest, line = front ++ (name ++ rest) ∧ front.length = column ∧
    front.getLast?.any isWordChar = false ∧ rest.head?.any isWordChar = false

/-- The first column from some column on at which something is the case. -/
def IsFirst (p : Nat → Prop) (first column : Nat) : Prop :=
  p column ∧ first ≤ column ∧ ∀ other, p other → first ≤ other → column ≤ other

/-- The column at which a name is highlighted: the first one from some column on where it
    stands or, if there is none, the first one of all. -/
def IsPlace (line name : Text) (first column : Nat) : Prop :=
  IsFirst (StandsAsWord line name) first column ∨
    (∀ other, StandsAsWord line name other → ¬first ≤ other) ∧
      IsFirst (StandsAsWord line name) 0 column

/-! ## Occurrences -/

section Occurrences

variable {name : Text}

/-- A name stands at the start of a text. -/
theorem standsAt_iff {before : Option Char} {s : Text} :
    standsAt name before s = true ↔
      ∃ rest, s = name ++ rest ∧ before.any isWordChar = false ∧
        rest.head?.any isWordChar = false := by
  rw [standsAt, Bool.and_eq_true, Bool.and_eq_true, Bool.not_eq_true', Bool.not_eq_true',
    List.isPrefixOf_iff_prefix]
  constructor
  · rintro ⟨⟨⟨rest, rfl⟩, hbefore⟩, hbehind⟩
    rw [List.drop_left] at hbehind
    exact ⟨rest, rfl, hbefore, hbehind⟩
  · rintro ⟨rest, rfl, hbefore, hbehind⟩
    rw [List.drop_left]
    exact ⟨⟨List.prefix_append name rest, hbefore⟩, hbehind⟩

/-- A name stands somewhere in what follows a text. -/
def StandsBehind (name front s : Text) (column : Nat) : Prop :=
  ∃ skipped tail, s = skipped ++ tail ∧ front.length + skipped.length = column ∧
    standsAt name (front ++ skipped).getLast? tail = true

/-- It stands at the start, or behind the first character. -/
theorem standsBehind_cons {front rest : Text} {c : Char} {column : Nat} :
    StandsBehind name front (c :: rest) column ↔
      (column = front.length ∧ standsAt name front.getLast? (c :: rest) = true) ∨
        StandsBehind name (front ++ [c]) rest column := by
  constructor
  · rintro ⟨skipped, tail, hsplit, hcolumn, hstands⟩
    cases skipped with
    | nil =>
        rw [List.nil_append] at hsplit
        subst hsplit
        rw [List.append_nil] at hstands
        exact Or.inl ⟨hcolumn.symm, hstands⟩
    | cons d skipped =>
        rw [List.cons_append, List.cons.injEq] at hsplit
        rcases hsplit with ⟨rfl, hsplit⟩
        rw [List.length_cons] at hcolumn
        refine Or.inr ⟨skipped, tail, hsplit, ?_, ?_⟩
        · rw [List.length_append, List.length_singleton]
          omega
        · rw [List.append_assoc]
          exact hstands
  · rintro (⟨rfl, hstands⟩ | ⟨skipped, tail, rfl, hcolumn, hstands⟩)
    · exact ⟨[], c :: rest, rfl, rfl, by rwa [List.append_nil]⟩
    · rw [List.length_append, List.length_singleton] at hcolumn
      refine ⟨c :: skipped, tail, rfl, ?_, ?_⟩
      · rw [List.length_cons]
        omega
      · rwa [List.append_assoc] at hstands

/-- The occurrences of a name in what follows a text. -/
theorem mem_nameOccurrencesFrom (hname : name ≠ []) (front s : Text) (column : Nat) :
    column ∈ nameOccurrencesFrom name front.length front.getLast? s ↔
      StandsBehind name front s column := by
  induction s generalizing front with
  | nil =>
      refine ⟨fun h => absurd h List.not_mem_nil, ?_⟩
      -- At the end there is no room for a name.
      rintro ⟨skipped, tail, hsplit, _, hstands⟩
      rcases List.append_eq_nil_iff.mp hsplit.symm with ⟨rfl, rfl⟩
      rcases standsAt_iff.mp hstands with ⟨rest, hnil, _, _⟩
      exact absurd (List.append_eq_nil_iff.mp hnil.symm).1 hname
  | cons c rest ih =>
      have hrest := ih (front ++ [c])
      rw [List.length_append, List.length_singleton, List.getLast?_concat] at hrest
      rw [standsBehind_cons, ← hrest, nameOccurrencesFrom]
      split
      case isTrue hstands =>
        rw [List.mem_cons]
        exact or_congr_left (and_iff_left hstands).symm
      case isFalse hstands =>
        exact ⟨Or.inr, fun h => h.elim (fun hhere => absurd hhere.2 hstands) id⟩

/-- The occurrences of a name are where it stands as a whole word. -/
theorem mem_nameOccurrences (hname : name ≠ []) {line : Text} {column : Nat} :
    column ∈ nameOccurrences line name ↔ StandsAsWord line name column := by
  rw [nameOccurrences, ← List.length_nil, ← List.getLast?_nil, mem_nameOccurrencesFrom hname]
  constructor
  · rintro ⟨front, tail, rfl, hcolumn, hstands⟩
    rw [List.length_nil, Nat.zero_add] at hcolumn
    rcases standsAt_iff.mp hstands with ⟨rest, rfl, hbefore, hbehind⟩
    exact ⟨front, rest, rfl, hcolumn, hbefore, hbehind⟩
  · rintro ⟨front, rest, rfl, hcolumn, hbefore, hbehind⟩
    refine ⟨front, name ++ rest, rfl, ?_, standsAt_iff.mpr ⟨rest, rfl, hbefore, hbehind⟩⟩
    rw [List.length_nil, Nat.zero_add, hcolumn]

theorem nameOccurrencesFrom_pairwise (name : Text) (index : Nat) (before : Option Char)
    (s : Text) :
    (nameOccurrencesFrom name index before s).Pairwise (· < ·) ∧
      ∀ column ∈ nameOccurrencesFrom name index before s, index ≤ column := by
  induction s generalizing index before with
  | nil => exact ⟨.nil, fun _ h => absurd h List.not_mem_nil⟩
  | cons c rest ih =>
      rcases ih (index + 1) (some c) with ⟨hordered, hbound⟩
      have hbehind : ∀ column ∈ nameOccurrencesFrom name (index + 1) (some c) rest,
          index < column := fun column hcolumn => hbound column hcolumn
      rw [nameOccurrencesFrom]
      split
      case isTrue =>
        refine ⟨.cons hbehind hordered, fun column hcolumn => ?_⟩
        rcases List.mem_cons.mp hcolumn with rfl | hcolumn
        · exact Nat.le_refl column
        · exact Nat.le_of_lt (hbehind column hcolumn)
      case isFalse =>
        exact ⟨hordered, fun column hcolumn => Nat.le_of_lt (hbehind column hcolumn)⟩

/-- The occurrences of a name are found from left to right. -/
theorem nameOccurrences_pairwise (line name : Text) :
    (nameOccurrences line name).Pairwise (· < ·) :=
  (nameOccurrencesFrom_pairwise name 0 none line).1

end Occurrences

/-! ## The place of a name -/

/-- What is found first in an ascending list is the least that can be found. -/
theorem isFirst_of_find? {columns : List Nat} (h : columns.Pairwise (· < ·)) {first column : Nat}
    (hfound : columns.find? (fun other => first ≤ other) = some column) :
    IsFirst (· ∈ columns) first column := by
  rcases List.find?_eq_some_iff_append.mp hfound with ⟨hle, front, rest, rfl, hfront⟩
  refine ⟨List.mem_append_right _ List.mem_cons_self, of_decide_eq_true hle, ?_⟩
  intro other hother hfirst
  rcases List.mem_append.mp hother with hother | hother
  · have hnot := hfront other hother
    rw [Bool.not_eq_true', decide_eq_false_iff_not] at hnot
    exact absurd hfirst hnot
  · rcases List.mem_cons.mp hother with rfl | hother
    · exact Nat.le_refl other
    · have hbehind := (List.pairwise_append.mp h).2.1
      exact Nat.le_of_lt (List.rel_of_pairwise_cons hbehind hother)

theorem IsFirst.unique {p : Nat → Prop} {first column other : Nat} (h : IsFirst p first column)
    (h' : IsFirst p first other) : column = other :=
  Nat.le_antisymm (h.2.2 other h'.1 h'.2.1) (h'.2.2 column h.1 h.2.1)

section Place

variable {line name : Text} {first column other : Nat}

theorem IsPlace.stands (h : IsPlace line name first column) : StandsAsWord line name column := by
  rcases h with h | ⟨_, h⟩
  · exact h.1
  · exact h.1

/-- A name has one place. -/
theorem IsPlace.unique (h : IsPlace line name first column) (h' : IsPlace line name first other) :
    column = other := by
  rcases h with h | ⟨hnone, h⟩
  · rcases h' with h' | ⟨hnone', _⟩
    · exact h.unique h'
    · exact absurd h.2.1 (hnone' column h.1)
  · rcases h' with h' | ⟨_, h'⟩
    · exact absurd h'.2.1 (hnone other h'.1)
    · exact h.unique h'

/-- What is found is the place of the name. -/
theorem isPlace_of_placeOfName? (hname : name ≠ []) {found : Highlight}
    (h : placeOfName? line first name = some found) :
    ∃ column, found = .name column name.length ∧ IsPlace line name first column := by
  have hoccurrences : (· ∈ nameOccurrences line name) = StandsAsWord line name :=
    funext fun _ => propext (mem_nameOccurrences hname)
  have hordered := nameOccurrences_pairwise line name
  rcases Option.map_eq_some_iff.mp h with ⟨column, hcolumn, rfl⟩
  refine ⟨column, rfl, ?_⟩
  rw [IsPlace, ← hoccurrences]
  rcases Option.or_eq_some_iff.mp hcolumn with hfound | ⟨hnone, hhead⟩
  · exact Or.inl (isFirst_of_find? hordered hfound)
  · refine Or.inr ⟨fun other hother hle => ?_, isFirst_of_find? hordered ?_⟩
    · exact List.find?_eq_none.mp hnone other hother (decide_eq_true hle)
    · -- Every column is at the start of the line or behind it.
      cases hcolumns : nameOccurrences line name with
      | nil => rw [hcolumns] at hhead; exact nomatch hhead
      | cons c rest =>
          rw [hcolumns] at hhead
          simpa using hhead

/-- There is no place only for a name that does not stand in the line. -/
theorem placeOfName?_eq_none (hname : name ≠ []) :
    placeOfName? line first name = none ↔ ∀ column, ¬StandsAsWord line name column := by
  rw [placeOfName?, Option.map_eq_none_iff, Option.or_eq_none_iff, List.head?_eq_none_iff,
    and_iff_right_of_imp fun hnil => by rw [hnil]; rfl, List.eq_nil_iff_forall_not_mem]
  exact forall_congr' fun column => not_congr (mem_nameOccurrences hname)

/-- The place of a name. -/
theorem placeOfName?_eq_some (hname : name ≠ []) {found : Highlight} :
    placeOfName? line first name = some found ↔
      ∃ column, found = .name column name.length ∧ IsPlace line name first column := by
  refine ⟨isPlace_of_placeOfName? hname, ?_⟩
  rintro ⟨column, rfl, hplace⟩
  cases hfound : placeOfName? line first name with
  | none => exact absurd hplace.stands ((placeOfName?_eq_none hname).mp hfound column)
  | some found =>
      rcases isPlace_of_placeOfName? hname hfound with ⟨other, rfl, hother⟩
      rw [hplace.unique hother]

end Place

/-! ## Highlights -/

/-- A name is looked for from a little before the reported column on. -/
theorem searchStart_whole (column backoff : Nat) :
    searchStart (.whole column) (.whole backoff) = .ok (column - backoff) := by
  have hsub : ((column : Int) - backoff).toNat = column - backoff := by omega
  exact congrArg Except.ok hsub

/-- The first name of a message is highlighted at its place, if it stands in the line. -/
theorem exists_namedHighlight {message line name : Text} {others : List Text} (hname : name ≠ [])
    (hnames : (quotedNames message).flatMap nameCandidates = name :: others) {standing : Nat}
    (hstands : StandsAsWord line name standing) (column backoff : Nat) :
    ∃ place, namedHighlight? message line (.whole column) (.whole backoff) =
        .ok (some (.name place name.length)) ∧
      IsPlace line name (column - backoff) place := by
  have hsome : placeOfName? line (column - backoff) name ≠ none := fun hnone =>
    (placeOfName?_eq_none hname).mp hnone standing hstands
  rcases Option.ne_none_iff_exists'.mp hsome with ⟨found, hfound⟩
  rcases (placeOfName?_eq_some hname).mp hfound with ⟨place, rfl, hplace⟩
  refine ⟨place, ?_, hplace⟩
  unfold namedHighlight?
  rw [hnames]
  simp only [searchStart_whole, bind, Except.bind, List.findSome?_cons, hfound]
  rfl

/-- The range of a highlight whose columns are those of a text. -/
theorem range_of_columns {found : Highlight} {column : Number} {start length : Nat}
    (h : found.columns column = .ok (.ofNat start length)) (line : Nat) :
    found.range line column = .ok (Range.span ⟨line, start⟩ length).reported := by
  rw [Highlight.range, h]
  change Except.bind (inOrderColumns (.ofNat start length)) _ = _
  rw [inOrderColumns, ColumnSpan.isReversed_ofNat, if_neg Bool.false_ne_true]
  rfl

/-- No line and no column of a text is negative. -/
theorem isNegative_natCast (n : Nat) : Number.isNegative (.whole n) = false := by
  rw [Number.isNegative, Number.isLess_whole, decide_eq_false_iff_not]
  omega

/-- The columns of a highlight whose columns are those of a text, for a line and a column that come
    from outside. -/
theorem resolveColumns_of_columns {message lineText : Text} {column : Nat} {backoff : Number}
    {offset endOffset : Value} {found : Highlight} {start length : Nat}
    (hfound : highlight message lineText (.whole column) offset endOffset backoff = .ok found)
    (h : found.columns (.whole column) = .ok (.ofNat start length)) (line : Nat) :
    resolveColumns message lineText (.whole line) (.whole column) offset endOffset backoff =
      .ok (.ofNat start length) := by
  unfold resolveColumns
  simp only [hfound, h, bind, Except.bind, isNegative_natCast, Bool.false_and,
    Bool.false_eq_true, if_false]
  rw [inOrderColumns, ColumnSpan.isReversed_ofNat, if_neg Bool.false_ne_true]

theorem range_name (line place length : Nat) (column : Number) :
    (Highlight.name place length).range line column =
      .ok (Range.span ⟨line, place⟩ length).reported :=
  range_of_columns rfl line

/-! ## A name behind another word -/

section Behind

variable {left word gap name right : Text}

/-- Two words that stand at the same place are one. -/
theorem word_unique {rest rest' : Text} (hword : ∀ c ∈ word, isWordChar c = true)
    (hname : ∀ c ∈ name, isWordChar c = true) (hrest : rest.head?.any isWordChar = false)
    (hrest' : rest'.head?.any isWordChar = false) (h : word ++ rest = name ++ rest') :
    word = name := by
  rw [← takeWhile_of_cut hword hrest, h, takeWhile_of_cut hname hrest']

theorem any_head?_append {p : Char → Bool} (hgap : ∀ c ∈ gap, p c = false) (hnonempty : gap ≠ [])
    (rest : Text) : (gap ++ rest).head?.any p = false := by
  cases gap with
  | nil => exact absurd rfl hnonempty
  | cons c gap => exact hgap c List.mem_cons_self

/-- Of two cuts of a text, the one in front is a cut of what the other one has in front. -/
theorem exists_skipped {a b a' b' : Text} (h : a ++ b = a' ++ b') (hle : a.length ≤ a'.length) :
    ∃ skipped, a' = a ++ skipped ∧ b = skipped ++ b' := by
  rcases List.append_eq_append_iff.mp h with ⟨skipped, ha, hb⟩ | ⟨skipped, ha, hb⟩
  · exact ⟨skipped, ha, hb⟩
  · have hnil : skipped = [] := by
      rw [ha, List.length_append] at hle
      exact List.length_eq_zero_iff.mp (by omega)
    rw [hnil, List.append_nil] at ha
    rw [hnil, List.nil_append] at hb
    exact ⟨[], by rw [ha, List.append_nil], by rw [hb, List.nil_append]⟩

/-- No name stands between the start of another word and the place behind the gap that follows
    that word. -/
theorem not_stands_between (hword : ∀ c ∈ word, isWordChar c = true)
    (hgap : ∀ c ∈ gap, isWordChar c = false) (hnonempty : gap ≠ [])
    (hname : ∀ c ∈ name, isWordChar c = true) (hnonempty' : name ≠ []) (hne : word ≠ name)
    {column : Nat} (hle : left.length ≤ column)
    (hlt : column < left.length + word.length + gap.length) :
    ¬StandsAsWord (left ++ (word ++ (gap ++ right))) name column := by
  rintro ⟨front, rest, hline, rfl, hbefore, hbehind⟩
  rcases exists_skipped hline hle with ⟨skipped, rfl, hskipped⟩
  rw [List.length_append] at hlt
  by_cases hlong : word.length ≤ skipped.length
  · -- The name would start in the gap.
    rcases exists_skipped hskipped hlong with ⟨more, rfl, hmore⟩
    rw [List.length_append] at hlt
    rcases exists_skipped hmore.symm (by omega) with ⟨blanks, rfl, hblanks⟩
    rw [List.length_append] at hlt
    have hblank : blanks ≠ [] := fun hnil => by
      rw [hnil, List.length_nil] at hlt
      omega
    have hnot := any_head?_append (fun c hc => hgap c (List.mem_append_right more hc)) hblank right
    rcases List.exists_cons_of_ne_nil hnonempty' with ⟨c, name', rfl⟩
    rw [← hblanks, List.cons_append, List.head?_cons, Option.any_some] at hnot
    exact Bool.false_ne_true (hnot.symm.trans (hname c List.mem_cons_self))
  · rcases exists_skipped hskipped.symm (Nat.le_of_not_le hlong) with ⟨more, rfl, hmore⟩
    rcases List.eq_nil_or_concat skipped with rfl | ⟨skipped, c, rfl⟩
    · -- The name would be the other word.
      exact hne (word_unique hword hname (any_head?_append hgap hnonempty right) hbehind
        (by rw [List.nil_append, hmore]))
    · -- The name would start inside of the other word.
      rw [List.concat_eq_append, ← List.append_assoc, List.getLast?_concat, Option.any_some]
        at hbefore
      have hc := hword c (List.mem_append_left more (by simp))
      exact Bool.false_ne_true (hbefore.symm.trans hc)

/-- A name stands behind another word and the gap that follows it. -/
theorem stands_behind (hgap : ∀ c ∈ gap, isWordChar c = false) (hnonempty : gap ≠ [])
    (hright : right.head?.any isWordChar = false) :
    StandsAsWord (left ++ (word ++ (gap ++ (name ++ right)))) name
      (left.length + word.length + gap.length) := by
  refine ⟨left ++ word ++ gap, right, by simp only [List.append_assoc],
    by simp only [List.length_append], ?_, hright⟩
  rcases List.eq_nil_or_concat gap with rfl | ⟨blanks, c, rfl⟩
  · exact absurd rfl hnonempty
  · rw [List.concat_eq_append, ← List.append_assoc, List.getLast?_concat, Option.any_some]
    exact hgap c (by simp)

end Behind

end RiddlEditor
