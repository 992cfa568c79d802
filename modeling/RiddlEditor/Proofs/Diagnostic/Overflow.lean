import RiddlEditor.Proofs.Diagnostic.Reconcile

/-!
# Numbers that are too large for a message

Whole numbers are calculated with exactly, however large they are. A calculation can fail only
where a whole number meets a floating point number and has to be rounded first. So a message
fails in this way only if its location holds both: a floating point number among its column and
its offsets, and a whole number that is larger than any that a document has room for.

Three calculations can fail: that of the column where the search for a name starts, that of
the length between the offsets, and that of the column where the highlight ends.

## Main definitions

* `Number.IsReal`, `Number.IsHuge`: The two kinds of numbers that a failure takes.
* `Number.Clash`: Two numbers that cannot be calculated with.
* `ServiceLocation.numbers`: What a highlight is calculated from.
* `ServiceLocation.Overflows`: The three calculations that can fail.
* `Finding.Overflows`: A message with a number that is too large.

## Theorems

* `add?_eq_none`, `sub?_eq_none`: When there is no sum and no difference.
* `ServiceLocation.Overflows.real_and_huge`: What a failure takes.
* `Finding.Overflows.exists_location`: A message fails for its location only.
* `Finding.not_overflows_of_whole`: A message whose numbers are whole does not fail.
-/

namespace RiddlEditor

/-! ## Sums and differences -/

namespace Number

/-- A floating point number. -/
def IsReal (a : Number) : Prop :=
  ∃ x, a = .real x

instance : DecidablePred IsReal
  | whole _ => isFalse fun ⟨_, hx⟩ => nomatch hx
  | real x => isTrue ⟨x, rfl⟩

/-- A whole number of such a magnitude that a difference of two may be too large. -/
def IsHuge (a : Number) : Prop :=
  ∃ n, a = .whole n ∧ powerOfTwo 1022 ≤ n.natAbs

/-- Two numbers that cannot be calculated with: one is a floating point number, and the other
    one cannot be rounded to one. -/
inductive Clash : Number → Number → Prop where
  | wholeReal {n : Int} {x : Float} (h : floatOverflow ≤ n.natAbs) : Clash (.whole n) (.real x)
  | realWhole {n : Int} {x : Float} (h : floatOverflow ≤ n.natAbs) : Clash (.real x) (.whole n)

variable {a b d : Number}

theorem twice_huge_le : 2 * powerOfTwo 1022 ≤ floatOverflow := by
  decide +kernel

theorem isHuge_whole {n : Int} (h : floatOverflow ≤ n.natAbs) : (whole n).IsHuge := by
  have hhuge := twice_huge_le
  exact ⟨n, rfl, by omega⟩

theorem sub?_eq_none (h : a.sub? b = none) : a.Clash b := by
  cases a with
  | whole n =>
      cases b with
      | whole m => exact nomatch h
      | real y => exact .wholeReal (by simpa [sub?, toFloat?] using h)
  | real x =>
      cases b with
      | whole m => exact .realWhole (by simpa [sub?, toFloat?] using h)
      | real y => exact nomatch h

theorem add?_eq_none (h : a.add? b = none) : a.Clash b := by
  cases a with
  | whole n =>
      cases b with
      | whole m => exact nomatch h
      | real y => exact .wholeReal (by simpa [add?, toFloat?] using h)
  | real x =>
      cases b with
      | whole m => exact .realWhole (by simpa [add?, toFloat?] using h)
      | real y => exact nomatch h

theorem Clash.real_and_huge (h : a.Clash b) : a.IsHuge ∧ b.IsReal ∨ a.IsReal ∧ b.IsHuge := by
  cases h with
  | wholeReal h => exact Or.inl ⟨isHuge_whole h, _, rfl⟩
  | realWhole h => exact Or.inr ⟨⟨_, rfl⟩, isHuge_whole h⟩

/-- A difference is that of two whole numbers, or one of them is a floating point number and so
    is the difference. -/
theorem sub?_eq_some (h : a.sub? b = some d) :
    (∃ n m, a = .whole n ∧ b = .whole m ∧ d = .whole (n - m)) ∨
      ((a.IsReal ∨ b.IsReal) ∧ d.IsReal) := by
  cases a with
  | whole n =>
      cases b with
      | whole m => exact Or.inl ⟨n, m, rfl, rfl, (Option.some.inj h).symm⟩
      | real y =>
          simp only [sub?, Option.bind_eq_bind, Option.bind_eq_some_iff, Option.pure_def,
            Option.some.injEq] at h
          rcases h with ⟨_, _, _, _, rfl⟩
          exact Or.inr ⟨Or.inr ⟨y, rfl⟩, _, rfl⟩
  | real x =>
      simp only [sub?, Option.bind_eq_bind, Option.bind_eq_some_iff, Option.pure_def,
        Option.some.injEq] at h
      rcases h with ⟨_, _, _, _, rfl⟩
      exact Or.inr ⟨Or.inl ⟨x, rfl⟩, _, rfl⟩

/-- A difference that is too large has a huge number. -/
theorem isHuge_of_sub? {n : Int} (h : a.sub? b = some (.whole n))
    (hn : floatOverflow ≤ n.natAbs) : a.IsHuge ∨ b.IsHuge := by
  rcases sub?_eq_some h with ⟨k, m, rfl, rfl, hd⟩ | ⟨_, x, hx⟩
  · obtain rfl := whole.inj hd
    have hhuge := twice_huge_le
    by_cases hk : powerOfTwo 1022 ≤ k.natAbs
    · exact Or.inl ⟨k, rfl, hk⟩
    · exact Or.inr ⟨m, rfl, by omega⟩
  · exact nomatch hx

end Number

/-! ## Columns and offsets -/

/-- What a highlight is calculated from: the column and the offsets, as far as they are
    numbers. -/
def ServiceLocation.numbers (l : ServiceLocation) : List Number :=
  [l.column, l.offsetOrNull, l.endOffsetOrNull].filterMap Value.number?

/-- The number is too large in one of the three calculations for a location. -/
inductive ServiceLocation.Overflows (backoff : Number) (l : ServiceLocation) : Prop where
  /-- Where the search for a name starts. -/
  | search {column : Number} (hcolumn : l.column.number? = some column)
      (h : (countedNumber column).sub? backoff = none)
  /-- The length between the offsets. -/
  | length {first last : Number} (hoffset : l.offsetOrNull.number? = some first)
      (hend : l.endOffsetOrNull.number? = some last) (h : last.sub? first = none)
  /-- Where the highlight ends. -/
  | stop {column first last difference : Number} (hcolumn : l.column.number? = some column)
      (hoffset : l.offsetOrNull.number? = some first) (hend : l.endOffsetOrNull.number? = some last)
      (hdifference : last.sub? first = some difference)
      (h : (countedNumber column).add? (Number.max (.whole 1) difference) = none)

theorem max_eq_or (a b : Number) : Number.max a b = a ∨ Number.max a b = b := by
  rw [Number.max]
  split
  case isTrue => exact Or.inr rfl
  case isFalse => exact Or.inl rfl

/-- A column that is counted from zero is of the kind it was, or it is the first one. -/
theorem isReal_of_countedNumber {a : Number} (h : (countedNumber a).IsReal) : a.IsReal := by
  cases a with
  | whole n =>
      rcases h with ⟨x, hx⟩
      rw [countedNumber, Number.max_whole] at hx
      cases hx
  | real x => exact ⟨x, rfl⟩

theorem isHuge_of_countedNumber {a : Number} {n : Int} (h : countedNumber a = .whole n)
    (hn : floatOverflow ≤ n.natAbs) : a.IsHuge := by
  have hhuge := Number.twice_huge_le
  cases a with
  | whole m =>
      rw [countedNumber, Number.max_whole] at h
      have hm := Number.whole.inj h
      exact ⟨m, rfl, by omega⟩
  | real x =>
      rcases max_eq_or (.whole 0) (.real (x - 1.0)) with hmax | hmax
      · rw [countedNumber, hmax] at h
        obtain rfl := Number.whole.inj h
        exact absurd hn (Nat.not_le_of_lt (by decide +kernel))
      · rw [countedNumber, hmax] at h
        cases h

theorem mem_numbers {l : ServiceLocation} {v : Value} {a : Number}
    (hv : v ∈ [l.column, l.offsetOrNull, l.endOffsetOrNull]) (h : v.number? = some a) : a ∈ l.numbers :=
  List.mem_filterMap.mpr ⟨v, hv, h⟩

/-- What it takes for a number to be too large: a floating point number and a huge one. -/
theorem ServiceLocation.Overflows.real_and_huge {l : ServiceLocation} {backoff : Int}
    (h : l.Overflows (.whole backoff)) :
    (∃ a ∈ l.numbers, a.IsReal) ∧ ∃ a ∈ Number.whole backoff :: l.numbers, a.IsHuge := by
  have hcolumns {a : Number} (ha : l.column.number? = some a) : a ∈ l.numbers :=
    mem_numbers (by simp) ha
  have hoffsets {a : Number} (ha : l.offsetOrNull.number? = some a) : a ∈ l.numbers :=
    mem_numbers (by simp) ha
  have hends {a : Number} (ha : l.endOffsetOrNull.number? = some a) : a ∈ l.numbers :=
    mem_numbers (by simp) ha
  cases h with
  | @search column hcolumn h =>
      rcases (Number.sub?_eq_none h).real_and_huge with ⟨_, x, hx⟩ | ⟨hreal, hhuge⟩
      · exact nomatch hx
      · exact ⟨⟨column, hcolumns hcolumn, isReal_of_countedNumber hreal⟩,
          _, List.mem_cons_self, hhuge⟩
  | @length first last hoffset hend h =>
      rcases (Number.sub?_eq_none h).real_and_huge with ⟨hhuge, hreal⟩ | ⟨hreal, hhuge⟩
      · exact ⟨⟨first, hoffsets hoffset, hreal⟩, last, List.mem_cons_of_mem _ (hends hend), hhuge⟩
      · exact ⟨⟨last, hends hend, hreal⟩, first, List.mem_cons_of_mem _ (hoffsets hoffset), hhuge⟩
  | @stop column first last difference hcolumn hoffset hend hdifference h =>
      have hclash := Number.add?_eq_none h
      generalize hcounted : countedNumber column = counted at hclash
      rcases max_eq_or (.whole 1) difference with hmax | hmax
      · -- A single character is not too long.
        rw [hmax] at hclash
        cases hclash with
        | realWhole hlarge => exact absurd hlarge (Nat.not_le_of_lt (by decide +kernel))
      · rw [hmax] at hclash
        cases hclash with
        | wholeReal hlarge =>
            have hhuge := isHuge_of_countedNumber hcounted hlarge
            refine ⟨?_, column, List.mem_cons_of_mem _ (hcolumns hcolumn), hhuge⟩
            rcases Number.sub?_eq_some hdifference with ⟨_, _, _, _, hwhole⟩ | ⟨hreal | hreal, _⟩
            · exact nomatch hwhole
            · exact ⟨last, hends hend, hreal⟩
            · exact ⟨first, hoffsets hoffset, hreal⟩
        | realWhole hlarge =>
            have hreal := isReal_of_countedNumber ⟨_, hcounted⟩
            refine ⟨⟨column, hcolumns hcolumn, hreal⟩, ?_⟩
            rcases Number.isHuge_of_sub? hdifference hlarge with hhuge | hhuge
            · exact ⟨last, List.mem_cons_of_mem _ (hends hend), hhuge⟩
            · exact ⟨first, List.mem_cons_of_mem _ (hoffsets hoffset), hhuge⟩

/-! ## Messages -/

/-- A message with a number that is too large. -/
def Finding.Overflows (lines : Lines) (backoff : Number) (f : Finding) : Prop :=
  reconcile f.1 lines f.2 backoff = .error .overflow

/-- The steps of an answer that is not given. -/
theorem bind_eq_error {ε α β : Type} {x : Except ε α} {f : α → Except ε β} {e : ε}
    (h : x >>= f = .error e) : x = .error e ∨ ∃ a, x = .ok a ∧ f a = .error e := by
  cases x with
  | error e' => exact Or.inl (congrArg Except.error (Except.error.inj h))
  | ok a => exact Or.inr ⟨a, rfl, h⟩

theorem ofHighlight_eq_overflow {α : Type} {x : Except HighlightError α}
    (h : x.mapError ReconcileError.ofHighlight = .error .overflow) : x = .error .overflow := by
  rcases x with (_ | _ | _) | _
  · exact nomatch h
  · rfl
  · exact nomatch h
  · exact nomatch h

section Highlights

variable {message line : Text} {column backoff : Number} {offset endOffset : Value}

theorem namedHighlight?_eq_overflow
    (h : namedHighlight? message line column backoff = .error .overflow) :
    column.sub? backoff = none := by
  unfold namedHighlight? at h
  split at h
  case h_1 => exact nomatch h
  case h_2 =>
    rcases bind_eq_error h with h | ⟨_, _, h⟩
    · unfold searchStart at h
      split at h
      case h_1 hsub => exact hsub
      case h_2 => exact nomatch h
      case h_3 => split at h <;> exact nomatch h
    · exact nomatch h

/-- The difference of two offsets, if it can be calculated and if it cannot. -/
theorem offsetSpan?_eq_overflow (h : offsetSpan? offset endOffset = .error .overflow) :
    ∃ first last, offset.number? = some first ∧ endOffset.number? = some last ∧
      last.sub? first = none := by
  unfold offsetSpan? at h
  split at h
  case h_1 => exact nomatch h
  case h_2 => exact nomatch h
  case h_3 =>
    split at h
    case h_1 first last hfirst hlast =>
      split at h
      case h_1 => exact nomatch h
      case h_2 hsub => exact ⟨first, last, hfirst, hlast, hsub⟩
    case h_2 => exact nomatch h

theorem offsetSpan?_eq_some {difference : Number}
    (h : offsetSpan? offset endOffset = .ok (some difference)) :
    ∃ first last, offset.number? = some first ∧ endOffset.number? = some last ∧
      last.sub? first = some difference := by
  unfold offsetSpan? at h
  split at h
  case h_1 => exact nomatch h
  case h_2 => exact nomatch h
  case h_3 =>
    split at h
    case h_1 first last hfirst hlast =>
      split at h
      case h_1 hsub => exact ⟨first, last, hfirst, hlast, hsub.trans (Except.ok.inj h)⟩
      case h_2 => exact nomatch h
    case h_2 => exact nomatch h

/-- What a name search finds is a name. -/
theorem namedHighlight?_eq_some {found : Highlight}
    (h : namedHighlight? message line column backoff = .ok (some found)) :
    ∃ start length, found = .name start length := by
  unfold namedHighlight? at h
  split at h
  case h_1 => exact nomatch h
  case h_2 =>
    rcases bind_eq_ok h with ⟨first, _, h⟩
    rcases List.exists_of_findSome?_eq_some (Except.ok.inj h) with ⟨name, _, hname⟩
    rcases Option.map_eq_some_iff.mp hname with ⟨start, _, rfl⟩
    exact ⟨start, name.length, rfl⟩

theorem wordHighlight_ne_span (line : Text) (column : Nat) (length : Number) :
    wordHighlight line column ≠ .span length := by
  intro h
  unfold wordHighlight at h
  simp only at h
  split at h <;> exact nomatch h

/-- Where no name is found, a span stands for a difference. -/
theorem fallbackHighlight_eq_span {difference : Option Number} {length : Number}
    (h : fallbackHighlight line column difference = .span length) :
    ∃ d, difference = some d ∧ length = Number.max (.whole 1) d := by
  cases difference with
  | some d => exact ⟨d, rfl, (Highlight.span.inj h).symm⟩
  | none =>
      unfold fallbackHighlight at h
      simp only at h
      split at h
      case h_1 =>
        split at h
        case isTrue => exact nomatch h
        case isFalse => exact absurd h (wordHighlight_ne_span _ _ _)
      case h_2 => exact nomatch h
      case h_3 => exact nomatch h

/-- A span is highlighted only for the difference of two offsets. -/
theorem highlight_eq_span {length : Number}
    (h : highlight message line column offset endOffset backoff = .ok (.span length)) :
    ∃ difference, offsetSpan? offset endOffset = .ok (some difference) ∧
      length = Number.max (.whole 1) difference := by
  rcases bind_eq_ok h with ⟨named, hnamed, h⟩
  cases named with
  | some found =>
      obtain rfl := Except.ok.inj h
      rcases namedHighlight?_eq_some hnamed with ⟨_, _, hname⟩
      exact nomatch hname
  | none =>
      rcases bind_eq_ok h with ⟨difference, hdifference, h⟩
      rcases fallbackHighlight_eq_span (Except.ok.inj h) with ⟨d, rfl, hlength⟩
      exact ⟨d, hdifference, hlength⟩

theorem columnsFrom_eq_overflow {length : Number}
    (h : columnsFrom column length = .error .overflow) : column.add? length = none := by
  unfold columnsFrom at h
  split at h
  case h_1 => exact nomatch h
  case h_2 hnone => exact Option.map_eq_none_iff.mp hnone

theorem range_eq_overflow {found : Highlight} {lineNumber : Nat}
    (h : found.range lineNumber column = .error .overflow) :
    ∃ length, found = .span length ∧ column.add? length = none := by
  rcases bind_eq_error h with h | ⟨span, _, h⟩
  · cases found with
    | span length => exact ⟨length, rfl, columnsFrom_eq_overflow h⟩
    | character =>
        -- The column behind a single character can be calculated.
        have hclash := Number.add?_eq_none (columnsFrom_eq_overflow h)
        cases hclash with
        | realWhole hlarge => exact absurd hlarge (Nat.not_le_of_lt (by decide +kernel))
    | name _ _ => exact nomatch h
    | lineEnd _ => exact nomatch h
    | word _ _ => exact nomatch h
  · rcases bind_eq_error h with h | ⟨_, _, h⟩
    · unfold inOrderColumns at h
      split at h <;> exact nomatch h
    · exact nomatch h

end Highlights

theorem ReconcileError.showing_ne_overflow {e : ReconcileError} (h : e ≠ .overflow) (v : Value) :
    e.showing v ≠ .overflow := by
  unfold ReconcileError.showing
  split
  case isTrue => exact nofun
  case isFalse => exact h

theorem reportedLine_ne_overflow (lines : Lines) (reported : Value) (line : Number) :
    reportedLine lines reported line ≠ .error .overflow := by
  intro h
  have houtside : ReconcileError.lineOutside reported lines.count ≠ .overflow := nofun
  unfold reportedLine at h
  split at h
  case h_1 =>
    split at h
    case h_1 => exact nomatch h
    case h_2 => exact ReconcileError.showing_ne_overflow houtside reported (Except.error.inj h)
  case h_2 =>
    split at h
    case isTrue => exact nomatch h
    case isFalse => exact ReconcileError.showing_ne_overflow houtside reported (Except.error.inj h)

theorem messageSeverity_ne_overflow (spec : DiagnosticSpec) (kind : Value) :
    messageSeverity spec kind ≠ .error .overflow := by
  intro h
  unfold messageSeverity at h
  split at h
  case h_1 => exact nomatch h
  case h_2 => split at h <;> exact nomatch h

theorem requireField_ne_overflow {α : Type} (field : Option α) :
    requireField field ≠ .error .overflow := by
  cases field <;> exact nofun

theorem diagnosticAt_eq_overflow {raw : ServiceMessage} {spec : DiagnosticSpec} {backoff : Number}
    {l : ServiceLocation} {line : Nat} {text : Text} {column : Number}
    (hcolumn : l.column.number? = some column)
    (h : diagnosticAt raw spec backoff l line text (countedNumber column) = .error .overflow) :
    l.Overflows backoff := by
  unfold diagnosticAt at h
  split at h
  case h_2 => exact nomatch h
  case h_1 reported _ =>
    rcases bind_eq_error h with h | ⟨offset, hoffset, h⟩
    · exact absurd h (requireField_ne_overflow _)
    rcases bind_eq_error h with h | ⟨endOffset, hend, h⟩
    · exact absurd h (requireField_ne_overflow _)
    have hfirst : l.offsetOrNull = offset := by
      rw [ServiceLocation.offsetOrNull, eq_some_of_requireField hoffset, Option.getD_some]
    have hlast : l.endOffsetOrNull = endOffset := by
      rw [ServiceLocation.endOffsetOrNull, eq_some_of_requireField hend, Option.getD_some]
    rcases bind_eq_error h with h | ⟨found, hfound, h⟩
    · -- Nothing is found to be highlighted.
      rcases bind_eq_error (ofHighlight_eq_overflow h) with h | ⟨named, _, h⟩
      · exact .search hcolumn (namedHighlight?_eq_overflow h)
      · cases named with
        | some _ => exact nomatch h
        | none =>
            rcases bind_eq_error h with h | ⟨_, _, h⟩
            · rcases offsetSpan?_eq_overflow h with ⟨first, last, hoffset, hend, hsub⟩
              exact .length (hfirst ▸ hoffset) (hlast ▸ hend) hsub
            · exact nomatch h
    · rcases bind_eq_error h with h | ⟨_, _, h⟩
      · -- What is found has no end.
        rcases range_eq_overflow (ofHighlight_eq_overflow h) with ⟨length, rfl, hadd⟩
        rcases highlight_eq_span (ok_of_mapError hfound) with ⟨difference, hdifference, rfl⟩
        rcases offsetSpan?_eq_some hdifference with ⟨first, last, hoffset, hend, hsub⟩
        exact .stop hcolumn (hfirst ▸ hoffset) (hlast ▸ hend) hsub hadd
      · rcases bind_eq_error h with h | ⟨kind, _, h⟩
        · exact absurd h (requireField_ne_overflow _)
        · rcases bind_eq_error h with h | ⟨_, _, h⟩
          · exact absurd h (messageSeverity_ne_overflow spec kind)
          · exact nomatch h

/-- A message fails only in one of the three calculations for its location. -/
theorem Finding.Overflows.exists_location {lines : Lines} {backoff : Number} {f : Finding}
    (h : f.Overflows lines backoff) : ∃ l, f.1.location = some l ∧ l.Overflows backoff := by
  unfold Finding.Overflows reconcile at h
  split at h
  case h_1 =>
    have hlost : ReconcileError.noLocation f.1.message ≠ .overflow := nofun
    exact absurd (Except.error.inj h) (ReconcileError.showing_ne_overflow hlost _)
  case h_2 location hlocation =>
    refine ⟨location, hlocation, ?_⟩
    split at h
    case h_2 => exact nomatch h
    case h_1 lineNumber column _ hcolumn =>
      rcases bind_eq_error h with h | ⟨_, _, h⟩
      · exact absurd h (reportedLine_ne_overflow _ _ _)
      · exact diagnosticAt_eq_overflow hcolumn h

/-- No whole number is too large to be calculated with. -/
theorem Finding.not_overflows_of_whole {lines : Lines} {backoff : Int} {f : Finding}
    (h : ∀ l ∈ f.1.location, ∀ a ∈ l.numbers, ¬a.IsReal) : ¬f.Overflows lines (.whole backoff) := by
  intro hoverflows
  rcases hoverflows.exists_location with ⟨l, hl, hnumbers⟩
  rcases hnumbers.real_and_huge.1 with ⟨a, ha, hreal⟩
  exact h l hl a ha hreal

end RiddlEditor
