import Mathlib.Data.List.Induction
import RiddlEditor.Proofs.Diagnostic.Failures

/-!
# What is reported twice is shown once

A compiler may find the same thing in several phases. A diagnostic is left out if another one in
front of it was reported at the same place with the same words, whatever origins the two have,
and all others stay in their order.

The list is gone through with the identities that were seen. What that comes to is said without
them: a list is its first diagnostic and what the rest has of other identities (`dedupe_cons`),
and so a list behind another one adds what is new after the other one (`dedupe_append`).
Everything else about repetitions follows from these two equations.

## Main definitions

* `IsNewAfter`: A diagnostic that is in no list in front of it.
* `firstReports`: The diagnostics that are the first of their identities.
* `ValidateResult.batches`: The messages of a validation by their origins.
* `ValidateResult.IsWhole`: A validation whose locations hold whole numbers.
* `Finding.ReportedAs`: What a message is told apart by.

## Theorems

* `dedupe_append`: What a list adds to another one.
* `dedupe_eq_firstReports`: Which diagnostics are kept.
* `dedupe_pairwise`, `exists_kept`: Of each identity one diagnostic is kept.
* `dedupe_append_self`: What was seen adds nothing.
* `repeated_reports_are_left_out`: What is left out of a validation.
-/

namespace RiddlEditor

/-! ## Lists without repetitions -/

section Dedupe

variable {ds before : List Diagnostic} {d e : Diagnostic}

/-- Whether a diagnostic is new after others: none of them has its identity. -/
def IsNewAfter (before : List Diagnostic) (d : Diagnostic) : Prop :=
  ∀ e ∈ before, e.identity ≠ d.identity

instance (before : List Diagnostic) (d : Diagnostic) : Decidable (IsNewAfter before d) :=
  inferInstanceAs (Decidable (∀ e ∈ before, e.identity ≠ d.identity))

/-- The diagnostics that are new after those in front of them, in order. -/
def firstReports (ds : List Diagnostic) : List Diagnostic :=
  (ds.zipIdx.filter fun p => decide (IsNewAfter (ds.take p.2) p.1)).map Prod.fst

theorem isNewAfter_nil (d : Diagnostic) : IsNewAfter [] d :=
  fun _ he => absurd he List.not_mem_nil

theorem isNewAfter_cons :
    IsNewAfter (e :: before) d ↔ e.identity ≠ d.identity ∧ IsNewAfter before d :=
  List.forall_mem_cons

/-- What is left behind a list of identities is what is left anyway and is none of them. -/
theorem dedupeAfter_eq_filter (seen : List DiagnosticIdentity) (ds : List Diagnostic) :
    dedupeAfter seen ds = (dedupe ds).filter fun d => decide (d.identity ∉ seen) := by
  induction ds generalizing seen with
  | nil => rfl
  | cons d rest ih =>
      have hfirst : dedupe (d :: rest) = d :: dedupeAfter [d.identity] rest := rfl
      rw [dedupeAfter, hfirst, ih [d.identity], ih seen, ih (d.identity :: seen)]
      by_cases hd : d.identity ∈ seen
      · rw [if_pos (List.contains_iff_mem.mpr hd), List.filter_cons_of_neg (by simpa using hd),
          List.filter_filter]
        refine List.filter_congr fun e _ => ?_
        rw [← Bool.decide_and, decide_eq_decide, List.mem_singleton]
        exact ⟨fun he => ⟨he, fun heq => he (heq ▸ hd)⟩, And.left⟩
      · rw [if_neg fun hc => hd (List.contains_iff_mem.mp hc),
          List.filter_cons_of_pos (by simpa using hd), List.filter_filter, List.cons.injEq]
        refine ⟨rfl, List.filter_congr fun e _ => ?_⟩
        rw [← Bool.decide_and, decide_eq_decide, List.mem_cons, List.mem_singleton, not_or]
        exact and_comm

/-- A list keeps its first diagnostic and what the rest keeps of other identities. -/
theorem dedupe_cons (d : Diagnostic) (rest : List Diagnostic) :
    dedupe (d :: rest) = d :: (dedupe rest).filter fun e => decide (IsNewAfter [d] e) := by
  have hfirst : dedupe (d :: rest) = d :: dedupeAfter [d.identity] rest := rfl
  rw [hfirst, dedupeAfter_eq_filter, List.cons.injEq]
  refine ⟨rfl, List.filter_congr fun e _ => ?_⟩
  rw [decide_eq_decide, isNewAfter_cons, and_iff_left (isNewAfter_nil e), List.mem_singleton]
  exact ne_comm

/-- A list adds to another one what is new after it. -/
theorem dedupe_append (before ds : List Diagnostic) :
    dedupe (before ++ ds) =
      dedupe before ++ (dedupe ds).filter fun d => decide (IsNewAfter before d) := by
  induction before with
  | nil =>
      refine (List.filter_eq_self.mpr fun d _ => ?_).symm
      exact decide_eq_true (isNewAfter_nil d)
  | cons e before ih =>
      rw [List.cons_append, dedupe_cons, ih, List.filter_append, dedupe_cons, List.cons_append,
        List.filter_filter]
      congr 2
      refine List.filter_congr fun d _ => ?_
      rw [← Bool.decide_and, decide_eq_decide, isNewAfter_cons, isNewAfter_cons,
        and_iff_left (isNewAfter_nil d)]

theorem dedupe_singleton (d : Diagnostic) : dedupe [d] = [d] :=
  rfl

theorem firstReports_concat (ds : List Diagnostic) (d : Diagnostic) :
    firstReports (ds ++ [d]) = firstReports ds ++ if IsNewAfter ds d then [d] else [] := by
  have hold : ∀ p ∈ ds.zipIdx, (ds ++ [d]).take p.2 = ds.take p.2 := by
    intro p hp
    have hlt := List.snd_lt_of_mem_zipIdx hp
    exact List.take_append_of_le_length (by omega)
  have hnew : (ds ++ [d]).take ds.length = ds := List.take_left
  rw [firstReports, List.zipIdx_append, List.filter_append, List.map_append, Nat.zero_add]
  congr 1
  · rw [firstReports, List.filter_congr fun p hp => by rw [hold p hp]]
  · by_cases hd : IsNewAfter ds d
    · simp [hnew, hd]
    · simp [hnew, hd]

/-- A diagnostic is kept if no diagnostic in front of it has its identity. -/
theorem dedupe_eq_firstReports (ds : List Diagnostic) : dedupe ds = firstReports ds := by
  induction ds using List.reverseRecOn with
  | nil => rfl
  | append_singleton ds d ih =>
      rw [dedupe_append, ih, firstReports_concat, dedupe_singleton]
      by_cases hd : IsNewAfter ds d
      · rw [if_pos hd, List.filter_cons_of_pos (by simpa using hd), List.filter_nil]
      · rw [if_neg hd, List.filter_cons_of_neg (by simpa using hd), List.filter_nil]

/-- No two diagnostics that are kept have the same identity. -/
theorem dedupe_pairwise (ds : List Diagnostic) :
    (dedupe ds).Pairwise fun d e => d.identity ≠ e.identity := by
  induction ds with
  | nil => exact List.Pairwise.nil
  | cons d rest ih =>
      rw [dedupe_cons, List.pairwise_cons]
      refine ⟨fun e he => ?_, ih.filter _⟩
      exact of_decide_eq_true (List.mem_filter.mp he).2 d (List.mem_singleton_self d)

/-- Of each identity a diagnostic is kept. -/
theorem exists_kept (hd : d ∈ ds) : ∃ e ∈ dedupe ds, e.identity = d.identity := by
  induction ds with
  | nil => exact absurd hd List.not_mem_nil
  | cons first rest ih =>
      rw [dedupe_cons]
      rcases List.mem_cons.mp hd with rfl | hd
      · exact ⟨d, List.mem_cons_self, rfl⟩
      · rcases ih hd with ⟨e, he, hsame⟩
        by_cases hfirst : first.identity = e.identity
        · exact ⟨first, List.mem_cons_self, hfirst.trans hsame⟩
        · refine ⟨e, List.mem_cons_of_mem first (List.mem_filter.mpr ⟨he, ?_⟩), hsame⟩
          exact decide_eq_true (isNewAfter_cons.mpr ⟨hfirst, isNewAfter_nil e⟩)

/-- A list adds nothing to what is left of it. -/
theorem dedupe_append_self (ds : List Diagnostic) : dedupe (dedupe ds ++ ds) = dedupe ds := by
  have hnone : ∀ d ∈ dedupe ds, ¬decide (IsNewAfter (dedupe ds) d) = true :=
    fun d hd hnew => of_decide_eq_true hnew d hd rfl
  rw [dedupe_append, dedupe_of_pairwise (dedupe_pairwise ds), List.filter_eq_nil_iff.mpr hnone,
    List.append_nil]

end Dedupe

/-! ## The messages of a validation -/

/-- The messages of a validation, a list for each origin, in the order of their diagnostics. -/
def ValidateResult.batches (result : ValidateResult) : List (List Finding) :=
  result.syntaxErrors.map (·, .syntaxError) ::
    match result.messages with
    | some messages =>
      [messages.errors.map (·, .validationError), messages.warnings.map (·, .validationWarning),
        messages.info.map (·, .validationInfo)]
    | none => []

theorem flatten_batches (result : ValidateResult) : result.batches.flatten = result.findings := by
  rcases result with ⟨succeeded, syntaxErrors, _ | messages⟩
  · rfl
  · simp only [ValidateResult.batches, ValidateResult.findings, ValidationMessages.findings,
      List.flatten_cons, List.flatten_nil, List.append_nil, List.append_assoc]

/-- The diagnostics of a validation before repeated ones are left out, a list for each origin. -/
def ValidateResult.found (result : ValidateResult) (lines : Lines) (backoff : Number) :
    List (List Diagnostic) :=
  result.batches.map (acceptedDiagnostics lines backoff)

theorem flatten_found (result : ValidateResult) (lines : Lines) (backoff : Number) :
    (result.found lines backoff).flatten = acceptedDiagnostics lines backoff result.findings := by
  rw [ValidateResult.found, ← flatten_batches, acceptedDiagnostics, List.filterMap_flatten]
  rfl

/-- Whether all numbers of locations are whole, as they should be. -/
def ValidateResult.IsWhole (result : ValidateResult) : Prop :=
  ∀ f ∈ result.findings, ∀ l, f.1.location = some l → ∀ a ∈ l.numbers, ¬a.IsReal

section Results

variable {result : ValidateResult} {lines : Lines} {backoff : Number}

/-- No whole number is too large to be calculated with. -/
theorem ValidateResult.IsWhole.not_overflows (h : result.IsWhole) (lines : Lines) (backoff : Int) :
    ¬result.Overflows lines (.whole backoff) := by
  rintro ⟨f, hf, hoverflows⟩
  exact Finding.not_overflows_of_whole (h f hf) hoverflows

theorem reconcileResult_of_not_overflows (hnot : ¬result.Overflows lines backoff) :
    reconcileResult result lines backoff = .ok (firstReports (result.found lines backoff).flatten) := by
  rw [reconcileResult, (outcome_collectResult result lines backoff).eq_ok hnot, flatten_found,
    ← dedupe_eq_firstReports]
  rfl

theorem reconcileResult_of_overflows (h : result.Overflows lines backoff) :
    reconcileResult result lines backoff = .error .overflow := by
  rw [reconcileResult, (outcome_collectResult result lines backoff).eq_error h]
  rfl

/-- What a message is told apart by: the line and the column it was reported at, counted from
    zero, and its wording without control sequences. -/
structure Finding.ReportedAs (f : Finding) (lines : Lines) (identity : DiagnosticIdentity) :
    Prop where
  place : ∃ l lineNumber column line text, f.1.location = some l ∧
    l.line.number? = some lineNumber ∧ l.column.number? = some column ∧
    reportedLine lines l.line (countedNumber lineNumber) = .ok (line, text) ∧
    identity.1 = (ReportedPosition.mk line (countedNumber column)).key
  wording : ∃ reported, f.1.message = .text reported ∧ identity.2 = reported.withoutControls

theorem reportedAs_of_shows {f : Finding} {d : Diagnostic} (h : f.Shows lines backoff d) :
    f.ReportedAs lines d.identity := by
  rcases diagnosed_of_shows h with ⟨l, n, c, line, text, hl, hn, hc, hplace, hd⟩
  refine ⟨⟨l, n, c, line, text, hl, hn, hc, hplace, ?_⟩, hd.message⟩
  rw [Diagnostic.identity, hd.reportedAt]
  rfl

/-- What is left of several lists has a diagnostic of each identity, from the first list that
    has one. -/
theorem exists_kept_of_mem_flatten {buckets : List (List Diagnostic)} {k : Nat}
    {bucket : List Diagnostic} (hbucket : buckets[k]? = some bucket) {d : Diagnostic}
    (hd : d ∈ bucket) :
    ∃ j, j ≤ k ∧ ∃ other, buckets[j]? = some other ∧
      ∃ e ∈ other, e ∈ dedupe buckets.flatten ∧ e.identity = d.identity := by
  -- The lists up to this one come first, so what they keep is kept.
  have hsplit : buckets.flatten =
      (buckets.take (k + 1)).flatten ++ (buckets.drop (k + 1)).flatten := by
    rw [← List.flatten_append, List.take_append_drop]
  have hmem : d ∈ (buckets.take (k + 1)).flatten := by
    refine List.mem_flatten.mpr ⟨bucket, List.mem_iff_getElem?.mpr ⟨k, ?_⟩, hd⟩
    rw [List.getElem?_take_of_lt (Nat.lt_succ_self k), hbucket]
  rcases exists_kept hmem with ⟨e, he, hsame⟩
  rcases List.mem_flatten.mp ((dedupe_sublist _).subset he) with ⟨other, hother, hin⟩
  rcases List.mem_iff_getElem?.mp hother with ⟨j, hj⟩
  rw [List.getElem?_take] at hj
  split_ifs at hj with hlt
  refine ⟨j, Nat.le_of_lt_succ hlt, other, hj, e, hin, ?_, hsame⟩
  rw [hsplit, dedupe_append]
  exact List.mem_append_left _ he

/-- What is shown of a validation. The diagnostics of syntax errors, errors, warnings and
    remarks stand one behind the other, and one of them is kept if none in front of it was
    reported at the same line and column with the same wording. There is always a result, unless
    a number of a location is too large to be calculated with, and that cannot be if these numbers
    are whole. The result keeps the order, no two of its diagnostics have
    the same identity, and what is left out has its like in it, from the same list or an earlier
    one. To go through a list after what is left of it changes nothing. -/
theorem repeated_reports_are_left_out (result : ValidateResult) (lines : Lines) (backoff : Int) :
    let buckets := result.found lines (.whole backoff)
    let shown := firstReports buckets.flatten
    (¬result.Overflows lines (.whole backoff) →
      reconcileResult result lines (.whole backoff) = .ok shown) ∧
    (result.IsWhole → ¬result.Overflows lines (.whole backoff)) ∧
    (∀ ds, reconcileResult result lines (.whole backoff) = .ok ds → ds = shown) ∧
    shown.Sublist buckets.flatten ∧
    shown.Pairwise (fun d e : Diagnostic => d.identity ≠ e.identity) ∧
    (∀ (k : Nat) (bucket : List Diagnostic), buckets[k]? = some bucket → ∀ d ∈ bucket,
      ∃ j, j ≤ k ∧ ∃ other : List Diagnostic, buckets[j]? = some other ∧
        ∃ e ∈ other, e ∈ shown ∧ e.identity = d.identity) ∧
    (∀ f ∈ result.findings, ∀ d : Diagnostic, f.Shows lines (.whole backoff) d →
      f.ReportedAs lines d.identity) ∧
    ∀ ds, dedupe (dedupe ds ++ ds) = dedupe ds := by
  intro buckets shown
  have hshown : shown = dedupe buckets.flatten := (dedupe_eq_firstReports _).symm
  refine ⟨fun hnot => reconcileResult_of_not_overflows hnot, fun h => h.not_overflows lines backoff,
    fun ds hds => ?_, ?_, ?_, fun k bucket hbucket d hd => ?_,
    fun f _ d hd => reportedAs_of_shows hd, dedupe_append_self⟩
  · by_cases hoverflows : result.Overflows lines (.whole backoff)
    · rw [reconcileResult_of_overflows hoverflows] at hds
      exact nomatch hds
    · rw [reconcileResult_of_not_overflows hoverflows] at hds
      exact (Except.ok.inj hds).symm
  · rw [hshown]
    exact dedupe_sublist _
  · rw [hshown]
    exact dedupe_pairwise _
  · rw [hshown]
    exact exists_kept_of_mem_flatten hbucket hd

end Results

end RiddlEditor
