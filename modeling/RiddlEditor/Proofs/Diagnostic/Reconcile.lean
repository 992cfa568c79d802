import Mathlib.Data.List.Forall2
import RiddlEditor.Compiler.Local
import RiddlEditor.Diagnostic.Reconcile

/-!
# What becomes of a message

A message is lost in two ways: it is refused, or another one with the same identity comes
before it. A message that is placed in the document is not refused, whatever it says, since
nothing can go wrong with whole numbers. And what it is told apart by is where it was
reported and how it reads without control sequences.

A batch in which no message is refused becomes one diagnostic for each of them, and if they
can all be told apart, none of these is left out.

## Main definitions

* `Finding`, `ValidateResult.findings`: The messages of a validation with their origins, in
  the order of their diagnostics.
* `Finding.Shows`: The diagnostic of a message.
* `ServiceMessage.Placed`: A message that is placed in a document.
* `Finding.Apart`: Two messages whose diagnostics are not the same.
* `Finding.Diagnosed`: What a diagnostic has from its message.

## Theorems

* `reconcile_of_placed`: A message that is placed is not refused.
* `exists_collectResult`: A validation in which no message is refused.
* `dedupe_of_pairwise`: Diagnostics that are told apart are all kept.
* `reconcileResult_of_apart`: A validation whose messages are told apart.
* `diagnosed_of_shows`: The steps of a reconciliation.
* `diagnosed_of_located`: The line that a diagnostic is on.
-/

namespace RiddlEditor

/-- A message of a validation, with what it has in common with others of its origin. -/
abbrev Finding := ServiceMessage × DiagnosticSpec

/-- The messages of a validation that ran, in the order of their diagnostics. -/
def ValidationMessages.findings (messages : ValidationMessages) : List Finding :=
  messages.errors.map (·, .validationError) ++ messages.warnings.map (·, .validationWarning) ++
    messages.info.map (·, .validationInfo)

/-- The messages of a validation, in the order of their diagnostics. -/
def ValidateResult.findings (result : ValidateResult) : List Finding :=
  result.syntaxErrors.map (·, .syntaxError) ++
    match result.messages with
    | some messages => messages.findings
    | none => []

/-- The diagnostic of a message. -/
def Finding.Shows (lines : Lines) (backoff : Number) (f : Finding) (d : Diagnostic) : Prop :=
  reconcile f.1 lines f.2 backoff = .ok d

/-- Two offsets that do not get in the way of a highlight: both are whole, or one is
    missing. -/
def WholeOffsets (offset endOffset : Value) : Prop :=
  ∃ difference, offsetSpan? offset endOffset = .ok difference ∧
    ∀ d, difference = some d → ∃ n : Int, d = .whole n

/-- A message that is placed in a document: its kind and its wording are texts, its position
    is on a line of the document, and its offsets are whole. -/
inductive ServiceMessage.Placed (lines : Lines) : ServiceMessage → Position → Text → Prop where
  | mk {kind message origin : Text} {p : Position} {offset endOffset : Value}
      (hline : p.line < lines.count) (hoffsets : WholeOffsets offset endOffset) :
      Placed lines
        ⟨some (.text kind), .text message, some (serviceLocation p offset endOffset origin)⟩ p
        message

/-- Two messages whose diagnostics are not the same. -/
def Finding.Apart (lines : Lines) (backoff : Number) (f f' : Finding) : Prop :=
  ∀ d d', f.Shows lines backoff d → f'.Shows lines backoff d' → d.identity ≠ d'.identity

theorem wholeOffsets_null : WholeOffsets .null .null :=
  ⟨none, rfl, fun _ hd => nomatch hd⟩

theorem wholeOffsets_int (first last : Int) : WholeOffsets (.int first) (.int last) := by
  refine ⟨some (.whole (last - first)), rfl, fun d hd => ?_⟩
  exact ⟨last - first, (Option.some.inj hd).symm⟩

/-- A highlight whose length, if it has one of its own, is a whole number. -/
def Highlight.IsWhole : Highlight → Prop
  | .span length => ∃ n : Int, 0 ≤ n ∧ length = .whole n
  | _ => True

theorem columnsFrom_whole (column n : Int) (hn : 0 ≤ n) :
    ∃ span, columnsFrom (.whole column) (.whole n) = .ok span ∧ span.isReversed = false := by
  refine ⟨⟨.whole column, .whole (column + n)⟩, rfl, ?_⟩
  rw [ColumnSpan.isReversed, Number.isLess_whole, decide_eq_false_iff_not]
  omega

/-- Nothing can go wrong with the range of a whole highlight. -/
theorem exists_range {found : Highlight} (h : found.IsWhole) (line : Nat) (column : Int) :
    ∃ range, found.range line (.whole column) = .ok range := by
  -- The end of a stretch is its start and a length that is not negative.
  have hcolumns : ∃ span, found.columns (.whole column) = .ok span ∧ span.isReversed = false := by
    cases found with
    | name start length => exact ⟨_, rfl, ColumnSpan.isReversed_ofNat start length⟩
    | span length =>
        rcases h with ⟨n, hn, rfl⟩
        exact columnsFrom_whole column n hn
    | lineEnd start => exact ⟨_, rfl, ColumnSpan.isReversed_ofNat start 0⟩
    | word start length => exact ⟨_, rfl, ColumnSpan.isReversed_ofNat start length⟩
    | character => exact columnsFrom_whole column 1 (by decide)
  rcases hcolumns with ⟨span, hspan, hordered⟩
  refine ⟨span.onLine line, ?_⟩
  rw [Highlight.range, hspan]
  change Except.bind (inOrderColumns span) _ = _
  rw [inOrderColumns, if_neg (by rw [hordered]; exact Bool.false_ne_true)]
  rfl

/-- Where a name is looked for is no question for whole numbers, and what is found is a
    name. -/
theorem namedHighlight?_whole (message line : Text) (column backoff : Int) :
    ∃ found, namedHighlight? message line (.whole column) (.whole backoff) = .ok found ∧
      ∀ place, found = some place → place.IsWhole := by
  unfold namedHighlight?
  split
  case h_1 => exact ⟨none, rfl, fun place hplace => nomatch hplace⟩
  case h_2 =>
    refine ⟨_, rfl, fun place hplace => ?_⟩
    rcases List.exists_of_findSome?_eq_some hplace with ⟨name, _, hname⟩
    rcases Option.map_eq_some_iff.mp hname with ⟨start, _, rfl⟩
    exact trivial

theorem isWhole_wordHighlight (line : Text) (column : Nat) :
    (wordHighlight line column).IsWhole := by
  unfold wordHighlight
  simp only
  split <;> exact trivial

theorem isWhole_fallbackHighlight (line : Text) (column : Number) {difference : Option Number}
    (h : ∀ d, difference = some d → ∃ n : Int, d = .whole n) :
    (fallbackHighlight line column difference).IsWhole := by
  cases difference with
  | some d =>
      rcases h d rfl with ⟨n, rfl⟩
      rw [fallbackHighlight, Number.max_whole]
      exact ⟨max 1 n, by omega, rfl⟩
  | none =>
      simp only [fallbackHighlight]
      split
      case h_1 =>
        split
        case isTrue => exact trivial
        case isFalse => exact isWhole_wordHighlight _ _
      case h_2 => exact trivial
      case h_3 => exact trivial

theorem exists_highlight (message line : Text) (column : Int) {offset endOffset : Value}
    (h : WholeOffsets offset endOffset) (backoff : Int) :
    ∃ found, highlight message line (.whole column) offset endOffset (.whole backoff) =
      .ok found ∧ found.IsWhole := by
  rcases namedHighlight?_whole message line column backoff with ⟨named, hnamed, hwhole⟩
  rcases h with ⟨difference, hdifference, hoffsets⟩
  unfold highlight
  rw [hnamed, hdifference]
  cases named with
  | some found => exact ⟨found, rfl, hwhole found rfl⟩
  | none => exact ⟨_, rfl, isWhole_fallbackHighlight line _ hoffsets⟩

theorem countedNumber_succ (n : Nat) : countedNumber (.whole (n + 1)) = .whole n := by
  rw [countedNumber, Number.max_whole]
  refine congrArg Number.whole ?_
  omega

theorem reportedLine_of_lt {lines : Lines} {line : Nat} (reported : Value)
    (h : line < lines.count) :
    ∃ text, reportedLine lines reported (.whole line) = .ok (line, text) := by
  have hsome : lines.lines[(line : Int).toNat]? = some lines.lines[line] := by
    rw [Int.toNat_natCast]
    exact List.getElem?_eq_getElem h
  refine ⟨lines.lines[line], ?_⟩
  rw [reportedLine, hsome]
  rfl

theorem exists_messageSeverity (spec : DiagnosticSpec) (kind : Text) :
    ∃ severity, messageSeverity spec (.text kind) = .ok severity := by
  rw [messageSeverity]
  cases spec.severity with
  | some severity => exact ⟨severity, rfl⟩
  | none => exact ⟨_, rfl⟩

/-- A message that is placed is not refused, and its diagnostic is told apart by where it was
    reported and how it reads. -/
theorem reconcile_of_placed {lines : Lines} {raw : ServiceMessage} {p : Position} {message : Text}
    (h : raw.Placed lines p message) (spec : DiagnosticSpec) (backoff : Int) :
    ∃ d, reconcile raw lines spec (.whole backoff) = .ok d ∧
      d.identity = (p.reported.key, message.withoutControls) := by
  cases h with
  | @mk kind _ origin _ offset endOffset hline hoffsets =>
      -- Every step of the reconciliation has its answer.
      rcases reportedLine_of_lt (.int (p.line + 1)) hline with ⟨text, htext⟩
      rcases exists_highlight message.withoutControls text p.column hoffsets backoff with
        ⟨found, hfound, hwhole⟩
      rcases exists_range hwhole p.line p.column with ⟨range, hrange⟩
      rcases exists_messageSeverity spec kind with ⟨severity, hseverity⟩
      simp only [reconcile, serviceLocation, Value.number?, Value.integer?, Option.map_some,
        countedNumber_succ, htext, diagnosticAt, requireField, bind, Except.bind, hfound,
        Except.mapError, hrange, hseverity]
      exact ⟨_, rfl, rfl⟩

/-- Two messages that are placed are told apart by their positions or by their wordings. -/
theorem apart_of_placed {lines : Lines} {f f' : Finding} {p p' : Position} {message message' : Text}
    (h : f.1.Placed lines p message) (h' : f'.1.Placed lines p' message')
    (hne : p ≠ p' ∨ message.withoutControls ≠ message'.withoutControls) (backoff : Int) :
    f.Apart lines (.whole backoff) f' := by
  intro d d' hd hd' heq
  rcases reconcile_of_placed h f.2 backoff with ⟨e, he, hidentity⟩
  rcases reconcile_of_placed h' f'.2 backoff with ⟨e', he', hidentity'⟩
  -- A message has one diagnostic only.
  obtain rfl : d = e := Except.ok.inj (hd.symm.trans he)
  obtain rfl : d' = e' := Except.ok.inj (hd'.symm.trans he')
  rw [hidentity, hidentity', Prod.mk.injEq, Position.key_reported_inj] at heq
  rcases hne with hne | hne
  · exact hne heq.1
  · exact hne heq.2

/-- A batch in which no message is refused becomes one diagnostic for each of them. -/
theorem exists_reconcileAll {raws : List ServiceMessage} {lines : Lines} {spec : DiagnosticSpec}
    {backoff : Number} (h : ∀ raw ∈ raws, ∃ d, Finding.Shows lines backoff (raw, spec) d) :
    ∃ ds, reconcileAll raws lines spec backoff = .ok ds ∧
      List.Forall₂ (Finding.Shows lines backoff) (raws.map (·, spec)) ds := by
  induction raws with
  | nil => exact ⟨[], rfl, List.Forall₂.nil⟩
  | cons raw rest ih =>
      rcases h raw List.mem_cons_self with ⟨d, hd⟩
      rcases ih (fun other hother => h other (List.mem_cons_of_mem raw hother)) with ⟨ds, hds, hall⟩
      have hfirst : reconcile raw lines spec backoff = .ok d := hd
      refine ⟨d :: ds, ?_, List.Forall₂.cons hd hall⟩
      rw [reconcileAll, hfirst, hds]
      rfl

/-- The batches of a validation that ran, one behind the other. -/
theorem exists_reconcile_messages {messages : ValidationMessages} {lines : Lines}
    {backoff : Number} (h : ∀ f ∈ messages.findings, ∃ d, Finding.Shows lines backoff f d) :
    ∃ ds, messages.reconcile lines backoff = .ok ds ∧
      List.Forall₂ (Finding.Shows lines backoff) messages.findings ds := by
  simp only [ValidationMessages.findings, List.mem_append, List.mem_map] at h
  have herrors := exists_reconcileAll fun raw hraw =>
    h (raw, .validationError) (Or.inl (Or.inl ⟨raw, hraw, rfl⟩))
  have hwarnings := exists_reconcileAll fun raw hraw =>
    h (raw, .validationWarning) (Or.inl (Or.inr ⟨raw, hraw, rfl⟩))
  have hinfo := exists_reconcileAll fun raw hraw =>
    h (raw, .validationInfo) (Or.inr ⟨raw, hraw, rfl⟩)
  rcases herrors with ⟨errors, herrors, herrorsAll⟩
  rcases hwarnings with ⟨warnings, hwarnings, hwarningsAll⟩
  rcases hinfo with ⟨info, hinfo, hinfoAll⟩
  refine ⟨errors ++ warnings ++ info, ?_, ?_⟩
  · rw [ValidationMessages.reconcile, herrors, hwarnings, hinfo]
    rfl
  · exact List.rel_append (List.rel_append herrorsAll hwarningsAll) hinfoAll

/-- A validation in which no message is refused becomes one diagnostic for each of them. -/
theorem exists_collectResult {result : ValidateResult} {lines : Lines} {backoff : Number}
    (h : ∀ f ∈ result.findings, ∃ d, Finding.Shows lines backoff f d) :
    ∃ ds, collectResult result lines backoff = .ok ds ∧
      List.Forall₂ (Finding.Shows lines backoff) result.findings ds := by
  rcases result with ⟨succeeded, syntaxErrors, messages⟩
  have hparsing := exists_reconcileAll fun raw hraw =>
    h (raw, .syntaxError) (List.mem_append_left _ (List.mem_map_of_mem hraw))
  rcases hparsing with ⟨parsing, hparsing, hparsingAll⟩
  cases messages with
  | none =>
      refine ⟨parsing, ?_, ?_⟩
      · rw [collectResult, hparsing]
        rfl
      · rw [ValidateResult.findings, List.append_nil]
        exact hparsingAll
  | some messages =>
      have hmessages := exists_reconcile_messages fun f hf => h f (List.mem_append_right _ hf)
      rcases hmessages with ⟨ds, hds, hdsAll⟩
      refine ⟨parsing ++ ds, ?_, List.rel_append hparsingAll hdsAll⟩
      rw [collectResult, hparsing]
      simp only [bind, Except.bind, hds]
      rfl

theorem exists_finding {lines : Lines} {backoff : Number} {fs : List Finding}
    {ds : List Diagnostic} (hall : List.Forall₂ (Finding.Shows lines backoff) fs ds)
    {d : Diagnostic} (hd : d ∈ ds) : ∃ f ∈ fs, f.Shows lines backoff d := by
  induction hall with
  | nil => exact absurd hd List.not_mem_nil
  | @cons f e fs ds hfirst hall ih =>
      rcases List.mem_cons.mp hd with rfl | hd
      · exact ⟨f, List.mem_cons_self, hfirst⟩
      · rcases ih hd with ⟨g, hg, hshows⟩
        exact ⟨g, List.mem_cons_of_mem f hg, hshows⟩

/-- Diagnostics that are told apart are all kept. -/
theorem dedupeAfter_of_pairwise {seen : List DiagnosticIdentity} {ds : List Diagnostic}
    (hseen : ∀ d ∈ ds, d.identity ∉ seen)
    (h : ds.Pairwise fun d d' => d.identity ≠ d'.identity) : dedupeAfter seen ds = ds := by
  induction ds generalizing seen with
  | nil => rfl
  | cons d rest ih =>
      rcases List.pairwise_cons.mp h with ⟨hd, hrest⟩
      have hnew : ¬seen.contains d.identity = true := fun hc =>
        hseen d List.mem_cons_self (List.contains_iff_mem.mp hc)
      rw [dedupeAfter, if_neg hnew, ih (fun e he hmem => ?_) hrest]
      -- The new identity among those that were seen is that of the first diagnostic.
      rcases List.mem_cons.mp hmem with heq | hmem
      · exact hd e he heq.symm
      · exact hseen e (List.mem_cons_of_mem d he) hmem

theorem dedupe_of_pairwise {ds : List Diagnostic}
    (h : ds.Pairwise fun d d' => d.identity ≠ d'.identity) : dedupe ds = ds :=
  dedupeAfter_of_pairwise (fun _ _ => List.not_mem_nil) h

theorem dedupeAfter_sublist (seen : List DiagnosticIdentity) (ds : List Diagnostic) :
    (dedupeAfter seen ds).Sublist ds := by
  induction ds generalizing seen with
  | nil => exact .slnil
  | cons d rest ih =>
      rw [dedupeAfter]
      split
      case isTrue => exact (ih seen).cons d
      case isFalse => exact (ih _).cons_cons d

/-- What is left without repeated diagnostics keeps its order. -/
theorem dedupe_sublist (ds : List Diagnostic) : (dedupe ds).Sublist ds :=
  dedupeAfter_sublist [] ds

theorem pairwise_of_apart {lines : Lines} {backoff : Number} {fs : List Finding}
    {ds : List Diagnostic} (hall : List.Forall₂ (Finding.Shows lines backoff) fs ds)
    (h : fs.Pairwise (Finding.Apart lines backoff)) :
    ds.Pairwise fun d d' => d.identity ≠ d'.identity := by
  induction hall with
  | nil => exact List.Pairwise.nil
  | @cons f d fs ds hd hall ih =>
      rcases List.pairwise_cons.mp h with ⟨hf, hrest⟩
      refine List.Pairwise.cons (fun d' hd' => ?_) (ih hrest)
      rcases exists_finding hall hd' with ⟨g, hg, hshows⟩
      exact hf g hg d d' hd hshows

/-- A validation in which no message is refused and all of them are told apart: nothing is
    left out. -/
theorem reconcileResult_of_apart {result : ValidateResult} {lines : Lines} {backoff : Number}
    (h : ∀ f ∈ result.findings, ∃ d, Finding.Shows lines backoff f d)
    (happart : result.findings.Pairwise (Finding.Apart lines backoff)) :
    ∃ ds, collectResult result lines backoff = .ok ds ∧
      reconcileResult result lines backoff = .ok ds ∧
      List.Forall₂ (Finding.Shows lines backoff) result.findings ds := by
  rcases exists_collectResult h with ⟨ds, hds, hall⟩
  refine ⟨ds, hds, ?_, hall⟩
  rw [reconcileResult, hds, Except.map, dedupe_of_pairwise (pairwise_of_apart hall happart)]

/-- The steps of an answer that is given. -/
theorem bind_eq_ok {ε α β : Type} {x : Except ε α} {f : α → Except ε β} {b : β}
    (h : x >>= f = .ok b) : ∃ a, x = .ok a ∧ f a = .ok b := by
  cases x with
  | error e => exact nomatch h
  | ok a => exact ⟨a, rfl, h⟩

theorem ok_of_mapError {ε ε' α : Type} {x : Except ε α} {f : ε → ε'} {a : α}
    (h : x.mapError f = .ok a) : x = .ok a := by
  cases x with
  | error e => exact nomatch h
  | ok b => exact congrArg Except.ok (Except.ok.inj h)

/-- A field that has to be there is there. -/
theorem eq_some_of_requireField {α : Type} {field : Option α} {v : α}
    (h : requireField field = .ok v) : field = some v := by
  cases field with
  | none => exact nomatch h
  | some w => exact congrArg some (Except.ok.inj h)

/-- What a diagnostic has from its message, for a column that counts from zero and the text of
    its line. -/
structure Finding.Diagnosed (f : Finding) (backoff : Number) (location : ServiceLocation)
    (line : Nat) (text : Text) (column : Number) (d : Diagnostic) : Prop where
  message : ∃ reported, f.1.message = .text reported ∧ d.message = reported.withoutControls
  range : ∃ offset endOffset found, location.offset = some offset ∧
    location.endOffset = some endOffset ∧
    highlight d.message text column offset endOffset backoff = .ok found ∧
    found.range line column = .ok d.range
  severity : ∃ kind, f.1.kind = some kind ∧ messageSeverity f.2 kind = .ok d.severity
  phase : d.phase = f.2.phase
  source : d.source = f.2.source.toList
  reportedAt : d.reportedAt = some ⟨line, column⟩

/-- The range of a message whose offsets are there. -/
theorem Finding.Diagnosed.range_of_located {f : Finding} {backoff : Number} {p : Position}
    {offset endOffset : Value} {origin text : Text} {line : Nat} {column : Number} {d : Diagnostic}
    (h : f.Diagnosed backoff (serviceLocation p offset endOffset origin) line text column d) :
    ∃ found, highlight d.message text column offset endOffset backoff = .ok found ∧
      found.range line column = .ok d.range := by
  rcases h.range with ⟨first, last, found, hfirst, hlast, hfound⟩
  obtain rfl := Option.some.inj hfirst
  obtain rfl := Option.some.inj hlast
  exact ⟨found, hfound⟩

theorem diagnosticAt_eq_ok {f : Finding} {backoff : Number} {location : ServiceLocation}
    {line : Nat} {text : Text} {column : Number} {d : Diagnostic}
    (h : diagnosticAt f.1 f.2 backoff location line text column = .ok d) :
    f.Diagnosed backoff location line text column d := by
  unfold diagnosticAt at h
  split at h
  case h_1 reported hreported =>
    rcases bind_eq_ok h with ⟨offset, hoffset, h⟩
    rcases bind_eq_ok h with ⟨endOffset, hend, h⟩
    rcases bind_eq_ok h with ⟨found, hfound, h⟩
    rcases bind_eq_ok h with ⟨range, hrange, h⟩
    rcases bind_eq_ok h with ⟨kind, hkind, h⟩
    rcases bind_eq_ok h with ⟨severity, hseverity, h⟩
    obtain rfl := Except.ok.inj h
    exact ⟨⟨reported, hreported, rfl⟩,
      ⟨offset, endOffset, found, eq_some_of_requireField hoffset, eq_some_of_requireField hend,
        ok_of_mapError hfound, ok_of_mapError hrange⟩,
      ⟨kind, eq_some_of_requireField hkind, hseverity⟩, rfl, rfl, rfl⟩
  case h_2 => exact nomatch h

/-- The steps of a reconciliation. -/
theorem diagnosed_of_shows {lines : Lines} {backoff : Number} {f : Finding} {d : Diagnostic}
    (h : f.Shows lines backoff d) :
    ∃ location lineNumber column line text, f.1.location = some location ∧
      location.line.number? = some lineNumber ∧ location.column.number? = some column ∧
      reportedLine lines location.line (countedNumber lineNumber) = .ok (line, text) ∧
      f.Diagnosed backoff location line text (countedNumber column) d := by
  unfold Finding.Shows reconcile at h
  split at h
  case h_1 => exact nomatch h
  case h_2 location hlocation =>
    split at h
    case h_1 lineNumber column hline hcolumn =>
      rcases bind_eq_ok h with ⟨⟨line, text⟩, hplace, h⟩
      exact ⟨location, lineNumber, column, line, text, hlocation, hline, hcolumn, hplace,
        diagnosticAt_eq_ok h⟩
    case h_2 => exact nomatch h

theorem reportedLine_eq_ok {lines : Lines} {reported : Value} {n line : Nat} {text : Text}
    (h : reportedLine lines reported (.whole n) = .ok (line, text)) :
    line = n ∧ lines.lines[n]? = some text := by
  rw [reportedLine, Int.toNat_natCast] at h
  split at h
  case h_1 found hfound =>
    rw [Except.ok.injEq, Prod.mk.injEq] at h
    exact ⟨h.1.symm, h.2 ▸ hfound⟩
  case h_2 => exact nomatch h

/-- A message that is located in a text becomes a diagnostic of the line where it is located. -/
theorem diagnosed_of_located {s origin : Text} {f : Finding} {p : Position}
    {offset endOffset : Value}
    (hf : f.1.location = some (serviceLocation p offset endOffset origin)) {backoff : Number}
    {d : Diagnostic} (hd : f.Shows (Lines.ofText s) backoff d) :
    ∃ line, s.lines[p.line]? = some line ∧
      f.Diagnosed backoff (serviceLocation p offset endOffset origin) p.line line
        (.whole p.column) d := by
  rcases diagnosed_of_shows hd with
    ⟨location, lineNumber, column, n, line, hlocation, hnumber, hcolumn, hplace, hd⟩
  obtain rfl := Option.some.inj (hf.symm.trans hlocation)
  -- The numbers that were reported count from one.
  obtain rfl := Option.some.inj hnumber
  obtain rfl := Option.some.inj hcolumn
  rw [countedNumber_succ] at hplace hd
  rcases reportedLine_eq_ok hplace with ⟨rfl, hline⟩
  exact ⟨line, hline, hd⟩

/-- The phase of a diagnostic is that of the origin of its message, and so is its severity
    unless it is that of its kind. -/
theorem phase_severity_of_shows {lines : Lines} {backoff : Number} {f : Finding} {d : Diagnostic}
    (h : f.Shows lines backoff d) :
    d.phase = f.2.phase ∧
      ∃ kind, f.1.kind = some kind ∧ messageSeverity f.2 kind = .ok d.severity := by
  rcases diagnosed_of_shows h with ⟨_, _, _, _, _, _, _, _, _, hd⟩
  exact ⟨hd.phase, hd.severity⟩

end RiddlEditor
