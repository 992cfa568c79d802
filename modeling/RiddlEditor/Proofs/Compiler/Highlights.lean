import Mathlib.Data.List.Nodup
import RiddlEditor.Proofs.Compiler.Findings
import RiddlEditor.Proofs.Compiler.Naming
import RiddlEditor.Proofs.Diagnostic.NameSearch
import RiddlEditor.Proofs.Lexeme.Adjacent

/-!
# What is highlighted for a definition

A repeated or empty definition is reported at its keyword, and its name is looked for in the
line from a little before the keyword on. What is highlighted is the first place from there on
where the name stands as a whole word. That is the name of the definition itself unless the
name also stands in the few columns in front of the keyword: it cannot stand in between, since
the keyword is another word and only blanks follow it.

## Main definitions

* `Definition.Wording`: What is said about a definition.
* `Definition.Message`: A message that says it, at the keyword of the definition.

## Theorems

* `keyword_mem_definitionWords`, `keyword_ne_name`: The two words of a definition.
* `exists_names_of_wording`: The first name of what is said about a definition.
* `exists_definition_of_mem_findings`: Every message of a text without syntax errors is about a
  definition.
* `exists_place_of_shows`: A message is highlighted at the place of the name.
* `definition_highlight`: What is highlighted for a definition.
* `earlier_name_is_highlighted`: A definition for which another name is highlighted.
-/

namespace RiddlEditor

/-- What is said about a definition: that it is repeated, or that it is empty. -/
def Definition.Wording (d : Definition) (message : Text) : Prop :=
  message = d.duplicateMessage ∨ message = d.emptyMessage

/-! ## The words of a definition -/

theorem mem_keywords_of_wordKind {word : Text} (h : wordKind word = .keyword) :
    word ∈ keywords := by
  unfold wordKind at h
  split at h
  case isTrue hmem => exact List.contains_iff_mem.mp hmem
  case isFalse =>
    split at h
    case isTrue => exact nomatch h
    case isFalse => split at h <;> exact nomatch h

/-- Keywords are in lower case. -/
theorem lowercase_of_mem_keywords : ∀ word ∈ keywords, word.lowercase = word := by
  decide +kernel

section Words

variable {s : Text} {d : Definition}

/-- The keyword of a definition is one of the definition words. -/
theorem keyword_mem_definitionWords (h : d ∈ definitions (lexTokens s)) :
    d.keyword.text ∈ definitionWords := by
  rcases split_of_mem_definitionsFrom h with ⟨_, hkind, hdefines, _⟩
  rcases mem_definitionsFrom h with ⟨hkeyword, _⟩
  have hword := (isWord_of_kind hkeyword (Or.inl hkind)).kind
  have hmem := mem_keywords_of_wordKind (hword.symm.trans hkind)
  rw [isDefinitionKeyword, lowercase_of_mem_keywords _ hmem] at hdefines
  simpa using hdefines

/-- The keyword and the name of a definition are different words. -/
theorem keyword_ne_name (h : d ∈ definitions (lexTokens s)) : d.keyword.text ≠ d.name.text := by
  rcases mem_definitionsFrom h with ⟨hkeyword, hkind, hname, hresolvable⟩
  intro heq
  have hword := (isWord_of_kind hkeyword (Or.inl hkind)).kind
  have hword' := (isWord_of_kind hname (Or.inr hresolvable)).kind
  rw [← heq, ← hword, hkind] at hword'
  rw [hword'] at hresolvable
  exact absurd hresolvable Bool.false_ne_true

theorem isWord_name (h : d ∈ definitions (lexTokens s)) : d.name.IsWord := by
  rcases mem_definitionsFrom h with ⟨_, _, hname, hresolvable⟩
  exact isWord_of_kind hname (Or.inr hresolvable)

/-- The first name of what is said about a definition is its own. -/
theorem exists_names_of_wording (h : d ∈ definitions (lexTokens s)) {message : Text}
    (hwording : d.Wording message) :
    ∃ others, (quotedNames message).flatMap nameCandidates = d.name.text :: others := by
  have hname := isWord_name h
  have hquote : '\'' ∉ d.name.text := fun hmem => absurd (hname.chars _ hmem) (by decide)
  have htail : ∃ tail, message =
      d.keyword.text.capitalized ++ ' ' :: '\'' :: (d.name.text ++ '\'' :: tail) := by
    rcases hwording with rfl | rfl
    · exact ⟨" is defined more than once".toList, by
        simp [Definition.duplicateMessage, Definition.subject]⟩
    · exact ⟨" is empty".toList, by simp [Definition.emptyMessage, Definition.subject]⟩
  rcases htail with ⟨tail, rfl⟩
  rw [quotedNames_of_subject (keyword_mem_definitionWords h) hname.nonempty hquote,
    List.flatMap_cons, nameCandidates_of_word hname.nonempty hname.chars]
  exact ⟨_, rfl⟩

end Words

/-! ## Messages and their definitions -/

section Messages

variable {s origin : Text} {plain : Bool}

/-- A message about a definition, at its keyword. -/
structure Definition.Message (d : Definition) (origin : Text) (raw : ServiceMessage) : Prop where
  wording : ∃ reported, raw.message = .text reported ∧ d.Wording reported.withoutControls
  location : raw.location = some (serviceLocation d.keyword.start .null .null origin)

/-- Every message of a text without syntax errors is about a definition. -/
theorem exists_definition_of_mem_findings {f : Finding}
    (h : f ∈ (definitionMessages (lexTokens s) origin plain).findings) :
    ∃ d ∈ definitions (lexTokens s), d.Message origin f.1 := by
  simp only [ValidationMessages.findings, definitionMessages, List.map_nil, List.append_nil,
    List.map_map, List.mem_append, List.mem_map] at h
  rcases h with ⟨d, hd, rfl⟩ | ⟨d, hd, rfl⟩
  · replace hd := (duplicates_sublist _).subset hd
    refine ⟨d, hd, ⟨_, rfl, Or.inl ?_⟩, rfl⟩
    exact withoutControls_presented plain .red (escape_not_mem_duplicateMessage hd)
  · replace hd := (List.mem_filter.mp hd).1
    refine ⟨d, hd, ⟨_, rfl, Or.inr ?_⟩, rfl⟩
    exact withoutControls_presented plain .yellow (escape_not_mem_emptyMessage hd)

/-- The answer about a text without syntax errors. -/
theorem findings_of_no_syntaxErrors (hlexical : lexErrors s = [])
    (hbrackets : bracketFaults (lexTokens s) = []) :
    (localMessages s origin plain).findings =
      (definitionMessages (lexTokens s) origin plain).findings := by
  rcases localMessages_cases s origin plain with ⟨_, hfindings⟩ | ⟨_, hne, _⟩
  · exact hfindings
  · exact absurd (by rw [syntaxMessages, hlexical, hbrackets]; rfl) hne

/-- No two definitions have one keyword. -/
theorem eq_of_keyword_start {d d' : Definition} (hd : d ∈ definitions (lexTokens s))
    (hd' : d' ∈ definitions (lexTokens s)) (h : d.keyword.start = d'.keyword.start) : d = d' := by
  have hnodup : ((definitions (lexTokens s)).map fun d => d.keyword.start).Nodup :=
    List.pairwise_map.mpr (definitions_pairwise s)
  exact List.inj_on_of_nodup_map hnodup hd hd' h

end Messages

/-! ## What is highlighted -/

theorem span_reported_inj {p q : Position} {length : Nat} :
    (Range.span p length).reported = (Range.span q length).reported ↔ p = q := by
  refine ⟨fun h => ?_, fun h => by rw [h]⟩
  exact Position.key_reported_inj.mp (congrArg (fun r => r.start.key) h)

section Highlights

variable {s origin : Text} {d : Definition}

/-- The line of a definition whose name is on the line of its keyword: the name stands there,
    and it does not stand between the start of the keyword and its own start. -/
theorem exists_line_of_definition (h : d ∈ definitions (lexTokens s))
    (hline : d.name.start.line = d.keyword.start.line) :
    ∃ line, s.lines[d.keyword.start.line]? = some line ∧
      StandsAsWord line d.name.text d.name.start.column ∧
      d.keyword.start.column ≤ d.name.start.column ∧
      ∀ column, d.keyword.start.column ≤ column → column < d.name.start.column →
        ¬StandsAsWord line d.name.text column := by
  rcases split_of_mem_definitionsFrom h with ⟨⟨front, rest, hsplit⟩, hkind, _, hresolvable⟩
  rcases exists_line_of_adjacent hsplit (Or.inl hkind) (Or.inr hresolvable) hline with
    ⟨left, gap, right, htext, hcolumn, hcolumn', hnonempty, hgap, hright⟩
  have hkeyword := isWord_of_kind (mem_definitionsFrom h).1 (Or.inl hkind)
  have hname := isWord_name h
  rw [hcolumn, hcolumn']
  refine ⟨_, htext, stands_behind hgap hnonempty hright, by omega, fun column hle hlt => ?_⟩
  exact not_stands_between hkeyword.chars hgap hnonempty hname.chars hname.nonempty
    (keyword_ne_name h) hle hlt

/-- How the message about a definition becomes a diagnostic. -/
theorem diagnosed_of_message {f : Finding} (hf : d.Message origin f.1) {backoff : Number}
    {e : Diagnostic} (he : f.Shows (Lines.ofText s) backoff e) :
    ∃ line, s.lines[d.keyword.start.line]? = some line ∧
      f.Diagnosed backoff (serviceLocation d.keyword.start .null .null origin)
        d.keyword.start.line line (.whole d.keyword.start.column) e :=
  diagnosed_of_located hf.location he

/-- A message about a definition is highlighted at the place of its name. -/
theorem exists_place_of_shows (h : d ∈ definitions (lexTokens s))
    (hline : d.name.start.line = d.keyword.start.line) {f : Finding} (hf : d.Message origin f.1)
    {backoff : Nat} {e : Diagnostic} (he : f.Shows (Lines.ofText s) (.whole backoff) e)
    {line : Text} (htext : s.lines[d.keyword.start.line]? = some line) :
    d.Wording e.message ∧ ∃ place,
      IsPlace line d.name.text (d.keyword.start.column - backoff) place ∧
      e.range = (Range.span ⟨d.keyword.start.line, place⟩ d.name.length).reported := by
  rcases exists_line_of_definition h hline with ⟨line', hline', hstands, _, _⟩
  obtain rfl := Option.some.inj (htext.symm.trans hline')
  rcases diagnosed_of_message hf he with ⟨line', hline', hd⟩
  obtain rfl := Option.some.inj (htext.symm.trans hline')
  rcases hf.wording with ⟨reported, hreported, hwording⟩
  rcases hd.message with ⟨reported', hreported', hmessage⟩
  obtain rfl := Value.text.inj (hreported.symm.trans hreported')
  rw [← hmessage] at hwording
  -- The first name of the message is that of the definition.
  rcases exists_names_of_wording h hwording with ⟨others, hnames⟩
  rcases exists_namedHighlight (isWord_name h).nonempty hnames hstands d.keyword.start.column
    backoff with ⟨place, hnamed, hplace⟩
  rcases hd.range_of_located with ⟨found, hfound, hrange⟩
  rw [highlight, hnamed] at hfound
  obtain rfl := Except.ok.inj hfound
  rw [range_name] at hrange
  exact ⟨hwording, place, hplace, (Except.ok.inj hrange).symm⟩

/-- The message of a diagnostic that is reported at the keyword of a definition. -/
theorem exists_message_of_mem_run {options : Options} (hlexical : lexErrors s = [])
    (hbrackets : bracketFaults (lexTokens s) = []) (h : d ∈ definitions (lexTokens s))
    {e : Diagnostic} (he : e ∈ (runValidation localService s origin options).diagnostics)
    (hat : e.reportedAt = some d.keyword.start.reported) :
    ∃ f : Finding, d.Message origin f.1 ∧
      f.Shows (Lines.ofText s) (.whole options.searchBackoff) e := by
  rcases exists_finding (run_shows s origin options) he with ⟨f, hf, hshows⟩
  rw [findings_of_no_syntaxErrors hlexical hbrackets] at hf
  rcases exists_definition_of_mem_findings hf with ⟨d', hd', hmessage⟩
  -- Two definitions with one keyword are one.
  rcases diagnosed_of_message hmessage hshows with ⟨_, _, hd⟩
  have hreported := Option.some.inj (hat.symm.trans hd.reportedAt)
  have hkey := congrArg ReportedPosition.key hreported
  obtain rfl := eq_of_keyword_start h hd' (Position.key_reported_inj.mp hkey)
  exact ⟨f, hmessage, hshows⟩

end Highlights

/-- What is highlighted for a definition that is reported as repeated or as empty. In a text
    without syntax errors, a diagnostic at the keyword of a definition says one of the two of it.
    If the name is on the line of the keyword, the range of the diagnostic is the first place
    where the name stands as a whole word, from a few columns in front of the keyword on. This is
    the range of the name of the definition exactly if the name does not stand in these
    columns. -/
theorem definition_highlight (text origin : Text) (options : Options)
    (hlexical : lexErrors text = []) (hbrackets : bracketFaults (lexTokens text) = [])
    {d : Definition} (hd : d ∈ definitions (lexTokens text))
    (hline : d.name.start.line = d.keyword.start.line) {e : Diagnostic}
    (he : e ∈ (runValidation localService text origin options).diagnostics)
    (hat : e.reportedAt = some d.keyword.start.reported) :
    (e.message = d.duplicateMessage ∨ e.message = d.emptyMessage) ∧
    ∃ line place, (Lines.ofText text).line? d.keyword.start.line = .ok line ∧
      IsFirst (StandsAsWord line d.name.text)
        (d.keyword.start.column - options.searchBackoff) place ∧
      e.range = (Range.span ⟨d.keyword.start.line, place⟩ d.name.length).reported ∧
      (e.range = d.name.range.reported ↔
        ∀ column, d.keyword.start.column - options.searchBackoff ≤ column →
          column < d.keyword.start.column → ¬StandsAsWord line d.name.text column) := by
  rcases exists_line_of_definition hd hline with ⟨line, htext, hstands, hbehind, hbetween⟩
  rcases exists_message_of_mem_run hlexical hbrackets hd he hat with ⟨f, hf, hshows⟩
  rcases exists_place_of_shows hd hline hf hshows htext with ⟨hwording, place, hplace, hrange⟩
  have hfirst : IsFirst (StandsAsWord line d.name.text)
      (d.keyword.start.column - options.searchBackoff) place := by
    rcases hplace with hfirst | ⟨hnone, _⟩
    · exact hfirst
    · exact absurd (by omega) (hnone _ hstands)
  refine ⟨hwording, line, place, line?_of_getElem? htext, hfirst, hrange, ?_⟩
  rw [hrange, Token.range, span_reported_inj]
  constructor
  · -- The name is the first from there on, so it is in front of its own keyword nowhere.
    intro heq column hle hlt hother
    have hcolumn := congrArg Position.column heq
    have hleast := hfirst.2.2 column hother hle
    simp only at hcolumn
    omega
  · intro hnone
    have hle := hfirst.2.2 d.name.start.column hstands (by omega)
    have hkeyword : d.keyword.start.column ≤ place := by
      by_contra hlt
      exact hnone place hfirst.2.1 (Nat.lt_of_not_le hlt) hfirst.1
    have heq : place = d.name.start.column := by
      by_contra hne
      exact hbetween place hkeyword (by omega) hfirst.1
    rw [heq, ← hline]

/-- The name of an empty definition is highlighted. The letter that ends an earlier name is no
    whole word, so it is not in the way. -/
theorem definition_highlight_of_empty :
    let text := "type BA \x7b\x7d type A \x7b???\x7d".toList
    ∃ d ∈ definitions (lexTokens text), d.name.text = ['A'] ∧
      ∃ e ∈ (runValidation localService text [] .defaults).diagnostics,
        e.range = d.name.range.reported ∧
        ∃ line, (Lines.ofText text).line? d.keyword.start.line = .ok line ∧
          ∀ column, d.keyword.start.column - 8 ≤ column → column < d.keyword.start.column →
            ¬StandsAsWord line d.name.text column := by
  intro text
  have hfound : ∃ d ∈ definitions (lexTokens text), d.name.text = ['A'] ∧
      d.name.start.line = d.keyword.start.line ∧
      ∃ e ∈ (runValidation localService text [] .defaults).diagnostics,
        e.reportedAt = some d.keyword.start.reported ∧ e.range = d.name.range.reported := by
    decide +kernel
  rcases hfound with ⟨d, hd, hname, hline, e, he, hat, hrange⟩
  rcases definition_highlight text [] .defaults (by decide +kernel) (by decide +kernel) hd hline
    he hat with ⟨_, line, place, htext, _, _, hown⟩
  exact ⟨d, hd, hname, e, he, hrange, line, htext, hown.mp hrange⟩

/-- A repeated definition whose name also stands a few columns in front of its keyword: the
    earlier name is highlighted and not its own. -/
theorem earlier_name_is_highlighted :
    let text := "type A \x7b\x7d type A \x7b\x7d".toList
    lexErrors text = [] ∧ bracketFaults (lexTokens text) = [] ∧
      ∃ d ∈ definitions (lexTokens text), d.name.start.line = d.keyword.start.line ∧
        ∃ e ∈ (runValidation localService text [] .defaults).diagnostics,
          e.reportedAt = some d.keyword.start.reported ∧ e.message = d.duplicateMessage ∧
          e.range = (Range.span ⟨0, 5⟩ 1).reported ∧ d.name.range = Range.span ⟨0, 15⟩ 1 ∧
          e.range ≠ d.name.range.reported := by
  intro text
  exact ⟨by decide +kernel, by decide +kernel, by decide +kernel⟩

end RiddlEditor
