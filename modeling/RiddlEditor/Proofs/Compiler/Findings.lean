import RiddlEditor.Proofs.Compiler.Brackets
import RiddlEditor.Proofs.Compiler.Definitions
import RiddlEditor.Proofs.Diagnostic.Reconcile
import RiddlEditor.Query

/-!
# No finding of the local service is lost

Every message of the local service is placed in the document, since its position is that of
a lexeme or of the end of the text. And any two of them are told apart. Lexical faults,
bracket faults and the end are at different offsets, and an offset is known by its position.
Two messages about definitions are about different keywords, unless one of them is about a
repeated definition and the other about an empty one; these read differently.

So what the editor shows is the messages, one diagnostic for each of them.

## Theorems

* `lexErrors_pairwise`, `bracketFaults_pairwise`, `start_ne_position`: No two syntax errors
  are at the same position.
* `findings_placed`: Every message is placed in the document.
* `findings_apart`: Any two messages are told apart.
* `run_shows`: The diagnostics of a text, one for each message.
* `findings_are_shown`: The diagnostics of a text are its findings.
-/

namespace RiddlEditor

section Positions

variable {s : Text}

/-- Positions that lead back to different offsets are different. -/
theorem ne_of_offsetOf_lt {p q : Position} (h : s.offsetOf p < s.offsetOf q) : p ≠ q :=
  fun heq => Nat.ne_of_lt h (congrArg s.offsetOf heq)

/-- A lexical error is at a lexeme with its fault. -/
theorem mem_lexErrors {e : LexError} (h : e ∈ lexErrors s) :
    ∃ l ∈ lexemes s, l.fault = some e.fault ∧ e.start = l.start := by
  rcases List.mem_filterMap.mp h with ⟨l, hl, hsome⟩
  rcases Option.map_eq_some_iff.mp hsome with ⟨fault, hfault, rfl⟩
  exact ⟨l, hl, hfault, (start_eq_placeOf hl).symm⟩

theorem lexErrors_pairwise (s : Text) : (lexErrors s).Pairwise fun e e' => e.start ≠ e'.start := by
  rw [lexErrors, List.pairwise_filterMap]
  refine (lexemes_pairwise s).imp_of_mem (fun {l l'} hl hl' hlt e he e' he' => ?_)
  rcases Option.map_eq_some_iff.mp he with ⟨_, _, rfl⟩
  rcases Option.map_eq_some_iff.mp he' with ⟨_, _, rfl⟩
  refine ne_of_offsetOf_lt (s := s) ?_
  simp only [← start_eq_placeOf hl, ← start_eq_placeOf hl', offsetOf_start hl, offsetOf_start hl']
  exact hlt

/-- A token is a lexeme. -/
theorem lexeme_of_token {t : Token} (h : t ∈ lexTokens s) :
    ∃ l ∈ lexemes s, l.kind = t.kind ∧ l.start = t.start ∧ WholeOffsets t.offset t.endOffset := by
  rcases List.mem_map.mp h with ⟨l, hl, rfl⟩
  exact ⟨l, hl, rfl, rfl, wholeOffsets_int _ _⟩

theorem lexTokens_pairwise (s : Text) :
    (lexTokens s).Pairwise fun t t' => s.offsetOf t.start < s.offsetOf t'.start := by
  rw [lexTokens, List.pairwise_map]
  refine (lexemes_pairwise s).imp_of_mem (fun {l l'} hl hl' hlt => ?_)
  change s.offsetOf l.start < s.offsetOf l'.start
  rw [offsetOf_start hl, offsetOf_start hl']
  exact hlt

theorem offsetOf_end (s : Text) : s.offsetOf (placeOf s s.length) = s.length := by
  have hend := offsetOf_placeOf (Unsplit.nil s)
  rwa [List.append_nil] at hend

/-- Every lexeme is in front of the end. -/
theorem offsetOf_start_lt {l : Lexeme} (h : l ∈ lexemes s) :
    s.offsetOf l.start < s.offsetOf (placeOf s s.length) := by
  rw [offsetOf_start h, offsetOf_end]
  exact offset_lt_length h

theorem bracketFaults_pairwise (s : Text) :
    (bracketFaults (lexTokens s)).Pairwise fun f f' =>
      f.position (placeOf s s.length) ≠ f'.position (placeOf s s.length) := by
  have hending : ∀ t ∈ lexTokens s, s.offsetOf t.start < s.offsetOf (placeOf s s.length) := by
    intro t ht
    rcases lexeme_of_token ht with ⟨l, hl, _, hstart, _⟩
    rw [← hstart]
    exact offsetOf_start_lt hl
  have hordered := bracketFaultsIn_pairwise (r := fun p q => s.offsetOf p < s.offsetOf q)
    (lexTokens_pairwise s) hending []
  exact hordered.imp ne_of_offsetOf_lt

/-- Nothing is wrong with a punctuation mark by itself. -/
theorem fault_of_punctuation {c : Char} {rest : Text} {reading : Reading}
    (h : Reads c rest reading) (hkind : reading.kind = .punctuation) : reading.fault = none := by
  cases h with
  | placeholder => rfl
  | mark => rfl
  | word => rfl
  | _ => exact TokenKind.noConfusion hkind

/-- No lexical error is where a bracket fault is reported. -/
theorem start_ne_position {e : LexError} {f : BracketFault} (he : e ∈ lexErrors s)
    (hf : f ∈ bracketFaults (lexTokens s)) : e.start ≠ f.position (placeOf s s.length) := by
  rcases mem_lexErrors he with ⟨l, hl, hfault, hstart⟩
  rw [hstart]
  rcases position_of_mem_bracketFaultsIn hf (placeOf s s.length) with hend | ⟨t, ht, hkind, hat⟩
  · rw [hend]
    exact ne_of_offsetOf_lt (offsetOf_start_lt hl)
  · -- The bracket would be the lexeme with the fault.
    intro heq
    have hoffset := congrArg s.offsetOf heq
    rcases lexeme_of_token ht with ⟨l', hl', hkind', hstart', _⟩
    rw [hat, ← hstart', offsetOf_start hl, offsetOf_start hl'] at hoffset
    obtain rfl := eq_of_offset_eq hl hl' hoffset
    rcases split_of_mem_lexemes hl with ⟨front, c, rest, _, _, rfl⟩
    have hnone := fault_of_punctuation (reads_readLexeme c rest) (hkind'.trans hkind)
    exact absurd (hnone.symm.trans hfault) (by simp)

theorem LexError.placed {e : LexError} (h : e ∈ lexErrors s) (origin : Text) (plain : Bool) :
    (e.toMessage origin plain).Placed (Lines.ofText s) e.start (presented plain .red e.message) := by
  rcases mem_lexErrors h with ⟨l, hl, _, hstart⟩
  refine ServiceMessage.Placed.mk ?_ (wholeOffsets_int _ _)
  rw [hstart]
  exact start_line_lt hl

theorem BracketFault.placed {f : BracketFault} (h : f ∈ bracketFaults (lexTokens s)) (origin : Text)
    (plain : Bool) :
    (f.toMessage s origin plain).Placed (Lines.ofText s) (f.position (placeOf s s.length))
      (presented plain .red f.message) := by
  have htoken : ∀ t, f.closer? = some t →
      t.start.line < (Lines.ofText s).count ∧ WholeOffsets t.offset t.endOffset := by
    intro t hcloser
    -- The bracket is a token of the text.
    rcases closer_of_mem_bracketFaultsIn h with hnone | ⟨u, hu, _, hsome⟩
    · rw [hnone] at hcloser
      exact nomatch hcloser
    · obtain rfl := Option.some.inj (hsome.symm.trans hcloser)
      rcases lexeme_of_token hu with ⟨l, hl, _, hstart, hoffsets⟩
      exact ⟨hstart ▸ start_line_lt hl, hoffsets⟩
  cases f with
  | unexpected closer =>
      rcases htoken closer rfl with ⟨hline, hoffsets⟩
      exact ServiceMessage.Placed.mk hline hoffsets
  | mismatched expected closer =>
      rcases htoken closer rfl with ⟨hline, hoffsets⟩
      exact ServiceMessage.Placed.mk hline hoffsets
  | unclosed expected opener =>
      -- What is not closed is reported at the end, without offsets.
      have hline := placeOf_line_lt (Unsplit.nil s)
      rw [List.append_nil] at hline
      exact ServiceMessage.Placed.mk hline wholeOffsets_null

theorem Definition.placed {d : Definition} (h : d ∈ definitions (lexTokens s))
    (kind message origin : Text) :
    (d.toMessage (.text kind) message origin).Placed (Lines.ofText s) d.keyword.start message := by
  rcases mem_definitionsFrom h with ⟨hkeyword, _, _, _⟩
  rcases lexeme_of_token hkeyword with ⟨l, hl, _, hstart, _⟩
  exact ServiceMessage.Placed.mk (hstart ▸ start_line_lt hl) wholeOffsets_null

theorem definitions_pairwise (s : Text) :
    (definitions (lexTokens s)).Pairwise fun d d' => d.keyword.start ≠ d'.keyword.start := by
  have hkeywords := (lexTokens_pairwise s).sublist (keywords_sublist 0 (lexTokens s))
  rw [List.pairwise_map] at hkeywords
  exact hkeywords.imp ne_of_offsetOf_lt

end Positions

section Findings

variable (s origin : Text) (plain : Bool)

/-- Every syntax error is placed in the document. -/
theorem syntaxMessages_placed {raw : ServiceMessage} (h : raw ∈ syntaxMessages s origin plain) :
    ∃ p message, raw.Placed (Lines.ofText s) p message := by
  rcases List.mem_append.mp h with h | h
  · rcases List.mem_map.mp h with ⟨e, he, rfl⟩
    exact ⟨_, _, LexError.placed he origin plain⟩
  · rcases List.mem_map.mp h with ⟨f, hf, rfl⟩
    exact ⟨_, _, BracketFault.placed hf origin plain⟩

/-- Any two syntax errors are told apart by their positions. -/
theorem syntaxMessages_apart (backoff : Int) :
    ((syntaxMessages s origin plain).map (·, DiagnosticSpec.syntaxError)).Pairwise
      (Finding.Apart (Lines.ofText s) (.whole backoff)) := by
  rw [syntaxMessages, List.map_append, List.map_map, List.map_map, List.pairwise_append]
  refine ⟨?_, ?_, ?_⟩
  · rw [List.pairwise_map]
    refine (lexErrors_pairwise s).imp_of_mem (fun he he' hne => ?_)
    exact apart_of_placed (LexError.placed he origin plain) (LexError.placed he' origin plain)
      (Or.inl hne) backoff
  · rw [List.pairwise_map]
    refine (bracketFaults_pairwise s).imp_of_mem (fun hf hf' hne => ?_)
    exact apart_of_placed (BracketFault.placed hf origin plain)
      (BracketFault.placed hf' origin plain) (Or.inl hne) backoff
  · intro x hx y hy
    rcases List.mem_map.mp hx with ⟨e, he, rfl⟩
    rcases List.mem_map.mp hy with ⟨f, hf, rfl⟩
    exact apart_of_placed (LexError.placed he origin plain) (BracketFault.placed hf origin plain)
      (Or.inl (start_ne_position he hf)) backoff

/-- Every message about a definition is placed in the document. -/
theorem definitionMessages_placed {f : Finding}
    (h : f ∈ (definitionMessages (lexTokens s) origin plain).findings) :
    ∃ p message, f.1.Placed (Lines.ofText s) p message := by
  simp only [ValidationMessages.findings, definitionMessages, List.map_nil, List.append_nil,
    List.map_map, List.mem_append, List.mem_map] at h
  rcases h with ⟨d, hd, rfl⟩ | ⟨d, hd, rfl⟩
  · exact ⟨_, _, Definition.placed ((duplicates_sublist _).subset hd) _ _ origin⟩
  · exact ⟨_, _, Definition.placed (List.mem_filter.mp hd).1 _ _ origin⟩

/-- Any two messages about definitions are told apart: by their positions if both are about
    repeated definitions or both about empty ones, and by their wordings otherwise. -/
theorem definitionMessages_apart (backoff : Int) :
    (definitionMessages (lexTokens s) origin plain).findings.Pairwise
      (Finding.Apart (Lines.ofText s) (.whole backoff)) := by
  have hduplicates := duplicates_sublist (definitions (lexTokens s))
  have hempty := List.filter_sublist (p := Definition.isEmpty (lexTokens s))
    (l := definitions (lexTokens s))
  simp only [ValidationMessages.findings, definitionMessages, List.map_nil, List.append_nil,
    List.map_map]
  rw [List.pairwise_append]
  refine ⟨?_, ?_, ?_⟩
  · rw [List.pairwise_map]
    refine ((definitions_pairwise s).sublist hduplicates).imp_of_mem (fun hd hd' hne => ?_)
    exact apart_of_placed (Definition.placed (hduplicates.subset hd) _ _ origin)
      (Definition.placed (hduplicates.subset hd') _ _ origin) (Or.inl hne) backoff
  · rw [List.pairwise_map]
    refine ((definitions_pairwise s).sublist hempty).imp_of_mem (fun hd hd' hne => ?_)
    exact apart_of_placed (Definition.placed (hempty.subset hd) _ _ origin)
      (Definition.placed (hempty.subset hd') _ _ origin) (Or.inl hne) backoff
  · intro x hx y hy
    rcases List.mem_map.mp hx with ⟨d, hd, rfl⟩
    rcases List.mem_map.mp hy with ⟨e, he, rfl⟩
    replace hd := hduplicates.subset hd
    replace he := hempty.subset he
    -- Both may be about one keyword, so only the wordings tell them apart.
    refine apart_of_placed (Definition.placed hd _ _ origin) (Definition.placed he _ _ origin)
      (Or.inr ?_) backoff
    rw [withoutControls_presented plain .red (escape_not_mem_duplicateMessage hd),
      withoutControls_presented plain .yellow (escape_not_mem_emptyMessage he)]
    exact duplicateMessage_ne_emptyMessage d e

/-- The two answers that there are: without syntax errors the definitions are looked at, and
    otherwise there are only syntax errors. -/
theorem localMessages_cases :
    (localMessages s origin plain).succeeded = true ∧
        (localMessages s origin plain).findings =
          (definitionMessages (lexTokens s) origin plain).findings ∨
      (localMessages s origin plain).succeeded = false ∧
        syntaxMessages s origin plain ≠ [] ∧
        (localMessages s origin plain).findings =
          (syntaxMessages s origin plain).map (·, .syntaxError) := by
  unfold localMessages
  split
  case h_1 => exact Or.inl ⟨rfl, rfl⟩
  case h_2 hne =>
    refine Or.inr ⟨rfl, hne, ?_⟩
    rw [ValidateResult.findings, List.append_nil]

/-- Every message of the local service is placed in the document. -/
theorem findings_placed {f : Finding} (h : f ∈ (localMessages s origin plain).findings) :
    ∃ p message, f.1.Placed (Lines.ofText s) p message := by
  rcases localMessages_cases s origin plain with ⟨_, hfindings⟩ | ⟨_, _, hfindings⟩
  · rw [hfindings] at h
    exact definitionMessages_placed s origin plain h
  · rw [hfindings] at h
    rcases List.mem_map.mp h with ⟨raw, hraw, rfl⟩
    exact syntaxMessages_placed s origin plain hraw

/-- Any two messages of the local service are told apart. -/
theorem findings_apart (backoff : Int) :
    (localMessages s origin plain).findings.Pairwise
      (Finding.Apart (Lines.ofText s) (.whole backoff)) := by
  rcases localMessages_cases s origin plain with ⟨_, hfindings⟩ | ⟨_, _, hfindings⟩
  · rw [hfindings]
    exact definitionMessages_apart s origin plain backoff
  · rw [hfindings]
    exact syntaxMessages_apart s origin plain backoff

theorem severity_of_errorKind : messageSeverity .syntaxError errorKind = .ok .error := by
  have hkind : Severity.ofKind "Error".toList = .error := by decide
  exact congrArg Except.ok hkind

/-- Every diagnostic of a syntax error is an error that keeps the text from being parsed. -/
theorem shown_syntaxMessage {raw : ServiceMessage} (h : raw ∈ syntaxMessages s origin plain)
    {lines : Lines} {backoff : Number} {d : Diagnostic}
    (hd : Finding.Shows lines backoff (raw, .syntaxError) d) :
    d.phase = .parsing ∧ d.severity = .error := by
  have hkind : raw.kind = some errorKind := by
    rcases List.mem_append.mp h with h | h
    · rcases List.mem_map.mp h with ⟨e, _, rfl⟩
      rfl
    · rcases List.mem_map.mp h with ⟨f, _, rfl⟩
      rfl
  rcases phase_severity_of_shows hd with ⟨hphase, kind, hsome, hseverity⟩
  obtain rfl := Option.some.inj (hkind.symm.trans hsome)
  simp only [severity_of_errorKind, Except.ok.injEq] at hseverity
  exact ⟨hphase, hseverity.symm⟩

end Findings

/-- What is found by a validation that ran is not about parsing. -/
theorem phase_of_mem_findings {messages : ValidationMessages} {f : Finding}
    (h : f ∈ messages.findings) : f.2.phase = .validation := by
  simp only [ValidationMessages.findings, List.mem_append, List.mem_map] at h
  rcases h with (⟨raw, _, rfl⟩ | ⟨raw, _, rfl⟩) | ⟨raw, _, rfl⟩ <;> rfl

/-- The diagnostics of a text, one for each message of the local service. -/
theorem run_shows (text origin : Text) (options : Options) :
    List.Forall₂ (Finding.Shows (Lines.ofText text) (.whole options.searchBackoff))
      (localMessages text origin options.stripFormatting).findings
      (runValidation localService text origin options).diagnostics := by
  have hshown : ∀ f ∈ (localMessages text origin options.stripFormatting).findings,
      ∃ d, f.Shows (Lines.ofText text) (.whole options.searchBackoff) d := by
    intro f hf
    rcases findings_placed text origin options.stripFormatting hf with ⟨p, message, hplaced⟩
    rcases reconcile_of_placed hplaced f.2 options.searchBackoff with ⟨d, hd, _⟩
    exact ⟨d, hd⟩
  have happart := findings_apart text origin options.stripFormatting options.searchBackoff
  rcases reconcileResult_of_apart hshown happart with ⟨ds, _, hreconcile, hall⟩
  have hvalidate : validateText localService text origin options =
      .ok (ds, (localMessages text origin options.stripFormatting).succeeded) := by
    change Except.bind (reconcileResult (localMessages text origin _) _ _) _ = _
    rw [hreconcile]
    rfl
  rw [runValidation, hvalidate]
  exact hall

/-- The diagnostics of a text are the findings of the local service, one for each message and
    in their order; none is refused and none is left out as repeated. The validation has not
    succeeded exactly if one of them is about parsing, and then all of them are, and all are
    errors. -/
theorem findings_are_shown (text origin : Text) (options : Options) :
    let result := localMessages text origin options.stripFormatting
    let run := runValidation localService text origin options
    localService.validate text origin options.stripFormatting = .ok result ∧
    collectResult result (Lines.ofText text) (.whole options.searchBackoff) =
      .ok run.diagnostics ∧
    List.Forall₂ (fun finding d =>
      reconcile finding.1 (Lines.ofText text) finding.2 (.whole options.searchBackoff) = .ok d)
      result.findings run.diagnostics ∧
    (run.succeeded = false ↔ ∃ d ∈ run.diagnostics, d.phase = .parsing) ∧
    (run.succeeded = false → run.hasErrors = true ∧
      ∀ d ∈ run.diagnostics, d.phase = .parsing ∧ d.severity = .error) := by
  intro result run
  have hshown : ∀ f ∈ result.findings,
      ∃ d, Finding.Shows (Lines.ofText text) (.whole options.searchBackoff) f d := by
    intro f hf
    rcases findings_placed text origin options.stripFormatting hf with ⟨p, message, hplaced⟩
    rcases reconcile_of_placed hplaced f.2 options.searchBackoff with ⟨d, hd, _⟩
    exact ⟨d, hd⟩
  have happart := findings_apart text origin options.stripFormatting options.searchBackoff
  rcases reconcileResult_of_apart hshown happart with ⟨ds, hcollect, hreconcile, hall⟩
  have hrun : run = ⟨ds, result.succeeded, hasErrors ds⟩ := by
    have hvalidate : validateText localService text origin options = .ok (ds, result.succeeded) := by
      change Except.bind (reconcileResult result _ _) _ = _
      rw [hreconcile]
      rfl
    change runValidation localService text origin options = _
    rw [runValidation, hvalidate]
  rw [hrun]
  refine ⟨rfl, hcollect, hall, ?_⟩
  rcases localMessages_cases text origin options.stripFormatting with
    ⟨hsucceeded, hfindings⟩ | ⟨hsucceeded, hne, hfindings⟩
  · -- A validation that ran has nothing to say about parsing.
    have hphase : ∀ d ∈ ds, d.phase = .validation := by
      intro d hd
      rcases exists_finding hall hd with ⟨f, hf, hshows⟩
      rw [(phase_severity_of_shows hshows).1]
      exact phase_of_mem_findings (hfindings ▸ hf)
    have hnone : ¬∃ d ∈ ds, d.phase = .parsing := by
      rintro ⟨d, hd, hparsing⟩
      rw [hphase d hd] at hparsing
      exact Phase.noConfusion hparsing
    have hnot : result.succeeded ≠ false := by
      rw [hsucceeded]
      exact Bool.noConfusion
    exact ⟨⟨fun h => absurd h hnot, fun h => absurd h hnone⟩, fun h => absurd h hnot⟩
  · -- There is a first syntax error, and every diagnostic is one of a syntax error.
    have hparsing : ∀ d ∈ ds, d.phase = .parsing ∧ d.severity = .error := by
      intro d hd
      rcases exists_finding hall hd with ⟨f, hf, hshows⟩
      rw [hfindings] at hf
      rcases List.mem_map.mp hf with ⟨raw, hraw, rfl⟩
      exact shown_syntaxMessage text origin options.stripFormatting hraw hshows
    have hlength := hall.length_eq
    rw [hfindings, List.length_map] at hlength
    have hsome : ds ≠ [] := by
      rw [← List.length_pos_iff, ← hlength]
      exact List.length_pos_iff.mpr hne
    rcases List.exists_mem_of_ne_nil ds hsome with ⟨d, hd⟩
    refine ⟨⟨fun _ => ⟨d, hd, (hparsing d hd).1⟩, fun _ => hsucceeded⟩, fun _ => ⟨?_, hparsing⟩⟩
    exact List.any_eq_true.mpr ⟨d, hd, decide_eq_true (hparsing d hd).2⟩

end RiddlEditor
