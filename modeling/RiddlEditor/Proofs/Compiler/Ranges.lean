import RiddlEditor.Proofs.Compiler.Highlights
import RiddlEditor.Proofs.Compiler.Presentation
import RiddlEditor.Proofs.Compiler.Unnamed
import RiddlEditor.Proofs.Diagnostic.Inside
import RiddlEditor.Proofs.Lexeme.IllFormed

/-!
# Where diagnostics are

The diagnostics of a text are inside of it, each on a single line. There are three ways to get
there. A message about a definition has no offsets, so its highlight comes from the line and ends
on it. A message about a lexeme or a bracket has the offsets of its token. It names nothing, so
its range is that of the token, and a token without a line break ends on the line where it starts.
A bracket that is not closed is reported behind the last character of the text, and there is
nothing to highlight but the end.

One token with an error may have line breaks: a block comment that is not closed. Its range is as
long as the whole comment and may end behind its line, though it starts on it.

## Main definitions

* `Token.RunsOn`: A block comment that is not closed and has a line break.
* `Token.StandsIn`: A token that ends on the line where it starts.
* `Diagnostic.Marks`: A diagnostic with the range of a token.
* `Diagnostic.IsInside`: A diagnostic that is inside of a text.
* `LexError.ShownBy`, `BracketFault.ShownBy`: The diagnostics of the errors of a text.

## Theorems

* `standsIn_of_unbroken`: A token without a line break ends on its line.
* `marks_of_shows`: A message about a token that names nothing has its range.
* `LexError.shownBy_of_shows`, `BracketFault.shownBy_of_shows`: Where errors are shown.
* `diagnostics_are_inside`: The diagnostics of a text are inside of it.
-/

namespace RiddlEditor

/-! ## Tokens and their lines -/

/-- A block comment that is not closed and has a line break. -/
structure Token.RunsOn (t : Token) : Prop where
  kind : t.kind = .comment
  illFormed : t.IllFormed
  broken : ¬Unbroken t.text

/-- A token that ends on the line where it starts: the line has its text in its columns. -/
def Token.StandsIn (t : Token) (s : Text) : Prop :=
  ∃ line, (Lines.ofText s).line? t.start.line = .ok line ∧
    t.start.column + t.length ≤ line.length ∧
    (line.drop t.start.column).take t.length = t.text

section Tokens

variable {s : Text} {t : Token}

/-- Only a comment has line breaks. -/
theorem Reads.kind_of_multiline {c : Char} {rest : Text} {reading : Reading}
    (h : Reads c rest reading) (hline : reading.multiline = true) : reading.kind = .comment := by
  cases h with
  | blockComment => rfl
  | openComment => rfl
  | _ => exact absurd hline Bool.false_ne_true

theorem unbroken_of_kind (h : t ∈ lexTokens s) (hkind : t.kind ≠ .comment) : Unbroken t.text := by
  rcases split_of_mem_lexTokens h with ⟨front, c, rest, _, hc, rfl⟩
  have hreads := reads_readLexeme c rest
  refine unbroken_of_single_line hreads hc ?_
  by_contra hline
  exact hkind (hreads.kind_of_multiline (eq_true_of_ne_false hline))

/-- A token without a line break ends on the line where it starts. -/
theorem standsIn_of_unbroken (h : t ∈ lexTokens s) (hunbroken : Unbroken t.text) :
    t.StandsIn s := by
  rcases firstLine_of_token h with ⟨line, hline, hstands⟩
  have hle := firstLine_le_line h hline
  rw [firstLine_of_unbroken hunbroken] at hle hstands
  exact ⟨line, hline, hle, hstands⟩

/-- The end of a text is on its last line. -/
theorem getElem?_endPosition (s : Text) :
    s.lines[(Lines.ofText s).endPosition.line]? = some (lastLine s) := by
  have hlast := getElem?_lines_append (Unsplit.nil s)
  rw [List.append_nil] at hlast
  exact hlast.trans (congrArg some (List.append_nil _))

/-- The offsets of a token are as far apart as it is long. -/
theorem offsets_of_token (h : t ∈ lexTokens s) :
    ∃ first last : Nat, t.offset = .int first ∧ t.endOffset = .int last ∧ first < last ∧
      last - first = t.length := by
  rcases split_of_mem_lexTokens h with ⟨front, c, rest, _, _, rfl⟩
  refine ⟨front.length, _, rfl, rfl, Nat.lt_add_of_pos_right (Nat.succ_pos _), ?_⟩
  exact Nat.add_sub_cancel_left front.length _

end Tokens

/-! ## Diagnostics and their tokens -/

/-- A diagnostic that marks a token: it has its range, and a message about it. -/
structure Diagnostic.Marks (d : Diagnostic) (t : Token) (message : Text) : Prop where
  message : d.message = message
  range : d.range = t.range.reported

/-- A diagnostic that is inside of a text. Its range is on a single line of the text and starts on
    it. It ends on it too, unless it marks a block comment that is not closed and has a line
    break. -/
def Diagnostic.IsInside (d : Diagnostic) (s : Text) : Prop :=
  ∃ p length line, d.range = (Range.span p length).reported ∧
    p.line < (Lines.ofText s).count ∧ (Lines.ofText s).line? p.line = .ok line ∧
    p.column ≤ line.length ∧
    (p.column + length ≤ line.length ∨
      ∃ t ∈ lexTokens s, t.RunsOn ∧ d.Marks t Fault.unterminatedComment.message)

/-- A diagnostic of a lexical error marks the token that the error is about, and this token ends
    on its line if it does not run on. -/
def LexError.ShownBy (s : Text) (e : LexError) (d : Diagnostic) : Prop :=
  ∃ t ∈ lexTokens s, e.Reports t ∧ d.Marks t e.message ∧ (t.RunsOn ∨ t.StandsIn s)

/-- A diagnostic of a bracket fault marks the closing bracket that the fault is about. If there is
    none, it is at the end of the text and has no width. -/
def BracketFault.ShownBy (s : Text) (f : BracketFault) (d : Diagnostic) : Prop :=
  match f.closer? with
  | some t => t ∈ lexTokens s ∧ d.Marks t f.message ∧ t.StandsIn s
  | none => d.message = f.message ∧
      d.range = (Range.empty (Lines.ofText s).endPosition).reported

section Shown

variable {s origin : Text} {plain : Bool} {backoff : Number} {d : Diagnostic}

theorem isInside_of_line {line : Text} {p : Position} {length : Nat}
    (hline : (Lines.ofText s).line? p.line = .ok line)
    (hrange : d.range = (Range.span p length).reported) (hstart : p.column ≤ line.length)
    (hend : p.column + length ≤ line.length ∨
      ∃ t ∈ lexTokens s, t.RunsOn ∧ d.Marks t Fault.unterminatedComment.message) :
    d.IsInside s := by
  have hlt : p.line < (Lines.ofText s).count :=
    (List.getElem?_eq_some_iff.mp (getElem?_of_line? hline)).1
  exact ⟨p, length, line, hrange, hlt, hline, hstart, hend⟩

theorem Finding.Diagnosed.message_eq {f : Finding} {location : ServiceLocation} {n : Nat}
    {line : Text} {column : Number} (h : f.Diagnosed backoff location n line column d)
    {message : Text} (hmessage : f.1.message = .text (presented plain .red message))
    (hsettled : Settled message) : d.message = message := by
  rcases h.message with ⟨reported, hreported, hshown⟩
  obtain rfl := Value.text.inj (hmessage.symm.trans hreported)
  rw [hshown, hsettled.withoutControls_presented]

/-- A message about a token that names nothing is shown with the range of the token. -/
theorem marks_of_shows {t : Token} (ht : t ∈ lexTokens s) {f : Finding} {message : Text}
    (hlocation : f.1.location = some (serviceLocation t.start t.offset t.endOffset origin))
    (hmessage : f.1.message = .text (presented plain .red message)) (hsettled : Settled message)
    (hnone : quotedNames message = []) (hd : f.Shows (Lines.ofText s) backoff d) :
    d.Marks t message := by
  rcases diagnosed_of_located hlocation hd with ⟨line, _, hdiagnosed⟩
  have hreads := hdiagnosed.message_eq hmessage hsettled
  refine ⟨hreads, ?_⟩
  rcases hdiagnosed.range_of_located with ⟨found, hfound, hrange⟩
  rcases offsets_of_token ht with ⟨first, last, hfirst, hlast, hlt, hlength⟩
  simp only [hreads, hfirst, hlast] at hfound
  have hcolumns := columns_of_offsets hnone hlt hfound
  rw [range_of_columns hcolumns, hlength] at hrange
  exact (Except.ok.inj hrange).symm

/-- A message about the end of a text that names nothing is shown without width. -/
theorem range_of_end {f : Finding} {message : Text}
    (hlocation : f.1.location =
      some (serviceLocation (placeOf s s.length) .null .null origin))
    (hmessage : f.1.message = .text (presented plain .red message)) (hsettled : Settled message)
    (hnone : quotedNames message = []) (hd : f.Shows (Lines.ofText s) backoff d) :
    d.message = message ∧ d.range = (Range.empty (Lines.ofText s).endPosition).reported := by
  rcases diagnosed_of_located hlocation hd with ⟨line, hline, hdiagnosed⟩
  have hreads := hdiagnosed.message_eq hmessage hsettled
  refine ⟨hreads, ?_⟩
  rw [placeOf_end] at hline hdiagnosed
  have hcolumn : (Lines.ofText s).endPosition.column = line.length := by
    rw [getElem?_endPosition, Option.some.injEq] at hline
    rw [← hline]
    rfl
  rcases hdiagnosed.range_of_located with ⟨found, hfound, hrange⟩
  simp only [hreads, hcolumn] at hfound hrange
  have hcolumns := columns_of_end hnone hfound
  rw [range_of_columns hcolumns, ← hcolumn] at hrange
  exact (Except.ok.inj hrange).symm

/-- Where a lexical error is shown. -/
theorem LexError.shownBy_of_shows {e : LexError} (h : e ∈ lexErrors s) {spec : DiagnosticSpec}
    (hd : Finding.Shows (Lines.ofText s) backoff (e.toMessage origin plain, spec) d) :
    e.ShownBy s d := by
  rcases exists_token_of_error h with ⟨t, ht, hill, hreports⟩
  have hlocation : (e.toMessage origin plain).location =
      some (serviceLocation t.start t.offset t.endOffset origin) := by
    rw [← hreports.start, hreports.offset, hreports.stop]
    rfl
  have hmarks := marks_of_shows ht hlocation rfl e.fault.settled e.fault.names_nothing hd
  refine ⟨t, ht, hreports, hmarks, ?_⟩
  by_cases hunbroken : Unbroken t.text
  · exact Or.inr (standsIn_of_unbroken ht hunbroken)
  · have hkind : t.kind = .comment := by
      by_contra hkind
      exact hunbroken (unbroken_of_kind ht hkind)
    exact Or.inl ⟨hkind, hill, hunbroken⟩

/-- Where a bracket fault is shown. -/
theorem BracketFault.shownBy_of_shows {f : BracketFault} (h : f ∈ bracketFaults (lexTokens s))
    {spec : DiagnosticSpec}
    (hd : Finding.Shows (Lines.ofText s) backoff (f.toMessage s origin plain, spec) d) :
    f.ShownBy s d := by
  have hsettled := BracketFault.settled h
  have hnone := BracketFault.names_nothing h
  unfold BracketFault.ShownBy
  rcases closer_of_mem_bracketFaultsIn h with hcloser | ⟨t, ht, hkind, hcloser⟩
  · have hlocation := congrArg some (BracketFault.location_of_end hcloser s origin)
    simp only [hcloser]
    exact range_of_end hlocation rfl hsettled hnone hd
  · have hlocation := congrArg some (BracketFault.location_of_closer hcloser s origin)
    -- A closing bracket is a token of the text, and no bracket has a line break.
    have hunbroken := unbroken_of_kind ht (by rw [hkind]; decide)
    simp only [hcloser]
    exact ⟨ht, marks_of_shows ht hlocation rfl hsettled hnone hd,
      standsIn_of_unbroken ht hunbroken⟩

/-! ## Diagnostics inside of a text -/

/-- What marks a token of a text is inside of it. -/
theorem Diagnostic.Marks.isInside {t : Token} {message : Text} (h : d.Marks t message)
    (ht : t ∈ lexTokens s)
    (hend : t.StandsIn s ∨ t.RunsOn ∧ message = Fault.unterminatedComment.message) :
    d.IsInside s := by
  rcases hend with ⟨line, hline, hend, _⟩ | ⟨hruns, rfl⟩
  · exact isInside_of_line hline h.range (Nat.le_of_add_right_le hend) (Or.inl hend)
  · -- The comment may end behind the line, but its first line does not.
    rcases firstLine_of_token ht with ⟨line, hline, _⟩
    have hstart := Nat.le_of_add_right_le (firstLine_le_line ht hline)
    exact isInside_of_line hline h.range hstart (Or.inr ⟨t, ht, hruns, h⟩)

/-- The error about a comment says that it is not closed. -/
theorem Fault.Describes.eq_of_comment {fault : Fault} {t : Token} (h : fault.Describes t)
    (hkind : t.kind = .comment) : fault = .unterminatedComment := by
  cases fault with
  | unexpectedCharacter c => exact nomatch hkind.symm.trans h.1
  | unterminatedComment => rfl
  | unterminatedString => exact nomatch hkind.symm.trans h

theorem LexError.ShownBy.isInside {e : LexError} (h : e.ShownBy s d) : d.IsInside s := by
  rcases h with ⟨t, ht, hreports, hmarks, hruns | hstands⟩
  · have hfault := hreports.fault.eq_of_comment hruns.kind
    exact hmarks.isInside ht (Or.inr ⟨hruns, congrArg Fault.message hfault⟩)
  · exact hmarks.isInside ht (Or.inl hstands)

theorem BracketFault.ShownBy.isInside {f : BracketFault} (h : f.ShownBy s d) : d.IsInside s := by
  unfold BracketFault.ShownBy at h
  split at h
  case h_1 t _ => exact h.2.1.isInside h.1 (Or.inl h.2.2)
  case h_2 =>
    have hline := line?_of_getElem? (getElem?_endPosition s)
    exact isInside_of_line hline h.2 (Nat.le_refl _) (Or.inl (Nat.le_refl _))

/-- What is shown for a definition is inside of the text. -/
theorem Definition.Message.isInside {definition : Definition} {f : Finding}
    (h : definition.Message origin f.1) (hd : f.Shows (Lines.ofText s) backoff d) :
    d.IsInside s := by
  rcases diagnosed_of_message h hd with ⟨line, hline, hdiagnosed⟩
  rcases hdiagnosed.range_of_located with ⟨found, hfound, hrange⟩
  rcases isInside_of_null hfound with ⟨start, length, hcolumns, hend⟩
  rw [range_of_columns hcolumns] at hrange
  have hshown := (Except.ok.inj hrange).symm
  -- The range is on the line of the keyword, but may start elsewhere.
  exact isInside_of_line (p := ⟨definition.keyword.start.line, start⟩) (line?_of_getElem? hline)
    hshown (Nat.le_of_add_right_le hend) (Or.inl hend)

end Shown

/-! ## Diagnostics of a run -/

section Run

variable (text origin : Text) (options : Options)

/-- Every diagnostic of a text is inside of it. -/
theorem isInside_of_mem_run {d : Diagnostic}
    (hd : d ∈ (runValidation localService text origin options).diagnostics) : d.IsInside text := by
  rcases exists_finding (run_shows text origin options) hd with ⟨f, hf, hshows⟩
  rcases localMessages_cases text origin options.stripFormatting with
    ⟨_, hfindings⟩ | ⟨_, _, hfindings⟩
  · rw [hfindings] at hf
    rcases exists_definition_of_mem_findings hf with ⟨definition, _, hmessage⟩
    exact hmessage.isInside hshows
  · rw [hfindings, syntaxMessages, List.map_append, List.map_map, List.map_map] at hf
    rcases List.mem_append.mp hf with hf | hf
    · rcases List.mem_map.mp hf with ⟨e, he, rfl⟩
      exact (LexError.shownBy_of_shows he hshows).isInside
    · rcases List.mem_map.mp hf with ⟨fault, hfault, rfl⟩
      exact (BracketFault.shownBy_of_shows hfault hshows).isInside

/-- The diagnostics of the messages of a list, if there is something to say for each of them. -/
theorem forall₂_of_shows {α : Type} {items : List α} {toFinding : α → Finding}
    {shownBy : α → Diagnostic → Prop} {lines : Lines} {backoff : Number} {ds : List Diagnostic}
    (hall : List.Forall₂ (Finding.Shows lines backoff) (items.map toFinding) ds)
    (h : ∀ item ∈ items, ∀ d, (toFinding item).Shows lines backoff d → shownBy item d) :
    List.Forall₂ shownBy items ds := by
  rw [List.forall₂_map_left_iff] at hall
  have hand := (List.forall₂_and_left (p := (· ∈ items)) items ds).mpr ⟨fun _ hi => hi, hall⟩
  exact hand.imp fun item d hi => h item hi.1 d hi.2

/-- The diagnostics of the syntax errors: first those of the lexical errors, and then those of the
    bracket faults. -/
theorem syntaxMessages_shown {ds : List Diagnostic} {backoff : Number} {plain : Bool}
    (hall : List.Forall₂ (Finding.Shows (Lines.ofText text) backoff)
      ((syntaxMessages text origin plain).map (·, .syntaxError)) ds) :
    ∃ lexical brackets, ds = lexical ++ brackets ∧
      List.Forall₂ (LexError.ShownBy text) (lexErrors text) lexical ∧
      List.Forall₂ (BracketFault.ShownBy text) (bracketFaults (lexTokens text)) brackets := by
  rw [syntaxMessages, List.map_append, List.map_map, List.map_map] at hall
  have hfront := (List.forall₂_take_append _ _ _ hall.flip).flip
  have hback := (List.forall₂_drop_append _ _ _ hall.flip).flip
  have hlexical := forall₂_of_shows hfront fun e he d hd => LexError.shownBy_of_shows he hd
  have hbrackets := forall₂_of_shows hback fun f hf d hd => BracketFault.shownBy_of_shows hf hd
  exact ⟨_, _, (List.take_append_drop _ ds).symm, hlexical, hbrackets⟩

end Run

/-- The diagnostics of a text are inside of it: each is on a single line of the text, starts on it
    and ends on it too, unless it marks a block comment that is not closed and has a line break.
    Those about its syntax are one for each lexical error and then one for each bracket fault. Each
    of them has the range of the token that it is about, which is the text of these columns if it
    is not such a comment; and a bracket that is not closed is reported at the end of the text,
    without width. -/
theorem diagnostics_are_inside (text origin : Text) (options : Options) :
    let diagnostics := (runValidation localService text origin options).diagnostics
    (∀ d ∈ diagnostics, d.IsInside text) ∧
    ∃ lexical brackets, ofPhase .parsing diagnostics = lexical ++ brackets ∧
      List.Forall₂ (LexError.ShownBy text) (lexErrors text) lexical ∧
      List.Forall₂ (BracketFault.ShownBy text) (bracketFaults (lexTokens text)) brackets := by
  intro diagnostics
  refine ⟨fun d hd => isInside_of_mem_run text origin options hd, ?_⟩
  have hall := run_shows text origin options
  rcases localMessages_cases text origin options.stripFormatting with
    ⟨hsucceeded, hfindings⟩ | ⟨_, _, hfindings⟩
  · -- Without syntax errors nothing is about parsing.
    rcases (succeeded_iff text origin options.stripFormatting).mp hsucceeded with
      ⟨hlexical, hbrackets⟩
    rw [hlexical, hbrackets]
    refine ⟨[], [], ?_, List.Forall₂.nil, List.Forall₂.nil⟩
    refine List.filter_eq_nil_iff.mpr fun d hd => ?_
    rcases exists_finding hall hd with ⟨f, hf, hshows⟩
    have hphase := phase_of_mem_findings (hfindings ▸ hf)
    rw [(phase_severity_of_shows hshows).1, hphase]
    decide
  · -- All diagnostics are those of syntax errors.
    rw [hfindings] at hall
    rcases syntaxMessages_shown text origin hall with ⟨lexical, brackets, hds, hfront, hback⟩
    refine ⟨lexical, brackets, ?_, hfront, hback⟩
    rw [← hds]
    refine List.filter_eq_self.mpr fun d hd => ?_
    rcases exists_finding hall hd with ⟨f, hf, hshows⟩
    rcases List.mem_map.mp hf with ⟨raw, hraw, rfl⟩
    exact decide_eq_true (shown_syntaxMessage text origin _ hraw hshows).1

/-- A comment that runs on is longer than its line, and so is its range. -/
example :
    let text : Text := "/*\n".toList
    text.lines[0]? = some "/*".toList ∧
      ∃ d ∈ (runValidation localService text [] .defaults).diagnostics,
        d.range = (Range.span ⟨0, 0⟩ 3).reported := by
  decide +kernel

end RiddlEditor
