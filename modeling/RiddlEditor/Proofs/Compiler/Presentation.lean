import RiddlEditor.Proofs.Compiler.Findings

/-!
# Diagnostics do not show how messages were presented

A service may colour its messages and it writes the name of the document into their
locations. The diagnostics of a text show neither: they are the same for every origin, and
the same whether the messages came plain or in colours.

The name of the document is not looked at. A colour is taken off when a message is
reconciled, and what is left is what is left of the plain message (`presented_alike`). So the
two validations answer with messages that are read in the same way, one by one (`ReadsLike`),
and what is read in the same way becomes the same diagnostic (`reconcile_of_readsLike`).

What is left of a message about the syntax is the message itself, since it is `Settled`: the
only escape character that it can quote is followed by a quote, which makes no control
sequence of it.

## Main definitions

* `ServiceMessage.ReadsLike`: Two messages that differ in their presentation only.
* `ValidateResult.ReadsLike`: Two answers whose messages do.

## Theorems

* `Fault.settled`, `BracketFault.settled`: The messages about the syntax are settled.
* `presented_alike`: A message in two presentations.
* `reconcile_of_readsLike`: Such messages become the same diagnostic.
* `localMessages_readLike`: Two validations of a text differ in presentation only.
* `diagnostics_ignore_presentation`: The diagnostics of a text are the same for both.
-/

namespace RiddlEditor

/-! ## Messages without control sequences -/

/-- A stray escape character is quoted, and the quote behind it makes no sequence. -/
theorem Fault.settled (fault : Fault) : Settled fault.message := by
  cases fault with
  | unexpectedCharacter c =>
      have hfront : escapeChar ∉ "Unexpected character '".toList := by decide
      refine (Settled.of_not_mem hfront).append ?_
      by_cases hc : c = escapeChar
      · intro t
        have hnone : afterControlSequence? (escapeChar :: '\'' :: t) = none := rfl
        rw [hc, List.cons_append, List.cons_append, List.nil_append,
          withoutControls_cons_of_none hnone, withoutControls_cons t (by decide)]
        rfl
      · refine .of_not_mem fun hmem => ?_
        rcases List.mem_cons.mp hmem with heq | hmem
        · exact hc heq.symm
        · exact absurd hmem (by decide)
  | unterminatedComment => exact .of_not_mem (by decide)
  | unterminatedString => exact .of_not_mem (by decide)

theorem escape_not_mem_bracket {s : Text} (h : IsBracket s) : escapeChar ∉ s := by
  rcases h.exists_pair with ⟨_, hpair | hpair⟩ <;> cases hpair <;> decide

/-- A message about brackets quotes brackets and counts lines and columns. -/
theorem BracketFault.settled {tokens : List Token} {f : BracketFault}
    (h : f ∈ bracketFaults tokens) : Settled f.message := by
  have hbracket : ∀ s, f.Quotes s → escapeChar ∉ s := fun s hs =>
    escape_not_mem_bracket (bracket_of_quotes (by simp) h hs)
  refine .of_not_mem ?_
  cases f with
  | unexpected closer =>
      have hcloser := hbracket closer.text rfl
      change escapeChar ∉ "Unexpected '".toList ++ closer.text ++ ['\'']
      simp only [List.mem_append, not_or]
      exact ⟨⟨by decide, hcloser⟩, by decide⟩
  | mismatched expected closer =>
      have hexpected := hbracket expected (Or.inl rfl)
      have hcloser := hbracket closer.text (Or.inr rfl)
      change escapeChar ∉
        "Expected '".toList ++ expected ++ "' but found '".toList ++ closer.text ++ ['\'']
      simp only [List.mem_append, not_or]
      exact ⟨⟨⟨⟨by decide, hexpected⟩, by decide⟩, hcloser⟩, by decide⟩
  | unclosed expected opener =>
      have hexpected := hbracket expected (Or.inl rfl)
      have hopener := hbracket opener.text (Or.inr rfl)
      have hescape : escapeChar.isDigit = false := by decide
      have hline := Text.not_mem_ofNat hescape (opener.start.line + 1)
      have hcolumn := Text.not_mem_ofNat hescape (opener.start.column + 1)
      change escapeChar ∉
        "Expected '".toList ++ expected ++ "' before end of input to close '".toList ++
          opener.text ++ "' at ".toList ++ Text.ofNat (opener.start.line + 1) ++ [':'] ++
          Text.ofNat (opener.start.column + 1)
      simp only [List.mem_append, not_or]
      exact ⟨⟨⟨⟨⟨⟨⟨by decide, hexpected⟩, by decide⟩, hopener⟩, by decide⟩, hline⟩, by decide⟩,
        hcolumn⟩

/-- What is settled reads as it was written, in every presentation. -/
theorem Settled.withoutControls_presented {message : Text} (h : Settled message) (plain : Bool)
    (colour : Colour) : (presented plain colour message).withoutControls = message := by
  rw [withoutControls_presented_eq, h.withoutControls_eq]

/-! ## Messages that read alike -/

/-- Two messages that differ in their presentation only: in their control sequences and in
    the name of the document. -/
inductive ServiceMessage.ReadsLike : ServiceMessage → ServiceMessage → Prop where
  | mk {kind line column offset endOffset source source' : Value} {message message' : Text}
      (h : message.withoutControls = message'.withoutControls) :
      ReadsLike ⟨kind, .text message, some ⟨line, column, offset, endOffset, source⟩⟩
        ⟨kind, .text message', some ⟨line, column, offset, endOffset, source'⟩⟩

/-- Neither the control sequences nor the name of the document are seen in a diagnostic. -/
theorem reconcile_of_readsLike {raw raw' : ServiceMessage} (h : raw.ReadsLike raw')
    (lines : Lines) (spec : DiagnosticSpec) (backoff : Number) :
    reconcile raw lines spec backoff = reconcile raw' lines spec backoff := by
  cases h with
  | mk h => simp only [reconcile, diagnosticAt, h]

theorem reconcileAll_of_readsLike {raws raws' : List ServiceMessage}
    (h : List.Forall₂ ServiceMessage.ReadsLike raws raws') (lines : Lines) (spec : DiagnosticSpec)
    (backoff : Number) :
    reconcileAll raws lines spec backoff = reconcileAll raws' lines spec backoff := by
  induction h with
  | nil => rfl
  | cons hfirst _ ih => rw [reconcileAll, reconcileAll, reconcile_of_readsLike hfirst, ih]

/-- Two answers to a validation that differ in the presentation of their messages only. -/
structure ValidateResult.ReadsLike (result result' : ValidateResult) : Prop where
  succeeded : result.succeeded = result'.succeeded
  collected : ∀ lines backoff,
    collectResult result lines backoff = collectResult result' lines backoff

/-- Messages that are made of the same things in two presentations. -/
theorem readsLike_map {β : Type} {xs : List β} {f g : β → ServiceMessage}
    (h : ∀ x ∈ xs, (f x).ReadsLike (g x)) :
    List.Forall₂ ServiceMessage.ReadsLike (xs.map f) (xs.map g) := by
  rw [List.forall₂_map_left_iff, List.forall₂_map_right_iff, List.forall₂_same]
  exact h

/-- Two presentations of one message read alike. -/
theorem presented_alike (plain plain' : Bool) (colour : Colour) (message : Text) :
    (presented plain colour message).withoutControls =
      (presented plain' colour message).withoutControls := by
  rw [withoutControls_presented_eq, withoutControls_presented_eq]

section Local

variable (text origin origin' : Text) (plain plain' : Bool)

theorem syntaxMessages_readLike :
    List.Forall₂ ServiceMessage.ReadsLike (syntaxMessages text origin plain)
      (syntaxMessages text origin' plain') := by
  refine List.rel_append (readsLike_map fun e _ => ?_) (readsLike_map fun f _ => ?_)
  · exact .mk (presented_alike plain plain' .red e.message)
  · have hmessage := presented_alike plain plain' .red f.message
    cases f with
    | unexpected closer => exact .mk hmessage
    | mismatched expected closer => exact .mk hmessage
    | unclosed expected opener => exact .mk hmessage

theorem definitionMessages_readLike (lines : Lines) (backoff : Number) :
    (definitionMessages (lexTokens text) origin plain).reconcile lines backoff =
      (definitionMessages (lexTokens text) origin' plain').reconcile lines backoff := by
  have herrors : List.Forall₂ ServiceMessage.ReadsLike
      (definitionMessages (lexTokens text) origin plain).errors
      (definitionMessages (lexTokens text) origin' plain').errors :=
    readsLike_map fun d _ => .mk (presented_alike plain plain' .red d.duplicateMessage)
  have hwarnings : List.Forall₂ ServiceMessage.ReadsLike
      (definitionMessages (lexTokens text) origin plain).warnings
      (definitionMessages (lexTokens text) origin' plain').warnings :=
    readsLike_map fun d _ => .mk (presented_alike plain plain' .yellow d.emptyMessage)
  rw [ValidationMessages.reconcile, ValidationMessages.reconcile,
    reconcileAll_of_readsLike herrors, reconcileAll_of_readsLike hwarnings]
  rfl

/-- Two validations of a text answer alike, whatever the origin and the presentation. -/
theorem localMessages_readLike :
    (localMessages text origin plain).ReadsLike (localMessages text origin' plain') := by
  have hsyntax := syntaxMessages_readLike text origin origin' plain plain'
  unfold localMessages
  rcases hmessages : syntaxMessages text origin plain with _ | ⟨first, rest⟩
  · rw [hmessages] at hsyntax
    rw [List.forall₂_nil_left_iff.mp hsyntax]
    refine ⟨rfl, fun lines backoff => ?_⟩
    simp only [collectResult, definitionMessages_readLike text origin origin' plain plain']
  · rw [hmessages] at hsyntax
    rcases List.forall₂_cons_left_iff.mp hsyntax with ⟨first', rest', hfirst, hrest, hmessages'⟩
    rw [hmessages']
    refine ⟨rfl, fun lines backoff => ?_⟩
    simp only [collectResult, reconcileAll_of_readsLike (.cons hfirst hrest)]

end Local

/-- Of the settings only the distance for names counts. -/
theorem validateText_of_searchBackoff_eq (text origin origin' : Text) (options options' : Options)
    (h : options.searchBackoff = options'.searchBackoff) :
    validateText localService text origin options =
      validateText localService text origin' options' := by
  have hlike := localMessages_readLike text origin origin' options.stripFormatting
    options'.stripFormatting
  have hresult := congrArg (Except.map dedupe)
    (hlike.collected (Lines.ofText text) (.whole options.searchBackoff))
  change Except.bind (reconcileResult (localMessages text origin options.stripFormatting) _ _) _ =
    Except.bind (reconcileResult (localMessages text origin' options'.stripFormatting) _ _) _
  rw [reconcileResult, reconcileResult, hresult, h, hlike.succeeded]

/-- The diagnostics of a text are the same for every origin, with and without colours, and
    so is whether the validation succeeded. -/
theorem diagnostics_ignore_presentation (text origin origin' : Text) (backoff : Nat)
    (strip strip' : Bool) (delay delay' : Float) (keywords keywords' : List Text) :
    runValidation localService text origin
        { debounceDelay := delay, stripFormatting := strip, searchBackoff := backoff,
          extraKeywords := keywords } =
      runValidation localService text origin'
        { debounceDelay := delay', stripFormatting := strip', searchBackoff := backoff,
          extraKeywords := keywords' } := by
  have hvalidate := validateText_of_searchBackoff_eq text origin origin'
    ⟨delay, strip, backoff, keywords⟩ ⟨delay', strip', backoff, keywords'⟩ rfl
  rw [runValidation, runValidation, hvalidate]

end RiddlEditor
