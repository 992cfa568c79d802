import RiddlEditor.Proofs.Diagnostic.Reconcile
import RiddlEditor.Proofs.Text.Cleaning

/-!
# Control sequences in what a reader sees

The message of a diagnostic is what the compiler said without the control sequences in it. They
are taken out in one pass, and nobody looks whether the pieces around them make another one. So a
reader may be shown a control sequence after all, but only one that the compiler has interrupted
by others (`controls_of_messages`): a colour behind an escape character that belongs to nothing,
with the rest of a sequence behind the colour, is enough (`control_sequence_is_left`).

## Theorems

* `controls_of_messages`: Which messages have control sequences in the end.
* `control_sequence_is_left`: A message that has one.
-/

namespace RiddlEditor

/-- What is left of control sequences. A message is read once, and the control sequences that
    are met are left out. A reader is shown a control sequence exactly if a stretch of what the
    compiler has said is an interrupted one. To take control sequences out of a text a second time
    changes nothing exactly if none is left, and again one is left exactly if a stretch of the
    text is an interrupted one. -/
theorem controls_of_messages (raw : ServiceMessage) (lines : Lines) (spec : DiagnosticSpec)
    (backoff : Number) :
    (∀ d : Diagnostic, reconcile raw lines spec backoff = .ok d →
      ∃ reported, raw.message = .text reported ∧ Cleaned reported d.message ∧
        (HasControls d.message ↔ ∃ w, w <:+: reported ∧ IsInterrupted w)) ∧
    ∀ s : Text, Cleaned s s.withoutControls ∧
      (s.withoutControls.withoutControls = s.withoutControls ↔
        ¬HasControls s.withoutControls) ∧
      (HasControls s.withoutControls ↔ ∃ w, w <:+: s ∧ IsInterrupted w) := by
  refine ⟨fun d h => ?_, fun s => ⟨cleaned_withoutControls s, withoutControls_eq_self_iff,
    hasControls_withoutControls_iff⟩⟩
  have hshows : Finding.Shows lines backoff (raw, spec) d := h
  rcases diagnosed_of_shows hshows with ⟨_, _, _, _, _, _, _, _, _, hd⟩
  rcases hd.message with ⟨reported, hreported, hmessage⟩
  refine ⟨reported, hreported, cleaned_iff.mpr hmessage.symm, ?_⟩
  rw [hmessage]
  exact hasControls_withoutControls_iff

/-- A message with a reset between the escape character and the bracket of a colour. -/
def nestedMessage : Text :=
  escapeChar :: (resetSequence ++ "[31mred".toList)

/-- The reset is taken out, and the colour that comes together is shown to the reader. Were it
    taken out as well, the message would be another one. -/
theorem control_sequence_is_left :
    let raw : ServiceMessage := ⟨some (.text "Error".toList), .text nestedMessage,
      some (serviceLocation ⟨0, 0⟩ .null .null [])⟩
    ∃ d, reconcile raw (Lines.ofText "type A".toList) .syntaxError (.whole 8) = .ok d ∧
      d.message = Colour.red.sequence ++ "red".toList ∧ HasControls d.message ∧
      nestedMessage.withoutControls.withoutControls ≠ nestedMessage.withoutControls := by
  intro raw
  have hplaced : raw.Placed (Lines.ofText "type A".toList) ⟨0, 0⟩ nestedMessage :=
    .mk (by decide +kernel) wholeOffsets_null
  have hleft : nestedMessage.withoutControls = Colour.red.sequence ++ "red".toList := by
    decide +kernel
  have hcontrols : HasControls (Colour.red.sequence ++ "red".toList) := by
    have hafter : afterControlSequence? (Colour.red.sequence ++ "red".toList) =
        some "red".toList := by
      decide +kernel
    rcases afterControlSequence?_eq_some_iff.mp hafter with ⟨seq, hseq, hsplit⟩
    exact ⟨seq, hseq, [], _, hsplit.symm⟩
  rcases reconcile_of_placed hplaced .syntaxError 8 with ⟨d, hd, hidentity⟩
  have hmessage : d.message = Colour.red.sequence ++ "red".toList :=
    (congrArg Prod.snd hidentity).trans hleft
  refine ⟨d, hd, hmessage, hmessage ▸ hcontrols, fun heq => ?_⟩
  rw [withoutControls_eq_self_iff, hleft] at heq
  exact heq hcontrols

end RiddlEditor
