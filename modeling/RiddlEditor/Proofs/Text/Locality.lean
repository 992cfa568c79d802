import RiddlEditor.Proofs.Text.Cleaning

/-!
# Control sequences are taken out where they stand

To take a control sequence out of a text changes nothing in front of it and nothing behind it
(`withoutControls_append_sequence`). Nothing that starts in front of the sequence goes into it,
since the escape character at its start is in none of the classes of characters that a sequence
goes on with. And it ends where it ends alone, since no control sequence is the start of another
one (`IsControlSequence.eq_of_prefix`).

So the colour around a message takes nothing with it and leaves nothing behind, whatever the
message is: a sequence that breaks off at the end of the message does not go on in the reset
behind it (`withoutControls_append_truncated`).

## Main definitions

* `IsTruncated`: A control sequence that breaks off.

## Theorems

* `isControlSequence_iff`: A text that is read as one control sequence.
* `IsControlSequence.eq_of_prefix`: No control sequence is the start of another one.
* `withoutControls_append_sequence`: A control sequence between two texts.
* `withoutControls_coloured`: A text in a colour.
* `withoutControls_append_truncated`: A sequence that breaks off behind a text.
* `controls_are_taken_out_in_place`: What stands around a control sequence does not change.
* `broken_colour_is_kept`: A sequence that breaks off in front of another one.
-/

namespace RiddlEditor

/-- A text is a control sequence exactly if one is read and nothing is left. -/
theorem isControlSequence_iff {seq : Text} :
    IsControlSequence seq ↔ afterControlSequence? seq = some [] := by
  rw [afterControlSequence?_eq_some_iff]
  constructor
  · intro h
    exact ⟨seq, h, (List.append_nil seq).symm⟩
  · rintro ⟨found, h, rfl⟩
    rwa [List.append_nil]

/-- No control sequence is the start of another one. -/
theorem IsControlSequence.eq_of_prefix {seq other : Text} (h : IsControlSequence seq)
    (hother : IsControlSequence other) (hfront : seq <+: other) : seq = other := by
  rcases hfront with ⟨rest, rfl⟩
  have hlong : afterControlSequence? (seq ++ rest) = some [] := isControlSequence_iff.mp hother
  obtain rfl : rest = [] := Option.some.inj ((h.after_append rest).symm.trans hlong)
  rw [List.append_nil]

/-- What stands in front of a control sequence and what stands behind it are read apart. -/
theorem withoutControls_append_sequence (a b : Text) {seq : Text} (h : IsControlSequence seq) :
    Text.withoutControls (a ++ seq ++ b) = a.withoutControls ++ b.withoutControls := by
  have hafter := h.after_append b
  rcases h.exists_tail with ⟨tail, rfl, -⟩
  calc Text.withoutControls (a ++ (escapeChar :: tail) ++ b)
      = Text.withoutControls (a ++ escapeChar :: (tail ++ b)) := by
        rw [List.append_assoc, List.cons_append]
    _ = a.withoutControls ++ Text.withoutControls (escapeChar :: (tail ++ b)) :=
        withoutControls_append_escape a (tail ++ b)
    _ = a.withoutControls ++ b.withoutControls := by
        rw [← List.cons_append, withoutControls_of_sequence hafter]

/-! ## Colours -/

theorem Colour.isControlSequence (colour : Colour) : IsControlSequence colour.sequence := by
  rw [isControlSequence_iff]
  cases colour with
  | red => rfl
  | yellow => rfl

theorem isControlSequence_reset : IsControlSequence resetSequence :=
  isControlSequence_iff.mpr rfl

/-- A text in a colour is left with what the text is left with. -/
theorem withoutControls_coloured (colour : Colour) (s : Text) :
    (s.coloured colour).withoutControls = s.withoutControls := by
  have hcolour := withoutControls_append_sequence [] (s ++ resetSequence) colour.isControlSequence
  have hreset := withoutControls_append_sequence s [] isControlSequence_reset
  rw [List.nil_append, withoutControls_nil, List.nil_append] at hcolour
  rw [List.append_nil, withoutControls_nil, List.append_nil] at hreset
  rw [Text.coloured, List.append_assoc, hcolour, hreset]

/-! ## Sequences that break off -/

/-- A control sequence that breaks off before it is one. -/
def IsTruncated (s : Text) : Prop :=
  ∃ seq, IsControlSequence seq ∧ s <+: seq ∧ s ≠ seq

/-- No control sequence stands in one that breaks off. -/
theorem IsTruncated.not_hasControls {s : Text} (h : IsTruncated s) : ¬HasControls s := by
  rcases h with ⟨seq, hseq, hfront, hne⟩
  rintro ⟨inner, hinner, before, behind, rfl⟩
  cases before with
  | nil =>
      -- A sequence at the start would be all of it.
      have hstart : inner <+: inner ++ behind := List.prefix_append inner behind
      obtain rfl := hinner.eq_of_prefix hseq (hstart.trans hfront)
      exact hne (List.IsPrefix.eq_of_length_le hfront hstart.length_le)
  | cons c before =>
      -- A sequence further behind would start with a second escape character.
      rcases hinner.exists_tail with ⟨tail, rfl, -⟩
      rcases hseq.exists_tail with ⟨rest, rfl, -, hescape⟩
      simp only [List.cons_append, List.cons_prefix_cons, List.append_assoc] at hfront
      refine hescape (hfront.2.subset ?_)
      exact List.mem_append_right before List.mem_cons_self

/-- A sequence that breaks off behind a text is kept as it is. -/
theorem withoutControls_append_truncated (s : Text) {t : Text} (ht : IsTruncated t) :
    Text.withoutControls (s ++ t) = s.withoutControls ++ t := by
  have hkept : t.withoutControls = t := withoutControls_eq_self_iff.mpr ht.not_hasControls
  rcases ht with ⟨seq, hseq, hfront, -⟩
  rcases hseq.exists_tail with ⟨tail, rfl, -⟩
  cases t with
  | nil => rw [List.append_nil, List.append_nil]
  | cons c t =>
      obtain rfl : c = escapeChar := (List.cons_prefix_cons.mp hfront).1
      rw [withoutControls_append_escape, hkept]

/-- Control sequences are taken out where they stand. A text is one if it is read as one and
    nothing is left, and then what is left of the texts in front of it and behind it is what is
    left of each of them alone. So a message in a colour is left with what it is left with by
    itself, and a sequence that breaks off at its end is kept. -/
theorem controls_are_taken_out_in_place :
    (∀ seq : Text, IsControlSequence seq ↔ afterControlSequence? seq = some []) ∧
    (∀ a seq b : Text, IsControlSequence seq →
      Text.withoutControls (a ++ seq ++ b) = a.withoutControls ++ b.withoutControls) ∧
    (∀ (colour : Colour) (message : Text),
      (message.coloured colour).withoutControls = message.withoutControls) ∧
    ∀ (colour : Colour) (message t : Text), IsTruncated t →
      (Text.coloured colour (message ++ t)).withoutControls = message.withoutControls ++ t := by
  refine ⟨fun seq => isControlSequence_iff, fun a seq b h => withoutControls_append_sequence a b h,
    withoutControls_coloured, fun colour message t ht => ?_⟩
  rw [withoutControls_coloured, withoutControls_append_truncated message ht]

/-- A colour that breaks off is kept in front of a reset, where it even becomes whole with what
    stands behind the reset, and at the end of a message in another colour. -/
theorem broken_colour_is_kept :
    let broken : Text := escapeChar :: "[3".toList
    IsControlSequence resetSequence ∧ IsTruncated broken ∧
      Text.withoutControls (broken ++ resetSequence ++ "1mred".toList) =
        Colour.red.sequence ++ "red".toList ∧
      (Text.coloured .yellow ("type A".toList ++ broken)).withoutControls =
        "type A".toList ++ broken := by
  intro broken
  have hbroken : IsTruncated broken :=
    ⟨Colour.red.sequence, Colour.isControlSequence .red, by decide, by decide⟩
  rcases controls_are_taken_out_in_place with ⟨-, hplace, -, htruncated⟩
  refine ⟨isControlSequence_reset, hbroken, ?_, ?_⟩
  · rw [hplace broken resetSequence _ isControlSequence_reset,
      withoutControls_eq_self_iff.mpr hbroken.not_hasControls,
      withoutControls_of_not_mem (by decide)]
    rfl
  · rw [htruncated .yellow _ broken hbroken, withoutControls_of_not_mem (by decide)]

end RiddlEditor
