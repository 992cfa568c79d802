import Mathlib.Data.List.Infix
import RiddlEditor.Proofs.Text.ControlSequence
import RiddlEditor.Proofs.Text.Stretch

/-!
# What is left when control sequences are taken out

A text is read once. Where a control sequence starts it is left out, and every other character
is kept (`cleaned_withoutControls`). What is left may have control sequences of its own, since
the characters around a sequence that is left out come together: an escape character in front
of a colour and a bracket behind it are two characters of a text, and one sequence without the
colour.

That is the only way. A control sequence has one escape character, its first, so no sequence
that is left out reaches over the start of another one (`withoutControls_append_escape`), and a
stretch of a text is read in the same way wherever it stands. So a sequence is left exactly if
the text has a stretch that reads as one when the sequences inside it are taken out
(`hasControls_withoutControls_iff`).

## Main definitions

* `Cleaned`: How a text is read.
* `HasControls`: A text in which a control sequence stands.
* `IsInterrupted`: A stretch that becomes a control sequence.

## Theorems

* `IsControlSequence.after_append`: A control sequence is read up to its end.
* `afterControlSequence?_eq_some_iff`: A control sequence at the start of a text.
* `cleaned_iff`: What is left is what was read.
* `withoutControls_eq_self_iff`: A text in which nothing is left out.
* `withoutControls_append_escape`: Reading starts anew at every escape character.
* `IsInterrupted.not_isControlSequence`: What is interrupted is no control sequence itself.
* `hasControls_withoutControls_iff`: When control sequences are left.
-/

namespace RiddlEditor

/-! ## Control sequences -/

theorem isControlParameter_of_final {c : Char} (h : isControlFinal c = true) :
    isControlParameter c = false ∧ isControlIntermediate c = false := by
  simp only [isControlFinal, isControlParameter, isControlIntermediate, Bool.and_eq_true,
    decide_eq_true_eq, Bool.and_eq_false_iff, decide_eq_false_iff_not] at h ⊢
  omega

theorem isControlParameter_of_intermediate {c : Char} (h : isControlIntermediate c = true) :
    isControlParameter c = false := by
  simp only [isControlParameter, isControlIntermediate, Bool.and_eq_true, decide_eq_true_eq,
    Bool.and_eq_false_iff, decide_eq_false_iff_not] at h ⊢
  omega

/-- A control sequence is the escape character and at least one character that is not. -/
theorem IsControlSequence.exists_tail {seq : Text} (h : IsControlSequence seq) :
    ∃ tail, seq = escapeChar :: tail ∧ tail ≠ [] ∧ escapeChar ∉ tail := by
  cases h with
  | long parameters intermediates final hparameters hintermediates hfinal =>
      refine ⟨_, rfl, List.cons_ne_nil _ _, fun hmem => ?_⟩
      simp only [List.mem_cons, List.mem_append, List.not_mem_nil, or_false] at hmem
      rcases hmem with heq | hmem | hmem | heq
      · exact absurd heq (by decide)
      · exact absurd (hparameters _ hmem) (by decide)
      · exact absurd (hintermediates _ hmem) (by decide)
      · exact absurd (heq ▸ hfinal) (by decide)
  | short c hc =>
      refine ⟨_, rfl, List.cons_ne_nil _ _, fun hmem => ?_⟩
      exact absurd (List.mem_singleton.mp hmem ▸ hc) (by decide)

/-- A control sequence is read up to its end, whatever stands behind it. -/
theorem IsControlSequence.after_append {seq : Text} (h : IsControlSequence seq) (rest : Text) :
    afterControlSequence? (seq ++ rest) = some rest := by
  cases h with
  | long parameters intermediates final hparameters hintermediates hfinal =>
      have hdisjoint := isControlParameter_of_final hfinal
      have hfirst : (parameters ++ (intermediates ++ final :: rest)).dropWhile
          isControlParameter = intermediates ++ final :: rest := by
        refine dropWhile_of_cut hparameters ?_
        cases intermediates with
        | nil => exact hdisjoint.1
        | cons d more =>
            exact isControlParameter_of_intermediate (hintermediates d List.mem_cons_self)
      have hsecond : (intermediates ++ final :: rest).dropWhile isControlIntermediate =
          final :: rest := dropWhile_of_cut hintermediates hdisjoint.2
      simp only [List.cons_append, List.append_assoc, List.nil_append, afterControlSequence?,
        ne_eq, not_true_eq_false, if_false, if_true, hfirst, hsecond, hfinal]
  | short c hc =>
      have hbracket : c ≠ '[' := fun heq => absurd (heq ▸ hc) (by decide)
      simp only [List.cons_append, List.nil_append, afterControlSequence?, ne_eq,
        not_true_eq_false, if_false, if_neg hbracket, hc, if_true]

/-- What is read is a control sequence. -/
theorem exists_sequence_of_after {s rest : Text} (h : afterControlSequence? s = some rest) :
    ∃ seq, IsControlSequence seq ∧ s = seq ++ rest := by
  unfold afterControlSequence? at h
  split at h
  case h_2 => exact absurd h.symm (Option.some_ne_none rest)
  case h_1 c d tail =>
    split_ifs at h with hc hd hshort
    · -- The long form: what was skipped are the parameters and the intermediate characters.
      obtain rfl := not_not.mp hc
      subst hd
      split at h
      case h_1 => exact absurd h.symm (Option.some_ne_none rest)
      case h_2 final more hdrop =>
        split_ifs at h with hfinal
        obtain rfl := Option.some.inj h
        refine ⟨_, .long (tail.takeWhile isControlParameter)
          ((tail.dropWhile isControlParameter).takeWhile isControlIntermediate) final
          (fun e he => List.mem_takeWhile_imp he) (fun e he => List.mem_takeWhile_imp he)
          hfinal, ?_⟩
        have hmore : (tail.dropWhile isControlParameter).takeWhile isControlIntermediate ++
            final :: more = tail.dropWhile isControlParameter := by
          rw [← hdrop, List.takeWhile_append_dropWhile]
        simp only [List.cons_append, List.append_assoc, List.nil_append, hmore,
          List.takeWhile_append_dropWhile]
    · obtain rfl := not_not.mp hc
      obtain rfl := Option.some.inj h
      exact ⟨_, .short d hshort, rfl⟩

/-- What follows the control sequence that a text starts with. -/
theorem afterControlSequence?_eq_some_iff {s rest : Text} :
    afterControlSequence? s = some rest ↔ ∃ seq, IsControlSequence seq ∧ s = seq ++ rest := by
  constructor
  · exact exists_sequence_of_after
  · rintro ⟨seq, hseq, rfl⟩
    exact hseq.after_append rest

theorem afterControlSequence?_eq_none_iff {s : Text} :
    afterControlSequence? s = none ↔ ∀ seq, IsControlSequence seq → ¬seq <+: s := by
  rw [Option.eq_none_iff_forall_ne_some]
  constructor
  · rintro h seq hseq ⟨rest, rfl⟩
    exact h rest (hseq.after_append rest)
  · intro h rest hrest
    rcases exists_sequence_of_after hrest with ⟨seq, hseq, rfl⟩
    exact h seq hseq (List.prefix_append seq rest)

/-! ## Reading -/

/-- How a text is read: the control sequences are left out, and the characters with which none
    starts are kept. -/
inductive Cleaned : Text → Text → Prop where
  | nil : Cleaned [] []
  | sequence {seq rest kept : Text} (hseq : IsControlSequence seq) (h : Cleaned rest kept) :
      Cleaned (seq ++ rest) kept
  | character {c : Char} {rest kept : Text}
      (hc : ∀ seq, IsControlSequence seq → ¬seq <+: c :: rest) (h : Cleaned rest kept) :
      Cleaned (c :: rest) (c :: kept)

theorem Cleaned.withoutControls_eq {s kept : Text} (h : Cleaned s kept) :
    s.withoutControls = kept := by
  induction h with
  | nil => exact withoutControls_nil
  | sequence hseq _ ih =>
      rw [withoutControls_of_sequence (hseq.after_append _), ih]
  | character hc _ ih =>
      rw [withoutControls_cons_of_none (afterControlSequence?_eq_none_iff.mpr hc), ih]

theorem cleaned_withoutControls (s : Text) : Cleaned s s.withoutControls := by
  induction s using Text.withoutControls.induct with
  | case1 =>
      rw [withoutControls_nil]
      exact .nil
  | case2 c rest tail hsome ih =>
      rcases exists_sequence_of_after hsome with ⟨seq, hseq, hsplit⟩
      rw [withoutControls_of_sequence hsome, hsplit]
      exact .sequence hseq ih
  | case3 c rest hnone ih =>
      rw [withoutControls_cons_of_none hnone]
      exact .character (afterControlSequence?_eq_none_iff.mp hnone) ih

/-- What is left of a text is what was read. -/
theorem cleaned_iff {s kept : Text} : Cleaned s kept ↔ s.withoutControls = kept := by
  constructor
  · exact Cleaned.withoutControls_eq
  · rintro rfl
    exact cleaned_withoutControls s

theorem IsControlSequence.withoutControls_eq {seq : Text} (h : IsControlSequence seq) :
    seq.withoutControls = [] := by
  have hcleaned := Cleaned.sequence h .nil
  rw [List.append_nil] at hcleaned
  exact hcleaned.withoutControls_eq

theorem Cleaned.length_le {s kept : Text} (h : Cleaned s kept) : kept.length ≤ s.length := by
  induction h with
  | nil => exact Nat.le_refl _
  | sequence _ _ ih =>
      rw [List.length_append]
      exact Nat.le_add_left_of_le ih
  | character _ _ ih => exact Nat.succ_le_succ ih

/-! ## Texts with control sequences -/

/-- Whether a control sequence stands somewhere in a text. -/
def HasControls (s : Text) : Prop :=
  ∃ seq, IsControlSequence seq ∧ seq <:+: s

theorem hasControls_cons {c : Char} {rest : Text}
    (hc : ∀ seq, IsControlSequence seq → ¬seq <+: c :: rest) :
    HasControls (c :: rest) ↔ HasControls rest := by
  refine exists_congr fun seq => and_congr_right fun hseq => ?_
  rw [List.infix_cons_iff, or_iff_right (hc seq hseq)]

/-- Nothing is left out of a text exactly if no control sequence stands in it. -/
theorem withoutControls_eq_self_iff {s : Text} : s.withoutControls = s ↔ ¬HasControls s := by
  have hcleaned := cleaned_withoutControls s
  generalize s.withoutControls = kept at hcleaned
  induction hcleaned with
  | nil =>
      refine iff_of_true rfl ?_
      rintro ⟨seq, hseq, hinfix⟩
      rcases hseq.exists_tail with ⟨tail, rfl, -⟩
      exact List.cons_ne_nil _ _ (List.infix_nil.mp hinfix)
  | @sequence seq rest kept hseq h _ =>
      refine iff_of_false (fun heq => ?_) (not_not_intro ⟨seq, hseq, [], rest, rfl⟩)
      -- What is left is shorter.
      rcases hseq.exists_tail with ⟨tail, rfl, -⟩
      have hle := h.length_le
      rw [heq, List.length_append, List.length_cons] at hle
      omega
  | character hc _ ih =>
      rw [List.cons.injEq, and_iff_right rfl, hasControls_cons hc]
      exact ih

/-! ## Stretches of a text -/

/-- What was kept is put together from what was kept of the parts of the text. -/
theorem Cleaned.split {s first second : Text} (h : Cleaned s (first ++ second)) :
    ∃ a b, s = a ++ b ∧ Cleaned a first ∧ Cleaned b second := by
  generalize hkept : first ++ second = kept at h
  induction h generalizing first with
  | nil =>
      rcases List.append_eq_nil_iff.mp hkept with ⟨rfl, rfl⟩
      exact ⟨[], [], rfl, .nil, .nil⟩
  | @sequence seq rest kept hseq _ ih =>
      rcases ih hkept with ⟨a, b, rfl, ha, hb⟩
      exact ⟨seq ++ a, b, (List.append_assoc _ _ _).symm, .sequence hseq ha, hb⟩
  | @character c rest kept hc h ih =>
      cases first with
      | nil =>
          obtain rfl : second = c :: kept := hkept
          exact ⟨[], c :: rest, rfl, .nil, .character hc h⟩
      | cons d first =>
          rw [List.cons_append, List.cons.injEq] at hkept
          rcases hkept with ⟨rfl, hkept⟩
          rcases ih hkept with ⟨a, b, rfl, ha, hb⟩
          refine ⟨d :: a, b, rfl, .character (fun seq hseq hprefix => hc seq hseq ?_) ha, hb⟩
          exact hprefix.trans (List.prefix_append (d :: a) b)

theorem prefix_append_cases {first a b : Text} (h : first <+: a ++ b) :
    first <+: a ∨ ∃ more, first = a ++ more ∧ more <+: b := by
  rcases List.prefix_or_prefix_of_prefix h (List.prefix_append a b) with hshort | ⟨more, rfl⟩
  · exact Or.inl hshort
  · exact Or.inr ⟨more, rfl, (List.prefix_append_right_inj a).mp h⟩

/-- A control sequence that stands in front of an escape character does not reach it. -/
theorem IsControlSequence.isPrefix_of_append {seq s t : Text} {c : Char}
    (h : IsControlSequence seq) (hstart : seq <+: c :: (s ++ escapeChar :: t)) :
    seq <+: c :: s := by
  rcases h.exists_tail with ⟨tail, rfl, -, hescape⟩
  rw [List.cons_prefix_cons] at hstart ⊢
  refine ⟨hstart.1, ?_⟩
  rcases prefix_append_cases hstart.2 with hshort | ⟨more, rfl, hmore⟩
  · exact hshort
  · cases more with
    | nil =>
        rw [List.append_nil]
    | cons d more =>
        rw [List.cons_prefix_cons] at hmore
        refine absurd (List.mem_append_right s ?_) hescape
        rw [hmore.1]
        exact List.mem_cons_self

theorem Cleaned.append_escape {s t first second : Text} (h : Cleaned s first)
    (ht : Cleaned (escapeChar :: t) second) :
    Cleaned (s ++ escapeChar :: t) (first ++ second) := by
  induction h with
  | nil => exact ht
  | sequence hseq _ ih =>
      rw [List.append_assoc]
      exact .sequence hseq ih
  | character hc _ ih =>
      exact .character (fun seq hseq hprefix => hc seq hseq (hseq.isPrefix_of_append hprefix)) ih

/-- Reading starts anew at every escape character. -/
theorem withoutControls_append_escape (s t : Text) :
    Text.withoutControls (s ++ escapeChar :: t) =
      s.withoutControls ++ Text.withoutControls (escapeChar :: t) :=
  ((cleaned_withoutControls s).append_escape (cleaned_withoutControls _)).withoutControls_eq

/-- A text of which no escape character is kept is read in the same way in front of every other
    one. -/
theorem Cleaned.append_of_not_mem {s t first second : Text} (h : Cleaned s first)
    (hfirst : escapeChar ∉ first) (ht : Cleaned t second) : Cleaned (s ++ t) (first ++ second) := by
  induction h with
  | nil => exact ht
  | sequence hseq _ ih =>
      rw [List.append_assoc]
      exact .sequence hseq (ih hfirst)
  | @character c rest kept _ _ ih =>
      rw [List.mem_cons, not_or] at hfirst
      refine .character (fun seq hseq hprefix => ?_) (ih hfirst.2)
      rcases hseq.exists_tail with ⟨tail, rfl, -⟩
      exact hfirst.1 (List.cons_prefix_cons.mp hprefix).1

/-- A stretch that becomes a control sequence when the control sequences inside it are taken
    out. -/
def IsInterrupted (w : Text) : Prop :=
  IsControlSequence w.withoutControls

/-- A control sequence itself is taken out, so it is not interrupted. -/
theorem IsInterrupted.not_isControlSequence {w : Text} (h : IsInterrupted w) :
    ¬IsControlSequence w := by
  intro hseq
  rw [IsInterrupted, hseq.withoutControls_eq] at h
  rcases h.exists_tail with ⟨tail, htail, -⟩
  exact List.cons_ne_nil _ _ htail.symm

/-- What becomes a control sequence does so in front of every text. -/
theorem Cleaned.append_of_sequence {w seq t kept : Text} (h : Cleaned w seq)
    (hseq : IsControlSequence seq) (ht : Cleaned t kept) : Cleaned (w ++ t) (seq ++ kept) := by
  rcases hseq.exists_tail with ⟨tail, htail, -, hescape⟩
  induction h with
  | nil => exact absurd htail (List.cons_ne_nil _ _).symm
  | sequence hfirst _ ih =>
      rw [List.append_assoc]
      exact .sequence hfirst (ih hseq htail)
  | @character c rest kept' hc hrest ih =>
      rw [List.cons.injEq] at htail
      rcases htail with ⟨rfl, rfl⟩
      refine .character (fun longer hlonger hprefix => ?_) (hrest.append_of_not_mem hescape ht)
      -- A sequence that goes on behind the stretch has no escape character to be taken out at.
      have hprefix : longer <+: (escapeChar :: rest) ++ t := hprefix
      rcases prefix_append_cases hprefix with hshort | ⟨more, hsplit, -⟩
      · exact hc longer hlonger hshort
      · rcases hlonger.exists_tail with ⟨tail, rfl, -, hnone⟩
        rw [List.cons_append, List.cons.injEq] at hsplit
        have hfree : escapeChar ∉ rest := fun hmem =>
          hnone (hsplit.2 ▸ List.mem_append_left more hmem)
        have hsame : rest = kept' :=
          (withoutControls_of_not_mem hfree).symm.trans hrest.withoutControls_eq
        exact hc _ (hsame.symm ▸ hseq) List.prefix_rfl

/-- What is interrupted starts with an escape character. -/
theorem IsInterrupted.exists_tail {w : Text} (h : IsInterrupted w) :
    ∃ tail, w = escapeChar :: tail := by
  rcases IsControlSequence.exists_tail h with ⟨kept, hkept, -⟩
  have hcleaned := cleaned_iff.mpr hkept
  cases hcleaned with
  | sequence hseq _ =>
      rcases hseq.exists_tail with ⟨tail, rfl, -⟩
      exact ⟨_, rfl⟩
  | character _ _ => exact ⟨_, rfl⟩

/-- A text is left with a control sequence exactly if a stretch of it is interrupted. -/
theorem hasControls_withoutControls_iff {s : Text} :
    HasControls s.withoutControls ↔ ∃ w, w <:+: s ∧ IsInterrupted w := by
  constructor
  · rintro ⟨seq, hseq, before, behind, hsplit⟩
    -- Each part of what is left comes from a part of the text.
    rcases (cleaned_iff.mpr hsplit.symm).split with ⟨front, b, rfl, hfront, -⟩
    rcases hfront.split with ⟨a, w, rfl, -, hw⟩
    refine ⟨w, ⟨a, b, rfl⟩, ?_⟩
    rwa [IsInterrupted, hw.withoutControls_eq]
  · rintro ⟨w, ⟨a, b, rfl⟩, hw⟩
    rcases hw.exists_tail with ⟨tail, rfl⟩
    have hbehind := (cleaned_withoutControls _).append_of_sequence hw (cleaned_withoutControls b)
    refine ⟨_, hw, Text.withoutControls a, Text.withoutControls b, ?_⟩
    rw [List.append_assoc, List.append_assoc, List.cons_append, withoutControls_append_escape,
      ← List.cons_append, hbehind.withoutControls_eq]

end RiddlEditor
