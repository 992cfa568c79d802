import Mathlib.Tactic.SplitIfs
import RiddlEditor.Lexeme.Basic
import RiddlEditor.Proofs.Text.Lines

/-!
# How a lexeme is read

`readLexeme` tries one kind of lexeme after the other. `Reads` has a case for every answer
that it can give, so later proofs split by the kind of a lexeme instead of unfolding the
chain of conditions.

A reading that is not marked as going over several lines holds no line break. This is what
lets the cursor just move on over it.

## Main definitions

* `Reads`: The answers of the lexical grammar, one case for each kind of lexeme.
* `Reading.text`: The text of a lexeme.

## Theorems

* `reads_readLexeme`: The lexical grammar gives no other answer.
* `numberEnd_eq_length`: What a number goes on with.
* `commentEnd?_eq_some`: Where a block comment ends.
* `unbroken_of_single_line`: A lexeme on one line has no line break.
* `multiline_end`: Where the other lexemes end.
* `unsplit_behind_lexeme`: No lexeme ends in the middle of a line break.
-/

namespace RiddlEditor

/-- The answers of the lexical grammar for a first character and what follows it. -/
inductive Reads : Char → Text → Reading → Prop where
  | lineComment (rest : Text) :
      Reads '/' ('/' :: rest) ⟨.comment, (firstLine ('/' :: rest)).length, none, false⟩
  | blockComment {rest : Text} {n : Nat} (hend : commentEnd? rest = some n) :
      Reads '/' ('*' :: rest) ⟨.comment, n + 1, none, true⟩
  | openComment {rest : Text} (hend : commentEnd? rest = none) :
      Reads '/' ('*' :: rest) ⟨.comment, rest.length + 1, some .unterminatedComment, true⟩
  | closedString {rest : Text} {n : Nat} (hend : stringEnd rest = (n, true)) :
      Reads '"' rest ⟨.string, n, none, false⟩
  | openString {rest : Text} {n : Nat} (hend : stringEnd rest = (n, false)) :
      Reads '"' rest ⟨.string, n, some .unterminatedString, false⟩
  | number {c : Char} (rest : Text) (hdigit : isDigit c = true) :
      Reads c rest ⟨.number, numberEnd rest, none, false⟩
  | word {c : Char} (rest : Text) (hstart : isWordStart c = true) :
      Reads c rest ⟨wordKind (c :: rest.takeWhile isWordChar),
        (rest.takeWhile isWordChar).length, none, false⟩
  | placeholder (rest : Text) :
      Reads '?' ('?' :: '?' :: rest) ⟨.punctuation, 2, none, false⟩
  | mark {c : Char} (rest : Text) (hmark : c ∈ punctuationMarks) :
      Reads c rest ⟨.punctuation, 0, none, false⟩
  | stray {c : Char} (rest : Text) (hdigit : isDigit c = false) (hstart : isWordStart c = false)
      (hmark : c ∉ punctuationMarks) (hquote : c ≠ '"') :
      Reads c rest ⟨.other, 0, some (.unexpectedCharacter c), false⟩

/-- The lexical grammar gives no other answer. -/
theorem reads_readLexeme (c : Char) (rest : Text) : Reads c rest (readLexeme c rest) := by
  unfold readLexeme
  split_ifs with hline hblock hquote hdigit hstart hholder hmark
  · rcases hline with ⟨rfl, hhead⟩
    rcases List.head?_eq_some_iff.mp hhead with ⟨rest, rfl⟩
    exact Reads.lineComment rest
  · rcases hblock with ⟨rfl, hhead⟩
    rcases List.head?_eq_some_iff.mp hhead with ⟨rest, rfl⟩
    cases hend : commentEnd? rest with
    | some n => simpa [hend] using Reads.blockComment hend
    | none => simpa [hend] using Reads.openComment hend
  · rw [hquote]
    rcases hend : stringEnd rest with ⟨n, _ | _⟩
    · exact Reads.openString hend
    · exact Reads.closedString hend
  · exact Reads.number rest hdigit
  · exact Reads.word rest hstart
  · rcases hholder with ⟨rfl, htake⟩
    rcases rest with _ | ⟨d, _ | ⟨e, rest⟩⟩
    · exact absurd htake (by decide)
    · exact absurd htake (by simp)
    · obtain ⟨rfl, rfl⟩ : d = '?' ∧ e = '?' := by simpa using htake
      exact Reads.placeholder rest
  · exact Reads.mark rest (List.contains_iff_mem.mp hmark)
  · refine Reads.stray rest (Bool.not_eq_true _ ▸ hdigit) (Bool.not_eq_true _ ▸ hstart) ?_ hquote
    exact fun hmem => hmark (List.contains_iff_mem.mpr hmem)

/-- A run of characters that are none of them line breaks. -/
theorem unbroken_takeWhile {p : Char → Bool} (hp : ∀ c, p c = true → isLineBreak c = false)
    (s : Text) : Unbroken (s.takeWhile p) :=
  fun c hc => hp c (List.all_eq_true.mp List.all_takeWhile c hc)

/-- A class of characters that leaves out both line breaks. -/
theorem isLineBreak_eq_false {p : Char → Bool} (hfeed : p '\n' = false) (hreturn : p '\r' = false)
    (c : Char) (h : p c = true) : isLineBreak c = false := by
  rw [← Bool.not_eq_true, isLineBreak_iff]
  rintro (rfl | rfl)
  · exact absurd (hfeed.symm.trans h) Bool.false_ne_true
  · exact absurd (hreturn.symm.trans h) Bool.false_ne_true

theorem take_length_takeWhile (p : Char → Bool) (s : Text) :
    s.take (s.takeWhile p).length = s.takeWhile p :=
  (List.prefix_iff_eq_take.mp (List.takeWhile_prefix p)).symm

/-- A string literal stops in front of a line break, even behind a backslash. -/
theorem unbroken_take_stringEnd (rest : Text) : Unbroken (rest.take (stringEnd rest).1) := by
  -- The induction takes an escaped character together with its backslash.
  induction rest using stringEnd.induct with
  | case1 => exact unbroken_nil
  | case2 rest => exact unbroken_nil.cons (by decide)
  | case3 => exact unbroken_nil.cons (by decide)
  | case4 c rest hbreak =>
      rw [stringEnd, if_pos hbreak]
      exact unbroken_nil.cons (by decide)
  | case5 c rest hbreak n closed hend ih =>
      rw [stringEnd, if_neg hbreak]
      rw [Bool.not_eq_true] at hbreak
      exact (ih.cons hbreak).cons (by decide)
  | case6 c rest hquote hlast hescape hbreak =>
      rw [stringEnd.eq_5 c rest hquote hlast hescape, if_pos hbreak]
      exact unbroken_nil
  | case7 c rest hquote hlast hescape hbreak n closed hend ih =>
      rw [stringEnd.eq_5 c rest hquote hlast hescape, if_neg hbreak]
      rw [Bool.not_eq_true] at hbreak
      exact ih.cons hbreak

/-- A number goes on with digits and perhaps one point. -/
theorem numberEnd_eq_length (rest : Text) :
    ∃ text, text <+: rest ∧ numberEnd rest = text.length ∧
      ∀ c ∈ text, isDigit c = true ∨ c = '.' := by
  have hall : ∀ (s : Text), ∀ c ∈ s.takeWhile isDigit, isDigit c = true := fun s =>
    List.all_eq_true.mp List.all_takeWhile
  -- Without a point that a digit follows, the number is its first digits.
  have hwhole : numberEnd rest = (rest.takeWhile isDigit).length →
      ∃ text, text <+: rest ∧ numberEnd rest = text.length ∧
        ∀ c ∈ text, isDigit c = true ∨ c = '.' := fun h =>
    ⟨_, List.takeWhile_prefix isDigit, h, fun c hc => Or.inl (hall rest c hc)⟩
  cases hpoint : rest.dropWhile isDigit with
  | nil => exact hwhole (by simp only [numberEnd, hpoint])
  | cons point tail =>
      rcases tail with _ | ⟨d, more⟩
      · exact hwhole (by simp only [numberEnd, hpoint])
      · by_cases hd : point = '.' ∧ isDigit d = true
        · rcases hd with ⟨rfl, hd⟩
          refine ⟨rest.takeWhile isDigit ++ '.' :: d :: more.takeWhile isDigit, ?_, ?_, ?_⟩
          · refine ⟨more.dropWhile isDigit, ?_⟩
            rw [List.append_assoc, List.cons_append, List.cons_append,
              List.takeWhile_append_dropWhile, ← hpoint, List.takeWhile_append_dropWhile]
          · simp only [numberEnd, hpoint, if_pos hd, List.length_append, List.length_cons]
            omega
          · intro c hc
            simp only [List.mem_append, List.mem_cons] at hc
            rcases hc with hc | rfl | rfl | hc
            · exact Or.inl (hall rest c hc)
            · exact Or.inr rfl
            · exact Or.inl hd
            · exact Or.inl (hall more c hc)
        · refine hwhole ?_
          simp only [numberEnd, hpoint]
          split <;> simp_all

theorem unbroken_take_numberEnd (rest : Text) : Unbroken (rest.take (numberEnd rest)) := by
  rcases numberEnd_eq_length rest with ⟨text, hprefix, hlength, htext⟩
  rw [hlength, ← List.prefix_iff_eq_take.mp hprefix]
  intro c hc
  rcases htext c hc with hdigit | rfl
  · exact isLineBreak_eq_false (p := isDigit) (by decide) (by decide) c hdigit
  · decide

/-- A block comment ends with an end mark. -/
theorem commentEnd?_eq_some {rest : Text} {n : Nat} (h : commentEnd? rest = some n) :
    ∃ body tail, rest = body ++ '*' :: '/' :: tail ∧ n = body.length + 2 := by
  induction rest using commentEnd?.induct generalizing n with
  | case1 => exact absurd h (by simp [commentEnd?])
  | case2 => exact absurd h (by simp [commentEnd?])
  | case3 c d rest hmark =>
      rw [commentEnd?, if_pos hmark, Option.some.injEq] at h
      refine ⟨[], rest, ?_, h.symm⟩
      rw [hmark.1, hmark.2, List.nil_append]
  | case4 c d rest hmark ih =>
      rw [commentEnd?, if_neg hmark] at h
      rcases Option.map_eq_some_iff.mp h with ⟨m, hm, hn⟩
      rcases ih hm with ⟨body, tail, hrest, hlength⟩
      refine ⟨c :: body, tail, ?_, ?_⟩
      · rw [hrest, List.cons_append]
      · rw [List.length_cons, ← hn, hlength]

/-- The text of a lexeme. -/
def Reading.text (reading : Reading) (c : Char) (rest : Text) : Text :=
  c :: rest.take reading.more

/-- A lexeme takes the front of what is left to be read. -/
theorem Reading.isPrefix_text (reading : Reading) (c : Char) (rest : Text) :
    reading.text c rest <+: c :: rest :=
  (List.prefix_cons_inj c).mpr (List.take_prefix _ rest)

/-- Both line breaks are blanks, so no lexeme starts with one. -/
theorem isLineBreak_of_isGap {c : Char} (h : isGap c = false) : isLineBreak c = false :=
  isLineBreak_eq_false (p := fun d => !isGap d) (by decide) (by decide) c (by rw [h]; rfl)

/-- A lexeme does not start in the middle of a line break. -/
theorem unsplit_of_not_gap (front : Text) {c : Char} (rest : Text) (hc : isGap c = false) :
    Unsplit front (c :: rest) := by
  refine Unsplit.of_head (fun hhead => ?_)
  rw [List.head?_cons, Option.some.injEq] at hhead
  rw [hhead] at hc
  exact absurd hc (by decide)

/-- A lexeme that is not marked as going over several lines has no line break. -/
theorem unbroken_of_single_line {c : Char} {rest : Text} {reading : Reading}
    (h : Reads c rest reading) (hgap : isGap c = false) (hline : reading.multiline = false) :
    Unbroken (reading.text c rest) := by
  refine Unbroken.cons (isLineBreak_of_isGap hgap) ?_
  cases h with
  | lineComment rest =>
      rw [firstLine, take_length_takeWhile]
      exact unbroken_firstLine _
  | blockComment hend => exact absurd hline Bool.noConfusion
  | openComment hend => exact absurd hline Bool.noConfusion
  | closedString hend =>
      have htake := unbroken_take_stringEnd rest
      rwa [hend] at htake
  | openString hend =>
      have htake := unbroken_take_stringEnd rest
      rwa [hend] at htake
  | number rest _ => exact unbroken_take_numberEnd rest
  | word rest _ =>
      rw [take_length_takeWhile]
      exact unbroken_takeWhile
        (isLineBreak_eq_false (p := isWordChar) (by decide) (by decide)) rest
  | placeholder rest =>
      exact unbroken_nil.cons (c := '?') (by decide) |>.cons (c := '?') (by decide)
  | mark rest _ => exact unbroken_nil
  | stray rest _ _ _ _ => exact unbroken_nil

/-- A lexeme that may go over several lines ends with a slash, or else with the text. -/
theorem multiline_end {c : Char} {rest : Text} {reading : Reading}
    (h : Reads c rest reading) (hline : reading.multiline = true) :
    (reading.text c rest).getLast? = some '/' ∨ rest.drop reading.more = [] := by
  cases h with
  | @blockComment rest n hend =>
      rcases commentEnd?_eq_some hend with ⟨body, tail, rfl, rfl⟩
      -- The end mark is the end of the lexeme.
      have htake : (body ++ '*' :: '/' :: tail).take (body.length + 2) = body ++ ['*', '/'] := by
        rw [List.take_length_add_append]
        rfl
      refine Or.inl ?_
      rw [Reading.text, List.take_succ_cons, htake, ← List.cons_append, ← List.cons_append,
        List.getLast?_append]
      rfl
  | @openComment rest hend => exact Or.inr (List.drop_length (l := '*' :: rest))
  | _ => exact absurd hline Bool.false_ne_true

/-- No lexeme ends in the middle of a line break. -/
theorem unsplit_behind_lexeme {c : Char} {rest : Text} {reading : Reading}
    (h : Reads c rest reading) (hgap : isGap c = false) (before : Text) :
    Unsplit (before ++ reading.text c rest) (rest.drop reading.more) := by
  by_cases hline : reading.multiline = true
  · rcases multiline_end h hline with hslash | hrest
    · refine Unsplit.of_getLast (fun hlast => ?_)
      rw [List.getLast?_append, hslash, Option.some_or] at hlast
      exact absurd hlast (by decide)
    · rw [hrest]
      exact Unsplit.nil _
  · rw [Bool.not_eq_true] at hline
    exact (unbroken_of_single_line h hgap hline).unsplit_append (List.cons_ne_nil _ _) before _

end RiddlEditor
