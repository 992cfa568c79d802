import Mathlib.Data.List.TakeWhile
import RiddlEditor.Proofs.Lexeme.Reading

/-!
# What a lexeme depends on

How a lexeme is read depends on the rest of its own line and on nothing below it, whatever
kind of lexeme it is: a string, a number and a word stop at a line break at the latest, and so
does every look ahead. `readLexeme_firstLine` says so, and there is one exception, a block
comment, which goes on until its end mark. That one is where it was, whatever comes behind it
(`commentEnd?_append`), so only a block comment that is never closed depends on everything.

Two texts with the same first line therefore start with the same lexeme, unless it is a block
comment. This is what makes lexemes stay when text is added below them, and when line breaks
are written in another way.

## Main definitions

* `OpensComment`: A lexeme that is a block comment.

## Theorems

* `commentEnd?_cons`: Where a comment ends, one character further on.
* `commentEnd?_append`: What comes behind a closed comment does not matter to it.
* `readLexeme_firstLine`: A lexeme depends on the rest of its line.
* `readLexeme_append_break`: A lexeme stays when a line is added below it.
* `Reads.more_le_length`: A lexeme does not go on behind the end of the text.
-/

namespace RiddlEditor

section FirstLine

/-- Within a line, the characters of a class that leaves out both line breaks are found on
    the first line already. -/
theorem takeWhile_firstLine {p : Char → Bool} (hp : ∀ c, p c = true → isLineBreak c = false)
    (s : Text) : (firstLine s).takeWhile p = s.takeWhile p := by
  rw [firstLine, List.takeWhile_takeWhile]
  congr 1
  funext c
  by_cases hc : p c = true
  · simp [hc, hp c hc]
  · simp [hc]

/-- What is left of the first line behind such characters is the first line of what is left. -/
theorem dropWhile_firstLine {p : Char → Bool} (hp : ∀ c, p c = true → isLineBreak c = false)
    (s : Text) : (firstLine s).dropWhile p = firstLine (s.dropWhile p) := by
  induction s with
  | nil => rfl
  | cons c rest ih =>
      by_cases hc : p c = true
      · rw [firstLine_other (hp c hc), List.dropWhile_cons_of_pos hc, List.dropWhile_cons_of_pos hc,
          ih]
      · rw [List.dropWhile_cons_of_neg hc]
        by_cases hbreak : isLineBreak c = true
        · rw [firstLine_break hbreak]
          rfl
        · rw [Bool.not_eq_true] at hbreak
          rw [firstLine_other hbreak, List.dropWhile_cons_of_neg hc]

/-- A text without line breaks is in front on the first line if it is in front at all. -/
theorem isPrefix_firstLine {word : Text} (h : Unbroken word) (s : Text) :
    word <+: firstLine s ↔ word <+: s := by
  constructor
  · exact fun hword => hword.trans (List.takeWhile_prefix _)
  · intro hword
    have hfirst := firstLine_prefix hword
    rwa [firstLine_of_unbroken h] at hfirst

theorem head?_firstLine {d : Char} (hd : isLineBreak d = false) (s : Text) :
    (firstLine s).head? = some d ↔ s.head? = some d := by
  have hfront : ∀ t : Text, t.head? = some d ↔ [d] <+: t := fun t => by
    rw [List.head?_eq_some_iff]
    exact exists_congr fun _ => eq_comm
  rw [hfront, hfront, isPrefix_firstLine (unbroken_nil.cons hd)]

/-- What is below a text does not change its first line. -/
theorem firstLine_append_break (s : Text) {d : Char} (hd : isLineBreak d = true) (below : Text) :
    firstLine (s ++ d :: below) = firstLine s := by
  induction s with
  | nil => exact firstLine_break hd
  | cons c rest ih =>
      rw [List.cons_append]
      by_cases hbreak : isLineBreak c = true
      · rw [firstLine_break hbreak, firstLine_break hbreak]
      · rw [Bool.not_eq_true] at hbreak
        rw [firstLine_other hbreak, firstLine_other hbreak, ih]

/-- A string literal ends on its line. -/
theorem stringEnd_firstLine (rest : Text) : stringEnd (firstLine rest) = stringEnd rest := by
  -- The induction takes an escaped character together with its backslash.
  induction rest using stringEnd.induct with
  | case1 => rfl
  | case2 rest => rw [firstLine_other (by decide), stringEnd, stringEnd]
  | case3 => rfl
  | case4 c rest hbreak =>
      rw [firstLine_other (by decide), firstLine_break hbreak, stringEnd, stringEnd, if_pos hbreak]
  | case5 c rest hbreak n closed hend ih =>
      rw [Bool.not_eq_true] at hbreak
      rw [firstLine_other (by decide), firstLine_other hbreak, stringEnd, stringEnd, ih]
  | case6 c rest hquote hlast hescape hbreak =>
      rw [firstLine_break hbreak, stringEnd.eq_5 c rest hquote hlast hescape, if_pos hbreak]
      rfl
  | case7 c rest hquote hlast hescape hbreak n closed hend ih =>
      -- The character is no backslash, with something behind it or not.
      have hslash : c ≠ '\\' := by
        intro hc
        cases rest with
        | nil => exact hlast hc rfl
        | cons d rest => exact hescape d rest hc rfl
      have hother := stringEnd.eq_5 c (firstLine rest) hquote (fun hc _ => hslash hc)
        (fun _ _ hc _ => hslash hc)
      rw [stringEnd.eq_5 c rest hquote hlast hescape, if_neg hbreak]
      rw [Bool.not_eq_true] at hbreak
      rw [firstLine_other hbreak, hother, if_neg (by rw [hbreak]; exact Bool.false_ne_true), ih]

theorem isLineBreak_of_isDigit (c : Char) (h : isDigit c = true) : isLineBreak c = false :=
  isLineBreak_eq_false (p := isDigit) (by decide) (by decide) c h

/-- A number ends on its line: no digit comes behind a line break. -/
theorem numberEnd_firstLine (rest : Text) : numberEnd (firstLine rest) = numberEnd rest := by
  rw [numberEnd, numberEnd, takeWhile_firstLine isLineBreak_of_isDigit,
    dropWhile_firstLine isLineBreak_of_isDigit]
  rcases rest.dropWhile isDigit with _ | ⟨c, tail⟩
  · rfl
  · by_cases hpoint : c = '.'
    · subst hpoint
      rw [firstLine_other (by decide)]
      rcases tail with _ | ⟨d, more⟩
      · rfl
      · by_cases hbreak : isLineBreak d = true
        · -- A break is no digit, so neither text goes on behind the point.
          have hdigit : ¬isDigit d = true := fun hd => by
            rw [isLineBreak_of_isDigit d hd] at hbreak
            exact absurd hbreak Bool.false_ne_true
          rw [firstLine_break hbreak]
          simp only [if_neg hdigit]
        · rw [Bool.not_eq_true] at hbreak
          rw [firstLine_other hbreak]
          simp only [takeWhile_firstLine isLineBreak_of_isDigit]
    · by_cases hbreak : isLineBreak c = true
      · rw [firstLine_break hbreak]
        split <;> simp_all
      · rw [Bool.not_eq_true] at hbreak
        rw [firstLine_other hbreak]
        split <;> split <;> simp_all

end FirstLine

/-- Whether a lexeme is a block comment. -/
def OpensComment (c : Char) (rest : Text) : Prop :=
  c = '/' ∧ rest.head? = some '*'

/-- A lexeme depends on the rest of its line, unless it is a block comment. -/
theorem readLexeme_firstLine {c : Char} {rest : Text} (h : ¬OpensComment c rest) :
    readLexeme c (firstLine rest) = readLexeme c rest := by
  have hnot : ¬OpensComment c (firstLine rest) := fun hc =>
    h ⟨hc.1, (head?_firstLine (by decide) rest).mp hc.2⟩
  have hline : ((firstLine rest).takeWhile fun d => !isLineBreak d) =
      rest.takeWhile fun d => !isLineBreak d :=
    takeWhile_firstLine (fun d hd => by simpa using hd) rest
  have hword : (firstLine rest).takeWhile isWordChar = rest.takeWhile isWordChar :=
    takeWhile_firstLine (isLineBreak_eq_false (p := isWordChar) (by decide) (by decide)) rest
  have hholder : (firstLine rest).take 2 = ['?', '?'] ↔ rest.take 2 = ['?', '?'] := by
    have hmarks : Unbroken ['?', '?'] := by decide
    have hfront := isPrefix_firstLine hmarks rest
    rw [List.prefix_iff_eq_take, List.prefix_iff_eq_take] at hfront
    exact eq_comm.trans (hfront.trans eq_comm)
  have hslash := head?_firstLine (d := '/') (by decide) rest
  rw [OpensComment] at h hnot
  simp only [readLexeme, if_neg h, if_neg hnot, hline, hword, hholder, hslash,
    stringEnd_firstLine, numberEnd_firstLine]

/-- Two texts with the same first line start with the same lexeme, unless it is a block
    comment. -/
theorem readLexeme_congr {c : Char} {rest other : Text} (h : ¬OpensComment c rest)
    (hline : firstLine rest = firstLine other) : readLexeme c rest = readLexeme c other := by
  have hother : ¬OpensComment c other := fun hc => by
    refine h ⟨hc.1, (head?_firstLine (by decide) rest).mp ?_⟩
    rw [hline]
    exact (head?_firstLine (by decide) other).mpr hc.2
  rw [← readLexeme_firstLine h, hline, readLexeme_firstLine hother]

/-! ## Block comments -/

/-- Where a comment ends, one character further on. -/
theorem commentEnd?_cons {c : Char} {rest : Text} (h : ¬(c = '*' ∧ rest.head? = some '/')) :
    commentEnd? (c :: rest) = (commentEnd? rest).map (· + 1) := by
  cases rest with
  | nil => rfl
  | cons d rest =>
      rw [commentEnd?, if_neg]
      simpa using h

/-- What comes behind a closed comment does not matter to it. -/
theorem commentEnd?_append {rest : Text} {n : Nat} (h : commentEnd? rest = some n) (more : Text) :
    commentEnd? (rest ++ more) = some n := by
  induction rest using commentEnd?.induct generalizing n with
  | case1 => exact absurd h (by simp [commentEnd?])
  | case2 => exact absurd h (by simp [commentEnd?])
  | case3 c d rest hmark =>
      rw [commentEnd?, if_pos hmark] at h
      rw [List.cons_append, List.cons_append, commentEnd?, if_pos hmark, h]
  | case4 c d rest hmark ih =>
      rw [commentEnd?, if_neg hmark] at h
      rcases Option.map_eq_some_iff.mp h with ⟨m, hm, rfl⟩
      rw [List.cons_append, List.cons_append, commentEnd?, if_neg hmark, ← List.cons_append,
        ih hm]
      rfl

/-- How a block comment is read. -/
theorem readLexeme_comment (rest : Text) :
    readLexeme '/' ('*' :: rest) =
      match commentEnd? rest with
      | some n => ⟨.comment, n + 1, none, true⟩
      | none => ⟨.comment, rest.length + 1, some .unterminatedComment, true⟩ := by
  rw [readLexeme, if_neg (by simp), if_pos ⟨rfl, rfl⟩]
  rfl

/-! ## Text below a lexeme -/

/-- A lexeme stays when a line is added below it, unless it is a comment that is not closed. -/
theorem readLexeme_append_break {c : Char} {rest : Text}
    (h : (readLexeme c rest).fault ≠ some .unterminatedComment) {d : Char}
    (hd : isLineBreak d = true) (below : Text) :
    readLexeme c (rest ++ d :: below) = readLexeme c rest := by
  by_cases hopen : OpensComment c rest
  · rcases hopen with ⟨rfl, hhead⟩
    rcases List.head?_eq_some_iff.mp hhead with ⟨rest, rfl⟩
    rw [readLexeme_comment] at h
    rw [List.cons_append, readLexeme_comment, readLexeme_comment]
    cases hend : commentEnd? rest with
    | some n => rw [commentEnd?_append hend]
    | none =>
        rw [hend] at h
        exact absurd rfl h
  · -- The added line does not change the first one.
    exact (readLexeme_congr hopen (firstLine_append_break rest hd below).symm).symm

theorem stringEnd_le_length (rest : Text) : (stringEnd rest).1 ≤ rest.length := by
  induction rest using stringEnd.induct with
  | case1 => exact Nat.le_refl 0
  | case2 rest => exact Nat.succ_le_succ (Nat.zero_le rest.length)
  | case3 => exact Nat.le_refl 1
  | case4 c rest hbreak =>
      rw [stringEnd, if_pos hbreak]
      exact Nat.succ_le_succ (Nat.zero_le _)
  | case5 c rest hbreak n closed hend ih =>
      rw [hend] at ih
      rw [stringEnd, if_neg hbreak, hend, List.length_cons, List.length_cons]
      exact Nat.add_le_add_right ih 2
  | case6 c rest hquote hlast hescape hbreak =>
      rw [stringEnd.eq_5 c rest hquote hlast hescape, if_pos hbreak]
      exact Nat.zero_le _
  | case7 c rest hquote hlast hescape hbreak n closed hend ih =>
      rw [hend] at ih
      rw [stringEnd.eq_5 c rest hquote hlast hescape, if_neg hbreak, hend, List.length_cons]
      exact Nat.succ_le_succ ih

/-- A lexeme does not go on behind the end of the text. -/
theorem Reads.more_le_length {c : Char} {rest : Text} {reading : Reading}
    (h : Reads c rest reading) : reading.more ≤ rest.length := by
  have hstring := stringEnd_le_length rest
  cases h with
  | lineComment rest => exact (List.takeWhile_prefix _).length_le
  | @blockComment rest n hend =>
      rcases commentEnd?_eq_some hend with ⟨body, tail, rfl, rfl⟩
      simp only [List.length_cons, List.length_append]
      omega
  | openComment hend => exact Nat.le_refl _
  | closedString hend => rwa [hend] at hstring
  | openString hend => rwa [hend] at hstring
  | number rest hdigit =>
      rcases numberEnd_eq_length rest with ⟨text, htext, hlength, _⟩
      rw [hlength]
      exact htext.length_le
  | word rest hstart => exact (List.takeWhile_prefix _).length_le
  | placeholder rest => exact Nat.le_add_left 2 rest.length
  | mark rest hmark => exact Nat.zero_le _
  | stray rest hdigit hstart hmark hquote => exact Nat.zero_le _

end RiddlEditor
