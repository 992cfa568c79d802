import RiddlEditor.Proofs.Lexeme.Adjacent

/-!
# The lexical grammar

What a lexeme is, told without the functions that read one. There are a few forms of lexemes.
They are tried in a fixed order, and how a text starts decides which form is the first that
fits it (`Form.first?`). Each form takes the longest text of its class (`IsLongest`), except for
block comments and string literals, which take everything through their end mark, or everything
there is if they have none.

Every text that is not empty starts with one lexeme of this grammar and with no other, and
`readLexeme` finds it (`takes_iff`). From there to a whole text it is one gap and one lexeme
after the other (`Cut`).

## Main definitions

* `IsLongest`: The longest text of a class that another text starts with.
* `IsLineComment`, `IsNumber`, `IsWord`, `StringBody`: The classes of texts.
* `TakesBlock`, `TakesString`: What a block comment and a string literal take of a text.
* `MarkEnds`: The offset behind the first end mark of a text.
* `Form`, `Form.first?`: The forms of lexemes, and the first one that fits a text.
* `Takes`: The lexical grammar.
* `Cut`: The pieces that a text is cut into.

## Theorems

* `IsLongest.unique`: There is only one longest text.
* `commentEnd?_eq_some_iff`, `commentEnd?_eq_none_iff`: Where a block comment ends.
* `stringEnd_append`, `exists_stringBody`: Where a string literal ends.
* `isLongest_number`: A number goes as far as it can.
* `takes_iff`: The grammar takes what is read, and nothing else.
* `lexemes_follow_grammar`: The tokens of a text are those of the grammar.
-/

namespace RiddlEditor

/-! ## Longest texts -/

/-- The longest text of a class that another text starts with. -/
structure IsLongest (p : Text → Prop) (s text : Text) : Prop where
  mem : p text
  front : text <+: s
  longest : ∀ other, p other → other <+: s → other.length ≤ text.length

/-- There is only one longest text. -/
theorem IsLongest.unique {p : Text → Prop} {s text text' : Text} (h : IsLongest p s text)
    (h' : IsLongest p s text') : text = text' := by
  have hlength : text.length = text'.length :=
    Nat.le_antisymm (h'.longest text h.mem h.front) (h.longest text' h'.mem h'.front)
  exact (List.prefix_of_prefix_length_le h.front h'.front hlength.le).eq_of_length hlength

/-- A text of characters of a class goes no further than these characters do. -/
theorem length_le_takeWhile {p : Char → Bool} {text s : Text} (htext : ∀ c ∈ text, p c = true)
    (h : text <+: s) : text.length ≤ (s.takeWhile p).length := by
  rcases h with ⟨more, rfl⟩
  rw [List.takeWhile_append_of_pos htext, List.length_append]
  exact Nat.le_add_right _ _

theorem takeWhile_dropWhile (p : Char → Bool) (s : Text) : (s.dropWhile p).takeWhile p = [] :=
  takeWhile_eq_nil_iff.mpr (head?_dropWhile p s)

/-! ## Comments -/

/-- A line comment: two slashes, and no line break behind them. -/
def IsLineComment (text : Text) : Prop :=
  ∃ body, text = '/' :: '/' :: body ∧ Unbroken body

theorem isLongest_lineComment (rest : Text) :
    IsLongest IsLineComment ('/' :: '/' :: rest) ('/' :: '/' :: firstLine rest) where
  mem := ⟨firstLine rest, rfl, unbroken_firstLine rest⟩
  front := by
    rw [List.prefix_cons_inj, List.prefix_cons_inj]
    exact List.takeWhile_prefix _
  longest := by
    rintro other ⟨body, rfl, hbody⟩ hother
    rw [List.prefix_cons_inj, List.prefix_cons_inj] at hother
    exact Nat.add_le_add_right ((isPrefix_firstLine hbody rest).mpr hother).length_le 2

/-- The mark that ends a block comment. -/
def endMark : Text :=
  ['*', '/']

/-- What a block comment takes of a text: everything through the first end mark behind its start,
    or the whole text if there is no end mark. -/
inductive TakesBlock : Text → Text → Prop where
  | closed {body tail : Text} (hfirst : ¬endMark <:+: body ++ ['*']) :
      TakesBlock ('/' :: '*' :: (body ++ (endMark ++ tail))) ('/' :: '*' :: (body ++ endMark))
  | unclosed {rest : Text} (hnone : ¬endMark <:+: rest) :
      TakesBlock ('/' :: '*' :: rest) ('/' :: '*' :: rest)

/-- An end mark is at the start of a text, or it is further on. -/
theorem endMark_infix_cons {c : Char} {rest : Text} :
    endMark <:+: c :: rest ↔ (c = '*' ∧ rest.head? = some '/') ∨ endMark <:+: rest := by
  rw [List.infix_cons_iff, endMark, List.cons_prefix_cons]
  have hhead : ['/'] <+: rest ↔ rest.head? = some '/' := by
    rw [List.head?_eq_some_iff]
    exact exists_congr fun _ => eq_comm
  rw [hhead, eq_comm (a := '*')]

/-- Nothing of a block comment without end mark is an end. -/
theorem commentEnd?_eq_none_iff {rest : Text} : commentEnd? rest = none ↔ ¬endMark <:+: rest := by
  induction rest with
  | nil => exact iff_of_true rfl (by decide)
  | cons c rest ih =>
      rw [endMark_infix_cons]
      by_cases hmark : c = '*' ∧ rest.head? = some '/'
      · rcases hmark with ⟨rfl, hhead⟩
        rcases List.head?_eq_some_iff.mp hhead with ⟨tail, rfl⟩
        exact iff_of_false (Option.some_ne_none 2) (fun h => h (Or.inl ⟨rfl, rfl⟩))
      · rw [commentEnd?_cons hmark, Option.map_eq_none_iff, ih, or_iff_right hmark]

/-- The offset behind the first end mark of a text. -/
def MarkEnds (rest : Text) (n : Nat) : Prop :=
  ∃ body tail, rest = body ++ (endMark ++ tail) ∧ ¬endMark <:+: body ++ ['*'] ∧
    n = body.length + 2

theorem markEnds_start {tail : Text} {n : Nat} : MarkEnds ('*' :: '/' :: tail) n ↔ n = 2 := by
  constructor
  · rintro ⟨body, tail', hrest, hfirst, rfl⟩
    cases body with
    | nil => rfl
    | cons d body =>
        -- The mark at the start would be within the body.
        rcases List.cons.inj hrest with ⟨rfl, hbehind⟩
        refine absurd (endMark_infix_cons.mpr (Or.inl ⟨rfl, ?_⟩)) hfirst
        cases body with
        | nil => exact absurd (List.cons.inj hbehind).1 (by decide)
        | cons e body => exact congrArg some (List.cons.inj hbehind).1.symm
  · rintro rfl
    exact ⟨[], tail, rfl, by decide, rfl⟩

/-- Where no end mark starts, the first one is further on. -/
theorem markEnds_cons {c : Char} {rest : Text} {n : Nat}
    (hmark : ¬(c = '*' ∧ rest.head? = some '/')) :
    MarkEnds (c :: rest) n ↔ ∃ m, MarkEnds rest m ∧ m + 1 = n := by
  constructor
  · rintro ⟨body, tail, hrest, hfirst, rfl⟩
    cases body with
    | nil =>
        obtain ⟨rfl, rfl⟩ := List.cons.inj hrest
        exact absurd ⟨rfl, rfl⟩ hmark
    | cons d body =>
        obtain ⟨rfl, rfl⟩ := List.cons.inj hrest
        rw [List.cons_append, endMark_infix_cons, not_or] at hfirst
        exact ⟨body.length + 2, ⟨body, tail, rfl, hfirst.2, rfl⟩, rfl⟩
  · rintro ⟨m, ⟨body, tail, rfl, hfirst, rfl⟩, rfl⟩
    refine ⟨c :: body, tail, rfl, ?_, rfl⟩
    rw [List.cons_append, endMark_infix_cons, not_or]
    refine ⟨fun h => hmark ⟨h.1, ?_⟩, hfirst⟩
    cases body with
    | nil => exact absurd h.2 (by decide)
    | cons d body => exact h.2

/-- A block comment ends with its first end mark. -/
theorem commentEnd?_eq_some_iff {rest : Text} {n : Nat} :
    commentEnd? rest = some n ↔ MarkEnds rest n := by
  induction rest generalizing n with
  | nil =>
      refine iff_of_false (Option.some_ne_none n).symm ?_
      rintro ⟨body, tail, h, _⟩
      exact absurd h.symm (by simp [endMark])
  | cons c rest ih =>
      by_cases hmark : c = '*' ∧ rest.head? = some '/'
      · rcases hmark with ⟨rfl, hhead⟩
        rcases List.head?_eq_some_iff.mp hhead with ⟨tail, rfl⟩
        have hend : commentEnd? ('*' :: '/' :: tail) = some 2 := rfl
        rw [hend, Option.some.injEq, markEnds_start, eq_comm]
      · simp only [commentEnd?_cons hmark, Option.map_eq_some_iff, ih, markEnds_cons hmark]

theorem takesBlock_iff {rest text : Text} :
    TakesBlock ('/' :: '*' :: rest) text ↔
      text = '/' :: '*' :: rest.take ((commentEnd? rest).getD rest.length) := by
  have hmark (body tail : Text) :
      (body ++ (endMark ++ tail)).take (body.length + 2) = body ++ endMark :=
    List.take_length_add_append 2
  constructor
  · intro h
    cases h with
    | @closed body tail hfirst =>
        rw [commentEnd?_eq_some_iff.mpr ⟨body, tail, rfl, hfirst, rfl⟩, Option.getD_some, hmark]
    | unclosed hnone => rw [commentEnd?_eq_none_iff.mpr hnone, Option.getD_none, List.take_length]
  · rintro rfl
    cases hend : commentEnd? rest with
    | none =>
        rw [Option.getD_none, List.take_length]
        exact TakesBlock.unclosed (commentEnd?_eq_none_iff.mp hend)
    | some n =>
        rcases commentEnd?_eq_some_iff.mp hend with ⟨body, tail, rfl, hfirst, rfl⟩
        rw [Option.getD_some, hmark]
        exact TakesBlock.closed hfirst

/-! ## String literals -/

/-- What a string literal has behind its opening quote: characters that are no quote, no
    backslash and no line break, and backslashes with any character behind them that is no line
    break. -/
inductive StringBody : Text → Prop where
  | nil : StringBody []
  | plain {c : Char} {rest : Text} (hquote : c ≠ '"') (hslash : c ≠ '\\')
      (hbreak : isLineBreak c = false) (h : StringBody rest) : StringBody (c :: rest)
  | escaped {c : Char} {rest : Text} (hbreak : isLineBreak c = false) (h : StringBody rest) :
      StringBody ('\\' :: c :: rest)

/-- A text that is empty or starts with a line break. -/
def EndsLine (s : Text) : Prop :=
  ∀ c, s.head? = some c → isLineBreak c = true

/-- What a string literal takes of a text: everything through the quote that closes it, or what
    is left of its line. A backslash at the end of the line belongs to it. -/
inductive TakesString : Text → Text → Prop where
  | closed {body tail : Text} (hbody : StringBody body) :
      TakesString ('"' :: (body ++ '"' :: tail)) ('"' :: (body ++ ['"']))
  | unclosed {body tail : Text} (hbody : StringBody body) (hline : EndsLine tail) :
      TakesString ('"' :: (body ++ tail)) ('"' :: body)
  | slash {body tail : Text} (hbody : StringBody body) (hline : EndsLine tail) :
      TakesString ('"' :: (body ++ '\\' :: tail)) ('"' :: (body ++ ['\\']))

theorem endsLine_nil : EndsLine [] := by
  intro c hc
  cases hc

theorem stringEnd_quote (tail : Text) : stringEnd ('"' :: tail) = (1, true) := by
  rw [stringEnd]

theorem stringEnd_of_endsLine {s : Text} (h : EndsLine s) : stringEnd s = (0, false) := by
  cases s with
  | nil => rfl
  | cons c rest =>
      have hbreak := h c rfl
      rcases isLineBreak_iff.mp hbreak with rfl | rfl <;> rfl

theorem stringEnd_slash_of_endsLine {s : Text} (h : EndsLine s) :
    stringEnd ('\\' :: s) = (1, false) := by
  cases s with
  | nil => rfl
  | cons c rest => rw [stringEnd, if_pos (h c rfl)]

/-- A string literal goes on behind its body. -/
theorem stringEnd_append {body : Text} (h : StringBody body) (more : Text) :
    stringEnd (body ++ more) = (body.length + (stringEnd more).1, (stringEnd more).2) := by
  induction h with
  | nil => rw [List.nil_append, List.length_nil, Nat.zero_add]
  | @plain c rest hquote hslash hbreak _ ih =>
      have hother := stringEnd.eq_5 c (rest ++ more) hquote (fun hc _ => hslash hc)
        (fun _ _ hc _ => hslash hc)
      rw [List.cons_append, hother, if_neg (by rw [hbreak]; exact Bool.false_ne_true), ih,
        List.length_cons, Nat.add_right_comm]
  | @escaped c rest hbreak _ ih =>
      rw [List.cons_append, List.cons_append, stringEnd,
        if_neg (by rw [hbreak]; exact Bool.false_ne_true), ih]
      refine Prod.ext ?_ rfl
      simp only [List.length_cons]
      omega

/-- What is behind an opening quote is a body, and a quote, the end of a line, or a backslash in
    front of that. -/
theorem exists_stringBody (rest : Text) : ∃ body behind, rest = body ++ behind ∧ StringBody body ∧
    ((∃ tail, behind = '"' :: tail) ∨ EndsLine behind ∨ ∃ tail, behind = '\\' :: tail ∧
      EndsLine tail) := by
  -- The induction takes an escaped character together with its backslash.
  induction rest using stringEnd.induct with
  | case1 => exact ⟨[], [], rfl, StringBody.nil, Or.inr (Or.inl endsLine_nil)⟩
  | case2 rest => exact ⟨[], _, rfl, StringBody.nil, Or.inl ⟨rest, rfl⟩⟩
  | case3 =>
      exact ⟨[], _, rfl, StringBody.nil, Or.inr (Or.inr ⟨[], rfl, endsLine_nil⟩)⟩
  | case4 c rest hbreak =>
      refine ⟨[], _, rfl, StringBody.nil, Or.inr (Or.inr ⟨c :: rest, rfl, fun d hd => ?_⟩)⟩
      rwa [← Option.some.inj hd]
  | case5 c rest hbreak n closed hend ih =>
      rcases ih with ⟨body, behind, rfl, hbody, hbehind⟩
      rw [Bool.not_eq_true] at hbreak
      exact ⟨'\\' :: c :: body, behind, rfl, StringBody.escaped hbreak hbody, hbehind⟩
  | case6 c rest hquote hlast hescape hbreak =>
      refine ⟨[], c :: rest, rfl, StringBody.nil, Or.inr (Or.inl fun d hd => ?_)⟩
      rwa [← Option.some.inj hd]
  | case7 c rest hquote hlast hescape hbreak n closed hend ih =>
      have hslash : c ≠ '\\' := by
        intro hc
        cases rest with
        | nil => exact hlast hc rfl
        | cons d rest => exact hescape d rest hc rfl
      rcases ih with ⟨body, behind, rfl, hbody, hbehind⟩
      rw [Bool.not_eq_true] at hbreak
      exact ⟨c :: body, behind, rfl, StringBody.plain hquote hslash hbreak hbody, hbehind⟩

theorem takesString_iff {rest text : Text} :
    TakesString ('"' :: rest) text ↔ text = '"' :: rest.take (stringEnd rest).1 := by
  constructor
  · intro h
    cases h with
    | @closed body tail hbody =>
        rw [stringEnd_append hbody, stringEnd_quote, List.take_length_add_append]
        rfl
    | @unclosed body tail hbody hline =>
        rw [stringEnd_append hbody, stringEnd_of_endsLine hline, Nat.add_zero, List.take_left]
    | @slash body tail hbody hline =>
        rw [stringEnd_append hbody, stringEnd_slash_of_endsLine hline, List.take_length_add_append]
        rfl
  · rintro rfl
    rcases exists_stringBody rest with
      ⟨body, behind, rfl, hbody, ⟨tail, rfl⟩ | hline | ⟨tail, rfl, hline⟩⟩
    · rw [stringEnd_append hbody, stringEnd_quote, List.take_length_add_append]
      exact TakesString.closed hbody
    · rw [stringEnd_append hbody, stringEnd_of_endsLine hline, Nat.add_zero, List.take_left]
      exact TakesString.unclosed hbody hline
    · rw [stringEnd_append hbody, stringEnd_slash_of_endsLine hline, List.take_length_add_append]
      exact TakesString.slash hbody hline

/-! ## Numbers and words -/

/-- A number: digits, and perhaps a point with digits behind it. -/
inductive IsNumber : Text → Prop where
  | whole {ds : Text} (hds : ds ≠ []) (hdigits : ∀ c ∈ ds, isDigit c = true) : IsNumber ds
  | decimal {ds fs : Text} (hds : ds ≠ []) (hdigits : ∀ c ∈ ds, isDigit c = true) (hfs : fs ≠ [])
      (hfraction : ∀ c ∈ fs, isDigit c = true) : IsNumber (ds ++ '.' :: fs)

/-- A word: a letter or an underscore, and word characters behind it. -/
def IsWord (text : Text) : Prop :=
  ∃ c rest, text = c :: rest ∧ isWordStart c = true ∧ ∀ d ∈ rest, isWordChar d = true

/-- The kind of a word: the first vocabulary that has it decides. -/
def HasKind (word : Text) : TokenKind → Prop
  | .keyword => word ∈ keywords
  | .readability => word ∉ keywords ∧ word ∈ readabilityWords
  | .predefined => word ∉ keywords ∧ word ∉ readabilityWords ∧ word ∈ predefinedTypes
  | .identifier => word ∉ keywords ∧ word ∉ readabilityWords ∧ word ∉ predefinedTypes
  | _ => False

theorem isLongest_word {c : Char} (hstart : isWordStart c = true) (rest : Text) :
    IsLongest IsWord (c :: rest) (c :: rest.takeWhile isWordChar) where
  mem := ⟨c, _, rfl, hstart, List.all_eq_true.mp List.all_takeWhile⟩
  front := (List.prefix_cons_inj c).mpr (List.takeWhile_prefix _)
  longest := by
    rintro other ⟨d, tail, rfl, _, htail⟩ hother
    rw [List.cons_prefix_cons] at hother
    exact Nat.succ_le_succ (length_le_takeWhile htail hother.2)

theorem hasKind_iff {word : Text} {kind : TokenKind} :
    HasKind word kind ↔ kind = wordKind word := by
  unfold wordKind
  simp only [List.contains_iff_mem]
  split_ifs <;> cases kind <;> simp_all [HasKind]

/-- A number at the start of some digits and what is behind them is no longer than the digits, or
    it is these digits, a point, and the digits of a fraction. -/
theorem number_cases {whole behind other : Text} (hwhole : ∀ c ∈ whole, isDigit c = true)
    (hbehind : behind.takeWhile isDigit = []) (h : IsNumber other)
    (hfront : other <+: whole ++ behind) :
    other.length ≤ whole.length ∨ ∃ fs tail, other = whole ++ '.' :: fs ∧
      behind = '.' :: (fs ++ tail) ∧ fs ≠ [] ∧ ∀ c ∈ fs, isDigit c = true := by
  have hdigits : (whole ++ behind).takeWhile isDigit = whole := by
    rw [List.takeWhile_append_of_pos hwhole, hbehind, List.append_nil]
  cases h with
  | whole _ hds =>
      have hlength := length_le_takeWhile hds hfront
      rw [hdigits] at hlength
      exact Or.inl hlength
  | @decimal ds fs _ hds hfs hfraction =>
      rcases hfront with ⟨tail, htail⟩
      -- Both texts have the same digits in front.
      have hsame : ds = whole := by
        have hpoint : ('.' :: fs ++ tail).head?.any isDigit = false := rfl
        rw [← hdigits, ← htail, List.append_assoc, takeWhile_of_cut hds hpoint]
      rw [hsame, List.append_assoc, List.append_cancel_left_eq, List.cons_append] at htail
      exact Or.inr ⟨fs, tail, by rw [hsame], htail.symm, hfs, hfraction⟩

theorem numberEnd_decimal {rest more : Text} {d : Char} (hd : isDigit d = true)
    (h : rest.dropWhile isDigit = '.' :: d :: more) :
    rest.take (numberEnd rest) =
      rest.takeWhile isDigit ++ '.' :: (d :: more).takeWhile isDigit := by
  have hend : numberEnd rest =
      (rest.takeWhile isDigit).length + (2 + (more.takeWhile isDigit).length) := by
    simp only [numberEnd, h, if_pos hd, Nat.add_assoc]
  have hrest : rest = rest.takeWhile isDigit ++ '.' :: d :: more := by
    rw [← h, List.takeWhile_append_dropWhile]
  calc rest.take (numberEnd rest)
      = (rest.takeWhile isDigit ++ '.' :: d :: more).take
          ((rest.takeWhile isDigit).length + (2 + (more.takeWhile isDigit).length)) := by
        rw [← hrest, hend]
    _ = rest.takeWhile isDigit ++ '.' :: d :: more.take (more.takeWhile isDigit).length := by
        rw [List.take_length_add_append, Nat.add_comm 2]
        rfl
    _ = rest.takeWhile isDigit ++ '.' :: (d :: more).takeWhile isDigit := by
        rw [take_length_takeWhile, List.takeWhile_cons_of_pos hd]

theorem numberEnd_whole {rest : Text}
    (h : ∀ d more, rest.dropWhile isDigit = '.' :: d :: more → isDigit d = false) :
    rest.take (numberEnd rest) = rest.takeWhile isDigit := by
  have hend : numberEnd rest = (rest.takeWhile isDigit).length := by
    unfold numberEnd
    split
    case h_1 d more hpoint => exact if_neg (by rw [h d more hpoint]; exact Bool.false_ne_true)
    case h_2 => rfl
  rw [hend, take_length_takeWhile]

section Longest

variable {c : Char} {rest : Text}

theorem isDigit_of_mem_digits (hdigit : isDigit c = true) :
    ∀ d ∈ c :: rest.takeWhile isDigit, isDigit d = true := by
  intro d hd
  rcases List.mem_cons.mp hd with rfl | hd
  · exact hdigit
  · exact List.all_eq_true.mp List.all_takeWhile d hd

/-- What a text of digits can have as a number at its start. -/
theorem number_cases_of_prefix (hdigit : isDigit c = true) {other : Text} (h : IsNumber other)
    (hfront : other <+: c :: rest) :
    other.length ≤ (c :: rest.takeWhile isDigit).length ∨
      ∃ fs tail, other = (c :: rest.takeWhile isDigit) ++ '.' :: fs ∧
        rest.dropWhile isDigit = '.' :: (fs ++ tail) ∧ fs ≠ [] ∧
        ∀ d ∈ fs, isDigit d = true := by
  rw [← List.takeWhile_append_dropWhile (p := isDigit) (l := rest), ← List.cons_append] at hfront
  exact number_cases (isDigit_of_mem_digits hdigit) (takeWhile_dropWhile isDigit rest) h hfront

/-- A number with a fraction goes as far as it can. -/
theorem isLongest_decimal (hdigit : isDigit c = true) {d : Char} {more : Text}
    (hpoint : rest.dropWhile isDigit = '.' :: d :: more) (hd : isDigit d = true) :
    IsLongest IsNumber (c :: rest) (c :: rest.take (numberEnd rest)) := by
  refine ⟨?_, (List.prefix_cons_inj c).mpr (List.take_prefix _ rest),
    fun other hother hprefix => ?_⟩
  · rw [numberEnd_decimal hd hpoint]
    refine IsNumber.decimal (List.cons_ne_nil c _) (isDigit_of_mem_digits hdigit) ?_
      (List.all_eq_true.mp List.all_takeWhile)
    rw [List.takeWhile_cons_of_pos hd]
    exact List.cons_ne_nil d _
  · rw [numberEnd_decimal hd hpoint, ← List.cons_append, List.length_append]
    rcases number_cases_of_prefix hdigit hother hprefix with
      hle | ⟨fs, tail, rfl, htail, _, hfs⟩
    · exact Nat.le_add_right_of_le hle
    · -- The fraction is at the start of what is behind the point.
      rw [hpoint, List.cons.injEq] at htail
      have hle := length_le_takeWhile hfs ⟨tail, htail.2.symm⟩
      simp only [List.length_append, List.length_cons]
      omega

/-- A number without a fraction goes as far as it can. -/
theorem isLongest_whole (hdigit : isDigit c = true)
    (hnone : ∀ d more, rest.dropWhile isDigit = '.' :: d :: more → isDigit d = false) :
    IsLongest IsNumber (c :: rest) (c :: rest.take (numberEnd rest)) := by
  rw [numberEnd_whole hnone]
  refine ⟨IsNumber.whole (List.cons_ne_nil c _) (isDigit_of_mem_digits hdigit),
    (List.prefix_cons_inj c).mpr (List.takeWhile_prefix isDigit), fun other hother hprefix => ?_⟩
  rcases number_cases_of_prefix hdigit hother hprefix with
    hle | ⟨fs, tail, rfl, htail, hfs, hdigits⟩
  · exact hle
  · -- A digit behind the point would go on with the number.
    rcases List.exists_cons_of_ne_nil hfs with ⟨d, fs, rfl⟩
    have hd := hdigits d List.mem_cons_self
    rw [hnone d _ htail] at hd
    exact absurd hd Bool.false_ne_true

end Longest

/-- A number goes as far as it can. -/
theorem isLongest_number {c : Char} (hdigit : isDigit c = true) (rest : Text) :
    IsLongest IsNumber (c :: rest) (c :: rest.take (numberEnd rest)) := by
  by_cases hpoint : ∃ d more, rest.dropWhile isDigit = '.' :: d :: more ∧ isDigit d = true
  · rcases hpoint with ⟨d, more, hpoint, hd⟩
    exact isLongest_decimal hdigit hpoint hd
  · refine isLongest_whole hdigit fun d more h => ?_
    exact (Bool.not_eq_true _).mp fun hd => hpoint ⟨d, more, h, hd⟩

/-! ## Forms -/

/-- The forms of lexemes. -/
inductive Form where
  | lineComment
  | blockComment
  | string
  | number
  | word
  | placeholder
  | mark
  | stray
  deriving DecidableEq, Repr

namespace Form

/-- The forms in the order in which they are tried. -/
def all : List Form :=
  [lineComment, blockComment, string, number, word, placeholder, mark, stray]

/-- Whether a text starts like a lexeme of a form. -/
def fits (s : Text) : Form → Bool
  | lineComment => s.take 2 == ['/', '/']
  | blockComment => s.take 2 == ['/', '*']
  | string => s.head? == some '"'
  | number => s.head?.any isDigit
  | word => s.head?.any isWordStart
  | placeholder => s.take 3 == ['?', '?', '?']
  | mark => s.head?.any punctuationMarks.contains
  | stray => !s.isEmpty

/-- The first form that fits a text. -/
def first? (s : Text) : Option Form :=
  all.find? (fits s)

/-- What a lexeme of a form takes of a text, and the kind that it has. -/
def Takes (s text : Text) (kind : TokenKind) : Form → Prop
  | lineComment => IsLongest IsLineComment s text ∧ kind = .comment
  | blockComment => TakesBlock s text ∧ kind = .comment
  | string => TakesString s text ∧ kind = .string
  | number => IsLongest IsNumber s text ∧ kind = .number
  | word => IsLongest IsWord s text ∧ HasKind text kind
  | placeholder => text = ['?', '?', '?'] ∧ kind = .punctuation
  | mark => text = s.take 1 ∧ kind = .punctuation
  | stray => text = s.take 1 ∧ kind = .other

/-- The first form is found by the conditions that a reader goes through. -/
theorem first?_cons (c : Char) (rest : Text) :
    first? (c :: rest) =
      if c = '/' ∧ rest.head? = some '/' then some lineComment
      else if c = '/' ∧ rest.head? = some '*' then some blockComment
      else if c = '"' then some string
      else if isDigit c then some number
      else if isWordStart c then some word
      else if c = '?' ∧ rest.take 2 = ['?', '?'] then some placeholder
      else if punctuationMarks.contains c then some mark
      else some stray := by
  have hfind (form : Form) (forms : List Form) : (form :: forms).find? (fits (c :: rest)) =
      if fits (c :: rest) form then some form else forms.find? (fits (c :: rest)) := by
    cases h : fits (c :: rest) form <;> simp [h]
  have hpair (a b : Char) :
      ((c :: rest).take 2 == [a, b]) = true ↔ c = a ∧ rest.head? = some b := by
    cases rest <;> simp
  have hholder : ((c :: rest).take 3 == ['?', '?', '?']) = true ↔
      c = '?' ∧ rest.take 2 = ['?', '?'] := by
    simp
  have hquote : (some c == some '"') = true ↔ c = '"' := by
    simp
  unfold first? all
  simp only [hfind, fits, hpair, hholder, hquote, List.head?_cons, Option.any_some,
    List.isEmpty_cons, Bool.not_false, if_true]

end Form

/-- The lexical grammar: what the first form that fits a text takes of it. -/
def Takes (s text : Text) (kind : TokenKind) : Prop :=
  ∃ form, Form.first? s = some form ∧ form.Takes s text kind

theorem IsLongest.eq_iff {p : Text → Prop} {s text found : Text} (h : IsLongest p s found) :
    IsLongest p s text ↔ text = found := by
  constructor
  · exact fun h' => h'.unique h
  · rintro rfl
    exact h

/-- The grammar takes what is read, and nothing else. -/
theorem takes_iff {c : Char} {rest text : Text} {kind : TokenKind} :
    Takes (c :: rest) text kind ↔
      text = (readLexeme c rest).text c rest ∧ kind = (readLexeme c rest).kind := by
  unfold Takes readLexeme
  rw [Form.first?_cons]
  split_ifs with hline hblock hquote hdigit hstart hholder hmark
  all_goals simp only [Option.some.injEq, exists_eq_left', Form.Takes, Reading.text]
  · rcases hline with ⟨rfl, hhead⟩
    rcases List.head?_eq_some_iff.mp hhead with ⟨rest, rfl⟩
    rw [(isLongest_lineComment rest).eq_iff, take_length_takeWhile]
    rfl
  · rcases hblock with ⟨rfl, hhead⟩
    rcases List.head?_eq_some_iff.mp hhead with ⟨rest, rfl⟩
    rw [takesBlock_iff, List.drop_succ_cons, List.drop_zero]
    cases commentEnd? rest <;> rfl
  · subst hquote
    rw [takesString_iff]
  · rw [(isLongest_number hdigit rest).eq_iff]
  · rw [(isLongest_word hstart rest).eq_iff, take_length_takeWhile]
    exact and_congr_right fun htext => by rw [hasKind_iff, htext]
  · rw [hholder.1, hholder.2]
  · rfl
  · rfl

/-- The grammar takes at least one character. -/
theorem Takes.ne_nil {s text : Text} {kind : TokenKind} (h : Takes s text kind) : text ≠ [] := by
  cases s with
  | nil =>
      rcases h with ⟨form, hfirst, _⟩
      exact nomatch hfirst
  | cons c rest =>
      rw [(takes_iff.mp h).1]
      exact List.cons_ne_nil c _

/-- What the grammar takes of a text is read, and what it leaves is what is left by a reader. -/
theorem exists_reading {text rest : Text} {kind : TokenKind} (h : Takes (text ++ rest) text kind) :
    ∃ c tail, text ++ rest = c :: tail ∧ text = (readLexeme c tail).text c tail ∧
      rest = tail.drop (readLexeme c tail).more ∧ kind = (readLexeme c tail).kind := by
  rcases List.exists_cons_of_ne_nil h.ne_nil with ⟨c, front, hfront⟩
  have hsplit : text ++ rest = c :: (front ++ rest) := by
    rw [hfront, List.cons_append]
  rw [hsplit] at h
  rcases takes_iff.mp h with ⟨htext, hkind⟩
  refine ⟨c, front ++ rest, hsplit, htext, ?_, hkind⟩
  have hread : (readLexeme c (front ++ rest)).text c (front ++ rest) ++
      (front ++ rest).drop (readLexeme c (front ++ rest)).more = c :: (front ++ rest) :=
    append_lexeme [] [] c (front ++ rest)
  rw [← htext, ← hsplit] at hread
  exact (List.append_cancel_left hread).symm

/-! ## The pieces of a text -/

/-- A piece of a text: where it starts, what it is, and its kind. -/
structure Piece where
  offset : Nat
  text : Text
  kind : TokenKind

/-- The pieces of a text that starts at an offset: a gap, one lexeme of the grammar, and the same
    again behind it. A lexeme does not start with a blank, so the gap is as long as it can be. -/
inductive Cut : Nat → Text → List Piece → Prop where
  | done {offset : Nat} {gap : Text} (hgap : ∀ c ∈ gap, isGap c = true) : Cut offset gap []
  | next {offset : Nat} {gap text rest : Text} {kind : TokenKind} {pieces : List Piece}
      (hgap : ∀ c ∈ gap, isGap c = true) (hstart : ∀ c, text.head? = some c → isGap c = false)
      (htakes : Takes (text ++ rest) text kind)
      (hrest : Cut (offset + gap.length + text.length) rest pieces) :
      Cut offset (gap ++ (text ++ rest)) (⟨offset + gap.length, text, kind⟩ :: pieces)

/-- A lexeme as a piece of its text. -/
def Lexeme.piece (l : Lexeme) : Piece :=
  ⟨l.offset, l.text, l.kind⟩

/-- What a reader finds is cut by the grammar. -/
theorem Lexed.cut {before s : Text} {lexemes : List Lexeme} (h : Lexed before s lexemes) :
    Cut before.length s (lexemes.map Lexeme.piece) := by
  induction h with
  | done hgap => exact Cut.done hgap
  | @next before gap rest c lexemes hgap hc hrest ih =>
      let text := (readLexeme c rest).text c rest
      let behind := rest.drop (readLexeme c rest).more
      have hsplit : text ++ behind = c :: rest := append_lexeme [] [] c rest
      have hstart : ∀ d, text.head? = some d → isGap d = false := by
        intro d hd
        rwa [← Option.some.inj hd]
      have htakes : Takes (text ++ behind) text (readLexeme c rest).kind := by
        rw [hsplit]
        exact takes_iff.mpr ⟨rfl, rfl⟩
      rw [List.length_append, List.length_append] at ih
      have hnext := Cut.next hgap hstart htakes ih
      rw [hsplit] at hnext
      rw [List.map_cons, Lexeme.piece, Lexeme.behind]
      simp only [List.length_append]
      exact hnext

/-- What is cut by the grammar is what a reader finds. -/
theorem Cut.exists_lexed {offset : Nat} {s : Text} {pieces : List Piece} (h : Cut offset s pieces)
    {before : Text} (hoffset : before.length = offset) :
    ∃ lexemes, Lexed before s lexemes ∧ pieces = lexemes.map Lexeme.piece := by
  induction h generalizing before with
  | done hgap => exact ⟨[], Lexed.done hgap, rfl⟩
  | @next offset gap text rest kind pieces hgap hstart htakes hrest ih =>
      subst hoffset
      rcases exists_reading htakes with ⟨c, tail, hsplit, rfl, rfl, rfl⟩
      have hc : isGap c = false := hstart c rfl
      have hlength : (before ++ gap ++ (readLexeme c tail).text c tail).length =
          before.length + gap.length + ((readLexeme c tail).text c tail).length := by
        rw [List.length_append, List.length_append]
      rcases ih hlength with ⟨lexemes, hlexed, rfl⟩
      rw [hsplit]
      refine ⟨_, Lexed.next hgap hc hlexed, ?_⟩
      rw [List.map_cons, Lexeme.piece, Lexeme.behind]
      simp only [List.length_append]

/-- The tokens of a text as pieces: what a token tells about its place and its text. -/
structure Token.IsPiece (t : Token) (piece : Piece) : Prop where
  text : t.text = piece.text
  kind : t.kind = piece.kind
  offset : t.offset = .int piece.offset
  endOffset : t.endOffset = .int (piece.offset + piece.text.length)

theorem isPiece_toToken_iff {l : Lexeme} {piece : Piece} :
    l.toToken.IsPiece piece ↔ l.piece = piece := by
  constructor
  · rintro ⟨htext, hkind, hoffset, _⟩
    rcases piece with ⟨offset, text, kind⟩
    obtain rfl : l.offset = offset := Int.ofNat.inj (Value.int.inj hoffset)
    obtain rfl : l.text = text := htext
    obtain rfl : l.kind = kind := hkind
    rfl
  · rintro rfl
    exact ⟨rfl, rfl, rfl, rfl⟩

/-- The tokens of a text are those of the lexical grammar. A text that is not empty starts with
    one lexeme, of one kind, whatever comes behind it. So there is one way to cut a text into
    gaps and lexemes, and its tokens are the pieces, one by one. -/
theorem lexemes_follow_grammar (s : Text) :
    (∀ start : Text, start ≠ [] → ∃! taken : Text × TokenKind, Takes start taken.1 taken.2) ∧
    (∃ pieces, Cut 0 s pieces) ∧
    ∀ pieces, Cut 0 s pieces ↔ List.Forall₂ Token.IsPiece (lexTokens s) pieces := by
  have hcut := (lexed_lexemes s).cut
  refine ⟨fun start hstart => ?_, ⟨_, hcut⟩, fun pieces => ?_⟩
  · rcases List.exists_cons_of_ne_nil hstart with ⟨c, rest, rfl⟩
    refine ⟨((readLexeme c rest).text c rest, (readLexeme c rest).kind),
      takes_iff.mpr ⟨rfl, rfl⟩, ?_⟩
    rintro ⟨text, kind⟩ htakes
    exact Prod.ext_iff.mpr (takes_iff.mp htakes)
  · rw [lexTokens, List.forall₂_map_left_iff]
    simp only [isPiece_toToken_iff]
    rw [← List.forall₂_map_left_iff (f := Lexeme.piece), List.forall₂_eq_eq_eq]
    constructor
    · intro h
      rcases h.exists_lexed List.length_nil with ⟨found, hfound, rfl⟩
      rw [hfound.eq_lexemes]
    · rintro rfl
      exact hcut

end RiddlEditor
