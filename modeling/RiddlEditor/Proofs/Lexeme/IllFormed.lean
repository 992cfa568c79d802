import RiddlEditor.Proofs.Lexeme.Grammar

/-!
# Ill-formed tokens

Whether a token is ill-formed can be seen from its kind and its text. It is a character that no
lexeme starts with, or a string literal without the quote that closes it, or a block comment
without its end mark. The end of the text alone does not tell: a quote behind a backslash closes
nothing, and the star of `/*` is no part of an end mark.

The errors of a text are told by the reader, while it reads, and their places are counted from the
start of the text. Still they are the ill-formed tokens and nothing else, one error for each, in
their order and in their places.

## Main definitions

* `IsClosedString`, `IsClosedComment`: The literals and the comments that are closed.
* `Token.IllFormed`: The tokens that are no proper lexemes.
* `Fault.Describes`: What a fault says about a token.
* `LexError.Reports`: An error that is about a token.

## Theorems

* `isClosedString_iff`, `isClosedComment_iff`: Both can be decided.
* `Reads.illFormed_cases`: A lexeme has a fault exactly if it is ill-formed.
* `exists_token_of_error`: Every error is about an ill-formed token.
* `errors_are_illFormed_tokens`: The errors of a text are its ill-formed tokens.
-/

namespace RiddlEditor

/-! ## What is closed -/

/-- A string literal that is closed: a body between two quotes. -/
def IsClosedString (text : Text) : Prop :=
  ∃ body, StringBody body ∧ text = '"' :: (body ++ ['"'])

/-- A block comment that is closed: there is an end mark behind its first two characters. -/
def IsClosedComment (text : Text) : Prop :=
  ∃ body, text = '/' :: '*' :: (body ++ endMark)

/-- A literal is closed if its scan ends with it. -/
theorem isClosedString_cons_iff {rest : Text} :
    IsClosedString ('"' :: rest) ↔ stringEnd rest = (rest.length, true) := by
  constructor
  · rintro ⟨body, hbody, htext⟩
    rw [(List.cons.inj htext).2, stringEnd_append hbody, stringEnd_quote, List.length_append,
      List.length_singleton]
  · intro h
    rcases exists_stringBody rest with
      ⟨body, behind, rfl, hbody, ⟨tail, rfl⟩ | hline | ⟨tail, rfl, hline⟩⟩
    · -- The quote is the last character.
      rw [stringEnd_append hbody, stringEnd_quote, List.length_append, List.length_cons] at h
      have htail : tail = [] := by
        rw [← List.length_eq_zero_iff]
        have hlength := congrArg Prod.fst h
        simp only at hlength
        omega
      exact ⟨body, hbody, by rw [htail]⟩
    · rw [stringEnd_append hbody, stringEnd_of_endsLine hline] at h
      exact absurd (congrArg Prod.snd h) Bool.false_ne_true
    · rw [stringEnd_append hbody, stringEnd_slash_of_endsLine hline] at h
      exact absurd (congrArg Prod.snd h) Bool.false_ne_true

theorem isClosedString_iff {text : Text} :
    IsClosedString text ↔
      text.head? = some '"' ∧ stringEnd text.tail = (text.tail.length, true) := by
  constructor
  · intro h
    rcases h with ⟨body, hbody, rfl⟩
    exact ⟨rfl, isClosedString_cons_iff.mp ⟨body, hbody, rfl⟩⟩
  · rintro ⟨hhead, hend⟩
    rcases List.head?_eq_some_iff.mp hhead with ⟨rest, rfl⟩
    exact isClosedString_cons_iff.mpr hend

theorem isClosedComment_iff {text : Text} :
    IsClosedComment text ↔ ['/', '*'] <+: text ∧ endMark <:+ text.drop 2 := by
  constructor
  · rintro ⟨body, rfl⟩
    exact ⟨⟨body ++ endMark, rfl⟩, ⟨body, rfl⟩⟩
  · rintro ⟨⟨rest, rfl⟩, body, hbody⟩
    exact ⟨body, congrArg (fun behind => '/' :: '*' :: behind) hbody.symm⟩

instance (text : Text) : Decidable (IsClosedString text) :=
  decidable_of_iff _ isClosedString_iff.symm

instance (text : Text) : Decidable (IsClosedComment text) :=
  decidable_of_iff _ isClosedComment_iff.symm

/-- A token that is no proper lexeme: one of no known kind, a string literal that is not closed,
    or a block comment that is not closed. -/
def Token.IllFormed (t : Token) : Prop :=
  t.kind = .other ∨ (t.kind = .string ∧ ¬IsClosedString t.text) ∨
    (t.kind = .comment ∧ ['/', '*'] <+: t.text ∧ ¬IsClosedComment t.text)

instance (t : Token) : Decidable t.IllFormed :=
  inferInstanceAs (Decidable (_ ∨ _ ∨ _))

/-- A backslash takes the quote behind it, so this literal is not closed. -/
example : Token.IllFormed ⟨"\"abc\\\"".toList, .string, ⟨0, 0⟩, .int 0, .int 6⟩ := by decide

/-- The star belongs to the start of this comment, so it is not closed. -/
example : Token.IllFormed ⟨"/*/".toList, .comment, ⟨0, 0⟩, .int 0, .int 3⟩ := by decide

/-! ## Faults of lexemes -/

/-- What a literal takes of a text is scanned like the text. -/
theorem stringEnd_take (rest : Text) :
    stringEnd (rest.take (stringEnd rest).1) = stringEnd rest := by
  rcases exists_stringBody rest with
    ⟨body, behind, rfl, hbody, ⟨tail, rfl⟩ | hline | ⟨tail, rfl, hline⟩⟩
  · rw [stringEnd_append hbody, stringEnd_quote, List.take_length_add_append, stringEnd_append hbody]
    rfl
  · rw [stringEnd_append hbody, stringEnd_of_endsLine hline, List.take_length_add_append,
      stringEnd_append hbody]
    rfl
  · rw [stringEnd_append hbody, stringEnd_slash_of_endsLine hline, List.take_length_add_append,
      stringEnd_append hbody]
    rfl

/-- A literal is closed if the scan says so. -/
theorem isClosedString_take_iff (rest : Text) :
    IsClosedString ('"' :: rest.take (stringEnd rest).1) ↔ (stringEnd rest).2 = true := by
  rw [isClosedString_cons_iff, stringEnd_take,
    List.length_take_of_le (stringEnd_le_length rest), Prod.ext_iff]
  exact and_iff_right rfl

/-- A comment with an end mark is closed. -/
theorem isClosedComment_take {rest : Text} {n : Nat} (hend : commentEnd? rest = some n) :
    IsClosedComment ('/' :: '*' :: rest.take n) := by
  rcases commentEnd?_eq_some_iff.mp hend with ⟨body, tail, rfl, _, rfl⟩
  refine ⟨body, ?_⟩
  rw [List.take_length_add_append]
  rfl

theorem not_isClosedComment {rest : Text} (hend : commentEnd? rest = none) :
    ¬IsClosedComment ('/' :: '*' :: rest) := by
  rintro ⟨body, hbody⟩
  -- The end mark would be in what is behind the start.
  have hrest : rest = body ++ endMark := (List.cons.inj (List.cons.inj hbody).2).2
  exact commentEnd?_eq_none_iff.mp hend (hrest ▸ (List.suffix_append body endMark).isInfix)

/-- What a fault says about a token. -/
def Fault.Describes : Fault → Token → Prop
  | .unexpectedCharacter c, t => t.kind = .other ∧ t.text = [c]
  | .unterminatedComment, t => t.kind = .comment
  | .unterminatedString, t => t.kind = .string

/-- A token of a kind that is always well-formed. -/
theorem Token.not_illFormed {t : Token} (kind : TokenKind) (hkind : t.kind = kind)
    (h : kind ∉ [TokenKind.other, .string, .comment]) : ¬t.IllFormed := by
  subst hkind
  rintro (hkind | ⟨hkind, _⟩ | ⟨hkind, _⟩) <;> exact h (by rw [hkind]; decide)

theorem Token.illFormed_of_string {t : Token} (hkind : t.kind = .string) :
    t.IllFormed ↔ ¬IsClosedString t.text := by
  simp [Token.IllFormed, hkind]

theorem Token.illFormed_of_comment {t : Token} (hkind : t.kind = .comment) :
    t.IllFormed ↔ ['/', '*'] <+: t.text ∧ ¬IsClosedComment t.text := by
  simp [Token.IllFormed, hkind]

/-- A lexeme without a fault is well-formed, and one with a fault is not and is what the fault
    says. -/
theorem Reads.illFormed_cases {c : Char} {rest : Text} {reading : Reading}
    (h : Reads c rest reading) {t : Token} (hkind : t.kind = reading.kind)
    (htext : t.text = reading.text c rest) :
    (reading.fault = none ∧ ¬t.IllFormed) ∨
      ∃ fault, reading.fault = some fault ∧ t.IllFormed ∧ fault.Describes t := by
  cases h with
  | lineComment rest =>
      refine Or.inl ⟨rfl, fun hill => ?_⟩
      -- The second character is a slash.
      rw [Token.illFormed_of_comment hkind, htext, Reading.text,
        firstLine_other (by decide)] at hill
      rcases hill.1 with ⟨tail, htail⟩
      exact absurd (List.cons.inj (List.cons.inj htail).2).1 (by decide)
  | @blockComment rest n hend =>
      refine Or.inl ⟨rfl, fun hill => ?_⟩
      rw [Token.illFormed_of_comment hkind, htext, Reading.text, List.take_succ_cons] at hill
      exact hill.2 (isClosedComment_take hend)
  | @openComment rest hend =>
      refine Or.inr ⟨_, rfl, ?_, hkind⟩
      have hall : t.text = '/' :: '*' :: rest := by
        rw [htext, Reading.text, List.take_succ_cons, List.take_length]
      rw [Token.illFormed_of_comment hkind, hall]
      exact ⟨⟨rest, rfl⟩, not_isClosedComment hend⟩
  | @closedString rest n hend =>
      refine Or.inl ⟨rfl, ?_⟩
      have hclosed := isClosedString_take_iff rest
      rw [hend] at hclosed
      rw [Token.illFormed_of_string hkind, htext, Reading.text, not_not]
      exact hclosed.mpr rfl
  | @openString rest n hend =>
      refine Or.inr ⟨_, rfl, ?_, hkind⟩
      have hclosed := isClosedString_take_iff rest
      rw [hend] at hclosed
      rw [Token.illFormed_of_string hkind, htext, Reading.text, hclosed]
      exact Bool.false_ne_true
  | number rest hdigit => exact Or.inl ⟨rfl, Token.not_illFormed .number hkind (by decide)⟩
  | word rest hstart =>
      refine Or.inl ⟨rfl, Token.not_illFormed _ hkind ?_⟩
      change wordKind (c :: rest.takeWhile isWordChar) ∉ _
      unfold wordKind
      split_ifs <;> decide
  | placeholder rest => exact Or.inl ⟨rfl, Token.not_illFormed .punctuation hkind (by decide)⟩
  | mark rest hmark => exact Or.inl ⟨rfl, Token.not_illFormed .punctuation hkind (by decide)⟩
  | stray rest hdigit hstart hmark hquote =>
      exact Or.inr ⟨_, rfl, Or.inl hkind, hkind, htext⟩

/-! ## Errors of texts -/

/-- An error that is about a token: it is where the token is, and says what is wrong with it. -/
structure LexError.Reports (e : LexError) (t : Token) : Prop where
  start : e.start = t.start
  offset : t.offset = .int e.offset
  stop : t.endOffset = .int e.stop
  fault : e.fault.Describes t

/-- The errors of lexemes are the ill-formed ones, if this is so for each of them. -/
theorem forall₂_located {lexemes : List Lexeme}
    (h : ∀ l ∈ lexemes, (l.fault = none ∧ ¬l.toToken.IllFormed) ∨
      ∃ fault, l.fault = some fault ∧ l.toToken.IllFormed ∧ fault.Describes l.toToken) :
    List.Forall₂ LexError.Reports (lexemes.filterMap Lexeme.located?)
      ((lexemes.map Lexeme.toToken).filter fun t => t.IllFormed) := by
  induction lexemes with
  | nil => exact List.Forall₂.nil
  | cons l lexemes ih =>
      have hrest := ih fun l' hl' => h l' (List.mem_cons_of_mem l hl')
      rw [List.map_cons]
      rcases h l List.mem_cons_self with ⟨hnone, hwell⟩ | ⟨fault, hfault, hill, hdescribes⟩
      · have hlocated : l.located? = none := by rw [Lexeme.located?, hnone, Option.map_none]
        rw [List.filterMap_cons_none hlocated, List.filter_cons_of_neg (by simpa using hwell)]
        exact hrest
      · have hlocated : l.located? = some ⟨fault, l.start, l.offset, l.stop⟩ := by
          rw [Lexeme.located?, hfault, Option.map_some]
        rw [List.filterMap_cons_some hlocated, List.filter_cons_of_pos (by simpa using hill)]
        exact List.Forall₂.cons ⟨rfl, rfl, rfl, hdescribes⟩ hrest

section Errors

variable {s : Text}

/-- A lexeme of a text has a fault exactly if it is ill-formed. -/
theorem illFormed_cases_of_mem {l : Lexeme} (h : l ∈ lexemes s) :
    (l.fault = none ∧ ¬l.toToken.IllFormed) ∨
      ∃ fault, l.fault = some fault ∧ l.toToken.IllFormed ∧ fault.Describes l.toToken := by
  rcases split_of_mem_lexemes h with ⟨front, c, rest, _, _, rfl⟩
  exact (reads_readLexeme c rest).illFormed_cases rfl rfl

/-- Every error of a text is about an ill-formed token. -/
theorem exists_token_of_error {e : LexError} (h : e ∈ lexErrors s) :
    ∃ t ∈ lexTokens s, t.IllFormed ∧ e.Reports t := by
  rw [lexErrors_eq] at h
  rcases List.mem_filterMap.mp h with ⟨l, hl, hlocated⟩
  rcases Option.map_eq_some_iff.mp hlocated with ⟨fault, hfault, rfl⟩
  rcases illFormed_cases_of_mem hl with ⟨hnone, _⟩ | ⟨fault', hfault', hill, hdescribes⟩
  · exact nomatch hnone.symm.trans hfault
  · obtain rfl := Option.some.inj (hfault.symm.trans hfault')
    exact ⟨l.toToken, List.mem_map_of_mem hl, hill, rfl, rfl, rfl, hdescribes⟩

end Errors

/-- The errors of a text are its ill-formed tokens, in their order: there is one error for each of
    them, in the place of the token, and there are no others. -/
theorem errors_are_illFormed_tokens (s : Text) :
    List.Forall₂ LexError.Reports (lexErrors s) ((lexTokens s).filter fun t => t.IllFormed) := by
  rw [lexErrors_eq, lexTokens]
  exact forall₂_located fun l hl => illFormed_cases_of_mem hl

end RiddlEditor
