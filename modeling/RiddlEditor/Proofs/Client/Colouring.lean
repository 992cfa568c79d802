import RiddlEditor.Proofs.Client.Position
import RiddlEditor.Proofs.Query.Wire
import RiddlEditor.Session

/-!
# The colouring that a client receives

A client receives numbers, and what it makes of them has to lie on the tokens of the text as
the client counts it. On the way a token is converted at both ends, by itself; the tokens are
sorted; and each place is given relative to the one before.

Both ends of a token's first line are cuts of the text (`exists_cut`), so for a client they
are as many units behind the start of the line as there are in front of the cut, and between
them there are the units of the first line (`convertSemanticToken_colour`). Counting units
keeps the order of two cuts on a line, so that tokens which did not overlap still do not
(`clientColours_precede`). That is why sorting changes nothing, and reading the numbers gives
back the tokens that were converted.

The protocol holds no number beyond `clientLimit`. A document that is too large for that has no
answer, and `exists_semanticData_iff` says which ones these are.

## Main definitions

* `Text.lineBefore`: What the line of a position has in front of it.
* `Token.firstLineRange`: The range of the first line of a token.
* `Token.clientColour`, `clientColours`: Semantic tokens in the units of an encoding.
* `SemanticToken.ShowsIn`: A semantic token has the place and the length of a token in the
  units of an encoding.

## Theorems

* `mapM_eq_ok`: A list is converted if all of its members are.
* `toClient_of_token`: A place in the first line of a token, for a client.
* `convertSemanticToken_colour`: The colour of a token, for a client.
* `clientColours_precede`: They do not overlap.
* `firstLineRange_sendable`: A client can hold the numbers of a text that is not too long.
* `Session.exists_semanticData_iff`: Whether there is an answer.
* `Session.colours_match_text`: The colouring of every open document.
-/

namespace RiddlEditor

/-- Where each member of a list is converted under a condition, the list is converted if all
    members meet it. -/
theorem mapM_eq_ok {ε α β : Type} {f : α → Except ε β} {g : α → β} {p : α → Prop} {as : List α}
    {bs : List β} (h : ∀ a ∈ as, ∀ b, f a = .ok b ↔ p a ∧ g a = b) :
    as.mapM f = .ok bs ↔ (∀ a ∈ as, p a) ∧ as.map g = bs := by
  induction as generalizing bs with
  | nil =>
      rw [List.mapM_nil, List.map_nil]
      exact ⟨fun hok => ⟨fun a ha => absurd ha List.not_mem_nil, Except.ok.inj hok⟩,
        fun ⟨_, hbs⟩ => congrArg Except.ok hbs⟩
  | cons a as ih =>
      have hhead := h a List.mem_cons_self
      have htail : ∀ rest, as.mapM f = .ok rest ↔ (∀ a ∈ as, p a) ∧ as.map g = rest :=
        fun rest => ih fun a' ha' => h a' (List.mem_cons_of_mem a ha')
      rw [List.mapM_cons, List.forall_mem_cons, List.map_cons]
      constructor
      · intro hok
        rcases bind_eq_ok hok with ⟨b, hb, hok⟩
        rcases bind_eq_ok hok with ⟨rest, hrest, hok⟩
        rcases (hhead b).mp hb with ⟨hp, rfl⟩
        rcases (htail rest).mp hrest with ⟨hall, rfl⟩
        exact ⟨⟨hp, hall⟩, Except.ok.inj hok⟩
      · rintro ⟨⟨hp, hall⟩, rfl⟩
        rw [(hhead _).mpr ⟨hp, rfl⟩, (htail _).mpr ⟨hall, rfl⟩]
        rfl

/-- What the line of a position has in front of it. -/
def Text.lineBefore (s : Text) (p : Position) : Text :=
  (s.lines[p.line]?.getD []).take p.column

/-- The range of the first line of a token. -/
def Token.firstLineRange (t : Token) : Range :=
  Range.span t.start (firstLine t.text).length

/-- In front of a cut there is the last line of what is in front of it. -/
theorem lineBefore_cut {a b : Text} (h : Unsplit a b) :
    (a ++ b).lineBefore ⟨a.lines.length - 1, (lastLine a).length⟩ = lastLine a := by
  rw [Text.lineBefore, getElem?_lines_append h, Option.getD_some, List.take_left]

theorem lineBefore_prefix (s : Text) {line i j : Nat} (h : i ≤ j) :
    s.lineBefore ⟨line, i⟩ <+: s.lineBefore ⟨line, j⟩ :=
  List.take_prefix_take_left h

theorem Encoding.width_le_of_prefix (e : Encoding) {a b : Text} (h : a <+: b) :
    e.width a ≤ e.width b := by
  rcases h with ⟨rest, rfl⟩
  rw [Encoding.width_append]
  exact Nat.le_add_right _ _

/-- The line goes on with the first line of a token that starts on it. -/
theorem lineBefore_stop {s : Text} {t : Token} (h : t ∈ lexTokens s) :
    s.lineBefore t.firstLineRange.stop = s.lineBefore t.start ++ firstLine t.text := by
  rcases firstLine_of_token h with ⟨shown, hshown, htext⟩
  have hline := getElem?_of_line? hshown
  change (s.lines[t.start.line]?.getD []).take (t.start.column + (firstLine t.text).length) = _
  rw [Text.lineBefore, hline, Option.getD_some, List.take_add, htext]

section Client

variable {s : Text} (e : Encoding) (hplain : PlainBreaks s)

include hplain in
/-- A place in the first line of a token is, for a client, as many units behind the start of
    the line as the line has in front of it. -/
theorem toClient_of_token {t : Token} (ht : t ∈ lexTokens s) {column : Nat}
    (hfrom : t.start.column ≤ column) (hto : column ≤ t.start.column + (firstLine t.text).length) :
    (ClientText.ofText s e).toClient ⟨t.start.line, column⟩ =
      ⟨t.start.line, e.width (s.lineBefore ⟨t.start.line, column⟩)⟩ := by
  rcases exists_cut ht hfrom hto with ⟨a, b, rfl, hunsplit, hne, hplace⟩
  have hfront : PlainBreaks a := fun c hc => hplain c (List.mem_append_left b hc)
  have hline : t.start.line = a.lines.length - 1 := congrArg Position.line hplace
  rw [hplace, lineBefore_cut hunsplit, toClient_cut hfront hunsplit hne e, hline]

/-- The semantic token of a token in the units of an encoding. -/
def Token.clientColour (s : Text) (t : Token) (defines : Bool) : SemanticToken :=
  { t.colour defines with
    column := e.width (s.lineBefore t.start)
    length := e.width (firstLine t.text) }

/-- The semantic tokens of a text in the units of an encoding. -/
def clientColours (extra : List Text) (s : Text) : List SemanticToken :=
  (marked extra (lexTokens s)).map fun m => m.1.clientColour e s m.2

theorem onLine_natCast (p : Position) (n : Nat) :
    Range.onLine p.line p.column (p.column + n) = .ok (Range.span p n) := by
  have hstop : ((p.column : Int) + n).toNat = p.column + n := by omega
  rw [Range.onLine, Range.ofInts, if_neg (by omega)]
  simp only [Int.toNat_natCast, hstop]
  exact dif_pos (Range.span p n).ordered

include hplain in
/-- The colour of a token is converted if a client can hold its place, and it then covers the
    units of the first line of the token. -/
theorem convertSemanticToken_colour {t : Token} (ht : t ∈ lexTokens s) (defines : Bool)
    {found : SemanticToken} :
    convertSemanticToken (some (ClientText.ofText s e)) (t.colour defines) = .ok found ↔
      t.firstLineRange.Sendable ∧ t.clientColour e s defines = found := by
  have hrange : convertSemanticToken (some (ClientText.ofText s e)) (t.colour defines) =
      (convertRange (some (ClientText.ofText s e)) t.firstLineRange.reported).map fun r =>
        { t.colour defines with
          column := r.start.column
          length := (r.stop.column : Int) - r.start.column } := by
    rw [convertSemanticToken]
    simp only [Token.colour, onLine_natCast]
    rfl
  rw [hrange]
  by_cases hsend : t.firstLineRange.Sendable
  · -- Between the two ends there are the units of the first line.
    have hstart : (ClientText.ofText s e).toClient t.start =
        ⟨t.start.line, e.width (s.lineBefore t.start)⟩ :=
      toClient_of_token e hplain ht (Nat.le_refl _) (Nat.le_add_right _ _)
    have hstop : (ClientText.ofText s e).toClient t.firstLineRange.stop =
        ⟨t.start.line, e.width (s.lineBefore t.start) + e.width (firstLine t.text)⟩ := by
      rw [← Encoding.width_append, ← lineBefore_stop ht]
      exact toClient_of_token e hplain ht (Nat.le_add_right _ _) (Nat.le_refl _)
    have hlength : ((e.width (s.lineBefore t.start) + e.width (firstLine t.text) : Nat) : Int) -
        e.width (s.lineBefore t.start) = e.width (firstLine t.text) := by
      omega
    rw [convertRange_reported _ hsend]
    change Except.ok (SemanticToken.mk _ ((ClientText.ofText s e).toClient t.start).column
      (((ClientText.ofText s e).toClient t.firstLineRange.stop).column -
        ((ClientText.ofText s e).toClient t.start).column) _ _) = _ ↔ _
    rw [hstart, hstop, hlength, Except.ok.injEq]
    exact ⟨fun h => ⟨hsend, h⟩, fun h => h.2⟩
  · constructor
    · intro h
      cases hshown : convertRange (some (ClientText.ofText s e)) t.firstLineRange.reported with
      | ok shown => exact absurd (sendable_of_convertRange hshown) hsend
      | error _ =>
          rw [hshown] at h
          exact absurd h (by simp only [Except.map, reduceCtorEq, not_false_eq_true])
    · exact fun h => absurd h.1 hsend

include hplain in
theorem convertSemanticTokens_colours (extra : List Text) (found : List SemanticToken) :
    convertSemanticTokens (some (ClientText.ofText s e)) (colours extra (lexTokens s)) =
        .ok found ↔
      (∀ t ∈ lexTokens s, t.firstLineRange.Sendable) ∧ clientColours e extra s = found := by
  rw [convertSemanticTokens, colours, List.mapM_map, clientColours,
    ← forall_mem_marked]
  exact mapM_eq_ok fun m hm found =>
    convertSemanticToken_colour e hplain (mem_of_mem_marked hm) m.2

/-- Units keep the order of two places on a line, so the colours do not overlap either. -/
theorem precedes_clientColour {a b : Token} (ha : a ∈ lexTokens s) (h : a.Precedes b)
    (i j : Bool) : (a.clientColour e s i).Precedes (b.clientColour e s j) := by
  rcases h with hline | ⟨hline, hcolumn⟩
  · exact Or.inl (Int.ofNat_lt.mpr hline)
  · right
    refine ⟨congrArg Nat.cast hline, ?_⟩
    have hlength := length_firstLine_le a
    -- The first one ends where its first line ends.
    have hprefix : s.lineBefore a.firstLineRange.stop <+: s.lineBefore b.start := by
      have hstop : a.start.column + (firstLine a.text).length ≤ b.start.column := by omega
      change s.lineBefore ⟨a.start.line, _⟩ <+: s.lineBefore ⟨b.start.line, _⟩
      rw [hline]
      exact lineBefore_prefix s hstop
    have hwidth := e.width_le_of_prefix hprefix
    rw [lineBefore_stop ha, Encoding.width_append] at hwidth
    exact Int.ofNat_le.mpr hwidth

theorem clientColours_precede (extra : List Text) (s : Text) :
    (clientColours e extra s).Pairwise SemanticToken.Precedes := by
  rw [clientColours, List.pairwise_map]
  exact (pairwise_marked (lexTokens_precedes s)).imp_of_mem fun hm _ h =>
    precedes_clientColour e (mem_of_mem_marked hm) h _ _

theorem nonNegative_clientColours (extra : List Text) (s : Text) :
    ∀ colour ∈ clientColours e extra s, colour.NonNegative := by
  intro colour hcolour
  rcases List.mem_map.mp hcolour with ⟨m, _, rfl⟩
  refine ⟨Int.natCast_nonneg _, Int.natCast_nonneg _, Int.natCast_nonneg _, ?_⟩
  simp only [Token.clientColour, Token.colour]
  split <;> decide

end Client

/-- A semantic token has the place and the length of a token in the units of an encoding: it
    is on the line of the token, behind what that line has in front of the token, and covers
    the first line of it. -/
structure SemanticToken.ShowsIn (e : Encoding) (s : Text) (t : Token) (colour : SemanticToken) :
    Prop where
  line : colour.line = t.start.line
  column : ∃ shown, (Lines.ofText s).line? t.start.line = .ok shown ∧
    colour.column = e.width (shown.take t.start.column)
  length : colour.length = e.width (firstLine t.text)
  type : colour.type = semanticTypeIndex t.kind

theorem showsIn_clientColour (e : Encoding) {s : Text} {t : Token} (h : t ∈ lexTokens s)
    (defines : Bool) : (t.clientColour e s defines).ShowsIn e s t := by
  rcases firstLine_of_token h with ⟨shown, hshown, _⟩
  refine ⟨rfl, ⟨shown, hshown, ?_⟩, rfl, rfl⟩
  change ((e.width (s.lineBefore t.start) : Nat) : Int) = _
  rw [Text.lineBefore, getElem?_of_line? hshown, Option.getD_some]

/-- Where the tokens are shown is known from the text alone. -/
theorem places_of_showsIn {e : Encoding} {s : Text} {tokens : List Token}
    {found : List SemanticToken} (h : List.Forall₂ (SemanticToken.ShowsIn e s) tokens found) :
    found.map (fun colour => (colour.line, colour.column, colour.length)) =
      tokens.map fun t => ((t.start.line : Int), (e.width (s.lineBefore t.start) : Int),
        (e.width (firstLine t.text) : Int)) := by
  induction h with
  | nil => rfl
  | cons hfirst _ ih =>
      rcases hfirst.column with ⟨shown, hshown, hcolumn⟩
      rw [List.map_cons, List.map_cons, ih, hfirst.line, hfirst.length, hcolumn, Text.lineBefore,
        getElem?_of_line? hshown, Option.getD_some]

/-- A client can hold the numbers of a text that is not too long, for what a token has in
    front of it and its own characters are all in the text. -/
theorem firstLineRange_sendable {s : Text} (hlength : s.length ≤ clientLimit) {t : Token}
    (h : t ∈ lexTokens s) : t.firstLineRange.Sendable := by
  have hfirst := length_firstLine_le t
  rcases split_of_mem_lexTokens h with ⟨front, c, rest, rfl, _, rfl⟩
  let text := (readLexeme c rest).text c rest
  have htext : text <+: c :: rest := Reading.isPrefix_text _ c rest
  have hwidth : (firstLine text).length ≤ (c :: rest).length := Nat.le_trans hfirst htext.length_le
  have hline := length_lines_le front
  have hcolumn := length_lastLine_le front
  rw [List.length_append] at hlength
  change front.lines.length - 1 ≤ clientLimit ∧ (Cursor.behind front).position.column ≤
    clientLimit ∧ (Cursor.behind front).position.column + (firstLine text).length ≤ clientLimit
  rw [Cursor.position_behind]
  simp only
  omega

namespace Session

section OpenDocument

variable {s : Session} (hservice : s.service = localService) {uri : Uri} {document : OpenDocument}
  (hdoc : s.document? uri = some document) (hplain : PlainBreaks document.text)
include hservice hdoc hplain

/-- The data of an open document are the colours of its text in the client's units. -/
theorem semanticData_eq_ok {data : List Int} :
    s.semanticData uri = .ok data ↔
      (∀ t ∈ lexTokens document.text, t.firstLineRange.Sendable) ∧
        encodeSemanticTokens
          (clientColours s.encoding s.options.extraKeywords document.text) = data := by
  have hopen : s.document uri = .ok document := by
    rw [Session.document, hdoc]
  have hcolours : (s.context document).semanticTokens =
      .ok (colours s.options.extraKeywords (lexTokens document.text)) := by
    rw [Session.context, hservice]
    exact semanticTokens_localContext document.text document.uri.toList s.options
  have hconverted := convertSemanticTokens_colours s.encoding hplain s.options.extraKeywords
  have hdata : s.semanticData uri =
      ((convertSemanticTokens (some (s.clientText document))
        (colours s.options.extraKeywords (lexTokens document.text))).mapError
          SessionError.client).map encodeSemanticTokens := by
    rw [Session.semanticData, hopen]
    change Except.bind ((s.context document).semanticTokens.mapError SessionError.tokens) _ = _
    rw [hcolours]
    rfl
  rw [hdata, Session.clientText]
  cases hfound : convertSemanticTokens (some (ClientText.ofText document.text s.encoding))
      (colours s.options.extraKeywords (lexTokens document.text)) with
  | error e =>
      -- One of the tokens is out of bounds.
      constructor
      · exact fun h => nomatch h
      · rintro ⟨hsend, _⟩
        have hok := (hconverted _).mpr ⟨hsend, rfl⟩
        rw [hfound] at hok
        exact nomatch hok
  | ok found =>
      rcases (hconverted found).mp hfound with ⟨hsend, rfl⟩
      exact ⟨fun h => ⟨hsend, Except.ok.inj h⟩, fun h => congrArg Except.ok h.2⟩

/-- There is an answer if a client can hold the place of every token. -/
theorem exists_semanticData_iff :
    (∃ data, s.semanticData uri = .ok data) ↔
      ∀ t ∈ lexTokens document.text, t.firstLineRange.Sendable := by
  constructor
  · rintro ⟨data, hdata⟩
    exact ((semanticData_eq_ok hservice hdoc hplain).mp hdata).1
  · intro hsend
    exact ⟨_, (semanticData_eq_ok hservice hdoc hplain).mpr ⟨hsend, rfl⟩⟩

/-- The colouring that a client receives of an open document, if no character of it ends a line
    for the client alone. Read token by token, the numbers show the tokens of the text in their
    order, each on its line, behind as many units as the line has in front of it, and as long
    as its first line is in units. The tokens do not overlap, no number is negative, and none is
    left over. There is an answer unless the protocol cannot hold the place of a token, which
    takes a document of more characters than `clientLimit`. -/
theorem colours_match_text :
    (∀ data, s.semanticData uri = .ok data →
      List.Forall₂ (SemanticToken.ShowsIn s.encoding document.text) (lexTokens document.text)
        (decodeSemanticTokens data) ∧
      (decodeSemanticTokens data).Pairwise SemanticToken.Precedes ∧
      data.length = 5 * (lexTokens document.text).length ∧ ∀ n ∈ data, 0 ≤ n) ∧
    ((∃ data, s.semanticData uri = .ok data) ↔
      ∀ t ∈ lexTokens document.text, t.firstLineRange.Sendable) ∧
    (document.text.length ≤ clientLimit → ∃ data, s.semanticData uri = .ok data) := by
  have hexists := exists_semanticData_iff hservice hdoc hplain
  refine ⟨fun data hdata => ?_, hexists, fun hlength => ?_⟩
  · obtain ⟨_, rfl⟩ := (semanticData_eq_ok hservice hdoc hplain).mp hdata
    have hprecede := clientColours_precede s.encoding s.options.extraKeywords document.text
    have hnat := nonNegative_clientColours s.encoding s.options.extraKeywords document.text
    rw [decode_encode, mergeSort_of_precedes hprecede hnat]
    refine ⟨?_, hprecede, ?_, ?_⟩
    · exact forall₂_marked fun m hm => showsIn_clientColour _ (mem_of_mem_marked hm) m.2
    · rw [length_encode hprecede hnat, clientColours, List.length_map, length_marked]
    · refine encode_nonneg hprecede hnat fun colour hcolour => ?_
      rcases List.mem_map.mp hcolour with ⟨m, _, rfl⟩
      exact Int.natCast_nonneg _
  · exact hexists.mpr fun t ht => firstLineRange_sendable hlength ht

end OpenDocument

/-- A character of two units in front of a name, on the second line: the string with it is
    four units long, and the name starts behind them. -/
theorem colours_match_text_behind_emoji :
    let text : Text := "T\r\n\"😀\"User".toList
    let s := (Session.start localService .utf16).store "a.riddl" ⟨"a.riddl", text⟩
    s.service = localService ∧ s.document? "a.riddl" = some ⟨"a.riddl", text⟩ ∧
    PlainBreaks text ∧ text.length ≤ clientLimit ∧
    ∃ data, s.semanticData "a.riddl" = .ok data ∧
      (decodeSemanticTokens data).map (fun c => (c.line, c.column, c.length)) =
        [(0, 0, 1), (1, 0, 4), (1, 4, 4)] := by
  intro text s
  have hdoc : s.document? "a.riddl" = some ⟨"a.riddl", text⟩ := by
    change UriMap.get? (UriMap.set [] _ _) _ = _
    rw [UriMap.get?_set, if_pos rfl]
  have hplain : PlainBreaks text := by decide
  have hlength : text.length ≤ clientLimit := by decide
  have htokens : lexTokens text =
      [⟨['T'], .identifier, ⟨0, 0⟩, .int 0, .int 1⟩,
        ⟨"\"😀\"".toList, .string, ⟨1, 0⟩, .int 3, .int 6⟩,
        ⟨"User".toList, .identifier, ⟨1, 3⟩, .int 6, .int 10⟩] := by
    have hlexemes : lexemes text =
        [⟨['T'], .identifier, ⟨0, 0⟩, 0, none⟩, ⟨"\"😀\"".toList, .string, ⟨1, 0⟩, 3, none⟩,
          ⟨"User".toList, .identifier, ⟨1, 3⟩, 6, none⟩] := by
      decide +kernel
    rw [lexTokens, hlexemes]
    rfl
  rcases colours_match_text (s := s) rfl hdoc hplain with ⟨hright, _, hexists⟩
  rcases hexists hlength with ⟨data, hdata⟩
  refine ⟨rfl, hdoc, hplain, hlength, data, hdata, ?_⟩
  rw [places_of_showsIn (hright data hdata).1]
  change (lexTokens text).map _ = _
  rw [htokens]
  rfl

end Session

end RiddlEditor
