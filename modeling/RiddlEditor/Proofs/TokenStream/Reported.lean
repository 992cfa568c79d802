import Mathlib.Data.List.Forall2
import RiddlEditor.TokenStream

/-!
# What becomes of a reported token

A reported token is usable if it has a text and a place that counts from one. What it becomes
then is told by `ServiceToken.Becomes`: a token with this text, one line and one column less,
the kind that was reported, and the offsets as they were reported, unless the end offset is the
smaller one.

Nothing about a token that is not usable matters, so it may as well not have been reported
(`usableTokens_filter`). A usable token can still be in the way: its offsets are compared and its
kind is written out, and if one of this is not possible, there is no stream at all
(`usableTokens_eq_error`). Where all usable tokens can be read, they become tokens one by one
(`usableTokens_eq_ok`).

## Main definitions

* `ServiceToken.place?`, `ServiceToken.isPlaced`: The reported line and column.
* `ServiceToken.isUsable`: Whether a reported token is a token of a document.
* `ServiceLocation.Reversed`, `ServiceLocation.Comparable`: What the offsets may be like.
* `ServiceToken.IsReadable`, `ServiceToken.Fails`: Whether a usable token is in the way, and how.
* `ServiceToken.Becomes`: A reported token and the token that it becomes.
* `ServiceToken.token?`: The token that a reported token becomes, if there is one.
* `ReadableTokens`, `FirstFails`: No token is in the way, and the first one that is.
* `Service.Delivers`: The tokens that a service reports for a text.
* `Service.reporting`: A service that reports the same tokens for every text.

## Theorems

* `toToken?_cases`: The three fates of a reported token.
* `exists_firstFails`: Either no token is in the way or there is a first one.
* `usableTokens_eq_ok`, `usableTokens_eq_error`: When there are tokens and when there are none.
* `forall₂_becomes`: The tokens are the usable ones among those reported.
* `tokenizeDocument_of_delivers`, `tokenizeDocument_of_not_delivers`: The tokens of a document.
-/

namespace RiddlEditor

/-- The line and the column that a token is reported at, if both are whole numbers. -/
def ServiceToken.place? (raw : ServiceToken) : Option (Int × Int) := do
  let location ← raw.location
  let line ← location.line.integer?
  let column ← location.column.integer?
  return (line, column)

/-- Whether a token is reported at a line and a column that count from one. -/
def ServiceToken.isPlaced (raw : ServiceToken) : Bool :=
  raw.place?.any fun (line, column) => 1 ≤ line ∧ 1 ≤ column

/-- Whether a reported token is a token of a document: it has a text and a place. -/
def ServiceToken.isUsable (raw : ServiceToken) : Bool :=
  match raw.text with
  | .text _ => raw.isPlaced
  | _ => false

/-- Both offsets are reported, and the end offset is the smaller one. -/
def ServiceLocation.Reversed (l : ServiceLocation) : Prop :=
  l.offsetOrNull ≠ .null ∧ l.endOffsetOrNull ≠ .null ∧
    l.endOffsetOrNull.less? l.offsetOrNull = some true

/-- An offset is missing, or the two offsets can be compared. -/
def ServiceLocation.Comparable (l : ServiceLocation) : Prop :=
  l.offsetOrNull = .null ∨ l.endOffsetOrNull = .null ∨
    (l.endOffsetOrNull.less? l.offsetOrNull).isSome = true

/-- The offsets of a reported token can be compared, if it has any. -/
def ServiceToken.HasComparableOffsets (raw : ServiceToken) : Prop :=
  ∀ l, raw.location = some l → l.Comparable

/-- What a usable token needs to become one: its offsets can be compared, and its kind can be
    written out. -/
structure ServiceToken.IsReadable (raw : ServiceToken) : Prop where
  offsets : raw.HasComparableOffsets
  kind : raw.kind.hasLongInteger = false

/-- Why a usable token does not become one. The kind is looked at behind the offsets. -/
inductive ServiceToken.Fails (raw : ServiceToken) : TokenError → Prop where
  | offsets (h : ¬raw.HasComparableOffsets) : Fails raw .incomparableOffsets
  | kind (hoffsets : raw.HasComparableOffsets) (h : raw.kind.hasLongInteger = true) :
      Fails raw .unwritableKind

/-- A reported token and the token that it becomes. -/
inductive ServiceToken.Becomes : ServiceToken → Token → Prop where
  /-- The offsets stay. -/
  | whole {text : Text} {v : Value} {kind : TokenKind} {l : ServiceLocation} {p : Position}
      (hkind : TokenKind.ofValue? v = some kind) (hline : l.line.integer? = some (p.line + 1))
      (hcolumn : l.column.integer? = some (p.column + 1)) (hoffsets : ¬l.Reversed) :
      Becomes ⟨.text text, v, some l⟩ ⟨text, kind, p, l.offsetOrNull, l.endOffsetOrNull⟩
  /-- The end offset is dropped. -/
  | cut {text : Text} {v : Value} {kind : TokenKind} {l : ServiceLocation} {p : Position}
      (hkind : TokenKind.ofValue? v = some kind) (hline : l.line.integer? = some (p.line + 1))
      (hcolumn : l.column.integer? = some (p.column + 1)) (hoffsets : l.Reversed) :
      Becomes ⟨.text text, v, some l⟩ ⟨text, kind, p, l.offsetOrNull, .null⟩

/-- The token that a reported token becomes, if there is one. -/
def ServiceToken.token? (raw : ServiceToken) : Option Token :=
  raw.toToken?.toOption.join

/-- The tokens that a service reports for a text. It reports none if it fails or says that it
    has not succeeded. -/
def Service.Delivers (service : Service) (text origin : Text) (raws : List ServiceToken) : Prop :=
  ∃ result, service.tokenize text origin = .ok result ∧ result.succeeded = true ∧
    result.tokens = raws

/-- A service that reports the same tokens for every text and finds nothing in it. -/
def Service.reporting (raws : List ServiceToken) : Service where
  tokenize := fun _ _ => .ok ⟨true, raws, []⟩
  validate := fun _ _ _ => .ok ⟨true, [], none⟩

/-! ## One reported token -/

section One

variable {raw : ServiceToken} {t : Token}

theorem ServiceToken.Becomes.place?_eq (h : raw.Becomes t) :
    raw.place? = some ((t.start.line : Int) + 1, (t.start.column : Int) + 1) := by
  cases h with
  | whole _ hline hcolumn _ => simp [ServiceToken.place?, hline, hcolumn]
  | cut _ hline hcolumn _ => simp [ServiceToken.place?, hline, hcolumn]

/-- What is counted from zero is one less than what was reported. -/
theorem countedFromZero?_eq_some {v : Value} {n : Nat} :
    countedFromZero? v = some n ↔ v.integer? = some ((n : Int) + 1) := by
  cases hv : v.integer? with
  | none => simp [countedFromZero?, hv]
  | some m =>
      by_cases hm : 1 ≤ m
      · simp only [countedFromZero?, hv, if_pos hm, Option.some.injEq]
        omega
      · simp only [countedFromZero?, hv, if_neg hm, Option.some.injEq, reduceCtorEq, false_iff]
        omega

theorem countedFromZero?_eq_none {v : Value} :
    countedFromZero? v = none ↔ v.integer?.any (1 ≤ ·) = false := by
  cases hv : v.integer? with
  | none => simp [countedFromZero?, hv]
  | some m => simp [countedFromZero?, hv]

theorem isPlaced_eq (text kind : Value) (l : ServiceLocation) :
    (⟨text, kind, some l⟩ : ServiceToken).isPlaced =
      (l.line.integer?.any (1 ≤ ·) && l.column.integer?.any (1 ≤ ·)) := by
  cases hline : l.line.integer? <;> cases hcolumn : l.column.integer? <;>
    simp [ServiceToken.isPlaced, ServiceToken.place?, hline, hcolumn]

/-- Whether two offsets are reversed is known exactly if they can be compared. -/
theorem reversedOffsets?_cases (l : ServiceLocation) :
    (l.Comparable ∧ ∃ reversed, reversedOffsets? l.offsetOrNull l.endOffsetOrNull = some reversed ∧
        (reversed = true ↔ l.Reversed)) ∨
      (¬l.Comparable ∧ reversedOffsets? l.offsetOrNull l.endOffsetOrNull = none) := by
  unfold ServiceLocation.Comparable ServiceLocation.Reversed reversedOffsets?
  split
  case h_1 hoffset =>
    exact Or.inl ⟨Or.inl hoffset, false, rfl, by simp [hoffset]⟩
  case h_2 hend _ =>
    exact Or.inl ⟨Or.inr (Or.inl hend), false, rfl, by simp [hend]⟩
  case h_3 hoffset hend =>
    -- Both are there, so the comparison decides.
    rcases hless : l.endOffsetOrNull.less? l.offsetOrNull with _ | reversed
    · refine Or.inr ⟨?_, rfl⟩
      rintro (h | h | h)
      · exact hoffset h
      · exact hend h
      · exact Bool.false_ne_true h
    · refine Or.inl ⟨Or.inr (Or.inr rfl), reversed, rfl, fun h => ⟨hoffset, hend, by rw [h]⟩, ?_⟩
      exact fun h => Option.some.inj h.2.2

/-- What a token becomes whose offsets and kind can be read. -/
theorem ServiceToken.becomes {text : Text} {v : Value} {kind : TokenKind} {l : ServiceLocation}
    {p : Position} {reversed : Bool} (hkind : TokenKind.ofValue? v = some kind)
    (hline : l.line.integer? = some (p.line + 1))
    (hcolumn : l.column.integer? = some (p.column + 1)) (h : reversed = true ↔ l.Reversed) :
    ServiceToken.Becomes ⟨.text text, v, some l⟩
      ⟨text, kind, p, l.offsetOrNull, if reversed then .null else l.endOffsetOrNull⟩ := by
  cases reversed with
  | true => exact .cut hkind hline hcolumn (h.mp rfl)
  | false => exact .whole hkind hline hcolumn fun hr => Bool.false_ne_true (h.mpr hr)

/-- The three fates of a reported token: it is left out, it becomes a token, or it is in the way
    of all others. -/
theorem toToken?_cases (raw : ServiceToken) :
    (raw.isUsable = false ∧ raw.toToken? = .ok none) ∨
      (raw.isUsable = true ∧ raw.IsReadable ∧
        ∃ t, raw.Becomes t ∧ raw.toToken? = .ok (some t)) ∨
      (raw.isUsable = true ∧ ∃ e, raw.Fails e ∧ raw.toToken? = .error e) := by
  rcases raw with ⟨text, v, _ | l⟩
  · -- Without a location there is no place.
    refine Or.inl ⟨?_, rfl⟩
    cases text <;> rfl
  cases text with
  | text text =>
      have hoffsets : (⟨.text text, v, some l⟩ : ServiceToken).HasComparableOffsets ↔
          l.Comparable :=
        ⟨fun h => h l rfl, fun h _ hl => Option.some.inj hl ▸ h⟩
      have husable : (⟨.text text, v, some l⟩ : ServiceToken).isUsable =
          (l.line.integer?.any (1 ≤ ·) && l.column.integer?.any (1 ≤ ·)) := isPlaced_eq _ v l
      simp only [husable, ServiceToken.toToken?]
      cases hline : countedFromZero? l.line with
      | none => exact Or.inl ⟨by rw [countedFromZero?_eq_none.mp hline, Bool.false_and], rfl⟩
      | some line =>
          cases hcolumn : countedFromZero? l.column with
          | none => exact Or.inl ⟨by rw [countedFromZero?_eq_none.mp hcolumn, Bool.and_false], rfl⟩
          | some column =>
              rw [countedFromZero?_eq_some] at hline hcolumn
              have hplaced :
                  (l.line.integer?.any (1 ≤ ·) && l.column.integer?.any (1 ≤ ·)) = true := by
                simp only [hline, hcolumn, Option.any_some, Bool.and_eq_true, decide_eq_true_eq]
                omega
              -- The place is there, so the offsets decide, and then the kind.
              refine Or.inr ?_
              rcases reversedOffsets?_cases l with ⟨hc, reversed, h, hreversed⟩ | ⟨hc, h⟩
              · simp only [h]
                cases hkind : TokenKind.ofValue? v with
                | none =>
                    refine Or.inr ⟨hplaced, _, .kind (hoffsets.mpr hc) ?_, rfl⟩
                    exact TokenKind.ofValue?_eq_none_iff.mp hkind
                | some kind =>
                    refine Or.inl ⟨hplaced, ⟨hoffsets.mpr hc, ?_⟩, _, ?_, rfl⟩
                    · refine Bool.eq_false_iff.mpr fun hlong => Option.some_ne_none kind ?_
                      exact hkind.symm.trans (TokenKind.ofValue?_eq_none_iff.mpr hlong)
                    · exact ServiceToken.becomes (p := ⟨line, column⟩) hkind hline hcolumn hreversed
              · simp only [h]
                exact Or.inr ⟨hplaced, _, .offsets (mt hoffsets.mp hc), rfl⟩
  | _ => exact Or.inl ⟨rfl, rfl⟩

/-- A token that can be read is not in the way. -/
theorem ServiceToken.Fails.not_isReadable {e : TokenError} (h : raw.Fails e) :
    ¬raw.IsReadable := by
  intro hreadable
  cases h with
  | offsets h => exact h hreadable.offsets
  | kind _ h => exact Bool.false_ne_true (hreadable.kind.symm.trans h)

/-- A token is in the way in one manner at most. -/
theorem ServiceToken.Fails.eq {e e' : TokenError} (h : raw.Fails e) (h' : raw.Fails e') :
    e = e' := by
  cases h with
  | offsets h => cases h' with
    | offsets _ => rfl
    | kind hoffsets _ => exact absurd hoffsets h
  | kind hoffsets _ => cases h' with
    | offsets h' => exact absurd hoffsets h'
    | kind _ _ => rfl

/-- What becomes of a usable token that is in the way. -/
theorem toToken?_of_fails {e : TokenError} (husable : raw.isUsable = true) (h : raw.Fails e) :
    raw.toToken? = .error e := by
  rcases toToken?_cases raw with ⟨hnot, _⟩ | ⟨_, hreadable, _⟩ | ⟨_, e', h', hraw⟩
  · exact absurd (hnot.symm.trans husable) Bool.false_ne_true
  · exact absurd hreadable h.not_isReadable
  · rw [hraw, h.eq h']

theorem token?_of_ok {found : Option Token} (h : raw.toToken? = .ok found) :
    raw.token? = found := by
  rw [ServiceToken.token?, h]
  rfl

end One

/-! ## All reported tokens -/

section All

variable {raws : List ServiceToken}

/-- All usable tokens can be read. -/
def ReadableTokens (raws : List ServiceToken) : Prop :=
  ∀ raw ∈ raws, raw.isUsable = true → raw.IsReadable

/-- The first usable token that cannot be read is in the way, and how. -/
def FirstFails (raws : List ServiceToken) (e : TokenError) : Prop :=
  ∃ front raw rest, raws = front ++ raw :: rest ∧ ReadableTokens front ∧
    raw.isUsable = true ∧ raw.Fails e

theorem ReadableTokens.tail {raw : ServiceToken} (h : ReadableTokens (raw :: raws)) :
    ReadableTokens raws :=
  fun other hother => h other (List.mem_cons_of_mem raw hother)

/-- Either no token is in the way or there is a first one. -/
theorem exists_firstFails (raws : List ServiceToken) :
    ReadableTokens raws ∨ ∃ e, FirstFails raws e := by
  induction raws with
  | nil => exact Or.inl fun raw hraw => absurd hraw List.not_mem_nil
  | cons raw raws ih =>
      have hcons {others : List ServiceToken} (hraw : raw.isUsable = true → raw.IsReadable)
          (h : ReadableTokens others) : ReadableTokens (raw :: others) := by
        intro other hother
        rcases List.mem_cons.mp hother with rfl | hother
        · exact hraw
        · exact h other hother
      have hgo (hraw : raw.isUsable = true → raw.IsReadable) :
          ReadableTokens (raw :: raws) ∨ ∃ e, FirstFails (raw :: raws) e := by
        rcases ih with hall | ⟨e, front, other, rest, rfl, hfront, hother⟩
        · exact Or.inl (hcons hraw hall)
        · exact Or.inr ⟨e, raw :: front, other, rest, rfl, hcons hraw hfront, hother⟩
      rcases toToken?_cases raw with ⟨hnot, _⟩ | ⟨_, hreadable, _⟩ | ⟨husable, e, hfails, _⟩
      · exact hgo fun husable => absurd (hnot.symm.trans husable) Bool.false_ne_true
      · exact hgo fun _ => hreadable
      · refine Or.inr ⟨e, [], raw, raws, rfl, ?_, husable, hfails⟩
        exact fun other hother => absurd hother List.not_mem_nil

/-- One more reported token: what becomes of it comes first. -/
theorem usableTokens_cons {raw : ServiceToken} {found : Option Token}
    (h : raw.toToken? = .ok found) :
    usableTokens (raw :: raws) = (usableTokens raws).map (found.toList ++ ·) := by
  rw [usableTokens, h]
  cases usableTokens raws <;> rfl

/-- Where all usable tokens can be read, there are tokens. -/
theorem usableTokens_eq_ok (h : ReadableTokens raws) :
    usableTokens raws = .ok (raws.filterMap ServiceToken.token?) := by
  induction raws with
  | nil => rfl
  | cons raw raws ih =>
      rcases toToken?_cases raw with ⟨_, hraw⟩ | ⟨_, _, t, _, hraw⟩ | ⟨husable, _, hfails, _⟩
      · rw [usableTokens_cons hraw, ih h.tail, List.filterMap_cons_none (token?_of_ok hraw)]
        rfl
      · rw [usableTokens_cons hraw, ih h.tail, List.filterMap_cons_some (token?_of_ok hraw)]
        rfl
      · exact absurd (h raw List.mem_cons_self husable) hfails.not_isReadable

/-- The first usable token that cannot be read is in the way of all others, those in front of it
    included. -/
theorem usableTokens_eq_error {e : TokenError} (h : FirstFails raws e) :
    usableTokens raws = .error e := by
  rcases h with ⟨front, raw, rest, rfl, hfront, husable, hfails⟩
  induction front with
  | nil =>
      rw [List.nil_append, usableTokens, toToken?_of_fails husable hfails]
      rfl
  | cons first front ih =>
      -- What comes first becomes a token or is left out, and that is no use.
      rcases toToken?_cases first with ⟨_, hraw⟩ | ⟨_, _, t, _, hraw⟩ | ⟨hfirst, _, hfails', _⟩
      · rw [List.cons_append, usableTokens_cons hraw, ih hfront.tail]
        rfl
      · rw [List.cons_append, usableTokens_cons hraw, ih hfront.tail]
        rfl
      · exact absurd (hfront first List.mem_cons_self hfirst) hfails'.not_isReadable

/-- The tokens are the usable ones among those reported, one by one. -/
theorem forall₂_becomes (h : ReadableTokens raws) :
    List.Forall₂ ServiceToken.Becomes (raws.filter ServiceToken.isUsable)
      (raws.filterMap ServiceToken.token?) := by
  induction raws with
  | nil => exact .nil
  | cons raw raws ih =>
      rcases toToken?_cases raw with
        ⟨hunusable, hraw⟩ | ⟨husable, _, t, ht, hraw⟩ | ⟨husable, _, hfails, _⟩
      · rw [List.filterMap_cons_none (token?_of_ok hraw),
          List.filter_cons_of_neg (by rw [hunusable]; exact Bool.false_ne_true)]
        exact ih h.tail
      · rw [List.filterMap_cons_some (token?_of_ok hraw), List.filter_cons_of_pos husable]
        exact .cons ht (ih h.tail)
      · exact absurd (h raw List.mem_cons_self husable) hfails.not_isReadable

end All

/-! ## The tokens of a document -/

section Document

variable {service : Service} {text origin : Text} {raws : List ServiceToken}

/-- The tokens of a document are those that the service reports, in order. -/
theorem tokenizeDocument_of_delivers (h : service.Delivers text origin raws) :
    tokenizeDocument service text origin =
      (usableTokens raws).map fun tokens => some (TokenStream.ofTokens tokens) := by
  rcases h with ⟨result, hresult, hsucceeded, rfl⟩
  rw [tokenizeDocument, hresult]
  simp only [hsucceeded, if_true]
  cases usableTokens result.tokens <;> rfl

theorem tokenizeDocument_of_not_delivers (h : ∀ raws, ¬service.Delivers text origin raws) :
    tokenizeDocument service text origin = .ok none := by
  rw [tokenizeDocument]
  split
  case h_1 => rfl
  case h_2 result hresult =>
    refine if_neg fun hsucceeded => ?_
    exact h result.tokens ⟨result, hresult, hsucceeded, rfl⟩

/-- A service reports one list of tokens at most. -/
theorem Service.Delivers.eq {others : List ServiceToken} (h : service.Delivers text origin raws)
    (h' : service.Delivers text origin others) : others = raws := by
  rcases h with ⟨result, hresult, _, rfl⟩
  rcases h' with ⟨result', hresult', _, rfl⟩
  rw [Except.ok.inj (hresult.symm.trans hresult')]

theorem Service.delivers_reporting (raws : List ServiceToken) :
    (Service.reporting raws).Delivers text origin raws :=
  ⟨⟨true, raws, []⟩, rfl, rfl, rfl⟩

end Document

end RiddlEditor
