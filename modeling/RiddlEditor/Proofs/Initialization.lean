import Mathlib.Algebra.Group.Int.Defs
import RiddlEditor.Options
import RiddlEditor.Proofs.Diagnostic.Overflow
import RiddlEditor.Proofs.Text.Lowercase

/-!
# The settings of a client that starts

Whatever a client sends, the server is meant to start. What is no object counts as nothing, and
settings that cannot be used are left aside for the defaults: a text that is no number, a negative
delay, keywords that are no list.

One error of the conversions is not left aside, and it ends the start. A number can be too large
to be converted: an integer for the delay, which has to be a floating point number, or an infinite
floating point number for the distance, which has to be an integer. The settings are looked at in a
fixed order, so it depends on those in front of it whether such a number is reached (`Overflows`).

Settings that can be used give what they say: the number that the distance is converted to is not
negative, and the keywords are in lower case, also if that of a letter is more than one character.

## Main definitions

* `Options.Overflows`: A number that is too large is reached.
* `Options.FollowsFrom`: The settings that the fields of an object give.

## Theorems

* `Options.foreseen_or_overflows`: All other errors are foreseen.
* `Options.followsFrom_of_ofFields`: What settings give.
* `initialization_gives_options`: The settings of a client that starts.
* `initialization_fails_on_huge_delay`: A client that starts the server with an error.
-/

namespace RiddlEditor

namespace Options

/-- The setting for control sequences. -/
def stripSetting (fields : List (Text × Value)) : Value :=
  (Value.field? fields "stripFormatting").getD (.bool true)

/-- The setting for the delay. -/
def delaySetting (fields : List (Text × Value)) : Value :=
  (Value.field? fields "debounceDelay").getD (.float defaultDelay)

/-- The setting for the distance of names. -/
def backoffSetting (fields : List (Text × Value)) : Value :=
  (Value.field? fields "identifierSearchBackoff").getD (.int defaultBackoff)

/-- The setting for more keywords. -/
def keywordsSetting (fields : List (Text × Value)) : Value :=
  (Value.field? fields "extraDefinitionKeywords").getD .null

/-- A number that is too large is reached: the setting in front of it is a truth value, and it is
    an integer for the delay that no floating point number is near to, or the delay can be used
    and the distance is infinite. -/
inductive Overflows : Value → Prop where
  | delay {fields : List (Text × Value)} {strip : Bool} {n : Int}
      (hstrip : stripSetting fields = .bool strip) (hdelay : delaySetting fields = .int n)
      (hlarge : floatOverflow ≤ n.natAbs) : Overflows (.object fields)
  | backoff {fields : List (Text × Value)} {strip : Bool} {delay x : Float}
      (hstrip : stripSetting fields = .bool strip) (hdelay : toFloat (delaySetting fields) = .ok delay)
      (hbackoff : backoffSetting fields = .float x) (hdefined : x.isNaN = false)
      (hinfinite : x.isInf = true) : Overflows (.object fields)

/-- The settings that the fields of an object give. The distance is a natural number, so the
    integer that its setting is converted to is not negative. -/
structure FollowsFrom (o : Options) (fields : List (Text × Value)) : Prop where
  strip : stripSetting fields = .bool o.stripFormatting
  delay : toFloat (delaySetting fields) = .ok o.debounceDelay
  backoff : toInteger (backoffSetting fields) = .ok o.searchBackoff
  keywords : ∃ values, keywordValues (keywordsSetting fields) = .ok values ∧
    ∀ k, k ∈ o.extraKeywords ↔ ∃ v ∈ values, v.shown.lowercase = k

/-! ## Conversions -/

theorem toSwitch_eq_error {v : Value} {e : OptionsError} (h : toSwitch v = .error e) :
    e.isForeseen = true := by
  unfold toSwitch at h
  split at h
  case h_1 => exact nomatch h
  case h_2 =>
    rw [← Except.error.inj h]
    split <;> rfl

theorem toSwitch_eq_ok {v : Value} {b : Bool} (h : toSwitch v = .ok b) : v = .bool b := by
  unfold toSwitch at h
  split at h
  case h_1 => rw [Except.ok.inj h]
  case h_2 => exact nomatch h

theorem toFloat_int (n : Int) : toFloat (.int n) =
    if n.natAbs < floatOverflow then .ok (floatOfDecimal (n < 0) n.natAbs 0)
    else .error .overflow := by
  by_cases hsmall : n.natAbs < floatOverflow
  · simp only [toFloat, Value.number?, Value.integer?, Option.map_some, Number.toFloat?,
      if_pos hsmall]
  · simp only [toFloat, Value.number?, Value.integer?, Option.map_some, Number.toFloat?,
      if_neg hsmall]

theorem toFloat_eq_error {v : Value} {e : OptionsError} (h : toFloat v = .error e) :
    e.isForeseen = true ∨ e = .overflow ∧ ∃ n, v = .int n ∧ floatOverflow ≤ n.natAbs := by
  cases v with
  | float x => cases h
  | text s =>
      simp only [toFloat] at h
      split at h
      · cases h
      · exact Or.inl (Except.error.inj h ▸ rfl)
  | int n =>
      rw [toFloat_int] at h
      split at h
      case isTrue => cases h
      case isFalse hlarge =>
        exact Or.inr ⟨(Except.error.inj h).symm, n, rfl, Nat.le_of_not_lt hlarge⟩
  | bool b =>
      -- Zero and one are not too large.
      have hsmall : (if b then 1 else 0 : Int).natAbs < floatOverflow := by
        cases b <;> decide +kernel
      simp only [toFloat, Value.number?, Value.integer?, Option.map_some, Number.toFloat?,
        if_pos hsmall] at h
      cases h
  | null => exact Or.inl (Except.error.inj h ▸ rfl)
  | list _ => exact Or.inl (Except.error.inj h ▸ rfl)
  | object _ => exact Or.inl (Except.error.inj h ▸ rfl)

theorem toInteger_eq_error {v : Value} {e : OptionsError} (h : toInteger v = .error e) :
    e.isForeseen = true ∨
      e = .overflow ∧ ∃ x, v = .float x ∧ x.isNaN = false ∧ x.isInf = true := by
  cases v with
  | float x =>
      simp only [toInteger, truncated] at h
      split at h
      case isTrue => exact Or.inl (Except.error.inj h ▸ rfl)
      case isFalse hdefined =>
        split at h
        case isTrue hinfinite =>
          exact Or.inr ⟨(Except.error.inj h).symm, x, rfl, Bool.eq_false_iff.mpr hdefined,
            hinfinite⟩
        case isFalse => cases h
  | text s =>
      simp only [toInteger] at h
      split at h
      case h_1 => cases h
      case h_2 => exact Or.inl (Except.error.inj h ▸ rfl)
      case h_3 => exact Or.inl (Except.error.inj h ▸ rfl)
  | int n =>
      simp only [toInteger, Value.integer?] at h
      cases h
  | bool b =>
      simp only [toInteger, Value.integer?] at h
      cases h
  | null => exact Or.inl (Except.error.inj h ▸ rfl)
  | list _ => exact Or.inl (Except.error.inj h ▸ rfl)
  | object _ => exact Or.inl (Except.error.inj h ▸ rfl)

theorem toInteger_of_infinite {x : Float} (hdefined : x.isNaN = false) (hinfinite : x.isInf = true) :
    toInteger (.float x) = .error .overflow := by
  simp only [toInteger, truncated, hdefined, hinfinite, Bool.false_eq_true, if_false, if_true]

theorem keywordValues_eq_error {v : Value} {e : OptionsError} (h : keywordValues v = .error e) :
    e.isForeseen = true := by
  unfold keywordValues at h
  split at h
  case isTrue =>
    split at h
    case h_4 => exact Except.error.inj h ▸ rfl
    all_goals exact nomatch h
  case isFalse => exact nomatch h

theorem checked_eq_error {delay : Float} {strip : Bool} {backoff : Int} {extra : List Text}
    {e : OptionsError} (h : checked delay strip backoff extra = .error e) :
    e.isForeseen = true := by
  unfold checked at h
  split at h
  case isTrue => exact Except.error.inj h ▸ rfl
  case isFalse =>
    split at h
    case isTrue => exact Except.error.inj h ▸ rfl
    case isFalse => exact nomatch h

theorem checked_eq_ok {delay : Float} {strip : Bool} {backoff : Int} {extra : List Text}
    {o : Options} (h : checked delay strip backoff extra = .ok o) :
    0 ≤ backoff ∧ o = ⟨delay, strip, backoff.toNat, extra⟩ := by
  unfold checked at h
  split at h
  case isTrue => exact nomatch h
  case isFalse =>
    split at h
    case isTrue => exact nomatch h
    case isFalse hnonneg => exact ⟨Int.not_lt.mp hnonneg, (Except.ok.inj h).symm⟩

theorem mem_distinct {texts : List Text} {s : Text} : s ∈ distinct texts ↔ s ∈ texts := by
  induction texts with
  | nil => exact Iff.rfl
  | cons t rest ih =>
      have hfold : distinct (t :: rest) = t :: (distinct rest).filter (· != t) := rfl
      rw [hfold, List.mem_cons, List.mem_cons, List.mem_filter, ih, bne_iff_ne]
      by_cases heq : s = t
      · exact iff_of_true (Or.inl heq) (Or.inl heq)
      · exact or_congr_right (and_iff_left heq)

/-! ## Settings -/

section Fields

variable {fields : List (Text × Value)}

/-- The order in which the settings are looked at. -/
theorem ofFields_eq (fields : List (Text × Value)) : ofFields fields = (do
    let strip ← toSwitch (stripSetting fields)
    let delay ← toFloat (delaySetting fields)
    let backoff ← toInteger (backoffSetting fields)
    let extra ← keywordValues (keywordsSetting fields)
    if extra.any Value.hasLongInteger then .error .notShown
    else checked delay strip backoff (distinct (extra.map fun v => v.shown.lowercase))) := by
  rfl

/-- Every error of settings is foreseen but that of a number that is too large. -/
theorem foreseen_or_overflows {e : OptionsError} (h : ofFields fields = .error e) :
    e.isForeseen = true ∨ Overflows (.object fields) := by
  rw [ofFields_eq] at h
  -- An error is that of the first setting that cannot be used, and those in front of it can.
  rcases bind_eq_error h with h | ⟨strip, hstrip, h⟩
  · exact Or.inl (toSwitch_eq_error h)
  have hstrip := toSwitch_eq_ok hstrip
  rcases bind_eq_error h with h | ⟨delay, hdelay, h⟩
  · exact (toFloat_eq_error h).imp_right fun ⟨_, n, hn, hlarge⟩ => .delay hstrip hn hlarge
  rcases bind_eq_error h with h | ⟨backoff, _, h⟩
  · exact (toInteger_eq_error h).imp_right fun ⟨_, x, hx, hdefined, hinfinite⟩ =>
      .backoff hstrip hdelay hx hdefined hinfinite
  rcases bind_eq_error h with h | ⟨extra, _, h⟩
  · exact Or.inl (keywordValues_eq_error h)
  split at h
  case isTrue => exact Or.inl (Except.error.inj h ▸ rfl)
  case isFalse => exact Or.inl (checked_eq_error h)

theorem ofFields_of_overflows (h : Overflows (.object fields)) :
    ofFields fields = .error .overflow := by
  rw [ofFields_eq]
  cases h with
  | delay hstrip hdelay hlarge =>
      rw [hstrip, hdelay, toFloat_int, if_neg (Nat.not_lt.mpr hlarge)]
      rfl
  | backoff hstrip hdelay hbackoff hdefined hinfinite =>
      rw [hstrip, hdelay, hbackoff, toInteger_of_infinite hdefined hinfinite]
      rfl

/-- What settings give that can be used. -/
theorem followsFrom_of_ofFields {o : Options} (h : ofFields fields = .ok o) :
    o.FollowsFrom fields := by
  rw [ofFields_eq] at h
  rcases bind_eq_ok h with ⟨strip, hstrip, h⟩
  rcases bind_eq_ok h with ⟨delay, hdelay, h⟩
  rcases bind_eq_ok h with ⟨backoff, hbackoff, h⟩
  rcases bind_eq_ok h with ⟨extra, hextra, h⟩
  split at h
  case isTrue => exact nomatch h
  case isFalse =>
    rcases checked_eq_ok h with ⟨hnonneg, rfl⟩
    rw [← Int.toNat_of_nonneg hnonneg] at hbackoff
    refine ⟨toSwitch_eq_ok hstrip, hdelay, hbackoff, extra, hextra, fun k => ?_⟩
    rw [mem_distinct, List.mem_map]

end Fields

theorem followsFrom_nil : FollowsFrom defaults [] where
  strip := rfl
  delay := rfl
  backoff := rfl
  keywords := ⟨[], rfl, fun k => by simp [defaults]⟩

theorem not_overflows_nil : ¬Overflows (.object []) := by
  intro h
  cases h with
  | delay _ hdelay _ => exact nomatch hdelay
  | backoff _ _ hbackoff _ _ => exact nomatch hbackoff

/-- The keywords that settings give are in lower case. -/
theorem FollowsFrom.lowercase_eq {o : Options} {fields : List (Text × Value)}
    (h : o.FollowsFrom fields) {k : Text} (hk : k ∈ o.extraKeywords) : k.lowercase = k := by
  rcases h.keywords with ⟨_, _, hkeywords⟩
  rcases (hkeywords k).mp hk with ⟨v, _, rfl⟩
  exact lowercase_lowercase v.shown

/-! ## The start -/

section Start

variable {v : Value} {fields : List (Text × Value)}

/-- No settings are as good as none that are looked at. -/
theorem ofValue_eq_ok {o : Options} (h : ofValue (.object fields) = .ok o) :
    o.FollowsFrom fields := by
  cases fields with
  | nil =>
      obtain rfl := Except.ok.inj h
      exact followsFrom_nil
  | cons field rest => exact followsFrom_of_ofFields h

theorem ofValue_eq_error {e : OptionsError} (h : ofValue (.object fields) = .error e) :
    e.isForeseen = true ∨ Overflows (.object fields) := by
  cases fields with
  | nil => exact nomatch h
  | cons field rest => exact foreseen_or_overflows h

theorem ofInitialization_of_overflows (h : Overflows v) :
    ofInitialization v = .error .overflow := by
  have hobject : ∃ fields, v = .object fields := by
    cases h with
    | delay => exact ⟨_, rfl⟩
    | backoff => exact ⟨_, rfl⟩
  rcases hobject with ⟨fields, rfl⟩
  cases fields with
  | nil => exact absurd h not_overflows_nil
  | cons field rest =>
      have herror : ofValue (.object (field :: rest)) = .error .overflow :=
        ofFields_of_overflows h
      simp only [ofInitialization, herror]
      rfl

theorem ofInitialization_of_not_object (h : ∀ fields, v ≠ .object fields) :
    ofInitialization v = .ok defaults := by
  cases v with
  | object fields => exact absurd rfl (h fields)
  | _ => rfl

end Start

end Options

/-- The settings of a client that starts. If a number that is too large is reached, the server
    fails with the error of its conversion. Everything else gives settings. They are the defaults
    for what is no object and for what cannot be used. For other objects they are what the fields
    give, so that the distance is the integer that its setting is converted to, which is not
    negative. Keywords are in lower case.

    A value that has to be shown for an error may be nested without a limit here. Where there is a
    limit to that, a value beyond it is one more way to fail, which is not considered. -/
theorem initialization_gives_options (v : Value) :
    (Options.Overflows v → Options.ofInitialization v = .error .overflow) ∧
    (¬Options.Overflows v → ∃ o, Options.ofInitialization v = .ok o ∧
      (((∀ fields, v ≠ .object fields) ∨ ∃ e, Options.ofValue v = .error e) ∧ o = .defaults ∨
        ∃ fields, v = .object fields ∧ Options.ofValue v = .ok o ∧ o.FollowsFrom fields) ∧
      ∀ k ∈ o.extraKeywords, k.lowercase = k) := by
  refine ⟨Options.ofInitialization_of_overflows, fun h => ?_⟩
  have hdefaults : ∀ k ∈ Options.defaults.extraKeywords, k.lowercase = k :=
    fun k hk => absurd hk List.not_mem_nil
  by_cases hobject : ∃ fields, v = .object fields
  · rcases hobject with ⟨fields, rfl⟩
    cases hvalue : Options.ofValue (.object fields) with
    | ok o =>
        have hfollows := Options.ofValue_eq_ok hvalue
        refine ⟨o, ?_, Or.inr ⟨fields, rfl, rfl, hfollows⟩, fun k => hfollows.lowercase_eq⟩
        simp only [Options.ofInitialization, hvalue]
    | error e =>
        -- Only a number that is too large is not foreseen.
        have hforeseen := (Options.ofValue_eq_error hvalue).resolve_right h
        refine ⟨.defaults, ?_, Or.inl ⟨Or.inr ⟨e, rfl⟩, rfl⟩, hdefaults⟩
        simp only [Options.ofInitialization, hvalue, hforeseen, if_true]
  · have hnot : ∀ fields, v ≠ .object fields := fun fields heq => hobject ⟨fields, heq⟩
    exact ⟨.defaults, Options.ofInitialization_of_not_object hnot, Or.inl ⟨Or.inl hnot, rfl⟩,
      hdefaults⟩

/-- A distance as a text, a keyword with a capital I with a dot, and a delay that is too large. -/
theorem initialization_gives_converted_options :
    let settings : Value := .object [("identifierSearchBackoff".toList, .text "12".toList),
      ("extraDefinitionKeywords".toList, .text "\u0130NN".toList)]
    let huge : Value := .object [("debounceDelay".toList, .int (10 ^ 309))]
    (¬Options.Overflows settings ∧ ∃ o, Options.ofInitialization settings = .ok o ∧
      ∀ k ∈ o.extraKeywords, k.lowercase = k) ∧
    Options.Overflows huge ∧ Options.ofInitialization huge = .error .overflow := by
  intro settings huge
  have hsettings : ¬Options.Overflows settings := by
    intro h
    simp only [settings] at h
    cases h with
    | delay _ hdelay _ => exact nomatch hdelay
    | backoff _ _ hbackoff _ _ => exact nomatch hbackoff
  have hstrip : Options.stripSetting [("debounceDelay".toList, .int (10 ^ 309))] = .bool true := rfl
  have hhuge : Options.Overflows huge := .delay hstrip rfl (by decide +kernel)
  rcases (initialization_gives_options settings).2 hsettings with ⟨o, ho, _, hkeywords⟩
  exact ⟨⟨hsettings, o, ho, hkeywords⟩, hhuge, (initialization_gives_options huge).1 hhuge⟩

/-- A client that starts the server with an error: a delay that no floating point number is near
    to. -/
theorem initialization_fails_on_huge_delay :
    let v : Value := .object [("debounceDelay".toList, .int (10 ^ 309))]
    Options.ofInitialization v = .error .overflow ∧
      ¬∃ o, Options.ofInitialization v = .ok o := by
  intro v
  have hlarge : floatOverflow ≤ (10 ^ 309 : Int).natAbs := by decide +kernel
  have hstrip : Options.stripSetting [("debounceDelay".toList, .int (10 ^ 309))] = .bool true := rfl
  have hfails : Options.ofInitialization v = .error .overflow :=
    Options.ofInitialization_of_overflows (.delay hstrip rfl hlarge)
  refine ⟨hfails, ?_⟩
  rintro ⟨o, ho⟩
  exact nomatch hfails.symm.trans ho

end RiddlEditor
