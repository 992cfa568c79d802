import RiddlEditor.Decimal.Numeral
import RiddlEditor.Text.Lowercase
import RiddlEditor.Value

/-!
# Options

What a user can set: how long to wait after a change before validating, whether
messages come without control sequences, how far in front of a reported column a name
is looked for, and which more keywords introduce definitions.

A client sends settings as it likes, so each of them is converted: numbers may be
given as texts, and a single keyword may stand for a list of one. The settings are
looked at in a fixed order and the first one that cannot be used decides the error.
When a client starts the server, settings that cannot be used are as good as none. Only
a number that is too large to be converted ends the start with an error.

## Main definitions

* `Options`: The settings.
* `OptionsError`: Why settings cannot be used.
* `Options.checked`: Settings whose numbers are in order.
* `Options.ofValue`: The settings that a value gives.
* `Options.ofInitialization`: The settings of a client that starts.
-/

namespace RiddlEditor

/-- The settings of the analysis. -/
structure Options where
  debounceDelay : Float
  stripFormatting : Bool
  searchBackoff : Nat
  extraKeywords : List Text

/-- Why settings cannot be used. -/
inductive OptionsError where
  /-- The setting for control sequences is no truth value. -/
  | stripNotBoolean (v : Value)
  /-- A text gives no floating point number. -/
  | malformedFloat (s : Text)
  /-- A text gives no integer. -/
  | malformedInteger (s : Text)
  /-- The numeral of an integer has too many digits. -/
  | integerTooLong (digits : Nat)
  /-- A value that has to be shown has an integer with too many digits. -/
  | notShown
  /-- The undefined number is no integer. -/
  | undefinedInteger
  /-- A number is too large for the other kind of number. -/
  | overflow
  /-- A setting is of a type that cannot be converted. -/
  | illTyped
  /-- The settings are no object. -/
  | notObject
  /-- The delay is negative. -/
  | negativeDelay
  /-- The distance for names is negative. -/
  | negativeBackoff

namespace OptionsError

/-- How much of a quoted numeral a message shows. -/
def quotedLimit : Nat := 200

/-- The wording of an error, where it has one. -/
def message? : OptionsError → Option Text
  | stripNotBoolean v => some ("stripFormatting must be a boolean, got ".toList ++ v.render)
  | malformedFloat s => some ("could not convert string to float: ".toList ++ s.quoted)
  | malformedInteger s =>
    some ("invalid literal for int() with base 10: ".toList ++ s.quoted.take quotedLimit)
  | integerTooLong digits =>
    some ("Exceeds the limit (4300 digits) for integer string conversion: value has ".toList ++
      Text.ofNat digits ++
      " digits; use sys.set_int_max_str_digits() to increase the limit".toList)
  | notShown => some Value.longIntegerMessage
  | undefinedInteger => some "cannot convert float NaN to integer".toList
  | overflow => none
  | illTyped => none
  | notObject => none
  | negativeDelay => some "debounce_delay cannot be negative".toList
  | negativeBackoff => some "identifier_search_backoff cannot be negative".toList

/-- Whether a starting client is given the defaults after an error. Only a number that
    is too large is not foreseen there. -/
def isForeseen : OptionsError → Bool
  | overflow => false
  | notObject => false
  | _ => true

end OptionsError

namespace Options

/-- The delay without settings, in seconds. -/
def defaultDelay : Float := 0.5

/-- The distance for names without settings, in columns. -/
def defaultBackoff : Nat := 8

/-- The settings of a user who has set nothing. -/
def defaults : Options :=
  ⟨defaultDelay, true, defaultBackoff, []⟩

/-- Settings whose numbers are in order: neither may be negative. -/
def checked (delay : Float) (strip : Bool) (backoff : Int) (extra : List Text) :
    Except OptionsError Options :=
  if delay < 0.0 then .error .negativeDelay
  else if backoff < 0 then .error .negativeBackoff
  else .ok ⟨delay, strip, backoff.toNat, extra⟩

/-- A value as a truth value. Any other value is shown in the error. -/
def toSwitch : Value → Except OptionsError Bool
  | .bool b => .ok b
  | v => .error (if v.hasLongInteger then .notShown else .stripNotBoolean v)

/-- A value as a floating point number. -/
def toFloat : Value → Except OptionsError Float
  | .float x => .ok x
  | .text s =>
    match s.toFloat? with
    | some x => .ok x
    | none => .error (.malformedFloat s)
  | v =>
    match v.number? with
    | none => .error .illTyped
    | some n =>
      match n.toFloat? with
      | some x => .ok x
      | none => .error .overflow

/-- A floating point number without its fraction. -/
def truncated (x : Float) : Except OptionsError Int :=
  if x.isNaN then .error .undefinedInteger
  else if x.isInf then .error .overflow
  else
    let b := Binary.ofFloat x
    let magnitude := b.mantissa * powerOfTwo b.exponent.toNat / powerOfTwo (-b.exponent).toNat
    .ok (if x < 0.0 then -(magnitude : Int) else magnitude)

/-- A value as an integer. -/
def toInteger : Value → Except OptionsError Int
  | .float x => truncated x
  | .text s =>
    match s.toInteger with
    | .ok n => .ok n
    | .error .malformed => .error (.malformedInteger s)
    | .error (.tooLong digits) => .error (.integerTooLong digits)
  | v =>
    match v.integer? with
    | some n => .ok n
    | none => .error .illTyped

/-- The keywords that a value gives: the items of a list, the keys of an object, or one
    text. A value that does not count as given gives none. -/
def keywordValues (v : Value) : Except OptionsError (List Value) :=
  if v.isTrue then
    match v with
    | .text s => .ok [.text s]
    | .list items => .ok items
    | .object fields => .ok (fields.map fun field => .text field.1)
    | _ => .error .illTyped
  else .ok []

/-- A list without repeated texts: the first of each is kept. -/
def distinct (texts : List Text) : List Text :=
  texts.foldr (fun s others => s :: others.filter (· != s)) []

/-- The additional keywords in the order of their code points. -/
def sortedKeywords (options : Options) : List Text :=
  options.extraKeywords.mergeSort fun s t => !decide (t < s)

/-- The settings in the fields of an object. A field that is missing has its default,
    and fields that are not known do not count. -/
def ofFields (fields : List (Text × Value)) : Except OptionsError Options := do
  let strip ← toSwitch ((Value.field? fields "stripFormatting").getD (.bool true))
  let delay ← toFloat ((Value.field? fields "debounceDelay").getD (.float defaultDelay))
  let backoff ← toInteger ((Value.field? fields "identifierSearchBackoff").getD (.int defaultBackoff))
  let extra ← keywordValues ((Value.field? fields "extraDefinitionKeywords").getD .null)
  if extra.any Value.hasLongInteger then .error .notShown
  else checked delay strip backoff (distinct (extra.map fun v => v.shown.lowercase))

/-- The settings that a value gives. A value that does not count as given gives the
    defaults. -/
def ofValue (v : Value) : Except OptionsError Options :=
  if v.isTrue then
    match v with
    | .object fields => ofFields fields
    | _ => .error .notObject
  else .ok defaults

/-- The settings of a client that starts. What is no object counts as nothing, and so do
    settings with a foreseen error. -/
def ofInitialization (v : Value) : Except OptionsError Options :=
  match v with
  | .object _ =>
    match ofValue v with
    | .ok options => .ok options
    | .error e => if e.isForeseen then .ok defaults else .error e
  | _ => .ok defaults

end Options

end RiddlEditor
