import RiddlEditor.Number
import RiddlEditor.Text.Quoted

/-!
# Loose values

A field that comes from outside may be missing or hold anything: a compiler
service written by someone else reports its locations and kinds as it likes, and
a client sends whatever settings its user wrote. Such a field is a `Value` until
something needs it to be a number or a text.

What is held here is data. A value of a class that decides for itself how it is shown,
compared or calculated with is not among these values.

A truth value counts as the number zero or one. Numbers of both kinds compare by
their exact values, texts by code points and lists item by item; no other two
values can be compared.

## Main definitions

* `Value`: The values of a field.
* `Value.render`: A value as an error message shows it.
* `Value.shown`: The same, but a text stands for itself.
* `Value.hasLongInteger`: Whether a value is not shown because of its digits.
* `Value.longIntegerMessage`: What is said about such a value.
* `Value.isTrue`: Whether a value counts as given.
* `Value.integer?`, `Value.number?`: The number that a value is.
* `Value.equal`: Whether two values are the same up to the kind of number.
* `Value.less?`: The order of two values, if they have one.
-/

namespace RiddlEditor

/-- The value of a field that may hold anything. The keys of an object are distinct
    and in the order they were given in. -/
inductive Value where
  | null
  | bool (b : Bool)
  | int (n : Int)
  | float (x : Float)
  | text (s : Text)
  | list (items : List Value)
  | object (fields : List (Text × Value))
  deriving Inhabited

namespace Value

mutual

/-- A value as an error message shows it. -/
def render : Value → Text
  | .null => "None".toList
  | .bool true => "True".toList
  | .bool false => "False".toList
  | .int n => Text.ofInt n
  | .float x => numberLayout.render x
  | .text s => s.quoted
  | .list items => '[' :: renderItems items ++ [']']
  | .object fields => '\x7b' :: renderFields fields ++ ['\x7d']

/-- The items of a list, with commas between them. -/
def renderItems : List Value → Text
  | [] => []
  | [v] => v.render
  | v :: rest => v.render ++ [',', ' '] ++ renderItems rest

/-- The fields of an object, with commas between them. -/
def renderFields : List (Text × Value) → Text
  | [] => []
  | [(key, v)] => key.quoted ++ [':', ' '] ++ v.render
  | (key, v) :: rest => key.quoted ++ [':', ' '] ++ v.render ++ [',', ' '] ++ renderFields rest

end

mutual

/-- Whether an integer in a value has too many digits to be written out. -/
def hasLongInteger : Value → Bool
  | .int n => integerDigitLimit < (Text.ofNat n.natAbs).length
  | .list items => haveLongInteger items
  | .object fields => fieldsHaveLongInteger fields
  | _ => false

/-- Whether an item of a list has an integer with too many digits. -/
def haveLongInteger : List Value → Bool
  | [] => false
  | v :: rest => v.hasLongInteger || haveLongInteger rest

/-- Whether a field of an object has an integer with too many digits. -/
def fieldsHaveLongInteger : List (Text × Value) → Bool
  | [] => false
  | (_, v) :: rest => v.hasLongInteger || fieldsHaveLongInteger rest

end

@[simp] theorem hasLongInteger_text (s : Text) : hasLongInteger (.text s) = false := by
  simp [hasLongInteger]

/-- What is said about a value that is not shown because of its digits. -/
def longIntegerMessage : Text :=
  "Exceeds the limit (4300 digits) for integer string conversion; ".toList ++
    "use sys.set_int_max_str_digits() to increase the limit".toList

/-- A value as an error message shows it, where a text stands for itself. -/
def shown : Value → Text
  | .text s => s
  | v => v.render

/-- Whether a value counts as given: nothing, zero and what is empty do not. -/
def isTrue : Value → Bool
  | .null => false
  | .bool b => b
  | .int n => n != 0
  | .float x => x != 0.0
  | .text s => !s.isEmpty
  | .list items => !items.isEmpty
  | .object fields => !fields.isEmpty

/-- The integer that a value is. A truth value is zero or one. -/
def integer? : Value → Option Int
  | .bool b => some (if b then 1 else 0)
  | .int n => some n
  | _ => none

/-- The number that a value is. A truth value is zero or one. -/
def number? : Value → Option Number
  | .float x => some (.real x)
  | v => v.integer?.map .whole

/-- The order of two values, if both are numbers. An undefined number has no place
    in the order, which the inner `none` says. -/
def compareNumbers? (a b : Value) : Option (Option Ordering) :=
  match a.number?, b.number? with
  | some x, some y => some (x.compare? y)
  | _, _ => none

mutual

/-- Whether two values are the same, where numbers of both kinds are the same if
    their values are, and the order of the keys of an object does not count. -/
def equal : Value → Value → Bool
  | .null, .null => true
  | .text s, .text t => s == t
  | .list items, .list others => equalItems items others
  | .object fields, .object others => fields.length == others.length && equalFields fields others
  | a, b => compareNumbers? a b == some (some .eq)

/-- Whether two lists have the same items. -/
def equalItems : List Value → List Value → Bool
  | [], [] => true
  | v :: rest, w :: others => v.equal w && equalItems rest others
  | _, _ => false

/-- Whether every field is found among others. -/
def equalFields : List (Text × Value) → List (Text × Value) → Bool
  | [], _ => true
  | (key, v) :: rest, others =>
    (match others.lookup key with
      | some w => v.equal w
      | none => false) && equalFields rest others

end

mutual

/-- Whether one value comes before another, if the two can be compared. -/
def less? : Value → Value → Option Bool
  | .text s, .text t => some (decide (s < t))
  | .list items, .list others => lessItems? items others
  | a, b => (compareNumbers? a b).map fun order => order == some .lt

/-- Whether one list comes before another: the first items that differ decide, and
    a list comes after its own beginnings. -/
def lessItems? : List Value → List Value → Option Bool
  | [], others => some (!others.isEmpty)
  | _, [] => some false
  | v :: rest, w :: others => if v.equal w then lessItems? rest others else v.less? w

end

/-- A field of an object. -/
def field? (fields : List (Text × Value)) (key : String) : Option Value :=
  fields.lookup key.toList

end Value

end RiddlEditor
