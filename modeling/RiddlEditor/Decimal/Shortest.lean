import RiddlEditor.Text.Blank

/-!
# Shortest decimals

The decimal with the fewest digits that reads back as a given floating point
number and, of those with that many digits, the one nearest to it.

A finite number is `mantissa * 2 ^ exponent`. The reals that round to it form an
interval whose ends lie half way to its neighbours and belong to it when the
mantissa is even. For each number of digits the two multiples of the last
decimal place next to the number are tested against that interval in exact
arithmetic; if any multiple lies in the interval, one of these two does.
Everything is scaled by `10 ^ 400`, which makes the smallest number and the
smallest place integers.

## Main definitions

* `powerOfTwo`, `powerOfTen`: Powers of the two bases.
* `Binary`, `Binary.ofFloat`: A finite number as mantissa and exponent.
* `Decimal`: A decimal as digits and the power of ten of the last one.
* `Binary.holds`: Whether a decimal reads back as a number.
* `Binary.shortest`: The shortest decimal of a number.
* `DecimalLayout`: Where a decimal is written with an exponent.
* `DecimalLayout.render`: The text of a floating point number.
-/

namespace RiddlEditor

/-- A power of two. -/
def powerOfTwo (n : Nat) : Nat :=
  Nat.pow 2 n

/-- A power of ten. -/
def powerOfTen (n : Nat) : Nat :=
  Nat.pow 10 n

/-- A finite magnitude `mantissa * 2 ^ exponent`. -/
structure Binary where
  mantissa : Nat
  exponent : Int
  deriving DecidableEq, Repr

namespace Binary

/-- The magnitude of a finite floating point number. -/
def ofFloat (x : Float) : Binary :=
  let bits := x.toBits.toNat
  let fraction : Nat := bits % powerOfTwo 52
  let power : Nat := bits / powerOfTwo 52 % powerOfTwo 11
  if power = 0 then ⟨fraction, -1074⟩ else ⟨powerOfTwo 52 + fraction, (power : Int) - 1075⟩

/-- The power of ten that every quantity is scaled by. -/
def scaleDigits : Nat := 400

/-- Four times a mantissa with the exponent of `b`, scaled. -/
def scaled (b : Binary) (quarters : Nat) : Nat :=
  quarters * powerOfTwo b.exponent.toNat * powerOfTen scaleDigits

/-- The denominator that the scaled quantities of `b` share. -/
def denominator (b : Binary) : Nat :=
  powerOfTwo (-b.exponent).toNat

/-- Four times the lower end of the interval in units of the last place. The
    neighbour below a power of two is only half as far away. -/
def lowerQuarters (b : Binary) : Nat :=
  if b.mantissa = powerOfTwo 52 ∧ b.exponent ≠ -1074 then 4 * b.mantissa - 1 else 4 * b.mantissa - 2

/-- Four times the upper end of the interval in units of the last place. -/
def upperQuarters (b : Binary) : Nat :=
  4 * b.mantissa + 2

end Binary

/-- A decimal `digits * 10 ^ exponent`. -/
structure Decimal where
  digits : Nat
  exponent : Int
  deriving DecidableEq, Repr

namespace Decimal

/-- Four times a decimal over the denominator of `b`, scaled. -/
def scaled (d : Decimal) (b : Binary) : Nat :=
  4 * d.digits * powerOfTen (d.exponent + Binary.scaleDigits).toNat * b.denominator

end Decimal

namespace Binary

/-- Whether a decimal reads back as the number. -/
def holds (b : Binary) (d : Decimal) : Bool :=
  let low := b.scaled b.lowerQuarters
  let high := b.scaled b.upperQuarters
  let x := d.scaled b
  if b.mantissa % 2 = 0 then low ≤ x ∧ x ≤ high else low < x ∧ x < high

/-- The number of digits in front of the decimal point, which is negative when
    zeros follow the point. -/
def pointPlace (b : Binary) : Int :=
  (Nat.toDigits 10 (b.scaled b.mantissa / b.denominator)).length - scaleDigits

/-- The distance of a decimal from the number, scaled. -/
def distance (b : Binary) (d : Decimal) : Nat :=
  let x := d.scaled b
  let y := b.scaled (4 * b.mantissa)
  if x ≤ y then y - x else x - y

/-- The nearest decimal with `count` digits that reads back as the number. Of two
    at the same distance the even one is taken. -/
def withDigits? (b : Binary) (count : Nat) : Option Decimal :=
  let place := b.pointPlace - count
  let below := b.scaled b.mantissa / (b.denominator * powerOfTen (place + scaleDigits).toNat)
  let low : Decimal := ⟨below, place⟩
  let high : Decimal := ⟨below + 1, place⟩
  match b.holds low, b.holds high with
  | false, false => none
  | true, false => some low
  | false, true => some high
  | true, true =>
    if b.distance low < b.distance high then some low
    else if b.distance high < b.distance low then some high
    else if below % 2 = 0 then some low
    else some high

/-- The shortest decimal of a positive number. Seventeen digits always suffice. -/
def shortest (b : Binary) : Decimal :=
  ((List.range 17).findSome? fun n => b.withDigits? (n + 1)).getD ⟨0, 0⟩

end Binary

/-- Which decimals are written without an exponent: those whose point lies behind
    more than `lowest` and at most `highest` digits. -/
structure DecimalLayout where
  lowest : Int
  highest : Int
  exponentDigits : Nat
  deriving DecidableEq, Repr

namespace DecimalLayout

/-- Digits with zeros in front of them up to a width. -/
def padded (width : Nat) (digits : Text) : Text :=
  List.replicate (width - digits.length) '0' ++ digits

/-- The text of a decimal, given by its significant digits and the number of them
    in front of the point. -/
def place (layout : DecimalLayout) (digits : Text) (point : Int) : Text :=
  if layout.lowest < point ∧ point ≤ layout.highest then
    if point ≤ 0 then ['0', '.'] ++ List.replicate (-point).toNat '0' ++ digits
    else if digits.length ≤ point.toNat then
      digits ++ List.replicate (point.toNat - digits.length) '0' ++ ['.', '0']
    else digits.take point.toNat ++ ['.'] ++ digits.drop point.toNat
  else
    let power := point - 1
    digits.take 1 ++ (if digits.length = 1 then [] else '.' :: digits.drop 1) ++
      ['e', if power < 0 then '-' else '+'] ++
      padded layout.exponentDigits (Nat.toDigits 10 power.natAbs)

/-- The text of a floating point number. -/
def render (layout : DecimalLayout) (x : Float) : Text :=
  if x.isNaN then ['n', 'a', 'n']
  else
    let sign : Text := if x.toBits >>> 63 = 1 then ['-'] else []
    if x.isInf then sign ++ ['i', 'n', 'f']
    else
      let b := Binary.ofFloat x
      if b.mantissa = 0 then sign ++ ['0', '.', '0']
      else
        let d := b.shortest
        let digits := Nat.toDigits 10 d.digits
        let significant := Text.dropEndWhile (· == '0') digits
        sign ++ layout.place significant (digits.length + d.exponent)

end DecimalLayout

/-- Numbers are written without an exponent up to sixteen digits before the point
    and three zeros behind it; an exponent has two digits at least. -/
def numberLayout : DecimalLayout :=
  ⟨-4, 16, 2⟩

end RiddlEditor
