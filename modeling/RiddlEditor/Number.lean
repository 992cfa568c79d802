import RiddlEditor.Decimal.Numeral
import RiddlEditor.Decimal.Shortest

/-!
# Numbers

Lines, columns and offsets are whole numbers, and nothing keeps a service from giving
them as floating point numbers instead. A number remembers how it was given, because the
two kinds are not always good for the same: a floating point number is no column of a
text, even if its value is whole.

Two whole numbers are calculated with exactly. As soon as one of two numbers is a floating
point number, so is the result, and the other one is rounded first; there is no result if
it is too large for that. Comparisons are exact for both kinds: every finite number is a
multiple of the least positive floating point number, and these multiples are compared.

## Main definitions

* `Number`: A whole or a floating point number.
* `Number.steps?`: A finite number as a multiple of the least positive one.
* `Number.compare?`: The order of two numbers.
* `Number.add?`, `Number.sub?`: Sums and differences.
* `Number.floor`: The greatest whole number that is not greater.

## Theorems

* `Number.steps?_whole_inj`: Whole numbers of one value are the same.
* `Number.isLess_whole`, `Number.max_whole`: The order of whole numbers is the usual one.
-/

namespace RiddlEditor

/-- A number, in the kind that it was given in. -/
inductive Number where
  | whole (n : Int)
  | real (x : Float)
  deriving Inhabited

instance : Coe Int Number :=
  ⟨.whole⟩

/-- The least positive floating point number is two to the power of minus this. -/
def finestPower : Nat := 1074

/-- A finite magnitude as a multiple of the least positive one. -/
def Binary.steps (b : Binary) : Nat :=
  b.mantissa * powerOfTwo (b.exponent + finestPower).toNat

/-- The least magnitude that rounds to no finite floating point number: half a unit
    of the last place above the greatest one. -/
def floatOverflow : Nat :=
  powerOfTwo 1024 - powerOfTwo 970

namespace Number

/-- A finite number as a multiple of the least positive floating point number. Two
    numbers with the same multiple are equal, whatever their kinds. -/
def steps? : Number → Option Int
  | whole n => some (n * powerOfTwo finestPower)
  | real x =>
    if x.isNaN || x.isInf then none
    else
      let magnitude : Int := (Binary.ofFloat x).steps
      some (if x < 0.0 then -magnitude else magnitude)

/-- The order of a whole number and a floating point number that is not undefined. -/
def compareWhole (n : Int) (x : Float) : Ordering :=
  match (whole n).steps?, (real x).steps? with
  | some a, some b => compare a b
  | _, _ => if x > 0.0 then .lt else .gt

/-- The order of two numbers. An undefined number has no place in it. -/
def compare? : Number → Number → Option Ordering
  | whole n, whole m => some (compare n m)
  | whole n, real y => if y.isNaN then none else some (compareWhole n y)
  | real x, whole m => if x.isNaN then none else some (compareWhole m x).swap
  | real x, real y =>
    if x < y then some .lt else if x == y then some .eq else if x > y then some .gt else none

/-- Whether a number comes before another. -/
def isLess (a b : Number) : Bool :=
  a.compare? b == some .lt

/-- Whether a number is negative. -/
def isNegative (a : Number) : Bool :=
  a.isLess (whole 0)

/-- The greater of two numbers. Of equal ones it is the first. -/
def max (a b : Number) : Number :=
  if a.isLess b then b else a

/-- The floating point number nearest to a number, if there is a finite one. -/
def toFloat? : Number → Option Float
  | whole n => if n.natAbs < floatOverflow then some (floatOfDecimal (n < 0) n.natAbs 0) else none
  | real x => some x

/-- The sum of two numbers. -/
def add? : Number → Number → Option Number
  | whole n, whole m => some (whole (n + m))
  | a, b => do return real ((← a.toFloat?) + (← b.toFloat?))

/-- The difference of two numbers. -/
def sub? : Number → Number → Option Number
  | whole n, whole m => some (whole (n - m))
  | a, b => do return real ((← a.toFloat?) - (← b.toFloat?))

/-- The greatest whole number that is not greater. An infinite number has none and
    counts as zero. -/
def floor : Number → Int
  | whole n => n
  | real x =>
    match (real x).steps? with
    | some steps => steps.fdiv (powerOfTwo finestPower)
    | none => 0

theorem steps?_whole_inj {n m : Int} : (whole n).steps? = (whole m).steps? ↔ n = m := by
  simp only [steps?, Option.some.injEq]
  constructor
  · intro h
    exact Int.eq_of_mul_eq_mul_right (by decide +kernel) h
  · intro h
    rw [h]

theorem isLess_whole (n m : Int) : (whole n).isLess (whole m) = decide (n < m) := by
  by_cases h : n < m
  · have hc : compare n m = .lt := Int.compare_eq_lt.mpr h
    simp [isLess, compare?, hc, h]
  · have hc : compare n m ≠ .lt := fun hlt => h (Int.compare_eq_lt.mp hlt)
    simp [isLess, compare?, hc, h]

theorem max_whole (n m : Int) : (whole n).max (whole m) = whole (Max.max n m) := by
  by_cases h : n < m
  · rw [max, isLess_whole, if_pos (decide_eq_true h), Int.max_eq_right (Int.le_of_lt h)]
  · have hle : m ≤ n := Int.not_lt.mp h
    rw [max, isLess_whole, if_neg (by simp [h]), Int.max_eq_left hle]

/-- A number in decimal digits. -/
def render : Number → Text
  | whole n => Text.ofInt n
  | real x => numberLayout.render x

end Number

end RiddlEditor
