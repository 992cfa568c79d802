import Mathlib.Algebra.Order.Group.Unbundled.Int
import Mathlib.Data.Prod.Lex
import Mathlib.Order.Compare

/-!
# The order of times

Times are binary floating point numbers. They are compared first by their sign, then by their
exponent and then by their digits, and zero has one place whatever its sign. So apart from what
is not a number, which compares with nothing, they are in the order of a linearly ordered set
(`compare_eq`), and what is known of such an order is known of times.

## Main definitions

* `place`: The place of a time in the order.

## Theorems

* `compare_eq`: Times are compared by their places.
* `time_lt_irrefl`, `time_lt_trans`: Being earlier is a strict order.
* `not_lt_of_le_time`: A time that has come is not in the future.
-/

namespace RiddlEditor

open Float.Model (UnpackedFloat)

/-- The place of a time in the order: its sign and whether it is infinite, its exponent, and its
    digits. -/
def place : UnpackedFloat → ℤ ×ₗ ℤ ×ₗ ℤ
  | .infinity .negative => toLex (-2, toLex (0, 0))
  | .finite .negative digits exponent _ => toLex (-1, toLex (-exponent, -digits))
  | .zero _ => toLex (0, toLex (0, 0))
  | .finite .positive digits exponent _ => toLex (1, toLex (exponent, digits))
  | .infinity .positive => toLex (2, toLex (0, 0))
  | .notANumber => toLex (0, toLex (0, 0))

theorem compare_toLex (s e m s' e' m' : ℤ) :
    compare (toLex (s, toLex (e, m))) (toLex (s', toLex (e', m'))) =
      (compare s s').then ((compare e e').then (compare m m')) :=
  rfl

theorem compare_neg_neg (a b : ℤ) : compare (-a) (-b) = (compare a b).swap := by
  have hanti : StrictAnti fun x : ℤ => -x := fun _ _ => Int.neg_lt_neg
  rw [Int.compare_swap, ← cmp_eq_compare, ← cmp_eq_compare]
  exact hanti.cmp_map_eq a b

theorem compare_natCast (a b : ℕ) : compare (a : ℤ) b = compare a b := by
  rw [← cmp_eq_compare, ← cmp_eq_compare]
  exact Int.natCast_strictMono.cmp_map_eq a b

/-- Times are compared by their places, unless one of them is not a number. -/
theorem compare_eq {a b : UnpackedFloat} (ha : a ≠ .notANumber) (hb : b ≠ .notANumber) :
    a.compare b = some (compare (place a) (place b)) := by
  rcases a with (_ | _) | _ | _ | ⟨_ | _, m, e, hm⟩ <;>
    rcases b with (_ | _) | _ | _ | ⟨_ | _, m', e', hm'⟩
  -- Only two numbers of one sign leave anything to compare but the sign.
  case finite.negative.finite.negative =>
    change _ = some (compare (toLex (-1, toLex (-e, -(m : ℤ))))
      (toLex (-1, toLex (-e', -(m' : ℤ)))))
    rw [compare_toLex, compare_neg_neg, compare_neg_neg e, compare_neg_neg (m : ℤ), compare_natCast,
      ← Ordering.swap_then, ← Ordering.swap_then]
    rfl
  case finite.positive.finite.positive =>
    change _ = some (compare (toLex (1, toLex (e, (m : ℤ)))) (toLex (1, toLex (e', (m' : ℤ)))))
    rw [compare_toLex, compare_natCast]
    rfl
  all_goals first | rfl | exact absurd rfl ha | exact absurd rfl hb

theorem ne_notANumber_of_compare {a b : UnpackedFloat} {o : Ordering} (h : a.compare b = some o) :
    a ≠ .notANumber ∧ b ≠ .notANumber := by
  constructor
  · rintro rfl
    exact nomatch h
  · rintro rfl
    cases a <;> exact nomatch h

section Times

variable {a b c : Float}

/-- A time is earlier than another if both are numbers and its place comes first. -/
theorem time_lt_iff : a < b ↔ a.toModel.unpack ≠ .notANumber ∧ b.toModel.unpack ≠ .notANumber ∧
    place a.toModel.unpack < place b.toModel.unpack := by
  have hcompare : a < b ↔ a.toModel.unpack.compare b.toModel.unpack = some .lt := by
    change decide (((_ : Option Ordering) == some .lt) = true) = true ↔ _
    rw [decide_eq_true_eq, beq_iff_eq]
  rw [hcompare]
  constructor
  · intro h
    rcases ne_notANumber_of_compare h with ⟨ha, hb⟩
    rw [compare_eq ha hb, Option.some.injEq, compare_lt_iff_lt] at h
    exact ⟨ha, hb, h⟩
  · rintro ⟨ha, hb, h⟩
    rw [compare_eq ha hb, compare_lt_iff_lt.mpr h]

theorem place_le_of_le (h : a ≤ b) : place a.toModel.unpack ≤ place b.toModel.unpack := by
  have hcompare : (a.toModel.unpack.compare b.toModel.unpack).any Ordering.isLE = true :=
    of_decide_eq_true h
  rw [Option.any_eq_true] at hcompare
  rcases hcompare with ⟨o, ho, hle⟩
  rcases ne_notANumber_of_compare ho with ⟨ha, hb⟩
  rw [compare_eq ha hb, Option.some.injEq] at ho
  rw [← ho] at hle
  exact compare_le_iff_le.mp (Ordering.isLE_iff_ne_gt.mp hle)

theorem time_lt_irrefl (a : Float) : ¬a < a :=
  fun h => lt_irrefl _ (time_lt_iff.mp h).2.2

theorem time_lt_trans (hab : a < b) (hbc : b < c) : a < c := by
  rcases time_lt_iff.mp hab with ⟨ha, -, hab⟩
  rcases time_lt_iff.mp hbc with ⟨-, hc, hbc⟩
  exact time_lt_iff.mpr ⟨ha, hc, hab.trans hbc⟩

/-- A time that has come is not in the future. -/
theorem not_lt_of_le_time (h : a ≤ b) : ¬b < a :=
  fun hlt => not_lt_of_ge (place_le_of_le h) (time_lt_iff.mp hlt).2.2

/-- What is not a number is not in the future. -/
theorem not_lt_of_isNaN (h : a.isNaN = true) (b : Float) : ¬b < a := by
  intro hlt
  have hnan : a.toModel.unpack.isNaN = true := h
  have hne := (time_lt_iff.mp hlt).2.1
  cases hplace : a.toModel.unpack with
  | notANumber => exact hne hplace
  | _ =>
      rw [hplace] at hnan
      exact nomatch hnan

end Times

end RiddlEditor
