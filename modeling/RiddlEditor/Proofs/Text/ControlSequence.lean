import RiddlEditor.Text.ControlSequence

/-!
# Texts without control sequences

A text without the escape character has no control sequence, and it stays as it is when
the sequences of another text behind it are taken out.

A message may quote an escape character all the same. It stays too if it is `Settled`:
wherever an escape character stands in it, what follows makes no control sequence of it, and
neither does anything behind the text.

## Main definitions

* `Settled`: A text in which no control sequence starts.

## Theorems

* `withoutControls_append`: Nothing happens in front of the first escape character.
* `withoutControls_of_not_mem`: A text without the escape character stays as it is.
* `Settled.withoutControls_eq`: So does every settled text.
-/

namespace RiddlEditor

/-- A character with which no control sequence starts stays. -/
theorem withoutControls_cons_of_none {c : Char} {rest : Text}
    (h : afterControlSequence? (c :: rest) = none) :
    Text.withoutControls (c :: rest) = c :: Text.withoutControls rest := by
  rw [Text.withoutControls]
  split
  case h_1 tail hsome =>
    exact absurd (h.symm.trans hsome) (Option.some_ne_none tail).symm
  case h_2 => rfl

theorem withoutControls_cons {c : Char} (rest : Text) (h : c ≠ escapeChar) :
    Text.withoutControls (c :: rest) = c :: Text.withoutControls rest := by
  refine withoutControls_cons_of_none ?_
  cases rest with
  | nil => rfl
  | cons d rest => rw [afterControlSequence?, if_pos h]

/-- A control sequence at the start of a text is left out. -/
theorem withoutControls_of_sequence {s rest : Text} (h : afterControlSequence? s = some rest) :
    s.withoutControls = rest.withoutControls := by
  cases s with
  | nil => exact absurd h (Option.some_ne_none rest).symm
  | cons c tail =>
      rw [Text.withoutControls]
      split
      case h_1 more hsome =>
        rw [h, Option.some.injEq] at hsome
        rw [hsome]
      case h_2 hnone =>
        exact absurd (h.symm.trans hnone) (Option.some_ne_none rest)

/-- Nothing happens in front of the first escape character. -/
theorem withoutControls_append {s : Text} (h : escapeChar ∉ s) (t : Text) :
    Text.withoutControls (s ++ t) = s ++ Text.withoutControls t := by
  induction s with
  | nil => rfl
  | cons c rest ih =>
      have hc : c ≠ escapeChar := fun heq => h (heq ▸ List.mem_cons_self)
      have hrest : escapeChar ∉ rest := fun hmem => h (List.mem_cons_of_mem c hmem)
      rw [List.cons_append, withoutControls_cons _ hc, ih hrest, List.cons_append]

theorem withoutControls_nil : Text.withoutControls [] = [] := by
  rw [Text.withoutControls]

theorem withoutControls_of_not_mem {s : Text} (h : escapeChar ∉ s) : s.withoutControls = s := by
  have happend := withoutControls_append h []
  rwa [List.append_nil, withoutControls_nil, List.append_nil] at happend

/-- A text in which no control sequence starts, whatever stands behind it. -/
def Settled (s : Text) : Prop :=
  ∀ t, Text.withoutControls (s ++ t) = s ++ Text.withoutControls t

theorem Settled.of_not_mem {s : Text} (h : escapeChar ∉ s) : Settled s :=
  withoutControls_append h

theorem Settled.append {s t : Text} (hs : Settled s) (ht : Settled t) : Settled (s ++ t) := by
  intro u
  rw [List.append_assoc, hs, ht, List.append_assoc]

theorem Settled.withoutControls_eq {s : Text} (h : Settled s) : s.withoutControls = s := by
  have happend := h []
  rwa [List.append_nil, withoutControls_nil, List.append_nil] at happend

end RiddlEditor
