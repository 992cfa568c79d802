import Mathlib.Data.List.Basic
import Mathlib.Data.List.TakeWhile
import RiddlEditor.Text.Basic
import RiddlEditor.Text.Blank

/-!
# Stretches of characters of a class

Reading goes as far as the characters are of some class: a gap, a word, the digits of a number,
what is in front of a quote. Such a stretch is told by where it stops (`cut_iff`): its characters
are of the class, and what follows it does not start with one of them. The same from the other
end says what is left of a text when it is trimmed.

## Main definitions

* `IsTrimmed`: A text without the blanks at its ends.

## Theorems

* `takeWhile_of_cut`, `dropWhile_of_cut`: A stretch that is followed by something else.
* `cut_iff`, `cut_at_iff`: Where a text is cut.
* `head?_dropWhile`, `getLast?_dropEndWhile`: What is left does not go on with the class.
* `isTrimmed_iff`, `trim_eq_nil_iff`: What is left of a text without the blanks at its ends.
-/

namespace RiddlEditor

/-! ## From the start -/

section Start

variable {p : Char → Bool} {s front rest : Text} {c : Char}

/-- What is left of a text does not start with a character of the class. -/
theorem head?_dropWhile (p : Char → Bool) (s : Text) : (s.dropWhile p).head?.any p = false := by
  have hnot := List.head?_dropWhile_not p s
  cases hdrop : s.dropWhile p with
  | nil => rfl
  | cons c rest => rwa [hdrop] at hnot

theorem takeWhile_eq_nil_iff : s.takeWhile p = [] ↔ s.head?.any p = false := by
  cases s with
  | nil => exact iff_of_true rfl rfl
  | cons c rest =>
      rw [List.head?_cons, Option.any_some, ← Bool.not_eq_true]
      by_cases hc : p c = true
      · rw [List.takeWhile_cons_of_pos hc]
        exact iff_of_false (List.cons_ne_nil _ _) (not_not_intro hc)
      · exact iff_of_true (List.takeWhile_cons_of_neg hc) hc

theorem takeWhile_ne_nil_iff : s.takeWhile p ≠ [] ↔ s.head?.any p = true := by
  rw [ne_eq, takeWhile_eq_nil_iff, Bool.not_eq_false]

/-- A stretch of a class ends where something else follows. -/
theorem takeWhile_of_cut (hfront : ∀ d ∈ front, p d = true) (hrest : rest.head?.any p = false) :
    (front ++ rest).takeWhile p = front := by
  rw [List.takeWhile_append_of_pos hfront, takeWhile_eq_nil_iff.mpr hrest, List.append_nil]

theorem dropWhile_of_cut (hfront : ∀ d ∈ front, p d = true) (hrest : rest.head?.any p = false) :
    (front ++ rest).dropWhile p = rest := by
  rw [List.dropWhile_append_of_pos hfront]
  cases rest with
  | nil => rfl
  | cons c rest =>
      exact List.dropWhile_cons_of_neg fun hc => Bool.false_ne_true (hrest.symm.trans hc)

/-- A text is cut where its characters are no longer of a class. -/
theorem cut_iff :
    s.takeWhile p = front ∧ s.dropWhile p = c :: rest ↔
      s = front ++ c :: rest ∧ (∀ d ∈ front, p d = true) ∧ p c = false := by
  constructor
  · rintro ⟨rfl, hdrop⟩
    have hhead := head?_dropWhile p s
    rw [hdrop] at hhead
    refine ⟨?_, fun d hd => List.mem_takeWhile_imp hd, hhead⟩
    rw [← hdrop, List.takeWhile_append_dropWhile]
  · rintro ⟨rfl, hfront, hc⟩
    exact ⟨takeWhile_of_cut hfront hc, dropWhile_of_cut hfront hc⟩

/-- A text with a character is cut at its first occurrence. -/
theorem cut_at_iff {a : Char} :
    s.takeWhile (· != a) = front ∧ s.dropWhile (· != a) = a :: rest ↔
      s = front ++ a :: rest ∧ a ∉ front := by
  rw [cut_iff, and_iff_left (bne_self_eq_false a)]
  refine and_congr_right fun _ => ?_
  constructor
  · intro hall hmem
    exact absurd rfl (bne_iff_ne.mp (hall a hmem))
  · intro hmem d hd
    exact bne_iff_ne.mpr fun heq => hmem (heq ▸ hd)

end Start

/-! ## From the end -/

theorem dropEndWhile_append {p : Char → Bool} {s back : Text} (hback : ∀ c ∈ back, p c = true)
    (hlast : s.getLast?.any p = false) : Text.dropEndWhile p (s ++ back) = s := by
  rw [← List.head?_reverse] at hlast
  rw [Text.dropEndWhile, List.reverse_append,
    dropWhile_of_cut (fun c hc => hback c (List.mem_reverse.mp hc)) hlast, List.reverse_reverse]

/-- What is dropped at the end of a text are the characters of the class that are read backwards. -/
theorem dropEndWhile_append_takeWhile (p : Char → Bool) (s : Text) :
    Text.dropEndWhile p s ++ (s.reverse.takeWhile p).reverse = s := by
  rw [Text.dropEndWhile, ← List.reverse_append, List.takeWhile_append_dropWhile,
    List.reverse_reverse]

theorem getLast?_dropEndWhile (p : Char → Bool) (s : Text) :
    (Text.dropEndWhile p s).getLast?.any p = false := by
  rw [Text.dropEndWhile, List.getLast?_reverse]
  exact head?_dropWhile p s.reverse

/-! ## Trimming -/

/-- A text without the blanks at its ends, if there is anything else. -/
def IsTrimmed (s name : Text) : Prop :=
  ∃ front back, s = front ++ (name ++ back) ∧ (∀ c ∈ front, isBlank c = true) ∧
    (∀ c ∈ back, isBlank c = true) ∧ name ≠ [] ∧ name.head?.any isBlank = false ∧
    name.getLast?.any isBlank = false

/-- A trimmed text is cut from the blanks at its ends. -/
theorem exists_trim (s : Text) :
    ∃ front back, s = front ++ (s.trim ++ back) ∧ (∀ c ∈ front, isBlank c = true) ∧
      (∀ c ∈ back, isBlank c = true) ∧ s.trim.getLast?.any isBlank = false := by
  refine ⟨s.takeWhile isBlank, ((s.dropWhile isBlank).reverse.takeWhile isBlank).reverse,
    ?_, fun c hc => List.mem_takeWhile_imp hc,
    fun c hc => List.mem_takeWhile_imp (List.mem_reverse.mp hc), getLast?_dropEndWhile _ _⟩
  rw [Text.trim, dropEndWhile_append_takeWhile, List.takeWhile_append_dropWhile]

/-- A text is trimmed to nothing if there are only blanks. -/
theorem trim_eq_nil_iff {s : Text} :
    s.trim = [] ↔ ∀ c ∈ s, isBlank c = true := by
  constructor
  · intro hnil c hc
    rcases exists_trim s with ⟨front, back, hsplit, hfront, hback, _⟩
    rw [hsplit, hnil, List.nil_append, List.mem_append] at hc
    exact hc.elim (hfront c) (hback c)
  · intro hall
    rw [Text.trim, List.dropWhile_eq_nil_iff.mpr hall]
    rfl

/-- What is left of a text is the name without the blanks at its ends. -/
theorem isTrimmed_iff {s name : Text} :
    IsTrimmed s name ↔ s.trim = name ∧ name ≠ [] := by
  constructor
  · rintro ⟨front, back, rfl, hfront, hback, hname, hhead, hlast⟩
    refine ⟨?_, hname⟩
    have hstart : (name ++ back).head?.any isBlank = false := by
      rwa [List.head?_append_of_ne_nil name hname]
    rw [Text.trim, dropWhile_of_cut hfront hstart, dropEndWhile_append hback hlast]
  · rintro ⟨rfl, hname⟩
    rcases exists_trim s with ⟨front, back, hsplit, hfront, hback, hlast⟩
    refine ⟨front, back, hsplit, hfront, hback, hname, ?_, hlast⟩
    -- It starts where the blanks at the front have ended.
    have hkept : Text.dropEndWhile isBlank (s.dropWhile isBlank) ≠ [] := hname
    have hhead := head?_dropWhile isBlank s
    rwa [← dropEndWhile_append_takeWhile isBlank (s.dropWhile isBlank),
      List.head?_append_of_ne_nil _ hkept] at hhead

end RiddlEditor
