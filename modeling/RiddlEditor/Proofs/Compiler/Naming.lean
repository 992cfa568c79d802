import RiddlEditor.Compiler.Definitions
import RiddlEditor.Proofs.Diagnostic.QuotedNames

/-!
# What a message about a definition names

A message about a definition starts with its keyword, a blank and its name in quotes. A keyword
with a capital letter counts as the category word that it is, so what the message starts with is a
quoted name, and it is the first one that is found there.

The name of a definition is a word, so neither the blanks around it nor its dots, of which it
has none, make another spelling of it.

## Theorems

* `isBlank_eq_false_of_isWordChar`: Words have no blanks.
* `nameCandidates_of_word`: A word has one spelling.
* `quotedNames_of_subject`: The first name of a message about a definition.
-/

namespace RiddlEditor

/-! ## Words -/

theorem isWordChar_of_mem_blankRanges :
    ∀ r ∈ blankRanges, ∀ n ∈ List.range' r.1 (r.2 - r.1 + 1),
      isWordChar (Char.ofNat n) = false := by
  decide +kernel

/-- Words have no blanks. -/
theorem isBlank_eq_false_of_isWordChar {c : Char} (h : isWordChar c = true) :
    isBlank c = false := by
  rw [← Bool.not_eq_true]
  intro hblank
  rcases exists_range_of_covers hblank with ⟨r, hr, hlow, hhigh⟩
  have hmem : c.toNat ∈ List.range' r.1 (r.2 - r.1 + 1) := List.mem_range'_1.mpr (by omega)
  have hnot := isWordChar_of_mem_blankRanges r hr c.toNat hmem
  rw [Char.ofNat_toNat] at hnot
  exact Bool.false_ne_true (hnot.symm.trans h)

/-- A word has one spelling. -/
theorem nameCandidates_of_word {name : Text} (hname : name ≠ [])
    (hword : ∀ c ∈ name, isWordChar c = true) : nameCandidates name = [name] := by
  have hblank : ∀ c ∈ name, isBlank c = false := fun c hc =>
    isBlank_eq_false_of_isWordChar (hword c hc)
  have htrim : IsTrimmed name name := by
    refine ⟨[], [], (List.append_nil name).symm, by simp, by simp, hname, ?_, ?_⟩
    · rw [List.head?_eq_some_head hname]
      exact hblank _ (List.head_mem hname)
    · rw [List.getLast?_eq_some_getLast hname]
      exact hblank _ (List.getLast_mem hname)
  refine (spells_iff.mp (.plain htrim fun path last hpath _ => ?_)).symm
  have hdot : '.' ∈ name := by
    rw [hpath]
    exact List.mem_append_right path List.mem_cons_self
  exact absurd (hword '.' hdot) (by decide)

/-! ## Messages about definitions -/

section Subject

variable {word name : Text}

/-- The letters of a definition word with a capital letter count as those of the word. -/
theorem afterWord?_capitalized :
    ∀ word ∈ definitionWords, afterWord? word word.capitalized = some [] := by
  decide +kernel

/-- The quoted name of a text that starts with a definition word. -/
theorem quotedNameAt?_of_subject (hword : word ∈ definitionWords) (hname : name ≠ [])
    (hquote : '\'' ∉ name) (tail : Text) :
    quotedNameAt? (word.capitalized ++ ' ' :: '\'' :: (name ++ '\'' :: tail)) =
      some (name, tail) := by
  rcases afterWord?_eq_some_iff.mp (afterWord?_capitalized word hword) with
    ⟨letters, hsplit, hfolds⟩
  rw [List.append_nil] at hsplit
  subst hsplit
  have hblank : ∀ c ∈ [' '], isBlank c = true := List.forall_mem_singleton.mpr (by decide)
  exact quotedNameAt?_eq_some_iff.mpr ⟨word, List.mem_append_left _ hword, word.capitalized, [' '],
    rfl, hfolds, List.cons_ne_nil _ _, hblank, hname, hquote⟩

/-- The first name of a message about a definition. -/
theorem quotedNames_of_subject {name : Text} (hword : word ∈ definitionWords) (hname : name ≠ [])
    (hquote : '\'' ∉ name) (tail : Text) :
    quotedNames (word.capitalized ++ ' ' :: '\'' :: (name ++ '\'' :: tail)) =
      name :: quotedNames tail :=
  quotedNamesFrom_of_found (quotedNameAt?_of_subject hword hname hquote tail)

end Subject

end RiddlEditor
