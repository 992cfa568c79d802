import Mathlib.Data.List.Nodup
import Mathlib.Data.List.Pairwise

/-!
# Stable sorts

What a document holds is sorted by its place, and different things may have one place. A sort
that is stable leaves those in the order they came in. `StableSort` says so without an
algorithm: what a sort does is settled by the members in order, and by those that are equal in
the order (`StableSort.unique`).

A relation that holds all along a list therefore holds between equal members of its sort
(`StableSort.pairwise_tied`), and a list without equal members has one sort in whichever order
it comes (`mergeSort_eq_of_perm`).

## Main definitions

* `isTied`: Whether two members are equal in an order.
* `StableSort`: A list in order, where equal members keep theirs.

## Theorems

* `stableSort_mergeSort`: The merge sort is stable.
* `StableSort.unique`: A list has one stable sort.
* `StableSort.pairwise_tied`: What holds between equal members.
* `mergeSort_eq_of_perm`: Lists without equal members.
-/

namespace RiddlEditor

variable {α : Type} {le : α → α → Bool}

/-- Whether two members are equal in an order. -/
def isTied (le : α → α → Bool) (a b : α) : Bool :=
  le a b && le b a

theorem isTied_iff {a b : α} : isTied le a b = true ↔ le a b = true ∧ le b a = true := by
  rw [isTied, Bool.and_eq_true]

theorem le_self_of_total (htotal : ∀ a b, le a b || le b a) (a : α) : le a a = true :=
  (Bool.or_self _).symm.trans (htotal a a)

/-- A list is another one in order, where equal members keep theirs. -/
structure StableSort (le : α → α → Bool) (l sorted : List α) : Prop where
  perm : sorted.Perm l
  ordered : sorted.Pairwise fun a b => le a b = true
  stable : ∀ a, sorted.filter (isTied le a) = l.filter (isTied le a)

/-- What holds all along a list holds between equal members of its sort. -/
theorem StableSort.pairwise_tied {l sorted : List α} {R : α → α → Prop}
    (h : StableSort le l sorted) (htotal : ∀ a b, le a b || le b a) (hl : l.Pairwise R) :
    sorted.Pairwise fun a b => le b a = true → R a b := by
  refine List.pairwise_iff_forall_sublist.mpr fun {a b} hsub hba => ?_
  have hab := List.pairwise_iff_forall_sublist.mp h.ordered hsub
  have haa := le_self_of_total htotal a
  -- Both are tied with the first of them, so they come in this order in the list.
  have hties : [a, b].filter (isTied le a) = [a, b] := by
    refine List.filter_eq_self.mpr fun c hc => isTied_iff.mpr ?_
    rcases List.mem_pair.mp hc with rfl | rfl
    · exact ⟨haa, haa⟩
    · exact ⟨hab, hba⟩
  have hsame := hsub.filter (isTied le a)
  rw [hties, h.stable a] at hsame
  exact List.pairwise_iff_forall_sublist.mp hl (hsame.trans List.filter_sublist)

/-- Two lists in order are equal if they agree on their equal members. -/
theorem eq_of_ordered_of_tied {l others : List α} (htotal : ∀ a b, le a b || le b a)
    (hperm : l.Perm others) (hl : l.Pairwise fun a b => le a b = true)
    (hothers : others.Pairwise fun a b => le a b = true)
    (hties : ∀ a, l.filter (isTied le a) = others.filter (isTied le a)) : l = others := by
  have hrefl := le_self_of_total htotal
  induction l generalizing others with
  | nil => exact hperm.nil_eq
  | cons a l ih =>
      cases others with
      | nil => exact absurd hperm.eq_nil (List.cons_ne_nil a l)
      | cons b others =>
          -- Each of the first members is in the other list too, so they are tied.
          have hab : le a b = true := by
            rcases List.mem_cons.mp (hperm.symm.subset List.mem_cons_self) with rfl | hmem
            · exact hrefl b
            · exact List.rel_of_pairwise_cons hl hmem
          have hba : le b a = true := by
            rcases List.mem_cons.mp (hperm.subset List.mem_cons_self) with rfl | hmem
            · exact hrefl a
            · exact List.rel_of_pairwise_cons hothers hmem
          have hfirst := hties a
          rw [List.filter_cons_of_pos (isTied_iff.mpr ⟨hrefl a, hrefl a⟩),
            List.filter_cons_of_pos (isTied_iff.mpr ⟨hab, hba⟩)] at hfirst
          obtain rfl := (List.cons.inj hfirst).1
          refine congrArg _ (ih (List.perm_cons a |>.mp hperm) hl.of_cons hothers.of_cons ?_)
          intro c
          have hrest := hties c
          simp only [List.filter_cons] at hrest
          by_cases hc : isTied le c a = true
          · rw [if_pos hc, if_pos hc] at hrest
            exact (List.cons.inj hrest).2
          · rwa [if_neg hc, if_neg hc] at hrest

/-- A list has one stable sort. -/
theorem StableSort.unique {l sorted other : List α} (htotal : ∀ a b, le a b || le b a)
    (h : StableSort le l sorted) (hother : StableSort le l other) : sorted = other :=
  eq_of_ordered_of_tied htotal (h.perm.trans hother.perm.symm) h.ordered hother.ordered
    fun a => (h.stable a).trans (hother.stable a).symm

section Merge

variable (htrans : ∀ a b c, le a b = true → le b c = true → le a c = true)
  (htotal : ∀ a b, le a b || le b a)
include htrans htotal

/-- The merge sort is stable. -/
theorem stableSort_mergeSort (l : List α) : StableSort le l (l.mergeSort le) := by
  have hperm := List.mergeSort_perm l le
  refine ⟨hperm, List.pairwise_mergeSort htrans htotal l, fun a => ?_⟩
  -- Equal members are in order, so the sort leaves them as they are.
  have hordered : (l.filter (isTied le a)).Pairwise fun b c => le b c = true := by
    rw [List.pairwise_filter]
    refine List.pairwise_of_forall fun b c hb hc => ?_
    exact htrans b a c (isTied_iff.mp hb).2 (isTied_iff.mp hc).1
  have hkept := List.sublist_mergeSort htrans htotal hordered List.filter_sublist
  have hsame := hkept.filter (isTied le a)
  rw [List.filter_filter] at hsame
  simp only [Bool.and_self] at hsame
  exact (hsame.eq_of_length (hperm.filter _).length_eq.symm).symm

/-- A list without equal members has one sort in whichever order it comes. -/
theorem mergeSort_eq_of_perm {l others : List α} (h : l.Perm others)
    (hdistinct : l.Pairwise fun a b => ¬isTied le a b = true) :
    l.mergeSort le = others.mergeSort le := by
  have hsort := stableSort_mergeSort htrans htotal l
  have hothers := stableSort_mergeSort htrans htotal others
  have hperm := hsort.perm.trans (h.trans hothers.perm.symm)
  refine hperm.eq_of_pairwise (fun a b ha hb hab hba => ?_) hsort.ordered hothers.ordered
  -- Two members that are tied are one member.
  have hsymm : Std.Symm fun a b => ¬isTied le a b = true :=
    ⟨fun a b hne hba => hne (isTied_iff.mpr (isTied_iff.mp hba).symm)⟩
  by_contra hne
  exact hdistinct.forall (hsort.perm.subset ha) (h.symm.subset (hothers.perm.subset hb)) hne
    (isTied_iff.mpr ⟨hab, hba⟩)

end Merge

end RiddlEditor
