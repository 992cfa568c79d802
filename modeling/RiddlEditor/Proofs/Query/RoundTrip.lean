import RiddlEditor.Proofs.Query.Wire
import RiddlEditor.Proofs.StableSort

/-!
# The wire form loses nothing

Whoever reads the wire form of semantic tokens gets all of them, in the order of their places.
Which list this is does not depend on how they are sorted: tokens at one place come in the order
they were given in, so it is the stable sort of the tokens and no other list.

The tokens that a resolver makes come in order already, and the places of those of a text
differ. Neither is needed here: tokens may have any numbers, in any order, and several of them
may have one place. If no line and no column is negative, no step on the wire is
(`steps_nonneg`). If places differ, the wire form does not depend on the order the tokens are
given in.

## Theorems

* `SemanticToken.startsBefore_trans`, `SemanticToken.startsBefore_total`: The order of places.
* `isTied_startsBefore_iff`: Tokens that are equal in this order have one place.
* `stableSort_decode_encode`: What is read back is the stable sort.
* `steps_nonneg`: In the order of places all steps go forward.
* `encoding_is_lossless`: Nothing is lost on the wire.
-/

namespace RiddlEditor

namespace SemanticToken

theorem startsBefore_trans (a b c : SemanticToken) (hab : a.startsBefore b = true)
    (hbc : b.startsBefore c = true) : a.startsBefore c = true := by
  rw [startsBefore_iff] at hab hbc ⊢
  omega

theorem startsBefore_total (a b : SemanticToken) : a.startsBefore b || b.startsBefore a := by
  rw [Bool.or_eq_true, startsBefore_iff, startsBefore_iff]
  omega

/-- Tokens that are equal in the order of places have one place. -/
theorem isTied_startsBefore_iff {a b : SemanticToken} :
    isTied startsBefore a b = true ↔ a.line = b.line ∧ a.column = b.column := by
  rw [isTied_iff, startsBefore_iff, startsBefore_iff]
  omega

end SemanticToken

/-- What is read back is the stable sort of what was written. -/
theorem stableSort_decode_encode (ts : List SemanticToken) :
    StableSort SemanticToken.startsBefore ts (decodeSemanticTokens (encodeSemanticTokens ts)) := by
  rw [decode_encode]
  exact stableSort_mergeSort SemanticToken.startsBefore_trans SemanticToken.startsBefore_total ts

/-- In the order of places all steps go forward: those from line to line, and those from column
    to column. They are the first two of the five numbers of a token. -/
theorem steps_nonneg {line column : Int} {ts : List SemanticToken}
    (hfirst : ∀ t ∈ ts, t.StartsFrom line column)
    (hsorted : ts.Pairwise fun a b => a.startsBefore b = true) (hcolumns : ∀ t ∈ ts, 0 ≤ t.column)
    {i : Nat} {n : Int} (hn : (encodeAfter line column ts)[i]? = some n) (hi : i % 5 < 2) :
    0 ≤ n := by
  induction hsorted generalizing line column i with
  | nil => exact absurd hn.symm (Option.some_ne_none n)
  | @cons t rest hrest _ ih =>
      have hstart := hfirst t List.mem_cons_self
      have hcolumn := hcolumns t List.mem_cons_self
      simp only [SemanticToken.StartsFrom] at hstart
      rcases i with _ | _ | _ | _ | _ | j
      · obtain rfl := Option.some.inj hn
        omega
      · obtain rfl := Option.some.inj hn
        split <;> omega
      · omega
      · omega
      · omega
      · -- The rest starts from this token.
        exact ih (fun u hu => SemanticToken.startsBefore_iff.mp (hrest u hu))
          (fun u hu => hcolumns u (List.mem_cons_of_mem t hu)) hn (by omega)

/-- Nothing is lost on the wire. For all semantic tokens, what is read back from their wire form
    is their stable sort by line and column, with all fields as they were, and each of them
    takes five numbers. If no line and no column is negative, all steps go forward. The order
    of tokens does not matter if their places differ. -/
theorem encoding_is_lossless (ts : List SemanticToken) :
    (∀ sorted, StableSort SemanticToken.startsBefore ts sorted ↔
      decodeSemanticTokens (encodeSemanticTokens ts) = sorted) ∧
    (encodeSemanticTokens ts).length = 5 * ts.length ∧
    ((∀ t ∈ ts, 0 ≤ t.line ∧ 0 ≤ t.column) → ∀ i n, (encodeSemanticTokens ts)[i]? = some n →
      i % 5 < 2 → 0 ≤ n) ∧
    ∀ others, ts.Perm others →
      (ts.Pairwise fun a b => ¬(a.line = b.line ∧ a.column = b.column)) →
      encodeSemanticTokens ts = encodeSemanticTokens others := by
  have hsort := stableSort_decode_encode ts
  refine ⟨fun sorted => ⟨fun h => ?_, fun h => h ▸ hsort⟩, ?_, fun hplaces i n hn hi => ?_,
    fun others hperm hdistinct => ?_⟩
  · exact hsort.unique SemanticToken.startsBefore_total h
  · rw [encodeSemanticTokens, length_encodeAfter, List.length_mergeSort]
  · rw [decode_encode] at hsort
    have hmem : ∀ t ∈ ts.mergeSort SemanticToken.startsBefore, 0 ≤ t.line ∧ 0 ≤ t.column :=
      fun t ht => hplaces t (hsort.perm.subset ht)
    refine steps_nonneg (fun t ht => ?_) hsort.ordered (fun t ht => (hmem t ht).2) hn hi
    -- The first step is that from the start of the document.
    have hplace := hmem t ht
    simp only [SemanticToken.StartsFrom]
    omega
  · have hsame := mergeSort_eq_of_perm SemanticToken.startsBefore_trans
      SemanticToken.startsBefore_total hperm
      (hdistinct.imp fun hne htied => hne (SemanticToken.isTied_startsBefore_iff.mp htied))
    rw [encodeSemanticTokens, encodeSemanticTokens, hsame]

-- The second and the third token are at one place, and the last one is in front of them.
example : encodeSemanticTokens
      [⟨2, 4, 1, 7, 0⟩, ⟨2, 9, 3, 11, 0⟩, ⟨2, 9, 1, 7, 1⟩, ⟨0, 5, 2, 12, 0⟩] =
    [0, 5, 2, 12, 0, 2, 4, 1, 7, 0, 0, 5, 3, 11, 0, 0, 0, 1, 7, 1] := by
  cbv

end RiddlEditor
