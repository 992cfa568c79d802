import RiddlEditor.Proofs.Query.Colouring

/-!
# Semantic tokens on the wire

On the wire a token says how far it is from the one before: how many lines, and how many
columns if it is on the same line. Whoever reads the numbers has to keep the place of the last
token, and with it gets every token back (`decodeAfter_encodeAfter`), in whatever order they
were written down. The order matters only for the numbers themselves: none of them is negative
if each token starts where the one before starts, or behind it.

## Main definitions

* `SemanticToken.StartsFrom`: A semantic token starts at a place or behind it.
* `SemanticToken.NonNegative`: What a semantic token says besides its line is not negative.

## Theorems

* `decodeAfter_encodeAfter`: Reading undoes writing, behind any place.
* `decode_encode`: The tokens come back in the order of their places.
* `encodeAfter_nonneg`: In that order no number on the wire is negative.
* `mergeSort_of_precedes`: Tokens that do not overlap are in order already.
-/

namespace RiddlEditor

/-- Reading undoes writing, behind any place. -/
theorem decodeAfter_encodeAfter (line column : Int) (ts : List SemanticToken) :
    decodeAfter line column (encodeAfter line column ts) = ts := by
  induction ts generalizing line column with
  | nil => rfl
  | cons t rest ih =>
      simp only [encodeAfter, decodeAfter]
      have hline : line + (t.line - line) = t.line := by omega
      -- The reader takes the column to be relative exactly when the writer made it so.
      have hcolumn : (if t.line - line = 0 then
            column + if t.line - line = 0 then t.column - column else t.column
          else if t.line - line = 0 then t.column - column else t.column) = t.column := by
        by_cases hsame : t.line - line = 0
        · rw [if_pos hsame, if_pos hsame]
          omega
        · rw [if_neg hsame, if_neg hsame]
      rw [hline, hcolumn, ih]

/-- The tokens come back in the order of their places. -/
theorem decode_encode (ts : List SemanticToken) :
    decodeSemanticTokens (encodeSemanticTokens ts) = ts.mergeSort SemanticToken.startsBefore :=
  decodeAfter_encodeAfter 0 0 _

theorem length_encodeAfter (line column : Int) (ts : List SemanticToken) :
    (encodeAfter line column ts).length = 5 * ts.length := by
  induction ts generalizing line column with
  | nil => rfl
  | cons t rest ih =>
      simp only [encodeAfter, List.length_cons, ih]
      omega

namespace SemanticToken

theorem startsBefore_iff {a b : SemanticToken} :
    a.startsBefore b = true ↔ a.line < b.line ∨ a.line = b.line ∧ a.column ≤ b.column := by
  rw [startsBefore, Bool.or_eq_true, Bool.and_eq_true, decide_eq_true_eq, beq_iff_eq,
    decide_eq_true_eq]

/-- A semantic token starts at a place or behind it. -/
def StartsFrom (line column : Int) (t : SemanticToken) : Prop :=
  line < t.line ∨ line = t.line ∧ column ≤ t.column

/-- What a semantic token says besides its line is not negative. -/
structure NonNegative (t : SemanticToken) : Prop where
  column : 0 ≤ t.column
  length : 0 ≤ t.length
  type : 0 ≤ t.type
  modifiers : 0 ≤ t.modifiers

theorem Precedes.startsBefore {a b : SemanticToken} (h : a.Precedes b) (ha : a.NonNegative) :
    a.startsBefore b = true := by
  have hlength := ha.length
  simp only [Precedes] at h
  rw [startsBefore_iff]
  omega

end SemanticToken

/-- Where each token starts from the one before, no number on the wire is negative. -/
theorem encodeAfter_nonneg {line column : Int} {ts : List SemanticToken}
    (hfirst : ∀ t ∈ ts, t.StartsFrom line column)
    (hsorted : ts.Pairwise fun a b => a.startsBefore b = true)
    (hnat : ∀ t ∈ ts, t.NonNegative) : ∀ n ∈ encodeAfter line column ts, 0 ≤ n := by
  induction hsorted generalizing line column with
  | nil => exact fun n hn => absurd hn List.not_mem_nil
  | @cons t rest hrest _ ih =>
      have hstart := hfirst t List.mem_cons_self
      have ht := hnat t List.mem_cons_self
      have hcolumn := ht.column
      simp only [SemanticToken.StartsFrom] at hstart
      intro n hn
      simp only [encodeAfter, List.mem_cons] at hn
      rcases hn with rfl | rfl | rfl | rfl | rfl | hn
      · omega
      · split <;> omega
      · exact ht.length
      · exact ht.type
      · exact ht.modifiers
      · -- The rest starts from this token.
        exact ih (fun u hu => SemanticToken.startsBefore_iff.mp (hrest u hu))
          (fun u hu => hnat u (List.mem_cons_of_mem t hu)) n hn

section Ordered

variable {ts : List SemanticToken} (h : ts.Pairwise SemanticToken.Precedes)
  (hnat : ∀ t ∈ ts, t.NonNegative)
include h hnat

theorem startsBefore_of_precedes : ts.Pairwise fun a b => a.startsBefore b = true :=
  h.imp_of_mem fun ha _ hprecedes => hprecedes.startsBefore (hnat _ ha)

/-- Tokens that do not overlap are in order already. -/
theorem mergeSort_of_precedes : ts.mergeSort SemanticToken.startsBefore = ts :=
  List.mergeSort_of_pairwise (startsBefore_of_precedes h hnat)

theorem length_encode : (encodeSemanticTokens ts).length = 5 * ts.length := by
  rw [encodeSemanticTokens, mergeSort_of_precedes h hnat, length_encodeAfter]

theorem encode_nonneg (hline : ∀ t ∈ ts, 0 ≤ t.line) : ∀ n ∈ encodeSemanticTokens ts, 0 ≤ n := by
  rw [encodeSemanticTokens, mergeSort_of_precedes h hnat]
  refine encodeAfter_nonneg (fun t ht => ?_) (startsBefore_of_precedes h hnat) hnat
  have hfrom := hline t ht
  have hcolumn := (hnat t ht).column
  simp only [SemanticToken.StartsFrom]
  omega

end Ordered

end RiddlEditor
