import RiddlEditor.Text.Lowercase

/-!
# Lower case is lower case

The lower case of a text is left as it is by the mapping. Of the rule for the sigma nothing has to
be known for this: it applies to capital sigmas only, and the lower case of a text has none. So
it is enough to look at single characters. One that is in no run of capitals is left as it is, and
what the capitals of a run become is in no other run: they are compared run by run, because they
are either far apart or, where capitals and small letters alternate, between each other.

## Main definitions

* `IsSmall`: A character is its own lower case.
* `CaseRun.Has`: The capitals of a run.
* `CaseRun.misses`: What the capitals of a run become is not in another one.

## Theorems

* `CaseRun.apply_cases`: Whether a code point is in a run.
* `isSmall_smallLetter`: A small letter is small, where no character needs more.
* `isSmall_of_mem_lowercase`: A text in lower case consists of small characters.
* `lowercase_lowercase`: The lower case of a text stays as it is.
-/

namespace RiddlEditor

/-- A character is its own lower case, wherever it is. -/
structure IsSmall (c : Char) : Prop where
  letter : smallLetter c = c
  not_sigma : c ≠ capitalSigma
  not_dotted : c ≠ '\u0130'

instance (c : Char) : Decidable (IsSmall c) :=
  decidable_of_iff (smallLetter c = c ∧ c ≠ capitalSigma ∧ c ≠ '\u0130')
    ⟨fun ⟨hletter, hsigma, hdotted⟩ => ⟨hletter, hsigma, hdotted⟩,
      fun h => ⟨h.letter, h.not_sigma, h.not_dotted⟩⟩

/-! ## The runs of capitals -/

namespace CaseRun

/-- A code point is a capital of a run. -/
def Has (run : CaseRun) (n : Nat) : Prop :=
  run.first ≤ n ∧ n ≤ run.last ∧ (n - run.first) % run.step = 0

/-- What the capitals of a run become is not in another one: all of it is in front of that or
    behind it, or between its capitals. -/
def misses (run other : CaseRun) : Bool :=
  (run.last + run.shift).toNat.blt other.first || other.last.blt (run.first + run.shift).toNat ||
    (run.first == run.last || run.step % other.step == 0) &&
      (run.first + run.shift - other.first) % other.step != 0

/-- What the capitals of a run become are characters, and not the capital I with a dot. -/
def IsProper (run : CaseRun) : Prop :=
  0 ≤ run.first + run.shift ∧
    (run.last + run.shift < 0xD800 ∨
      0xDFFF < run.first + run.shift ∧ run.last + run.shift < 0x110000) ∧
    (run.last + run.shift < 0x130 ∨ 0x130 < run.first + run.shift)

instance (run : CaseRun) : Decidable run.IsProper :=
  inferInstanceAs (Decidable (_ ∧ _))

/-- A code point is left as it is, or it is a capital of a run. -/
theorem apply_cases (runs : List CaseRun) (n : Nat) :
    apply runs n = n ∨ ∃ run ∈ runs, run.Has n ∧ apply runs n = (n + run.shift).toNat := by
  induction runs with
  | nil => exact Or.inl rfl
  | cons run runs ih =>
      rw [apply]
      split
      case isTrue => exact Or.inl rfl
      case isFalse hfirst =>
        split
        case isTrue hrun =>
          exact Or.inr ⟨run, List.mem_cons_self, ⟨Nat.le_of_not_lt hfirst, hrun⟩, rfl⟩
        case isFalse =>
          exact ih.imp_right fun ⟨other, hmem, hother⟩ =>
            ⟨other, List.mem_cons_of_mem run hmem, hother⟩

theorem apply_eq_self {runs : List CaseRun} {n : Nat} (h : ∀ run ∈ runs, ¬run.Has n) :
    apply runs n = n := by
  rcases apply_cases runs n with hsame | ⟨run, hmem, hhas, _⟩
  · exact hsame
  · exact absurd hhas (h run hmem)

theorem not_has_of_misses {run other : CaseRun} {n : Nat} (hproper : run.IsProper)
    (hmisses : run.misses other = true) (hn : run.Has n) : ¬other.Has (n + run.shift).toNat := by
  rcases hproper with ⟨hlow, _⟩
  rcases hn with ⟨hfirst, hlast, hstep⟩
  rintro ⟨hfirst', hlast', hstep'⟩
  simp only [misses, Bool.or_eq_true, Bool.and_eq_true, Nat.blt_eq, beq_iff_eq, bne_iff_ne]
    at hmisses
  rcases hmisses with (hbefore | hbehind) | ⟨hsteps, hbetween⟩
  · omega
  · omega
  · -- Both distances are steps of the other run, and so is their difference.
    have hdvd : other.step ∣ n - run.first := by
      rcases hsteps with hsingle | hsteps
      · have hzero : n - run.first = 0 := by omega
        rw [hzero]
        exact Nat.dvd_zero _
      · exact Nat.dvd_trans (Nat.dvd_of_mod_eq_zero hsteps) (Nat.dvd_of_mod_eq_zero hstep)
    have hdvd' := Int.natCast_dvd_natCast.mpr (Nat.dvd_of_mod_eq_zero hstep')
    have hdifference : (run.first + run.shift - other.first : Int) =
        ((n + run.shift).toNat - other.first : Nat) - (n - run.first : Nat) := by
      omega
    rw [hdifference] at hbetween
    exact hbetween
      (Int.emod_eq_zero_of_dvd (Int.dvd_sub hdvd' (Int.natCast_dvd_natCast.mpr hdvd)))

end CaseRun

theorem isProper_of_mem_caseRuns : ∀ run ∈ caseRuns, run.IsProper := by
  decide +kernel

/-- No capital becomes a capital. -/
theorem misses_of_mem_caseRuns {run other : CaseRun} (hrun : run ∈ caseRuns)
    (hother : other ∈ caseRuns) : run.misses other = true := by
  have hall : (caseRuns.all fun run => caseRuns.all run.misses) = true := by decide +kernel
  exact List.all_eq_true.mp (List.all_eq_true.mp hall run hrun) other hother

/-! ## Characters and texts -/

theorem toNat_ofNat {n : Nat} (h : n.isValidChar) : (Char.ofNat n).toNat = n := by
  rw [Char.ofNat, dif_pos h]
  rfl

/-- A character that is in no run is small, and so is what a capital becomes. -/
theorem isSmall_smallLetter {c : Char} (hsigma : c ≠ capitalSigma) (hdotted : c ≠ '\u0130') :
    IsSmall (smallLetter c) := by
  rcases CaseRun.apply_cases caseRuns c.toNat with hsame | ⟨run, hrun, hhas, happly⟩
  · have hletter : smallLetter c = c := by rw [smallLetter, hsame, Char.ofNat_toNat]
    rw [hletter]
    exact ⟨hletter, hsigma, hdotted⟩
  · -- What a capital becomes is in no run, so it is left as it is.
    have hproper := isProper_of_mem_caseRuns run hrun
    have hnumber : (smallLetter c).toNat = (c.toNat + run.shift).toNat := by
      rw [smallLetter, happly]
      refine toNat_ofNat ?_
      rcases hproper with ⟨_, hvalid, _⟩
      rcases hhas with ⟨hfirst, hlast, _⟩
      unfold Nat.isValidChar
      omega
    have hletter : smallLetter (smallLetter c) = smallLetter c := by
      have hfixed := CaseRun.apply_eq_self fun other hother =>
        CaseRun.not_has_of_misses hproper (misses_of_mem_caseRuns hrun hother) hhas
      rw [smallLetter, hnumber, hfixed, ← hnumber, Char.ofNat_toNat]
    refine ⟨hletter, fun heq => ?_, fun heq => ?_⟩
    · -- The capital sigma is not its own small letter.
      rw [heq] at hletter
      exact absurd hletter (by decide +kernel)
    · rw [heq] at hnumber
      rcases hproper with ⟨_, _, hother⟩
      rcases hhas with ⟨hfirst, hlast, _⟩
      have hvalue : '\u0130'.toNat = 0x130 := rfl
      omega

theorem isSmall_of_mem_lowercaseAfter {before s : Text} :
    ∀ c ∈ lowercaseAfter before s, IsSmall c := by
  induction s generalizing before with
  | nil => exact fun c hc => absurd hc List.not_mem_nil
  | cons d rest ih =>
      intro c hc
      rw [lowercaseAfter] at hc
      rcases List.mem_append.mp hc with hc | hc
      · split at hc
        case isTrue =>
          rw [List.mem_singleton.mp hc]
          split <;> decide +kernel
        case isFalse hsigma =>
          split at hc
          case isTrue =>
            simp only [List.mem_cons, List.not_mem_nil, or_false] at hc
            rcases hc with rfl | rfl <;> decide +kernel
          case isFalse hdotted =>
            rw [List.mem_singleton.mp hc]
            exact isSmall_smallLetter hsigma hdotted
      · exact ih c hc

/-- A text in lower case consists of small characters. -/
theorem isSmall_of_mem_lowercase {s : Text} : ∀ c ∈ s.lowercase, IsSmall c :=
  isSmall_of_mem_lowercaseAfter

/-- Small characters are left as they are, whatever is in front of them. -/
theorem lowercaseAfter_of_isSmall {before s : Text} (h : ∀ c ∈ s, IsSmall c) :
    lowercaseAfter before s = s := by
  induction s generalizing before with
  | nil => rfl
  | cons c rest ih =>
      rcases List.forall_mem_cons.mp h with ⟨hc, hrest⟩
      rw [lowercaseAfter, if_neg hc.not_sigma, if_neg hc.not_dotted, hc.letter, ih hrest]
      rfl

/-- The lower case of a text stays as it is. -/
theorem lowercase_lowercase (s : Text) : s.lowercase.lowercase = s.lowercase :=
  lowercaseAfter_of_isSmall isSmall_of_mem_lowercase

end RiddlEditor
