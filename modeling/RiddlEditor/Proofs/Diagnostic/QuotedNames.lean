import Mathlib.Data.List.Forall2
import RiddlEditor.Diagnostic.QuotedName
import RiddlEditor.Proofs.Text.Stretch

/-!
# The names that a message quotes

What a quoted name is can be told without a reader: a category word in any case, blanks, and a
name between single quotes (`QuotesName`). A text starts with one such name at most, since the
category word ends with the first blank and the name with the next quote.

A message is gone through from left to right. Where no word character is in front, a quoted name
may start; if one does, it is taken and the search goes on behind its closing quote, and
otherwise it goes on with the next character (`FindsNames`). What a quoted name may be spelled
like in a line is told by its parts: the blanks at its ends are no part of it, and a path may
stand for its last segment (`Spells`).

## Main definitions

* `QuotesName`: A text starts with a quoted name.
* `FindsNames`: The quoted names of a text, from left to right.
* `Spells`: The spellings of a quoted name.
* `Candidates`: The spellings that a message offers, in their order.

## Theorems

* `afterWord?_eq_some_iff`: What a word leaves of a text.
* `quotedNameAt?_eq_some_iff`: What is read where a quoted name starts.
* `findsNames_iff`: The names that are found in a text.
* `lastSegment?_eq_some_iff`: The last segment of a path.
* `spells_iff`: The spellings of a quoted name.
* `candidates_iff`: The spellings that a message offers.
-/

namespace RiddlEditor

/-! ## One quoted name -/

/-- A text starts with a quoted name: a category word, at least one blank, and a name between
    single quotes. -/
def QuotesName (s name rest : Text) : Prop :=
  ∃ word ∈ categoryWords, ∃ letters blanks,
    s = letters ++ (blanks ++ '\'' :: (name ++ '\'' :: rest)) ∧
    List.Forall₂ (fun letter c => foldsTo letter c = true) word letters ∧
    blanks ≠ [] ∧ (∀ c ∈ blanks, isBlank c = true) ∧ name ≠ [] ∧ '\'' ∉ name

/-- The name in quotes behind some blanks. -/
theorem nameInQuotes?_eq_some_iff {s name rest : Text} :
    nameInQuotes? s = some (name, rest) ↔
      ∃ blanks, s = blanks ++ '\'' :: (name ++ '\'' :: rest) ∧ blanks ≠ [] ∧
        (∀ c ∈ blanks, isBlank c = true) ∧ name ≠ [] ∧ '\'' ∉ name := by
  constructor
  · intro h
    unfold nameInQuotes? at h
    split at h
    case isFalse => exact nomatch h
    case isTrue hblank =>
      split at h
      case h_2 => exact nomatch h
      case h_1 body hbody =>
        simp only at h
        split at h
        case h_1 => exact nomatch h
        case h_2 quote tail htail =>
          split at h
          case isTrue => exact nomatch h
          case isFalse hempty =>
            obtain ⟨rfl, rfl⟩ := Prod.mk.inj (Option.some.inj h)
            rcases cut_iff.mp ⟨rfl, hbody⟩ with ⟨hs, hblanks, _⟩
            rcases cut_iff.mp ⟨rfl, htail⟩ with ⟨_, _, hquote⟩
            obtain rfl : quote = '\'' := by simpa using hquote
            rcases cut_at_iff.mp ⟨rfl, htail⟩ with ⟨hname, hnot⟩
            refine ⟨s.takeWhile isBlank, ?_, takeWhile_ne_nil_iff.mpr hblank, hblanks, ?_, hnot⟩
            · rw [← hname]
              exact hs
            · exact fun hnil => hempty (List.isEmpty_iff.mpr hnil)
  · rintro ⟨blanks, hs, hnonempty, hblanks, hname, hquote⟩
    rcases cut_iff.mpr ⟨hs, hblanks, by decide⟩ with ⟨htake, hdrop⟩
    rcases cut_at_iff.mpr (And.intro (Eq.refl (name ++ '\'' :: rest)) hquote) with ⟨htake', hdrop'⟩
    have hhead : s.head?.any isBlank = true := takeWhile_ne_nil_iff.mp (htake ▸ hnonempty)
    rw [nameInQuotes?, if_pos hhead, hdrop]
    simp only [htake', hdrop', List.isEmpty_eq_false_iff.mpr hname, Bool.false_eq_true, if_false]

/-! ## Category words -/

/-- What a word leaves of a text that starts with it. -/
theorem afterWord?_eq_some_iff {word s rest : Text} :
    afterWord? word s = some rest ↔
      ∃ letters, s = letters ++ rest ∧
        List.Forall₂ (fun letter c => foldsTo letter c = true) word letters := by
  constructor
  · intro h
    induction word generalizing s with
    | nil => exact ⟨[], Option.some.inj h, .nil⟩
    | cons letter word ih =>
        cases s with
        | nil => cases h
        | cons c s =>
            rw [afterWord?] at h
            split at h
            case isTrue hfolds =>
              rcases ih h with ⟨letters, rfl, hletters⟩
              exact ⟨c :: letters, rfl, .cons hfolds hletters⟩
            case isFalse => cases h
  · rintro ⟨letters, rfl, hletters⟩
    induction hletters with
    | nil => rfl
    | cons hfolds _ ih => rw [List.cons_append, afterWord?, if_pos hfolds, ih]

theorem exists_letter {word letters : Text} {c : Char}
    (h : List.Forall₂ (fun letter c => foldsTo letter c = true) word letters) (hc : c ∈ letters) :
    ∃ letter ∈ word, foldsTo letter c = true := by
  induction h with
  | nil => exact absurd hc List.not_mem_nil
  | @cons letter d word letters hfirst _ ih =>
      rcases List.mem_cons.mp hc with rfl | hc
      · exact ⟨letter, List.mem_cons_self, hfirst⟩
      · rcases ih hc with ⟨other, hother, hfolds⟩
        exact ⟨other, List.mem_cons_of_mem letter hother, hfolds⟩

/-- A code point that a table covers is in one of its ranges. -/
theorem exists_range_of_covers {table : RangeTable} {n : Nat} (h : table.covers n = true) :
    ∃ r ∈ table, r.1 ≤ n ∧ n ≤ r.2 := by
  induction table with
  | nil => exact absurd h Bool.false_ne_true
  | cons r rest ih =>
      rcases r with ⟨low, high⟩
      rw [RangeTable.covers] at h
      split at h
      case isTrue => exact absurd h Bool.false_ne_true
      case isFalse hlow =>
        split at h
        case isTrue hhigh => exact ⟨(low, high), List.mem_cons_self, Nat.le_of_not_lt hlow, hhigh⟩
        case isFalse =>
          rcases ih h with ⟨r, hr, hin⟩
          exact ⟨r, List.mem_cons_of_mem _ hr, hin⟩

theorem toLower_of_mem_blankRanges :
    ∀ r ∈ blankRanges, ∀ n ∈ List.range' r.1 (r.2 - r.1 + 1),
      isBlank (Char.ofNat n).toLower = true ∧
        Char.ofNat n ∉ ['\u0130', '\u0131', '\u017f', '\u212a'] := by
  decide +kernel

theorem isBlank_of_category {word : Text} {letter : Char} (hword : word ∈ categoryWords)
    (hletter : letter ∈ word) : isBlank letter = false := by
  have hall : categoryWords.all (·.all (!isBlank ·)) = true := by decide +kernel
  have hletters := List.all_eq_true.mp hall word hword
  exact (Bool.not_eq_true' _).mp (List.all_eq_true.mp hletters letter hletter)

/-- What counts as a letter of a category word is no blank: a blank is one in lower case, too. -/
theorem isBlank_of_foldsTo {word : Text} {letter c : Char} (hword : word ∈ categoryWords)
    (hletter : letter ∈ word) (h : foldsTo letter c = true) : isBlank c = false := by
  rw [← Bool.not_eq_true]
  intro hblank
  rcases exists_range_of_covers hblank with ⟨r, hr, hlow, hhigh⟩
  have hmem : c.toNat ∈ List.range' r.1 (r.2 - r.1 + 1) := List.mem_range'_1.mpr (by omega)
  rcases toLower_of_mem_blankRanges r hr c.toNat hmem with ⟨hlower, hspecial⟩
  rw [Char.ofNat_toNat] at hlower hspecial
  -- None of the four characters that count as another letter is a blank.
  simp only [List.mem_cons, List.not_mem_nil, or_false, not_or] at hspecial
  have hsame : c.toLower = letter := by
    simpa only [foldsTo, beq_eq_false_iff_ne.mpr hspecial.1, beq_eq_false_iff_ne.mpr hspecial.2.1,
      beq_eq_false_iff_ne.mpr hspecial.2.2.1, beq_eq_false_iff_ne.mpr hspecial.2.2.2,
      Bool.or_false, Bool.and_false, beq_iff_eq] using h
  rw [hsame, isBlank_of_category hword hletter] at hlower
  exact Bool.false_ne_true hlower

/-- What counts as a category word has no blanks. -/
theorem not_isBlank_of_folds {word letters : Text} (hword : word ∈ categoryWords)
    (h : List.Forall₂ (fun letter c => foldsTo letter c = true) word letters) :
    ∀ c ∈ letters, (!isBlank c) = true := by
  intro c hc
  rcases exists_letter h hc with ⟨letter, hletter, hfolds⟩
  rw [isBlank_of_foldsTo hword hletter hfolds, Bool.not_false]

/-- A category word that leaves a text with a blank at its start takes everything in front of the
    first blank. -/
theorem afterWord?_of_category {word s rest : Text} (hword : word ∈ categoryWords)
    (h : afterWord? word s = some rest) (hblank : rest.head?.any isBlank = true) :
    s.dropWhile (!isBlank ·) = rest := by
  rcases afterWord?_eq_some_iff.mp h with ⟨letters, hs, hletters⟩
  cases rest with
  | nil => exact absurd hblank Bool.false_ne_true
  | cons c rest =>
      have hstop : (!isBlank c) = false := congrArg not hblank
      exact (cut_iff.mpr ⟨hs, not_isBlank_of_folds hword hletters, hstop⟩).2

/-- A quoted name is a category word and, behind it, a name in quotes. -/
theorem quotesName_iff {s name rest : Text} :
    QuotesName s name rest ↔
      ∃ word ∈ categoryWords, (afterWord? word s).bind nameInQuotes? = some (name, rest) := by
  refine exists_congr fun word => and_congr_right fun _ => ?_
  simp only [Option.bind_eq_some_iff, afterWord?_eq_some_iff, nameInQuotes?_eq_some_iff]
  constructor
  · rintro ⟨letters, blanks, hs, hletters, hquoted⟩
    exact ⟨_, ⟨letters, hs, hletters⟩, blanks, rfl, hquoted⟩
  · rintro ⟨_, ⟨letters, hs, hletters⟩, blanks, rfl, hquoted⟩
    exact ⟨letters, blanks, hs, hletters, hquoted⟩

/-- Whichever category words are found at the start of a text, the name behind them is the same. -/
theorem eq_of_category {word word' s : Text} {found found' : Text × Text}
    (hword : word ∈ categoryWords) (hword' : word' ∈ categoryWords)
    (h : (afterWord? word s).bind nameInQuotes? = some found)
    (h' : (afterWord? word' s).bind nameInQuotes? = some found') : found = found' := by
  have hblank : ∀ {rest found}, nameInQuotes? rest = some found →
      rest.head?.any isBlank = true := by
    intro rest found hfound
    by_contra hnot
    rw [nameInQuotes?, if_neg hnot] at hfound
    exact nomatch hfound
  rcases Option.bind_eq_some_iff.mp h with ⟨rest, hrest, hfound⟩
  rcases Option.bind_eq_some_iff.mp h' with ⟨rest', hrest', hfound'⟩
  rw [← afterWord?_of_category hword hrest (hblank hfound)] at hfound
  rw [← afterWord?_of_category hword' hrest' (hblank hfound')] at hfound'
  exact Option.some.inj (hfound.symm.trans hfound')

/-- What is read where a quoted name starts. -/
theorem quotedNameAt?_eq_some_iff {s name rest : Text} :
    quotedNameAt? s = some (name, rest) ↔ QuotesName s name rest := by
  rw [quotesName_iff]
  refine ⟨List.exists_of_findSome?_eq_some, ?_⟩
  rintro ⟨word, hword, hhere⟩
  cases hfound : quotedNameAt? s with
  | none => exact nomatch (List.findSome?_eq_none_iff.mp hfound word hword).symm.trans hhere
  | some found =>
      rcases List.exists_of_findSome?_eq_some hfound with ⟨other, hother, hthere⟩
      rw [eq_of_category hother hword hthere hhere]

theorem quotedNameAt?_eq_none_iff {s : Text} :
    quotedNameAt? s = none ↔ ∀ name rest, ¬QuotesName s name rest := by
  simp only [Option.eq_none_iff_forall_ne_some, Prod.forall, ne_eq, quotedNameAt?_eq_some_iff]

/-! ## The names of a message -/

/-- The quoted names of a text, from left to right, where `before` is the character in front of
    it. A name is looked for where no word character is in front, and behind a name the search
    goes on with its closing quote in front. -/
inductive FindsNames : Option Char → Text → List Text → Prop where
  | done {before : Option Char} : FindsNames before [] []
  | found {before : Option Char} {s name rest : Text} {names : List Text}
      (hbefore : before.any isWordChar = false) (hname : QuotesName s name rest)
      (hrest : FindsNames (some '\'') rest names) : FindsNames before s (name :: names)
  | pass {before : Option Char} {c : Char} {rest : Text} {names : List Text}
      (hnone : before.any isWordChar = false → ∀ name tail, ¬QuotesName (c :: rest) name tail)
      (hrest : FindsNames (some c) rest names) : FindsNames before (c :: rest) names

/-- A quoted name at the start of a text is taken. -/
theorem quotedNamesFrom_of_found {s name tail : Text} (h : quotedNameAt? s = some (name, tail)) :
    quotedNamesFrom false s = name :: quotedNamesFrom false tail := by
  cases s with
  | nil => exact absurd (quotedNameAt?_length h) (Nat.not_lt_zero _)
  | cons c rest =>
      rw [quotedNamesFrom]
      split
      case h_1 name' tail' hfound =>
        rw [if_neg Bool.false_ne_true, h, Option.some.injEq, Prod.mk.injEq] at hfound
        rw [hfound.1, hfound.2]
      case h_2 hfound =>
        rw [if_neg Bool.false_ne_true, h] at hfound
        cases hfound

/-- A character is passed if no name is found there. -/
theorem quotedNamesFrom_cons {c : Char} {rest : Text} (inWord : Bool)
    (h : inWord = false → quotedNameAt? (c :: rest) = none) :
    quotedNamesFrom inWord (c :: rest) = quotedNamesFrom (isWordChar c) rest := by
  rw [quotedNamesFrom]
  split
  case h_1 name tail hfound =>
    cases inWord with
    | true => cases hfound
    | false => cases (h rfl).symm.trans hfound
  case h_2 => rfl

/-- The names that are found in a text. -/
theorem findsNames_iff {before : Option Char} {s : Text} {names : List Text} :
    FindsNames before s names ↔ names = quotedNamesFrom (before.any isWordChar) s := by
  constructor
  · intro h
    induction h with
    | done => rw [quotedNamesFrom]
    | found hbefore hname _ ih =>
        rw [hbefore, quotedNamesFrom_of_found (quotedNameAt?_eq_some_iff.mpr hname), ih]
        rfl
    | pass hnone _ ih =>
        rw [quotedNamesFrom_cons _ fun hbefore => quotedNameAt?_eq_none_iff.mpr (hnone hbefore), ih]
        rfl
  · rintro rfl
    generalize hbefore : before.any isWordChar = inWord
    induction inWord, s using quotedNamesFrom.induct generalizing before with
    | case1 inWord =>
        rw [quotedNamesFrom]
        exact .done
    | case2 inWord c rest name tail hfound ih =>
        cases inWord with
        | true => cases hfound
        | false =>
            rw [quotedNamesFrom_of_found hfound]
            exact .found hbefore (quotedNameAt?_eq_some_iff.mp hfound) (ih (by decide))
    | case3 inWord c rest hnone ih =>
        have hnot : inWord = false → quotedNameAt? (c :: rest) = none := by
          rintro rfl
          exact hnone
        rw [quotedNamesFrom_cons inWord hnot]
        refine .pass (fun h => quotedNameAt?_eq_none_iff.mp (hnot (hbefore.symm.trans h))) ?_
        exact ih rfl

/-! ## Spellings -/

/-- The spellings that a quoted name may have in a line, in the order in which they are tried:
    the name without the blanks at its ends and, if it is a path, its last segment. -/
inductive Spells (quoted : Text) : List Text → Prop where
  | blank (hblank : ∀ c ∈ quoted, isBlank c = true) : Spells quoted []
  | plain {name : Text} (htrim : IsTrimmed quoted name)
      (hpath : ∀ path last, name = path ++ '.' :: last → '.' ∉ last → last = []) :
      Spells quoted [name]
  | path {name path last : Text} (htrim : IsTrimmed quoted name)
      (hpath : name = path ++ '.' :: last) (hdot : '.' ∉ last) (hlast : last ≠ []) :
      Spells quoted [name, last]

/-- The last segment of a path. -/
theorem lastSegment?_eq_some_iff {s last : Text} :
    lastSegment? s = some last ↔ ∃ path, s = path ++ '.' :: last ∧ '.' ∉ last := by
  unfold lastSegment?
  constructor
  · intro h
    split at h
    case isFalse => exact nomatch h
    case isTrue hdot =>
      have hmem := List.mem_reverse.mpr (List.contains_iff_mem.mp hdot)
      rcases List.eq_append_cons_of_mem hmem with ⟨front, rest, hs, hnot⟩
      rw [(cut_at_iff.mpr ⟨hs, hnot⟩).1] at h
      obtain rfl := Option.some.inj h
      refine ⟨rest.reverse, ?_, fun hc => hnot (List.mem_reverse.mp hc)⟩
      rw [← List.reverse_reverse s, hs]
      simp only [List.reverse_append, List.reverse_cons, List.append_assoc, List.singleton_append]
  · rintro ⟨path, rfl, hnot⟩
    have hs : (path ++ '.' :: last).reverse = last.reverse ++ '.' :: path.reverse := by
      simp only [List.reverse_append, List.reverse_cons, List.append_assoc, List.singleton_append]
    have hnot' : '.' ∉ last.reverse := fun hc => hnot (List.mem_reverse.mp hc)
    have hmem : '.' ∈ path ++ '.' :: last := List.mem_append_right path List.mem_cons_self
    rw [if_pos (List.contains_iff_mem.mpr hmem), (cut_at_iff.mpr ⟨hs, hnot'⟩).1,
      List.reverse_reverse]

/-- The spellings of a quoted name. -/
theorem spells_iff {quoted : Text} {spellings : List Text} :
    Spells quoted spellings ↔ spellings = nameCandidates quoted := by
  unfold nameCandidates
  simp only
  constructor
  · intro h
    cases h with
    | blank hblank => rw [trim_eq_nil_iff.mpr hblank]; rfl
    | plain htrim hpath =>
        rcases isTrimmed_iff.mp htrim with ⟨rfl, hname⟩
        rw [List.isEmpty_eq_false_iff.mpr hname, if_neg Bool.false_ne_true]
        cases hsegment : lastSegment? quoted.trim with
        | none => rfl
        | some last =>
            rcases lastSegment?_eq_some_iff.mp hsegment with ⟨path, hname, hdot⟩
            rw [hpath path last hname hdot]
            rfl
    | path htrim hpath hdot hlast =>
        rcases isTrimmed_iff.mp htrim with ⟨rfl, hname⟩
        rw [List.isEmpty_eq_false_iff.mpr hname, if_neg Bool.false_ne_true,
          lastSegment?_eq_some_iff.mpr ⟨_, hpath, hdot⟩]
        simp only [List.isEmpty_eq_false_iff.mpr hlast, Bool.false_eq_true, if_false]
  · rintro rfl
    by_cases hempty : quoted.trim.isEmpty = true
    · rw [if_pos hempty]
      exact .blank (trim_eq_nil_iff.mp (List.isEmpty_iff.mp hempty))
    · have htrim : IsTrimmed quoted quoted.trim :=
        isTrimmed_iff.mpr ⟨rfl, fun hnil => hempty (List.isEmpty_iff.mpr hnil)⟩
      rw [if_neg hempty]
      cases hsegment : lastSegment? quoted.trim with
      | none =>
          refine .plain htrim fun path last hname hdot => ?_
          exact nomatch hsegment.symm.trans (lastSegment?_eq_some_iff.mpr ⟨path, hname, hdot⟩)
      | some last =>
          rcases lastSegment?_eq_some_iff.mp hsegment with ⟨path, hname, hdot⟩
          by_cases hlast : last = []
          · subst hlast
            refine .plain htrim fun path' last' hname' hdot' => ?_
            have hsame := lastSegment?_eq_some_iff.mpr ⟨path', hname', hdot'⟩
            exact (Option.some.inj (hsegment.symm.trans hsame)).symm
          · simp only [List.isEmpty_eq_false_iff.mpr hlast, Bool.false_eq_true, if_false]
            exact .path htrim hname hdot hlast

/-- The spellings that a message offers, in their order: those of its quoted names, one name after
    the other. -/
def Candidates (message : Text) (candidates : List Text) : Prop :=
  ∃ names spellings, FindsNames none message names ∧ List.Forall₂ Spells names spellings ∧
    candidates = spellings.flatten

theorem forall₂_spells_iff {names : List Text} {spellings : List (List Text)} :
    List.Forall₂ Spells names spellings ↔ spellings = names.map nameCandidates := by
  rw [eq_comm, ← List.forall₂_eq_eq_eq, List.forall₂_map_left_iff]
  refine iff_of_eq (congrArg (fun r => List.Forall₂ r names spellings) ?_)
  funext quoted spelling
  exact propext (spells_iff.trans eq_comm)

/-- The spellings that a message offers. -/
theorem candidates_iff {message : Text} {candidates : List Text} :
    Candidates message candidates ↔
      candidates = (quotedNames message).flatMap nameCandidates := by
  simp only [Candidates, findsNames_iff, forall₂_spells_iff]
  constructor
  · rintro ⟨_, _, rfl, rfl, rfl⟩
    exact List.flatMap_def.symm
  · rintro rfl
    exact ⟨_, _, rfl, rfl, List.flatMap_def⟩

example : (quotedNames "retype 'a' but TYPE\t' b.c ' and user 'd.'".toList).flatMap nameCandidates =
    ["b.c".toList, "c".toList, "d.".toList] := by
  decide +kernel

end RiddlEditor
