import Mathlib.Data.Finset.Card
import Mathlib.Data.Finset.Dedup
import RiddlEditor.Proofs.Compiler.Ranges

/-!
# Which definitions are reported

In a text without syntax errors the local service goes through the definitions twice. First it
keeps the keys it has seen and reports a definition whose key is among them. Then it looks behind
the name of each definition, past words that only make the text easier to read, and reports a
definition whose body is the mark for a missing one.

Neither scan is needed to say what is reported. A definition is repeated if another one with its
key is in front of it (`duplicates_eq_filter`), and its body is missing if the tokens behind its
name can be cut into readability words and the three tokens of the mark (`isEmpty_iff`). The scan
for repeated definitions keeps one of each key, so it reports as many as there are definitions
without a key of their own (`length_duplicates`).

What is shown for a text is one diagnostic for each of these, in this order, and nothing else.

## Main definitions

* `Definition.StandsIn`: A definition of a token list.
* `Definition.Repeats`: A definition with the key of an earlier one.
* `Definition.LacksBody`: A definition whose body is missing.
* `Definition.ReportedAs`: What a diagnostic says about a definition.

## Theorems

* `duplicates_eq_filter`, `length_duplicates`: Which definitions are repeated, and how many.
* `isEmpty_iff`: When the body of a definition is missing.
* `definitions_are_reported`: The diagnostics of a text without syntax errors.
-/

namespace RiddlEditor

/-- A definition of a token list: a keyword that introduces definitions and, right behind it and
    at the index, a token that can name one. -/
def Definition.StandsIn (tokens : List Token) (d : Definition) : Prop :=
  ∃ j, d.index = j + 1 ∧ tokens[j]? = some d.keyword ∧ tokens[j + 1]? = some d.name ∧
    d.keyword.kind = .keyword ∧ isDefinitionKeyword d.keyword.text [] = true ∧
    d.name.kind.isResolvable = true

/-- A definition repeats another one if that is earlier and has the same key. -/
def Definition.Repeats (ds : List Definition) (d : Definition) : Prop :=
  ∃ e ∈ ds, e.index < d.index ∧ e.key = d.key

instance (ds : List Definition) (d : Definition) : Decidable (d.Repeats ds) :=
  inferInstanceAs (Decidable (∃ e ∈ ds, e.index < d.index ∧ e.key = d.key))

/-- The body of a definition is missing: behind its name there are readability words, if any, and
    then the three tokens of the mark for a missing body. -/
def Definition.LacksBody (tokens : List Token) (d : Definition) : Prop :=
  ∃ skipped opener mark closer rest,
    tokens.drop (d.index + 1) = skipped ++ opener :: mark :: closer :: rest ∧
    (∀ t ∈ skipped, t.kind = .readability) ∧ opener.kind ≠ .readability ∧
    [opener.text, mark.text, closer.text] = missingBody

/-- A diagnostic says something about a definition, at its keyword. -/
structure Definition.ReportedAs (severity : Severity) (message : Definition → Text)
    (d : Definition) (e : Diagnostic) : Prop where
  severity : e.severity = severity
  message : e.message = message d
  reportedAt : e.reportedAt = some d.keyword.start.reported
  phase : e.phase = .validation

/-! ## The definitions of a list -/

theorem mem_definitions_iff {tokens : List Token} {d : Definition} :
    d ∈ definitions tokens ↔ d.StandsIn tokens := by
  rw [definitions, mem_definitionsFrom_iff]
  simp only [Nat.zero_add]
  exact Iff.rfl

theorem definitionsFrom_indices (index : Nat) (tokens : List Token) :
    (definitionsFrom index tokens).Pairwise fun d e => d.index < e.index := by
  induction tokens generalizing index with
  | nil => exact List.Pairwise.nil
  | cons keyword rest ih =>
      rcases rest with _ | ⟨name, rest⟩
      · exact List.Pairwise.nil
      · rw [definitionsFrom]
        split
        case isTrue =>
          refine List.Pairwise.cons (fun e he => ?_) (ih (index + 1))
          -- What the rest defines has a greater index.
          rcases mem_definitionsFrom_iff.mp he with ⟨j, hj, _⟩
          change index + 1 < e.index
          omega
        case isFalse => exact ih (index + 1)

/-- The definitions of a list are in its order. -/
theorem definitions_indices (tokens : List Token) :
    (definitions tokens).Pairwise fun d e => d.index < e.index :=
  definitionsFrom_indices 0 tokens

/-! ## Repeated definitions -/

section Repeated

variable {ds : List Definition}

theorem Definition.repeats_cons {d e : Definition} (h : d.index < e.index) :
    e.Repeats (d :: ds) ↔ d.key = e.key ∨ e.Repeats ds := by
  simp only [Definition.Repeats, List.exists_mem_cons_iff, h, true_and]

theorem Definition.not_repeats_of_first {d : Definition} (h : ∀ e ∈ ds, d.index < e.index) :
    ¬d.Repeats (d :: ds) := by
  rintro ⟨e, he, hlt, _⟩
  rcases List.mem_cons.mp he with rfl | he
  · exact Nat.lt_irrefl _ hlt
  · exact Nat.lt_asymm hlt (h e he)

/-- The scan with the keys that were seen finds what has one of them or repeats another one. -/
theorem duplicatesAfter_eq_filter (seen : List (Text × Text))
    (h : ds.Pairwise fun d e => d.index < e.index) :
    duplicatesAfter seen ds = ds.filter fun d => d.key ∈ seen ∨ d.Repeats ds := by
  induction ds generalizing seen with
  | nil => rfl
  | cons d rest ih =>
      rcases List.pairwise_cons.mp h with ⟨hfirst, hrest⟩
      have hnew := Definition.not_repeats_of_first hfirst
      rw [duplicatesAfter, List.filter_cons]
      by_cases hd : d.key ∈ seen
      · rw [if_pos (List.contains_iff_mem.mpr hd), if_pos (decide_eq_true (Or.inl hd)), ih seen hrest]
        refine congrArg _ (List.filter_congr fun e he => decide_eq_decide.mpr ?_)
        rw [Definition.repeats_cons (hfirst e he)]
        constructor
        · exact Or.imp_right Or.inr
        · rintro (hmem | hkey | hrepeats)
          · exact Or.inl hmem
          · exact Or.inl (hkey ▸ hd)
          · exact Or.inr hrepeats
      · have hkept : ¬decide (d.key ∈ seen ∨ d.Repeats (d :: rest)) = true :=
          fun htrue => (of_decide_eq_true htrue).elim hd hnew
        rw [if_neg fun hc => hd (List.contains_iff_mem.mp hc), if_neg hkept, ih _ hrest]
        refine List.filter_congr fun e he => decide_eq_decide.mpr ?_
        rw [Definition.repeats_cons (hfirst e he), List.mem_cons, eq_comm, or_assoc, or_left_comm]

theorem duplicates_eq_filter (h : ds.Pairwise fun d e => d.index < e.index) :
    duplicates ds = ds.filter fun d => d.Repeats ds := by
  rw [duplicates, duplicatesAfter_eq_filter [] h]
  simp only [List.not_mem_nil, false_or]

theorem length_duplicatesAfter (seen : List (Text × Text)) (ds : List Definition) :
    (duplicatesAfter seen ds).length +
      ((ds.map Definition.key).toFinset \ seen.toFinset).card = ds.length := by
  induction ds generalizing seen with
  | nil => simp [duplicatesAfter]
  | cons d rest ih =>
      rw [duplicatesAfter, List.map_cons, List.toFinset_cons]
      by_cases hd : d.key ∈ seen
      · have hseen : d.key ∈ seen.toFinset := List.mem_toFinset.mpr hd
        rw [if_pos (List.contains_iff_mem.mpr hd), Finset.insert_sdiff_of_mem _ hseen,
          List.length_cons, List.length_cons, ← ih seen]
        omega
      · have hseen : d.key ∉ seen.toFinset := fun hmem => hd (List.mem_toFinset.mp hmem)
        -- The key is counted once, and not again among the keys of the rest.
        have hsplit : insert d.key (rest.map Definition.key).toFinset \ seen.toFinset =
            insert d.key ((rest.map Definition.key).toFinset \ (d.key :: seen).toFinset) := by
          ext key
          simp only [Finset.mem_sdiff, Finset.mem_insert, List.toFinset_cons]
          by_cases hkey : key = d.key
          · simp [hkey, hseen]
          · simp [hkey]
        rw [if_neg fun hc => hd (List.contains_iff_mem.mp hc), hsplit,
          Finset.card_insert_of_notMem (by simp), List.length_cons, ← ih (d.key :: seen)]
        omega

/-- One definition of each key is not reported as repeated. -/
theorem length_duplicates (ds : List Definition) :
    (duplicates ds).length + (ds.map Definition.key).toFinset.card = ds.length := by
  have hlength := length_duplicatesAfter [] ds
  rwa [List.toFinset_nil, Finset.sdiff_empty] at hlength

end Repeated

/-! ## Empty definitions -/

theorem texts_take_three {tokens : List Token} :
    (tokens.take 3).map Token.text = missingBody ↔
      ∃ opener mark closer rest, tokens = opener :: mark :: closer :: rest ∧
        [opener.text, mark.text, closer.text] = missingBody := by
  constructor
  · intro h
    rcases tokens with _ | ⟨opener, _ | ⟨mark, _ | ⟨closer, rest⟩⟩⟩
    · exact absurd h (by decide)
    · exact absurd (congrArg List.length h) (by simp [missingBody])
    · exact absurd (congrArg List.length h) (by simp [missingBody])
    · exact ⟨opener, mark, closer, rest, rfl, h⟩
  · rintro ⟨opener, mark, closer, rest, rfl, h⟩
    exact h

/-- The body of a definition is found to be missing exactly if it is. -/
theorem isEmpty_iff {tokens : List Token} {d : Definition} :
    d.isEmpty tokens = true ↔ d.LacksBody tokens := by
  rw [Definition.isEmpty, decide_eq_true_eq, texts_take_three]
  constructor
  · rintro ⟨opener, mark, closer, rest, hbody, htexts⟩
    refine ⟨(tokens.drop (d.index + 1)).takeWhile fun t => t.kind = .readability,
      opener, mark, closer, rest, ?_, fun t ht => ?_, fun hkind => ?_, htexts⟩
    · rw [← hbody]
      exact List.takeWhile_append_dropWhile.symm
    · exact of_decide_eq_true (List.all_eq_true.mp List.all_takeWhile t ht)
    · -- What is left is not passed over.
      have hhead := List.head?_dropWhile_not (fun t : Token => decide (t.kind = .readability))
        (tokens.drop (d.index + 1))
      rw [hbody] at hhead
      exact absurd (decide_eq_true hkind) (by simpa using hhead)
  · rintro ⟨skipped, opener, mark, closer, rest, hbody, hskipped, hkind, htexts⟩
    refine ⟨opener, mark, closer, rest, ?_, htexts⟩
    rw [hbody, List.dropWhile_append_of_pos fun t ht => decide_eq_true (hskipped t ht),
      List.dropWhile_cons_of_neg (by simpa using hkind)]

instance (tokens : List Token) (d : Definition) : Decidable (d.LacksBody tokens) :=
  decidable_of_iff _ isEmpty_iff

/-! ## The diagnostics -/

section Diagnostics

variable {text origin : Text} {plain : Bool} {d : Definition} {backoff : Number} {e : Diagnostic}

/-- What the diagnostic of a message about a definition says. -/
theorem Definition.reportedAs_of_shows {kind : Value} {colour : Colour} {spec : DiagnosticSpec}
    {severity : Severity} {message : Definition → Text} (hseverity : spec.severity = some severity)
    (hphase : spec.phase = .validation) (hplain : escapeChar ∉ message d)
    (h : Finding.Shows (Lines.ofText text) backoff
      (d.toMessage kind (presented plain colour (message d)) origin, spec) e) :
    d.ReportedAs severity message e := by
  rcases diagnosed_of_located rfl h with ⟨_, _, hd⟩
  rcases hd.message with ⟨reported, hreported, hmessage⟩
  obtain rfl := Value.text.inj hreported
  rcases hd.severity with ⟨_, _, hsame⟩
  simp only [messageSeverity, hseverity] at hsame
  refine ⟨(Except.ok.inj hsame).symm, ?_, hd.reportedAt, hd.phase.trans hphase⟩
  rw [hmessage, withoutControls_presented plain colour hplain]

end Diagnostics

/-- What is reported for a text without syntax errors. Its definitions are the names right behind
    the keywords that introduce definitions, in the order of the text. The diagnostics are first an
    error for each of them that has the key of an earlier one, so that there are as many of these
    as there are definitions without the distinct keys, then a warning for each of them whose body
    is missing, both in the order of the definitions; and nothing else. -/
theorem definitions_are_reported (text origin : Text) (options : Options)
    (hlexical : lexErrors text = []) (hbrackets : bracketFaults (lexTokens text) = []) :
    let tokens := lexTokens text
    let ds := definitions tokens
    (∀ d, d ∈ ds ↔ d.StandsIn tokens) ∧ ds.Pairwise (fun d e => d.index < e.index) ∧
    ∃ errors warnings, (runValidation localService text origin options).diagnostics =
        errors ++ warnings ∧
      List.Forall₂ (Definition.ReportedAs .error Definition.duplicateMessage)
        (ds.filter fun d => d.Repeats ds) errors ∧
      errors.length + (ds.map Definition.key).toFinset.card = ds.length ∧
      List.Forall₂ (Definition.ReportedAs .warning Definition.emptyMessage)
        (ds.filter fun d => d.LacksBody tokens) warnings := by
  intro tokens ds
  have hindices := definitions_indices tokens
  refine ⟨fun d => mem_definitions_iff, hindices, ?_⟩
  have hall := run_shows text origin options
  have hrepeated : duplicates (definitions (lexTokens text)) = ds.filter fun d => d.Repeats ds :=
    duplicates_eq_filter hindices
  have hempty : Definition.isEmpty (lexTokens text) = fun d => decide (d.LacksBody tokens) :=
    funext fun d => Bool.eq_iff_iff.mpr (by rw [decide_eq_true_eq, isEmpty_iff])
  rw [findings_of_no_syntaxErrors hlexical hbrackets] at hall
  simp only [ValidationMessages.findings, definitionMessages, List.map_nil, List.append_nil,
    List.map_map, hrepeated, hempty] at hall
  have hfront := (List.forall₂_take_append _ _ _ hall.flip).flip
  have hback := (List.forall₂_drop_append _ _ _ hall.flip).flip
  have herrors : List.Forall₂ (Definition.ReportedAs .error Definition.duplicateMessage)
      (ds.filter fun d => d.Repeats ds) _ := forall₂_of_shows hfront fun d hd e he =>
    Definition.reportedAs_of_shows rfl rfl
      (escape_not_mem_duplicateMessage (List.mem_filter.mp hd).1) he
  have hwarnings : List.Forall₂ (Definition.ReportedAs .warning Definition.emptyMessage)
      (ds.filter fun d => d.LacksBody tokens) _ := forall₂_of_shows hback fun d hd e he =>
    Definition.reportedAs_of_shows rfl rfl
      (escape_not_mem_emptyMessage (List.mem_filter.mp hd).1) he
  have hcount := length_duplicates (definitions (lexTokens text))
  rw [hrepeated, herrors.length_eq] at hcount
  exact ⟨_, _, (List.take_append_drop _ _).symm, herrors, hcount, hwarnings⟩

/-- A type that is declared twice and has no body in either place is an error and two warnings. -/
theorem definitions_are_reported_twice :
    let text : Text := "type A \x7b ??? \x7d type A of \x7b ??? \x7d".toList
    lexErrors text = [] ∧ bracketFaults (lexTokens text) = [] ∧
    ∃ errors warnings,
      (runValidation localService text [] .defaults).diagnostics = errors ++ warnings ∧
      errors.length = 1 ∧ warnings.length = 2 := by
  intro text
  have hlexical : lexErrors text = [] := by decide +kernel
  have hbrackets : bracketFaults (lexTokens text) = [] := by decide +kernel
  rcases definitions_are_reported text [] .defaults hlexical hbrackets with
    ⟨_, _, errors, warnings, hrun, herrors, _, hwarnings⟩
  refine ⟨hlexical, hbrackets, errors, warnings, hrun, ?_, ?_⟩
  · rw [← herrors.length_eq]
    decide +kernel
  · rw [← hwarnings.length_eq]
    decide +kernel

end RiddlEditor
