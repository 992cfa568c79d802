import RiddlEditor.Compiler.Local
import RiddlEditor.Proofs.Lexeme.Place
import RiddlEditor.Proofs.Text.Locality

/-!
# What is said about definitions

The definitions of a token list are in the order of their keywords, and so are those among
them that are repeated or empty. What is said about a definition is made of the words of
the source, which have no control sequences, so it reads as it was written, with and without
a colour; and it does not read the same for a repeated and for an empty definition.

## Theorems

* `mem_definitionsFrom_iff`, `split_of_mem_definitionsFrom`: What a definition is.
* `keywords_sublist`: The keywords of the definitions are in the order of the tokens.
* `duplicates_sublist`: The repeated definitions are in the order of the definitions.
* `withoutControls_presented_eq`: A message reads the same with and without a colour.
* `escape_not_mem_duplicateMessage`, `escape_not_mem_emptyMessage`: No message about a
  definition has a control sequence.
* `duplicateMessage_ne_emptyMessage`: A repeated definition is not reported as an empty one.
-/

namespace RiddlEditor

/-- The definitions of a list are its names that are right behind keywords that introduce
    definitions, with their indices. -/
theorem mem_definitionsFrom_iff {index : Nat} {tokens : List Token} {d : Definition} :
    d ∈ definitionsFrom index tokens ↔
      ∃ j, d.index = index + j + 1 ∧ tokens[j]? = some d.keyword ∧ tokens[j + 1]? = some d.name ∧
        d.keyword.kind = .keyword ∧ isDefinitionKeyword d.keyword.text [] = true ∧
        d.name.kind.isResolvable = true := by
  induction tokens generalizing index with
  | nil =>
      refine iff_of_false List.not_mem_nil ?_
      rintro ⟨j, -, hnone, -⟩
      exact absurd hnone.symm (Option.some_ne_none _)
  | cons keyword rest ih =>
      rcases rest with _ | ⟨name, rest⟩
      · refine iff_of_false List.not_mem_nil ?_
        rintro ⟨j, -, -, hnone, -⟩
        exact absurd hnone.symm (Option.some_ne_none _)
      · rw [definitionsFrom]
        constructor
        · intro h
          -- What the tail defines has its index counted from the tail.
          have htail (hd : d ∈ definitionsFrom (index + 1) (name :: rest)) :
              ∃ j, d.index = index + j + 1 ∧ (keyword :: name :: rest)[j]? = some d.keyword ∧
                (keyword :: name :: rest)[j + 1]? = some d.name ∧ d.keyword.kind = .keyword ∧
                isDefinitionKeyword d.keyword.text [] = true ∧
                d.name.kind.isResolvable = true := by
            rcases ih.mp hd with ⟨j, hj, hfound⟩
            exact ⟨j + 1, by omega, hfound⟩
          split at h
          case isTrue hdefines =>
            rcases List.mem_cons.mp h with rfl | h
            · exact ⟨0, rfl, rfl, rfl, hdefines⟩
            · exact htail h
          case isFalse => exact htail h
        · rintro ⟨j, hj, hkeyword, hname, hdefines⟩
          cases j with
          | zero =>
              -- The keyword is the first token, so this is the definition that is found first.
              rcases d with ⟨_, _, _⟩
              obtain rfl := Option.some.inj hkeyword
              obtain rfl := Option.some.inj hname
              obtain rfl := hj
              rw [if_pos hdefines]
              exact List.mem_cons_self
          | succ j =>
              have hindex : d.index = index + 1 + j + 1 := by omega
              have hmem := ih.mpr ⟨j, hindex, hkeyword, hname, hdefines⟩
              split
              · exact List.mem_cons_of_mem _ hmem
              · exact hmem

/-- A definition is a keyword that introduces definitions and a name right behind it. -/
theorem split_of_mem_definitionsFrom {index : Nat} {tokens : List Token} {d : Definition}
    (h : d ∈ definitionsFrom index tokens) :
    (∃ front rest, tokens = front ++ d.keyword :: d.name :: rest) ∧
      d.keyword.kind = .keyword ∧ isDefinitionKeyword d.keyword.text [] = true ∧
      d.name.kind.isResolvable = true := by
  rcases mem_definitionsFrom_iff.mp h with ⟨j, -, hkeyword, hname, hdefines⟩
  refine ⟨⟨tokens.take j, tokens.drop (j + 2), ?_⟩, hdefines⟩
  rcases List.getElem?_eq_some_iff.mp hkeyword with ⟨hj, hkeyword⟩
  rcases List.getElem?_eq_some_iff.mp hname with ⟨hj', hname⟩
  calc tokens = tokens.take j ++ tokens.drop j := (List.take_append_drop j tokens).symm
    _ = tokens.take j ++ d.keyword :: d.name :: tokens.drop (j + 2) := by
      rw [List.drop_eq_getElem_cons hj, List.drop_eq_getElem_cons hj', hkeyword, hname]

/-- A definition has a keyword and a name among the tokens. -/
theorem mem_definitionsFrom {index : Nat} {tokens : List Token} {d : Definition}
    (h : d ∈ definitionsFrom index tokens) :
    d.keyword ∈ tokens ∧ d.keyword.kind = .keyword ∧ d.name ∈ tokens ∧
      d.name.kind.isResolvable = true := by
  rcases split_of_mem_definitionsFrom h with ⟨⟨front, rest, rfl⟩, hkind, _, hresolvable⟩
  exact ⟨by simp, hkind, by simp, hresolvable⟩

/-- The keywords of the definitions are in the order of the tokens. -/
theorem keywords_sublist (index : Nat) (tokens : List Token) :
    ((definitionsFrom index tokens).map Definition.keyword).Sublist tokens := by
  induction tokens generalizing index with
  | nil => exact List.Sublist.refl []
  | cons keyword rest ih =>
      rcases rest with _ | ⟨name, rest⟩
      · exact List.nil_sublist _
      · rw [definitionsFrom]
        split
        case isTrue => exact (ih (index + 1)).cons_cons keyword
        case isFalse => exact (ih (index + 1)).cons keyword

/-- The repeated definitions are in the order of the definitions. -/
theorem duplicatesAfter_sublist (seen : List (Text × Text)) (ds : List Definition) :
    (duplicatesAfter seen ds).Sublist ds := by
  induction ds generalizing seen with
  | nil => exact List.Sublist.refl []
  | cons d rest ih =>
      rw [duplicatesAfter]
      split
      case isTrue => exact (ih seen).cons_cons d
      case isFalse => exact (ih (d.key :: seen)).cons d

theorem duplicates_sublist (ds : List Definition) : (duplicates ds).Sublist ds :=
  duplicatesAfter_sublist [] ds

/-- Only words are keywords or may name a definition. -/
theorem word_of_kind {c : Char} {rest : Text} {reading : Reading} (h : Reads c rest reading)
    (hkind : reading.kind = .keyword ∨ reading.kind.isResolvable = true) :
    ∀ d ∈ reading.text c rest, isWordChar d = true := by
  cases h with
  | word rest hstart =>
      intro d hd
      rw [Reading.text, take_length_takeWhile] at hd
      rcases List.mem_cons.mp hd with rfl | hd
      · exact isWordChar_of_isWordStart hstart
      · exact List.all_eq_true.mp List.all_takeWhile d hd
  | _ =>
      -- The kind is written in the reading, and it is neither.
      rcases hkind with hkind | hkind
      · exact TokenKind.noConfusion hkind
      · exact absurd hkind Bool.false_ne_true

/-- Every message reads the same with and without a colour. -/
theorem withoutControls_presented_eq (plain : Bool) (colour : Colour) (message : Text) :
    (presented plain colour message).withoutControls = message.withoutControls := by
  cases plain with
  | true => rfl
  | false => exact withoutControls_coloured colour message

/-- A message without the escape character reads as it was written. -/
theorem withoutControls_presented (plain : Bool) (colour : Colour) {message : Text}
    (h : escapeChar ∉ message) : (presented plain colour message).withoutControls = message := by
  rw [withoutControls_presented_eq, withoutControls_of_not_mem h]

theorem toUpper_eq_escapeChar {c : Char} (h : c.toUpper = escapeChar) : c = escapeChar := by
  unfold Char.toUpper at h
  split at h
  case isTrue hc =>
    have hval := congrArg (fun d => d.val.toNat) h
    -- The shifted letter is a letter, and the escape character comes before all of them.
    simp only [↓Char.isValue, Char.reduceVal, UInt32.le_iff_toNat_le,
      UInt32.reduceToNat, Char.toNat_val] at hc
    simp only [↓Char.isValue, Char.reduceVal, UInt32.reduceSub, UInt32.toNat_add,
      Char.toNat_val, UInt32.reduceToNat, Nat.reducePow, escapeChar] at hval
    omega
  case isFalse => exact h

theorem toLower_eq_escapeChar {c : Char} (h : c.toLower = escapeChar) : c = escapeChar := by
  unfold Char.toLower at h
  split at h
  case isTrue hc =>
    have hval := congrArg (fun d => d.val.toNat) h
    simp only [↓Char.isValue, Char.reduceVal, ge_iff_le, UInt32.le_iff_toNat_le,
      UInt32.reduceToNat, Char.toNat_val] at hc
    simp only [↓Char.isValue, Char.reduceVal, UInt32.reduceSub, UInt32.toNat_add,
      Char.toNat_val, UInt32.reduceToNat, Nat.reducePow, escapeChar] at hval
    omega
  case isFalse => exact h

theorem escape_not_mem_capitalized {s : Text} (h : escapeChar ∉ s) : escapeChar ∉ s.capitalized := by
  cases s with
  | nil => exact h
  | cons c rest =>
      intro hmem
      rcases List.mem_cons.mp hmem with hc | hrest
      · exact h (toUpper_eq_escapeChar hc.symm ▸ List.mem_cons_self)
      · rcases List.mem_map.mp hrest with ⟨d, hd, hlower⟩
        exact h (List.mem_cons_of_mem c (toLower_eq_escapeChar hlower ▸ hd))

/-- A keyword and a name of a source have no control sequence. -/
theorem escape_not_mem_word {s : Text} {t : Token} (h : t ∈ lexTokens s)
    (hkind : t.kind = .keyword ∨ t.kind.isResolvable = true) : escapeChar ∉ t.text := by
  rcases split_of_mem_lexTokens h with ⟨front, c, rest, _, _, rfl⟩
  intro hmem
  have hword := word_of_kind (reads_readLexeme c rest) hkind escapeChar hmem
  exact absurd hword (by decide)

theorem escape_not_mem_subject {s : Text} {d : Definition} (h : d ∈ definitions (lexTokens s)) :
    escapeChar ∉ d.subject := by
  rcases mem_definitionsFrom h with ⟨hkeyword, hkind, hname, hresolvable⟩
  have hfront := escape_not_mem_capitalized (escape_not_mem_word hkeyword (Or.inl hkind))
  have hback := escape_not_mem_word hname (Or.inr hresolvable)
  rw [Definition.subject]
  simp only [List.mem_append, not_or]
  exact ⟨⟨⟨hfront, by decide⟩, hback⟩, by decide⟩

theorem escape_not_mem_duplicateMessage {s : Text} {d : Definition}
    (h : d ∈ definitions (lexTokens s)) : escapeChar ∉ d.duplicateMessage := fun hmem =>
  (List.mem_append.mp hmem).elim (escape_not_mem_subject h) (by decide)

theorem escape_not_mem_emptyMessage {s : Text} {d : Definition}
    (h : d ∈ definitions (lexTokens s)) : escapeChar ∉ d.emptyMessage := fun hmem =>
  (List.mem_append.mp hmem).elim (escape_not_mem_subject h) (by decide)

/-- A repeated definition is not reported as an empty one: the messages end differently. -/
theorem duplicateMessage_ne_emptyMessage (d e : Definition) :
    d.duplicateMessage ≠ e.emptyMessage := by
  intro heq
  have hlast := congrArg List.getLast? heq
  rw [Definition.duplicateMessage, Definition.emptyMessage, List.getLast?_append,
    List.getLast?_append] at hlast
  have honce : (" is defined more than once".toList).getLast? = some 'e' := by decide
  have hempty : (" is empty".toList).getLast? = some 'y' := by decide
  rw [honce, hempty, Option.some_or, Option.some_or, Option.some.injEq] at hlast
  exact absurd hlast (by decide)

end RiddlEditor
