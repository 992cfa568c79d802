import RiddlEditor.Text.Basic

/-!
# Terminal control sequences

A compiler may colour its messages for a terminal. The colours are control
sequences: the escape character, an opening bracket, parameters, intermediate
characters and one final character. A shorter form is the escape character and
one more character. A sequence that breaks off before its final character is no
sequence, and its characters stay in the text.

The classes of parameters, intermediate and final characters have no member in
common, so a sequence can be read in only one way.

## Main definitions

* `IsControlSequence`: The two forms of a control sequence.
* `afterControlSequence?`: What follows the control sequence that a text starts
  with.
* `Text.withoutControls`: A text without its control sequences.
* `Text.coloured`: A text between a colour and the reset.

## Theorems

* `afterControlSequence?_length`: What follows a sequence is shorter.
-/

namespace RiddlEditor

/-- The character that starts every control sequence. -/
def escapeChar : Char := '\x1b'

/-- The characters of the parameters. -/
def isControlParameter (c : Char) : Bool :=
  0x30 ≤ c.toNat && c.toNat ≤ 0x3F

/-- The characters between the parameters and the final character. -/
def isControlIntermediate (c : Char) : Bool :=
  0x20 ≤ c.toNat && c.toNat ≤ 0x2F

/-- The characters that end a sequence. -/
def isControlFinal (c : Char) : Bool :=
  0x40 ≤ c.toNat && c.toNat ≤ 0x7E

/-- The characters that make a sequence with the escape character alone. The
    opening bracket is not one of them. -/
def isControlShort (c : Char) : Bool :=
  0x40 ≤ c.toNat && c.toNat ≤ 0x5F && c != '['

/-- The two forms of a control sequence. -/
inductive IsControlSequence : Text → Prop where
  /-- The form with parameters. -/
  | long (parameters intermediates : Text) (final : Char) :
      (∀ c ∈ parameters, isControlParameter c = true) →
      (∀ c ∈ intermediates, isControlIntermediate c = true) →
      isControlFinal final = true →
      IsControlSequence (escapeChar :: '[' :: (parameters ++ (intermediates ++ [final])))
  /-- The form of two characters. -/
  | short (c : Char) : isControlShort c = true → IsControlSequence [escapeChar, c]

/-- What follows the control sequence that a text starts with. -/
def afterControlSequence? : Text → Option Text
  | c :: d :: rest =>
    if c ≠ escapeChar then none
    else if d = '[' then
      match (rest.dropWhile isControlParameter).dropWhile isControlIntermediate with
      | [] => none
      | final :: tail => if isControlFinal final then some tail else none
    else if isControlShort d then some rest
    else none
  | _ => none

/-- What follows a sequence is shorter than the text. -/
theorem afterControlSequence?_length {s rest : Text} (h : afterControlSequence? s = some rest) :
    rest.length < s.length := by
  unfold afterControlSequence? at h
  split at h
  · rename_i c d tail
    split at h
    · exact absurd h (by simp)
    · split at h
      · split at h
        · exact absurd h (by simp)
        · rename_i final more hdrop
          split at h
          · simp only [Option.some.injEq] at h
            subst h
            have hle := (List.dropWhile_suffix isControlIntermediate
              (l := tail.dropWhile isControlParameter)).length_le
            have hle' := (List.dropWhile_suffix isControlParameter (l := tail)).length_le
            rw [hdrop] at hle
            simp only [List.length_cons] at hle ⊢
            omega
          · exact absurd h (by simp)
      · split at h
        · simp only [Option.some.injEq] at h
          subst h
          simp only [List.length_cons]
          omega
        · exact absurd h (by simp)
  · exact absurd h (by simp)

/-- A text without its control sequences. The text is read once from left to
    right, so a sequence that only arises when another one is taken out stays. -/
def Text.withoutControls : Text → Text
  | [] => []
  | c :: rest =>
    match _found : afterControlSequence? (c :: rest) with
    | some tail => withoutControls tail
    | none => c :: withoutControls rest
termination_by s => s.length
decreasing_by
  · exact afterControlSequence?_length (by assumption)
  · simp

/-- A colour that messages are shown in. -/
inductive Colour where
  | red
  | yellow
  deriving DecidableEq, Repr

/-- The control sequence that switches a colour on. -/
def Colour.sequence : Colour → Text
  | .red => [escapeChar, '[', '3', '1', 'm']
  | .yellow => [escapeChar, '[', '3', '3', 'm']

/-- The control sequence that ends every colour. -/
def resetSequence : Text :=
  [escapeChar, '[', '0', 'm']

/-- A text between a colour and the reset. -/
def Text.coloured (colour : Colour) (s : Text) : Text :=
  colour.sequence ++ s ++ resetSequence

end RiddlEditor
