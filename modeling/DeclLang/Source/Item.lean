import DeclLang.Source.Number
import DeclLang.Source.Quotation

/-!
The items of a source text. The first characters of an item decide which scanner reads it; every
scanner takes at least one character and loses none, which is what the two theorems say and what
bounds the reading of a whole text.
-/

set_option autoImplicit false

namespace DeclLang.Source

def punctuationKind : Char → Option Token.Kind
  | '=' => some .equals
  | ',' => some .comma
  | ';' => some .semicolon
  | _ => none

/-- What a single character is that starts no longer item. -/
def markFinding (c : Char) : Finding :=
  match punctuationKind c with
  | some kind => .token kind
  | none => .fault (.unknownCharacter c)

/-- Splits off the item that a nonempty text starts with. -/
def scanItem (settings : Settings) (first : Char) (rest : List Char) : Scanned :=
  if isWordStart first then scanWord settings (first :: rest)
  else if startsNumber first rest then scanNumber (first :: rest)
  else if first = '"' then scanString rest
  else if first = '\'' then scanCharacter rest
  else ⟨[first], markFinding first, rest⟩

/-- Which scanner reads an item, and what is known of its first characters there. -/
theorem scanItem_cases (settings : Settings) (first : Char) (rest : List Char) :
    (isWordStart first = true ∧
      scanItem settings first rest = scanWord settings (first :: rest)) ∨
    (isWordStart first = false ∧ startsNumber first rest = true ∧
      scanItem settings first rest = scanNumber (first :: rest)) ∨
    (first = '"' ∧ scanItem settings first rest = scanString rest) ∨
    (first = '\'' ∧ scanItem settings first rest = scanCharacter rest) ∨
    (isWordStart first = false ∧ startsNumber first rest = false ∧
      (first ≠ '"' ∧ first ≠ '\'') ∧
      scanItem settings first rest = ⟨[first], markFinding first, rest⟩) := by
  unfold scanItem
  cases hword : isWordStart first with
  | true => simp
  | false =>
    cases hnumber : startsNumber first rest with
    | true => simp
    | false =>
      by_cases hstring : first = '"'
      · simp [hstring]
      · by_cases hchar : first = '\''
        · simp [hchar]
        · simp [hstring, hchar]

theorem scanItem_append (settings : Settings) (first : Char) (rest : List Char) :
    (scanItem settings first rest).item ++ (scanItem settings first rest).rest = first :: rest := by
  rcases scanItem_cases settings first rest with
    ⟨_, h⟩ | ⟨_, _, h⟩ | ⟨rfl, h⟩ | ⟨rfl, h⟩ | ⟨_, _, _, h⟩ <;> rw [h]
  · exact scanWord_append settings _
  · exact scanNumber_append _
  · exact scanString_append rest
  · exact scanCharacter_append rest
  · rfl

theorem splitNumber_ne_nil {first : Char} {rest : List Char} (h : startsNumber first rest = true) :
    (splitNumber (first :: rest)).1 ≠ [] := by
  unfold splitNumber
  split
  · simp
  · rename_i hne
    have hd : first.isDigit = true := by
      simp only [startsNumber, Bool.or_eq_true, Bool.and_eq_true, beq_iff_eq] at h
      rcases h with h | h
      · exact h
      · exact absurd h.1 (by
          rintro rfl
          exact hne rest rfl)
    unfold splitUnsigned
    split <;> simp [hd]

theorem finishNumber_item_ne_nil {number : List Char} (rest : List Char) (h : number ≠ []) :
    (finishNumber number rest).item ≠ [] := by
  unfold finishNumber
  split
  · exact h
  · split
    · simp
    · split
      · simp [h]
      · exact h

theorem scanItem_item_ne_nil (settings : Settings) (first : Char) (rest : List Char) :
    (scanItem settings first rest).item ≠ [] := by
  rcases scanItem_cases settings first rest with
    ⟨hword, h⟩ | ⟨_, hnumber, h⟩ | ⟨_, h⟩ | ⟨_, h⟩ | ⟨_, _, _, h⟩ <;> rw [h]
  · simp [scanWord, isWordChar_of_isWordStart hword]
  · exact finishNumber_item_ne_nil _ (splitNumber_ne_nil hnumber)
  · simp only [scanString]
    split <;> simp
  · simp only [scanCharacter]
    split <;> simp
  · simp

theorem length_scanItem_rest_lt (settings : Settings) (first : Char) (rest : List Char) :
    (scanItem settings first rest).rest.length < (first :: rest).length := by
  have happ := congrArg List.length (scanItem_append settings first rest)
  have hne := List.length_pos_iff.mpr (scanItem_item_ne_nil settings first rest)
  rw [List.length_append] at happ
  omega

end DeclLang.Source
