import DeclLang.Source.Word

/-!
Numbers: an optional minus sign, digits, and at most one point with further digits, all of them
ASCII. One letter after the run may be a suffix that gives the number its kind; any other letter or
underscore turns the number and the word characters after it into one fault.
-/

set_option autoImplicit false

namespace DeclLang.Source

/-- Splits off the digits that a text starts with, and one point and the digits behind it. -/
def splitUnsigned (text : List Char) : List Char × List Char :=
  match text.dropWhile Char.isDigit with
  | '.' :: rest =>
    (text.takeWhile Char.isDigit ++ '.' :: rest.takeWhile Char.isDigit, rest.dropWhile Char.isDigit)
  | rest => (text.takeWhile Char.isDigit, rest)

/-- Splits off the longest number without a suffix that a text starts with. -/
def splitNumber (text : List Char) : List Char × List Char :=
  match text with
  | '-' :: rest => ('-' :: (splitUnsigned rest).1, (splitUnsigned rest).2)
  | _ => splitUnsigned text

/-- Whether a text that starts with the given character starts with a number. -/
def startsNumber (first : Char) (rest : List Char) : Bool :=
  first.isDigit || (first == '-' && rest.head?.any Char.isDigit)

/-- The kind of number that a suffix stands for. -/
def suffixKind : Char → Option LiteralKind
  | 'f' | 'F' => some .float
  | 'd' | 'D' => some .double
  | 'l' | 'L' => some .long
  | _ => none

theorem suffixKind_eq_none_iff {c : Char} :
    suffixKind c = none ↔ c ∉ ['f', 'F', 'd', 'D', 'l', 'L'] := by
  unfold suffixKind
  split <;> simp_all

theorem suffixKind_eq_some_iff {c : Char} {kind : LiteralKind} :
    suffixKind c = some kind ↔
      (kind = .float ∧ (c = 'f' ∨ c = 'F')) ∨ (kind = .double ∧ (c = 'd' ∨ c = 'D')) ∨
        (kind = .long ∧ (c = 'l' ∨ c = 'L')) := by
  unfold suffixKind
  split <;> cases kind <;> simp_all

def plainKind (number : List Char) : LiteralKind :=
  if '.' ∈ number then .double else .int

/-- What a number with a suffix is; only a number without a point can be a long. -/
def suffixFinding (number : List Char) (suffix : Char) (kind : LiteralKind) : Finding :=
  if kind = .long ∧ '.' ∈ number then .fault (.pointInLong (number ++ [suffix]))
  else .token (.literal kind)

/-- What a number turns out to be by the text behind it. -/
def finishNumber (number : List Char) : List Char → Scanned
  | [] => ⟨number, .token (.literal (plainKind number)), []⟩
  | c :: rest =>
    match suffixKind c with
    | some kind => ⟨number ++ [c], suffixFinding number c kind, rest⟩
    | none =>
      if isWordStart c then
        let item := number ++ (c :: rest).takeWhile isWordChar
        ⟨item, .fault (.digitLedWord item), (c :: rest).dropWhile isWordChar⟩
      else ⟨number, .token (.literal (plainKind number)), c :: rest⟩

theorem finishNumber_of_suffix {c : Char} {kind : LiteralKind} (h : suffixKind c = some kind)
    (number rest : List Char) :
    finishNumber number (c :: rest) = ⟨number ++ [c], suffixFinding number c kind, rest⟩ := by
  rw [finishNumber, h]

/-- Splits off the number that a text starts with. -/
def scanNumber (text : List Char) : Scanned :=
  finishNumber (splitNumber text).1 (splitNumber text).2

@[simp] theorem splitUnsigned_append (text : List Char) :
    (splitUnsigned text).1 ++ (splitUnsigned text).2 = text := by
  have h := List.takeWhile_append_dropWhile (p := Char.isDigit) (l := text)
  unfold splitUnsigned
  split
  · rename_i rest hrest
    rw [hrest] at h
    simpa using h
  · exact h

@[simp] theorem splitNumber_append (text : List Char) :
    (splitNumber text).1 ++ (splitNumber text).2 = text := by
  unfold splitNumber
  split <;> simp

@[simp] theorem finishNumber_append (number rest : List Char) :
    (finishNumber number rest).item ++ (finishNumber number rest).rest = number ++ rest := by
  unfold finishNumber
  split
  · rfl
  · split
    · simp
    · split
      · simp [List.append_assoc, List.takeWhile_append_dropWhile]
      · rfl

@[simp] theorem scanNumber_append (text : List Char) :
    (scanNumber text).item ++ (scanNumber text).rest = text := by
  simp [scanNumber]

end DeclLang.Source
