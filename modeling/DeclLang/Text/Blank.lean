import DeclLang.Text.CodePoints

/-!
Blanks: the space separators of Unicode and the characters of bidirectional class WS, B or S.
The zero-width space, the Mongolian vowel separator and the byte order mark are not blanks.
-/

set_option autoImplicit false

namespace DeclLang.Text

def blankTable : CodePoints :=
  [(0x9, 0xD), (0x1C, 0x20), (0x85, 0x85), (0xA0, 0xA0), (0x1680, 0x1680), (0x2000, 0x200A),
    (0x2028, 0x2029), (0x202F, 0x202F), (0x205F, 0x205F), (0x3000, 0x3000)]

/-- Whether a character is a blank; the newline is one. -/
def isBlank (c : Char) : Bool :=
  blankTable.contains c.toNat

theorem blankTable_ordered : blankTable.Ordered := by decide +kernel

/-- A character is a blank exactly when a range of the table holds it. -/
theorem isBlank_iff (c : Char) :
    isBlank c = true ↔ ∃ range ∈ blankTable, range.1 ≤ c.toNat ∧ c.toNat ≤ range.2 :=
  CodePoints.contains_iff_of_ordered blankTable_ordered c.toNat

@[simp] theorem isBlank_newline : isBlank '\n' = true := by decide

/-- Every blank of the ASCII kind that core knows is a blank here. -/
theorem isBlank_of_isWhitespace {c : Char} (h : c.isWhitespace = true) : isBlank c = true := by
  simp only [Char.isWhitespace, Bool.or_eq_true, decide_eq_true_eq] at h
  rcases h with ((rfl | rfl) | rfl) | rfl <;> decide

/-- A text without the blanks at its two ends. -/
def trimBlanks (text : List Char) : List Char :=
  ((text.dropWhile isBlank).reverse.dropWhile isBlank).reverse

end DeclLang.Text
