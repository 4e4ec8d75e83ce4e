import DeclLang.Literal.Assignable
import DeclLang.Proofs.Numeral.Reading
import DeclLang.Proofs.Numeral.Value

/-!
# Whole literals

A literal is whole when the text without its suffix spells a numeral whose exact value is an
integer. The only numerals left out are those beyond the range.
-/

set_option autoImplicit false

namespace DeclLang.Literal

open Text

theorem mem_stripSuffix {lexeme : String} {c : Char} (hc : c ∈ lexeme.toList)
    (hne : c ∉ suffixes) : c ∈ (stripSuffix lexeme).toList := by
  unfold stripSuffix
  split
  · rename_i last hlast
    split
    · rename_i hmem
      rw [String.toList_ofList]
      rw [← List.dropLast_append_getLast? last hlast] at hc
      rcases List.mem_append.mp hc with hc | hc
      · exact hc
      · rw [List.mem_singleton.mp hc] at hne
        exact absurd hmem hne
    · exact hc
  · exact hc

theorem isWhole_eq_true_iff {lexeme : String} :
    isWhole lexeme = true ↔ ∃ n : Numeral, n.IsSpelledBy (stripSuffix lexeme) ∧
      n.isInRange = true ∧ ∃ z : ℤ, n.value = z := by
  rw [isWhole, Option.any_eq_true]
  refine exists_congr fun n => ?_
  rw [Numeral.read_eq_some_iff, and_assoc]
  refine and_congr_right fun hspelled => and_congr_right fun _ => ?_
  exact Numeral.isWhole_iff_value hspelled.lt_ten

example : isWhole " -1_0.50E+١f" = true := by decide +kernel
example : isWhole "2.00000000000000000001" = false := by decide +kernel

/-- No numeral has the letter of the spellings of what is not finite. -/
theorem isWhole_eq_false_of_mem {lexeme : String} {c : Char} (hc : c ∈ lexeme.toList)
    (hletter : c = 'n' ∨ c = 'N') : isWhole lexeme = false := by
  rw [← Bool.not_eq_true, isWhole_eq_true_iff]
  rintro ⟨n, hspelled, _⟩
  have hne : c ∉ suffixes := by
    rcases hletter with rfl | rfl <;> decide
  rcases hspelled.isOfNumeral (mem_stripSuffix hc hne) with hblank | hunderscore | hdigit | hmark
  · rcases hletter with rfl | rfl <;> exact absurd hblank (by decide)
  · rcases hletter with rfl | rfl <;> exact absurd hunderscore (by decide)
  · rcases hletter with rfl | rfl <;> exact absurd hdigit (by decide +kernel)
  · rcases hletter with rfl | rfl <;> exact absurd hmark (by decide)

/-- Whether a literal is whole is decided exactly, by the value of the one numeral that it spells
without its suffix. A text that spells none is not whole, nor is a numeral beyond the range, which
only an exponent or a length of that order can be. -/
theorem isWhole_exact :
    (∀ lexeme : String, isWhole lexeme = true ↔
      ∃ n : Numeral, n.IsSpelledBy (stripSuffix lexeme) ∧ n.isInRange = true ∧
        ∃ z : ℤ, n.value = z) ∧
    (∀ (text : String) (n m : Numeral), n.IsSpelledBy text → m.IsSpelledBy text → n = m) ∧
    (∀ n : Numeral, n.exponent.natAbs + n.digits.length ≤ 999999999999999999 →
      n.isInRange = true) ∧
    ∀ lexeme : String, 'n' ∈ lexeme.toList ∨ 'N' ∈ lexeme.toList → isWhole lexeme = false := by
  refine ⟨fun lexeme => isWhole_eq_true_iff, fun text n m => Numeral.IsSpelledBy.unique,
    fun n => Numeral.isInRange_of_le, fun lexeme h => ?_⟩
  rcases h with h | h
  · exact isWhole_eq_false_of_mem h (Or.inl rfl)
  · exact isWhole_eq_false_of_mem h (Or.inr rfl)

end DeclLang.Literal
