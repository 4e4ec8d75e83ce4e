import DeclLang.Numeral.Basic

/-!
The grammar of numerals, with the numeral that each text spells. Digits may be of any scripts, also
of several within one numeral; the marks of a sign, the point and the exponent are ASCII characters.
No bound is set on the exponent, so a text may spell a numeral that is beyond the range.
-/

set_option autoImplicit false

namespace DeclLang.Numeral

open Text

/-- Decimal digits with their values. -/
def SpellsDigits (text : List Char) (digits : List Nat) : Prop :=
  text.map decimalDigit? = digits.map some

inductive SpellsSign : List Char → Bool → Prop where
  | none : SpellsSign [] false
  | plus : SpellsSign ['+'] false
  | minus : SpellsSign ['-'] true

/-- The digits before a point and those behind it; all of them stand before it if there is none. -/
inductive SpellsPlaces : List Char → List Nat → List Nat → Prop where
  | plain {text : List Char} {whole : List Nat} : SpellsDigits text whole →
      SpellsPlaces text whole []
  | pointed {front back : List Char} {whole fraction : List Nat} : SpellsDigits front whole →
      SpellsDigits back fraction → SpellsPlaces (front ++ '.' :: back) whole fraction

inductive SpellsExponent : List Char → Int → Prop where
  | none : SpellsExponent [] 0
  | marked {mark : Char} {sign text : List Char} {negative : Bool} {digits : List Nat} :
      mark = 'e' ∨ mark = 'E' → SpellsSign sign negative → SpellsDigits text digits →
      digits ≠ [] →
      SpellsExponent (mark :: (sign ++ text))
        (if negative then -(ofDigits digits : Int) else ofDigits digits)

/-- A text that is a numeral and nothing else. -/
inductive Spells : List Char → Numeral → Prop where
  | mk {sign places exponent : List Char} {n : Numeral} : SpellsSign sign n.negative →
      SpellsPlaces places n.whole n.fraction → n.digits ≠ [] →
      SpellsExponent exponent n.exponent → Spells (sign ++ (places ++ exponent)) n

/-- A text that is a numeral but for blanks around it and underscores between these. -/
def IsSpelledBy (n : Numeral) (text : String) : Prop :=
  ∃ before core after, text.toList = before ++ (core ++ after) ∧
    (∀ c ∈ before, isBlank c = true) ∧ (∀ c ∈ after, isBlank c = true) ∧
    Spells (core.filter (· != '_')) n

end DeclLang.Numeral
