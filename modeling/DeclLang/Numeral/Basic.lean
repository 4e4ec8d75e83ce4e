import DeclLang.Text.Blank
import DeclLang.Text.DecimalDigit

/-!
Decimal numerals and the question whether their value is a whole number. A numeral is kept as its
digits and its exponent and is never expanded, so the answer takes time in the length of its text
and not in the size of its value: a value is whole when the zeros at the end of its digits make up
for the places that the point and the exponent call for. A numeral that is written out in full can
have any size; one that an exponent scales must stay within a fixed range.
-/

set_option autoImplicit false

namespace DeclLang

open Text

/-- A finite decimal numeral: sign, the digits before and after the point, and an exponent of
ten. -/
structure Numeral where
  negative : Bool
  whole : List Nat
  fraction : List Nat
  exponent : Int
  deriving DecidableEq, Repr

namespace Numeral

/-- Splits off the decimal digits that a text starts with, of whatever script. -/
def splitDigits (text : List Char) : List Nat × List Char :=
  let isDigit := fun c => (decimalDigit? c).isSome
  ((text.takeWhile isDigit).filterMap decimalDigit?, text.dropWhile isDigit)

/-- The number that a list of decimal digits stands for, the highest digit first. -/
def ofDigits (digits : List Nat) : Nat :=
  digits.foldl (fun n d => 10 * n + d) 0

/-- Splits off a sign; without one the sign is positive. -/
def splitSign : List Char → Bool × List Char
  | '-' :: rest => (true, rest)
  | '+' :: rest => (false, rest)
  | text => (false, text)

/-- Reads the exponent that makes up the rest of a numeral. -/
def readExponent : List Char → Option Int
  | [] => some 0
  | mark :: text =>
    let (negative, rest) := splitSign text
    match splitDigits rest with
    | (d :: digits, []) =>
      if mark = 'e' ∨ mark = 'E' then
        some (if negative then -(ofDigits (d :: digits) : Int) else ofDigits (d :: digits))
      else none
    | _ => none

/-- Splits off the digits of a numeral before and after its point. -/
def splitPoint (text : List Char) : (List Nat × List Nat) × List Char :=
  let (whole, rest) := splitDigits text
  match rest with
  | '.' :: rest =>
    let (fraction, rest) := splitDigits rest
    ((whole, fraction), rest)
  | _ => ((whole, []), rest)

/-- Reads a text that consists of a numeral and nothing else. -/
def readExact (text : List Char) : Option Numeral :=
  let (negative, unsigned) := splitSign text
  let ((whole, fraction), rest) := splitPoint unsigned
  if whole.isEmpty && fraction.isEmpty then none
  else (readExponent rest).map fun exponent => ⟨negative, whole, fraction, exponent⟩

/-- All digits of a numeral; its value is their number times a power of ten. -/
def digits (n : Numeral) : List Nat :=
  n.whole ++ n.fraction

/-- The power of ten by which the digits of a numeral count. -/
def scale (n : Numeral) : Int :=
  n.exponent - n.fraction.length

/-- The digits from the first one on that is not zero. -/
def significant (n : Numeral) : List Nat :=
  n.digits.dropWhile (· == 0)

/-- The power of ten by which the first significant digit counts; zero keeps its last digit. -/
def leadingExponent (n : Numeral) : Int :=
  n.scale + (max 1 n.significant.length : Nat) - 1

def greatestExponent : Int := 999999999999999999

def leastScale : Int := -1999999999999999997

/-- Whether a numeral has an exponent of zero or is of a size within the range. -/
def isInRange (n : Numeral) : Bool :=
  decide (n.exponent = 0) ||
    decide (leastScale ≤ n.scale ∧ n.leadingExponent ≤ greatestExponent)

/-- Reads a text as a numeral within the range, without regard to blanks around it and underscores
in it. -/
def read (text : String) : Option Numeral :=
  (readExact ((trimBlanks text.toList).filter (· != '_'))).filter isInRange

def trailingZeros (digits : List Nat) : Nat :=
  (digits.reverse.takeWhile (· == 0)).length

/-- Whether the value of a numeral is a whole number. -/
def isWhole (n : Numeral) : Bool :=
  n.digits.all (· == 0) || decide (0 ≤ n.scale + trailingZeros n.digits)

end Numeral

end DeclLang
