import DeclLang.Numeral.Basic

/-!
The text of a numeral in a message: its significant digits without zeros at their end, in positional
form for leading exponents within fixed bounds and otherwise in scientific form. Positional form
always has a place behind the point; an exponent always has a sign and two digits.
-/

set_option autoImplicit false

namespace DeclLang.Numeral

/-- The least leading exponent that is written in positional form. -/
def leastPositional : Int := -4

/-- The least leading exponent above those that are written in positional form. -/
def leastScientific : Int := 16

def digitChar (d : Nat) : Char :=
  Char.ofNat (0x30 + d)

/-- The digits that are shown: the significant ones without zeros at their end. -/
def shownDigits (n : Numeral) : List Char :=
  ((n.significant.reverse.dropWhile (· == 0)).reverse).map digitChar

/-- Digits in positional form, the first of them at the given power of ten. -/
def positional (digits : List Char) (exponent : Int) : List Char :=
  if exponent < 0 then
    '0' :: '.' :: (List.replicate (-exponent - 1).toNat '0' ++ digits)
  else
    let places := exponent.toNat + 1
    digits.take places ++ List.replicate (places - digits.length) '0' ++
      '.' :: (if digits.length ≤ places then ['0'] else digits.drop places)

/-- An exponent with its sign and at least two digits. -/
def exponentText (exponent : Int) : List Char :=
  (if exponent < 0 then '-' else '+') :: (toString exponent.natAbs).toList.leftpad 2 '0'

/-- Digits in scientific form, the first of them at the given power of ten. -/
def scientific (digits : List Char) (exponent : Int) : List Char :=
  digits.take 1 ++ (if digits.length ≤ 1 then [] else '.' :: digits.drop 1) ++
    'e' :: exponentText exponent

def display (n : Numeral) : String :=
  let digits := n.shownDigits
  let exponent := n.leadingExponent
  String.ofList ((if n.negative then ['-'] else []) ++
    if digits.isEmpty then ['0', '.', '0']
    else if leastPositional ≤ exponent ∧ exponent < leastScientific then positional digits exponent
    else scientific digits exponent)

example : (Numeral.mk true [0] [0] 0).display = "-0.0" := by decide +kernel
example : (Numeral.mk false [1] [] 16).display = "1e+16" := by decide +kernel
example : (Numeral.mk false [1, 2] [5, 0] 2).display = "1250.0" := by decide +kernel
example : (Numeral.mk false [0] [0, 0, 1] (-2)).display = "1e-05" := by decide +kernel
example : (Numeral.mk false [1, 2] [5] (-4)).display = "0.00125" := by decide +kernel

end DeclLang.Numeral
