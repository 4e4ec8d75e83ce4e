import DeclLang.Text.Printable

/-!
Quoted display of a text inside a message. Single quotes are the rule; a text that holds a single
quote and no double quote is set in double quotes, so that nothing in it needs escaping. Characters
that cannot be shown are written by their code point in the shortest of three widths, in lower-case
hexadecimal digits as all escape sequences have them.
-/

set_option autoImplicit false

namespace DeclLang.Text

/-- The last `width` hexadecimal digits of a number, the highest one first. -/
def hexDigits : Nat → Nat → List Char
  | 0, _ => []
  | width + 1, n => hexDigits width (n / 16) ++ [Nat.digitChar (n % 16)]

@[simp] theorem length_hexDigits (width n : Nat) : (hexDigits width n).length = width := by
  induction width generalizing n with
  | zero => rfl
  | succ width ih => simp [hexDigits, ih]

/-- The quotation mark in which a text is displayed. -/
def quoteMark (text : List Char) : Char :=
  if '\'' ∈ text ∧ '"' ∉ text then '"' else '\''

/-- The code point of a character that is not shown verbatim, in two, four or eight digits. -/
def escapeCode (c : Char) : List Char :=
  if c.toNat ≤ 0xFF then '\\' :: 'x' :: hexDigits 2 c.toNat
  else if c.toNat ≤ 0xFFFF then '\\' :: 'u' :: hexDigits 4 c.toNat
  else '\\' :: 'U' :: hexDigits 8 c.toNat

/-- How one character stands between the given quotation marks. -/
def quoteChar (mark c : Char) : List Char :=
  if c = mark ∨ c = '\\' then ['\\', c]
  else if c = '\n' then ['\\', 'n']
  else if c = '\r' then ['\\', 'r']
  else if c = '\t' then ['\\', 't']
  else if isPrintable c then [c]
  else escapeCode c

/-- A text in quotation marks, on one line and with every character visible. -/
def quote (text : String) : String :=
  let mark := quoteMark text.toList
  String.ofList (mark :: text.toList.flatMap (quoteChar mark) ++ [mark])

example : quote "it's" = "\"it's\"" := by decide +kernel
example : quote "a'b\"c" = "'a\\'b\"c'" := by decide +kernel
example : quote "\u200b\t" = "'\\u200b\\t'" := by decide +kernel

end DeclLang.Text
