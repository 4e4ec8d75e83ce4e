import DeclLang.Json.Reader

/-!
The grammar of JSON texts, with the value that each text stands for. Blanks may surround every value
and every key. Of numbers only integers occur here. A quoted text stands for the characters whose
UTF-16 code units its characters and escapes give, so a pair of surrogates is one character however
its halves are written, and a text with half a pair stands for nothing.

The grammar admits many texts for one value; which of them is written is not its concern.
-/

set_option autoImplicit false

namespace DeclLang.Json

def IsBlanks (text : List Char) : Prop :=
  ∀ c ∈ text, isSpace c = true

/-- The digits of a natural number; only zero itself starts with a zero. -/
structure IsNumeral (digits : List Char) (n : Nat) : Prop where
  ne_nil : digits ≠ []
  isDigit : ∀ c ∈ digits, c.isDigit = true
  head_zero : digits.head? = some '0' → digits = ['0']
  value : Nat.ofDigitChars 10 digits 0 = n

inductive IsInteger : List Char → Int → Prop where
  | natural {digits : List Char} {n : Nat} : IsNumeral digits n → IsInteger digits n
  | negative {digits : List Char} {n : Nat} : IsNumeral digits n →
      IsInteger ('-' :: digits) (-(n : Int))

/-- The letters that may follow a backslash, each with the character that it stands for. -/
def escapes : List (Char × Char) :=
  [('"', '"'), ('\\', '\\'), ('/', '/'), ('n', '\n'), ('r', '\r'), ('t', '\t'), ('b', '\x08'),
   ('f', '\x0c')]

/-- What stands between quotes, with its code units. -/
inductive IsBody : List Char → List Nat → Prop where
  | nil : IsBody [] []
  | plain {c : Char} {rest : List Char} {units : List Nat} : 0x20 ≤ c.toNat → c ≠ '"' → c ≠ '\\' →
      IsBody rest units → IsBody (c :: rest) (codeUnits c ++ units)
  | escape {letter c : Char} {rest : List Char} {units : List Nat} : (letter, c) ∈ escapes →
      IsBody rest units → IsBody ('\\' :: letter :: rest) (codeUnits c ++ units)
  | unit {a b c d : Char} {unit : Nat} {rest : List Char} {units : List Nat} :
      unit? a b c d = some unit → IsBody rest units →
      IsBody ('\\' :: 'u' :: a :: b :: c :: d :: rest) (unit :: units)

/-- A text in quotes. -/
inductive IsQuoted : List Char → String → Prop where
  | mk {body : List Char} {text : String} : IsBody body (text.toList.flatMap codeUnits) →
      IsQuoted ('"' :: (body ++ ['"'])) text

mutual

inductive IsValue : List Char → Value → Prop where
  | null : IsValue ['n', 'u', 'l', 'l'] .null
  | yes : IsValue ['t', 'r', 'u', 'e'] (.boolean true)
  | no : IsValue ['f', 'a', 'l', 's', 'e'] (.boolean false)
  | integer {text : List Char} {n : Int} : IsInteger text n → IsValue text (.integer n)
  | quoted {text : List Char} {s : String} : IsQuoted text s → IsValue text (.text s)
  | noItems {blanks : List Char} : IsBlanks blanks → IsValue ('[' :: (blanks ++ [']'])) (.array [])
  | items {text : List Char} {items : List Value} : IsItems text items →
      IsValue ('[' :: (text ++ [']'])) (.array items)
  | noFields {blanks : List Char} : IsBlanks blanks →
      IsValue ('{' :: (blanks ++ ['}'])) (.object [])
  | fields {text : List Char} {fields : List (String × Value)} : IsFields text fields →
      IsValue ('{' :: (text ++ ['}'])) (.object fields)

/-- A value with blanks around it. -/
inductive IsElement : List Char → Value → Prop where
  | mk {before text after : List Char} {v : Value} : IsBlanks before → IsValue text v →
      IsBlanks after → IsElement (before ++ (text ++ after)) v

/-- Values with commas between them. -/
inductive IsItems : List Char → List Value → Prop where
  | one {text : List Char} {v : Value} : IsElement text v → IsItems text [v]
  | more {text back : List Char} {v : Value} {rest : List Value} : IsElement text v →
      IsItems back rest → IsItems (text ++ ',' :: back) (v :: rest)

/-- A key with blanks around it, a colon and a value. -/
inductive IsField : List Char → String × Value → Prop where
  | mk {before quoted between text : List Char} {key : String} {v : Value} : IsBlanks before →
      IsQuoted quoted key → IsBlanks between → IsElement text v →
      IsField (before ++ (quoted ++ (between ++ ':' :: text))) (key, v)

/-- Fields with commas between them. -/
inductive IsFields : List Char → List (String × Value) → Prop where
  | one {text : List Char} {field : String × Value} : IsField text field → IsFields text [field]
  | more {text back : List Char} {field : String × Value} {rest : List (String × Value)} :
      IsField text field → IsFields back rest → IsFields (text ++ ',' :: back) (field :: rest)

end

/-- A JSON text, with the value that it stands for. -/
def IsText (text : String) (v : Value) : Prop :=
  IsElement text.toList v

end DeclLang.Json
