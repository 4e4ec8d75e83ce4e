import DeclLang.Text.Quoted

/-!
JSON values as reports use them, whose numbers are integers and whose fields are kept in the order
in which they are written, and their text: one item or field to a line, two spaces for each level,
nothing between the brackets of an empty list, and ASCII characters only. A character beyond ASCII
is written by its UTF-16 code units.
-/

set_option autoImplicit false

namespace DeclLang.Json

inductive Value where
  | null
  | boolean (value : Bool)
  | integer (value : Int)
  | text (value : String)
  | array (items : List Value)
  | object (fields : List (String × Value))

def escapeUnit (unit : Nat) : List Char :=
  '\\' :: 'u' :: Text.hexDigits 4 unit

def codeUnits (c : Char) : List Nat :=
  if c.toNat < 0x10000 then [c.toNat]
  else [0xD800 + (c.toNat - 0x10000) / 0x400, 0xDC00 + (c.toNat - 0x10000) % 0x400]

/-- The letter that stands for a character behind a backslash. -/
def shortEscape : Char → Option Char
  | '"' => some '"'
  | '\\' => some '\\'
  | '\n' => some 'n'
  | '\r' => some 'r'
  | '\t' => some 't'
  | '\x08' => some 'b'
  | '\x0c' => some 'f'
  | _ => none

def writeChar (c : Char) : List Char :=
  match shortEscape c with
  | some letter => ['\\', letter]
  | none =>
    if 0x20 ≤ c.toNat ∧ c.toNat ≤ 0x7E then [c]
    else (codeUnits c).flatMap escapeUnit

def writeText (text : String) : List Char :=
  '"' :: text.toList.flatMap writeChar ++ ['"']

/-- A line end and the indentation of the next line. -/
def newLine (depth : Nat) : List Char :=
  '\n' :: List.replicate (2 * depth) ' '

mutual

/-- How a value is written whose first line stands at the given depth. -/
def write (depth : Nat) : Value → List Char
  | .null => "null".toList
  | .boolean true => "true".toList
  | .boolean false => "false".toList
  | .integer n => (toString n).toList
  | .text text => writeText text
  | .array [] => ['[', ']']
  | .array (v :: rest) =>
    '[' :: (newLine (depth + 1) ++ write (depth + 1) v ++ writeItems (depth + 1) rest) ++
      (newLine depth ++ [']'])
  | .object [] => ['{', '}']
  | .object ((key, v) :: rest) =>
    '{' :: (newLine (depth + 1) ++ writeText key ++ ':' :: ' ' :: write (depth + 1) v ++
      writeFields (depth + 1) rest) ++ (newLine depth ++ ['}'])

/-- How the items behind the first one are written. -/
def writeItems (depth : Nat) : List Value → List Char
  | [] => []
  | v :: rest => ',' :: (newLine depth ++ write depth v ++ writeItems depth rest)

/-- How the fields behind the first one are written. -/
def writeFields (depth : Nat) : List (String × Value) → List Char
  | [] => []
  | (key, v) :: rest =>
    ',' :: (newLine depth ++ writeText key ++ ':' :: ' ' :: write depth v ++
      writeFields depth rest)

end

def Value.render (v : Value) : String :=
  String.ofList (write 0 v)

end DeclLang.Json
