import DeclLang.Numeral.Basic
import DeclLang.Token.Basic

/-!
Which literals may initialize a variable of which type. Each declared type accepts some kinds of
literals outright; the whole-number types accept a fractional literal as well if its value, that of
the number in front of its type suffix, is whole. A name that is none of the declared types, and the
absence of a type, accept nothing.
-/

set_option autoImplicit false

namespace DeclLang

namespace Literal

/-- The letters that can stand behind a number to give it a type. -/
def suffixes : List Char := ['l', 'L', 'f', 'F', 'd', 'D']

/-- A literal without its type suffix, if it has one; at most one letter is removed. -/
def stripSuffix (lexeme : String) : String :=
  match lexeme.toList.getLast? with
  | some last => if last ∈ suffixes then String.ofList lexeme.toList.dropLast else lexeme
  | none => lexeme

/-- Whether a literal is a number within the range of numerals whose value is whole. -/
def isWhole (lexeme : String) : Bool :=
  (Numeral.read (stripSuffix lexeme)).any Numeral.isWhole

end Literal

inductive DeclaredType where
  | byte | short | int | long | float | double | boolean | char | string
  deriving DecidableEq, Repr

namespace DeclaredType

def all : List DeclaredType :=
  [.byte, .short, .int, .long, .float, .double, .boolean, .char, .string]

def name : DeclaredType → String
  | .byte => "byte"
  | .short => "short"
  | .int => "int"
  | .long => "long"
  | .float => "float"
  | .double => "double"
  | .boolean => "boolean"
  | .char => "char"
  | .string => "String"

instance : Named DeclaredType where
  enumeration := "DeclaredType"
  members := all
  name := name

instance : LawfulNamed DeclaredType where
  mem_members a := by cases a <;> decide
  name_injective a b h := by
    cases a <;> cases b <;> first | rfl | exact absurd h (by decide)

/-- The kinds of literals that a type accepts whatever their text. -/
def accepted : DeclaredType → List LiteralKind
  | .byte | .short | .int => [.int]
  | .long => [.int, .long]
  | .float | .double => [.int, .float, .double]
  | .boolean => [.boolean]
  | .char => [.char]
  | .string => [.string]

/-- Whether the values of a type are whole numbers. -/
def isWholeNumber : DeclaredType → Bool
  | .byte | .short | .int | .long => true
  | _ => false

/-- Whether a literal of the given kind and text may initialize a variable of the type. -/
def accepts (type : DeclaredType) (kind : LiteralKind) (lexeme : String) : Bool :=
  decide (kind ∈ type.accepted) ||
    (type.isWholeNumber && (kind == .float || kind == .double) && Literal.isWhole lexeme)

end DeclaredType

/-- Whether a token may initialize a variable of the named type. -/
def isAssignable (typeName : Option String) (kind : Token.Kind) (lexeme : String) : Bool :=
  match typeName.bind Named.find?, kind with
  | some (type : DeclaredType), .literal kind => type.accepts kind lexeme
  | _, _ => false

@[simp] theorem isAssignable_none (kind : Token.Kind) (lexeme : String) :
    isAssignable none kind lexeme = false := rfl

theorem isAssignable_of_isLiteral_eq_false {typeName : Option String} {kind : Token.Kind}
    {lexeme : String} (h : kind.isLiteral = false) : isAssignable typeName kind lexeme = false := by
  unfold isAssignable
  split
  · simp [Token.Kind.isLiteral] at h
  · rfl

end DeclLang
