import DeclLang.Named

/-!
Tokens of the declaration language: a kind, the text it was scanned from and the line that text
starts on. Tokens may also be made by hand, so their lines are arbitrary integers and nothing here
ties a lexeme to its kind.
-/

set_option autoImplicit false

namespace DeclLang

inductive LiteralKind where
  | int | long | float | double | char | string | boolean
  deriving DecidableEq, Repr

namespace Token

/-- The kinds of tokens; `endOfInput` closes a token list and has no text of its own. -/
inductive Kind where
  | typeName
  | identifier
  | literal (kind : LiteralKind)
  | equals
  | comma
  | semicolon
  | endOfInput
  deriving DecidableEq, Repr

end Token

namespace LiteralKind

def all : List LiteralKind := [.int, .long, .float, .double, .char, .string, .boolean]

def name : LiteralKind → String
  | .int => "INT_LITERAL"
  | .long => "LONG_LITERAL"
  | .float => "FLOAT_LITERAL"
  | .double => "DOUBLE_LITERAL"
  | .char => "CHAR_LITERAL"
  | .string => "STRING_LITERAL"
  | .boolean => "BOOLEAN_LITERAL"

end LiteralKind

namespace Token.Kind

def all : List Kind :=
  [.typeName, .identifier] ++ LiteralKind.all.map .literal ++
    [.equals, .comma, .semicolon, .endOfInput]

def name : Kind → String
  | .typeName => "TYPE"
  | .identifier => "IDENTIFIER"
  | .literal kind => kind.name
  | .equals => "EQUALS"
  | .comma => "COMMA"
  | .semicolon => "SEMICOLON"
  | .endOfInput => "END"

/-- Whether a kind is one of the literal kinds. -/
def isLiteral : Kind → Bool
  | .literal _ => true
  | _ => false

instance : Named Kind where
  enumeration := "TokenKind"
  members := all
  name := name

instance : LawfulNamed Kind where
  mem_members a := by
    cases a with
    | literal kind => cases kind <;> decide
    | _ => decide
  name_injective a b h := by
    have key : ∀ a ∈ all, ∀ b ∈ all, a.name = b.name → a = b := by decide
    have mem : ∀ a : Kind, a ∈ all := fun a => by
      cases a with
      | literal kind => cases kind <;> decide
      | _ => decide
    exact key a (mem a) b (mem b) h

end Token.Kind

/-- A token: its kind, its text and the line on which the text starts. -/
structure Token where
  kind : Token.Kind
  lexeme : String
  line : Int
  deriving DecidableEq, Repr

namespace Token

def isEnd (t : Token) : Bool :=
  t.kind == .endOfInput

/-- The closing token of an input that ends on the given line. -/
def endAt (line : Int) : Token :=
  ⟨.endOfInput, "", line⟩

@[simp] theorem isEnd_endAt (line : Int) : (endAt line).isEnd = true := rfl

end Token

end DeclLang
