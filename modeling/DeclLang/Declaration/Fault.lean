import DeclLang.Diagnostic.Basic
import DeclLang.Token.Basic

/-!
The faults of a token list that is meant to be a list of declarations. Each carries the token at
which it was noticed, whose line its diagnostic gets.
-/

set_option autoImplicit false

namespace DeclLang

def Token.mention (t : Token) : String :=
  if t.isEnd then "end of input" else "'" ++ t.lexeme ++ "'"

inductive SyntaxFault where
  /-- A statement does not start with a type name. -/
  | expectedType (found : Token)
  /-- A declarator does not start with a name. -/
  | expectedIdentifier (found : Token)
  /-- No literal follows an equals sign. -/
  | expectedLiteral (found : Token)
  /-- A declarator is followed by something other than a delimiter. -/
  | unexpected (found : Token)
  /-- The input ends inside a statement. -/
  | missingSemicolon (closing : Token)
  deriving DecidableEq, Repr

namespace SyntaxFault

def token : SyntaxFault → Token
  | .expectedType t => t
  | .expectedIdentifier t => t
  | .expectedLiteral t => t
  | .unexpected t => t
  | .missingSemicolon t => t

def message : SyntaxFault → String
  | .expectedType t => "Expected type but found " ++ t.mention
  | .expectedIdentifier t => "Expected identifier but found " ++ t.mention
  | .expectedLiteral t => "Expected literal but found " ++ t.mention
  | .unexpected t => "Unexpected token " ++ t.mention
  | .missingSemicolon _ => "Unexpected end of input; missing ';'"

def toDiagnostic (f : SyntaxFault) : Diagnostic :=
  ⟨.syntactic, f.token.line, f.message⟩

end SyntaxFault

end DeclLang
