import DeclLang.Token.Basic

/-!
Declarations: a type name and a nonempty list of declarators, each a variable name with an optional
initializer. Every node keeps the line it starts on. An initializer keeps the kind and the text of
its token; trees may be made by hand, so the kind can be any kind of token, and below a type name
there may be any nodes and not declarators alone.
-/

set_option autoImplicit false

namespace DeclLang

structure Initializer where
  kind : Token.Kind
  lexeme : String
  line : Int
  deriving DecidableEq, Repr

structure Declarator where
  name : String
  line : Int
  initializer : Option Initializer
  deriving DecidableEq, Repr

structure Declaration where
  typeName : String
  declarators : List Declarator
  line : Int
  deriving DecidableEq, Repr

/-- The names of the variables that a declaration declares. -/
def Declaration.names (d : Declaration) : List String :=
  d.declarators.map Declarator.name

/-- A node of a tree that may have been made by hand. -/
inductive Node where
  | initializer (node : Initializer)
  | declarator (node : Declarator)
  | declaration (typeName : String) (children : List Node) (line : Int)
  deriving Repr

/-- A declaration as a node, whose children are its declarators. -/
def Declaration.toNode (d : Declaration) : Node :=
  .declaration d.typeName (d.declarators.map .declarator) d.line

/-! ### The token form

The lines of names, types and literals come from the tree; the tree has no lines for punctuation, so
those are taken from the node that the mark belongs to. -/

/-- The tokens of an initializer: an equals sign and the literal. -/
def Initializer.toTokens (i : Initializer) : List Token :=
  [⟨.equals, "=", i.line⟩, ⟨i.kind, i.lexeme, i.line⟩]

def Declarator.toTokens (d : Declarator) : List Token :=
  ⟨.identifier, d.name, d.line⟩ ::
    (match d.initializer with
      | none => []
      | some i => i.toTokens)

def Declarator.listToTokens : List Declarator → List Token
  | [] => []
  | [d] => d.toTokens
  | d :: rest => d.toTokens ++ ⟨.comma, ",", d.line⟩ :: Declarator.listToTokens rest

def Declaration.toTokens (d : Declaration) : List Token :=
  ⟨.typeName, d.typeName, d.line⟩ ::
    (Declarator.listToTokens d.declarators ++ [⟨.semicolon, ";", d.line⟩])

end DeclLang
