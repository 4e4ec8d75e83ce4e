import DeclLang.Analysis
import DeclLang.Json.Writer
import DeclLang.Token.Table

/-!
The report of an analysis, as a JSON document and as text. The shapes of tokens, diagnostics and
tree nodes in JSON are fixed here once; a node names its own type in its first field. The text is
the token table, if it was asked for, and the verdict, which is the message of the last stage that
passed or the listing of the diagnostics.
-/

set_option autoImplicit false

namespace DeclLang

open Json (Value)

def Initializer.toJson (i : Initializer) : Value :=
  .object [("type", .text "Initializer"), ("kind", .text i.kind.name), ("lexeme", .text i.lexeme),
    ("line", .integer i.line)]

def Declarator.toJson (d : Declarator) : Value :=
  .object [("type", .text "Declarator"), ("name", .text d.name), ("line", .integer d.line),
    ("initializer", match d.initializer with
      | none => .null
      | some i => i.toJson)]

def Declaration.toJson (d : Declaration) : Value :=
  .object [("type", .text "Declaration"), ("type_name", .text d.typeName),
    ("declarators", .array (d.declarators.map Declarator.toJson)), ("line", .integer d.line)]

mutual

def Node.toJson : Node → Value
  | .initializer i => i.toJson
  | .declarator d => d.toJson
  | .declaration typeName children line =>
    .object [("type", .text "Declaration"), ("type_name", .text typeName),
      ("declarators", .array (Node.listToJson children)), ("line", .integer line)]

def Node.listToJson : List Node → List Value
  | [] => []
  | node :: rest => node.toJson :: Node.listToJson rest

end

theorem Node.listToJson_eq_map (nodes : List Node) :
    Node.listToJson nodes = nodes.map Node.toJson := by
  induction nodes with
  | nil => simp [Node.listToJson]
  | cons node rest ih => simp [Node.listToJson, ih]

@[simp] theorem Declaration.toJson_toNode (d : Declaration) : d.toNode.toJson = d.toJson := by
  simp [Declaration.toNode, Declaration.toJson, Node.toJson, Node.listToJson_eq_map]

/-- The JSON shape of a diagnostic whose stage is known from where it stands. -/
def Diagnostic.toJson (d : Diagnostic) : Value :=
  .object [("line", .integer d.line), ("message", .text d.message)]

/-- The shapes of all diagnostics of a collection, whatever their stages. -/
def Diagnostics.toJson (ds : Diagnostics) : List Value :=
  ds.entries.map Diagnostic.toJson

def Token.toJson (t : Token) : Value :=
  .object [("kind", .text t.kind.name), ("lexeme", .text t.lexeme), ("line", .integer t.line)]

namespace Report

def errorsDocument (ds : Diagnostics) : Value :=
  .object (Stage.all.map fun stage =>
    (stage.name, .array ((ds.ofStage stage).map Diagnostic.toJson)))

def document (showTokens : Bool) (a : Analysis) : Value :=
  .object ([("success", .boolean a.success), ("state", .text a.session.state.name),
    ("declarations", .array (a.declarations.map Declaration.toJson)),
    ("errors", errorsDocument a.diagnostics)] ++
    if showTokens then
      [("tokens", .array ((a.tokens.filter (!·.isEnd)).map Token.toJson))]
    else [])

def json (showTokens : Bool) (a : Analysis) : String :=
  (document showTokens a).render

/-! ### The report as text -/

/-- The message for a state that a stage ended in without errors. -/
def passedMessage : Session.State → Option String
  | .lexedOk =>
    some "Lexical Analysis phase passed. You may proceed to Syntax Analysis (level 2)."
  | .parsedOk =>
    some "Syntax Analysis phase passed. You may proceed to Semantic Analysis (level 3)."
  | .validatedOk => some "Semantic Analysis phase passed. All levels passed!"
  | _ => none

def verdict (a : Analysis) : String :=
  if a.success then (passedMessage a.session.state).getD "" else a.diagnostics.listing

def text (showTokens : Bool) (a : Analysis) : String :=
  "\n\n".intercalate ((if showTokens then [Token.table a.tokens] else []) ++ [verdict a])

end Report

end DeclLang
