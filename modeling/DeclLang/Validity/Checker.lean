import DeclLang.Declaration.Basic
import DeclLang.Diagnostic.Basic
import DeclLang.Literal.Assignable
import DeclLang.Log.Basic
import DeclLang.Settings

/-!
A checker for the names and initializers of declarations. It remembers the names that it has seen
and the diagnostics that it has made, and goes on from call to call until an analysis starts it
afresh. Names count across declarations; the three checks of a declarator, for a reserved name, a
repeated name and an initializer that does not fit the declared type, do not depend on each other. A
declaration sets the type under which the nodes below it are checked and unsets it at its end, so
whatever follows a declaration inside another one is checked without a type.
-/

set_option autoImplicit false

namespace DeclLang

inductive ValidityFault where
  /-- No variable may have this name. -/
  | reservedName (name : String)
  /-- An earlier declarator has the same name. -/
  | repeatedName (name : String)
  /-- The literal does not fit the type; without a declared type nothing fits. -/
  | mismatch (name : String) (typeName : Option String) (kind : Token.Kind) (lexeme : String)
  deriving DecidableEq, Repr

namespace ValidityFault

def message : ValidityFault → String
  | .reservedName name => "Invalid identifier (reserved): " ++ name
  | .repeatedName name => "Duplicate variable name: " ++ name
  | .mismatch name typeName kind lexeme =>
    "Type mismatch: cannot assign " ++ kind.name ++ "(" ++ lexeme ++ ") to " ++
      typeName.getD "None" ++ " variable '" ++ name ++ "'"

/-- The diagnostic of a fault of the given declarator. -/
def toDiagnostic (d : Declarator) (f : ValidityFault) : Diagnostic :=
  ⟨.semantic, d.line, f.message⟩

end ValidityFault

/-- The state of a checker: the names it has seen, each once, its diagnostics so far and the type
of the declaration that it is inside of. -/
structure Checker where
  seen : List String
  errors : List Diagnostic
  typeName : Option String
  deriving DecidableEq, Repr

namespace Checker

def fresh : Checker := ⟨[], [], none⟩

/-- A checker that is inside of a declaration of the given type, or of none. -/
def inType (c : Checker) (typeName : Option String) : Checker :=
  { c with typeName := typeName }

variable (settings : Settings)

/-- The fault of an initializer that does not fit the type of its variable. -/
def mismatchFault (typeName : Option String) (d : Declarator) : List ValidityFault :=
  match d.initializer with
  | none => []
  | some i =>
    if isAssignable typeName i.kind i.lexeme then []
    else [.mismatch d.name typeName i.kind i.lexeme]

/-- The faults of a declarator of the given type, given the names seen before it. -/
def faults (seen : List String) (typeName : Option String) (d : Declarator) :
    List ValidityFault :=
  (if d.name ∈ settings.reservedWords then [.reservedName d.name] else []) ++
  (if d.name ∈ seen then [.repeatedName d.name] else []) ++
  mismatchFault typeName d

def visitDeclarator (c : Checker) (d : Declarator) : Checker :=
  { c with
    seen := c.seen.insert d.name
    errors := c.errors ++ (faults settings c.seen c.typeName d).map (·.toDiagnostic d) }

mutual

/-- Checks a node and the nodes below it; an initializer by itself is nothing to check. -/
def visit (c : Checker) : Node → Checker
  | .declaration typeName children _ =>
    (visitAll (c.inType (some typeName)) children).inType none
  | .declarator d => visitDeclarator settings c d
  | .initializer _ => c

def visitAll (c : Checker) : List Node → Checker
  | [] => c
  | node :: rest => visitAll (visit c node) rest

end

def analyze (nodes : List Node) : Checker :=
  visitAll settings fresh nodes

inductive Call where
  | analyze (nodes : List Node)
  | visit (node : Node)
  deriving Repr

/-- A checker without the names and diagnostics of its earlier calls. -/
def restart (c : Checker) : Checker :=
  { c with seen := [], errors := [] }

/-- The state after a call; an analysis starts with no names and diagnostics. -/
def after (c : Checker) : Call → Checker
  | .analyze nodes => visitAll settings c.restart nodes
  | .visit node => visit settings c node

@[simp] theorem seen_fresh : fresh.seen = [] := rfl

@[simp] theorem errors_fresh : fresh.errors = [] := rfl

@[simp] theorem typeName_fresh : fresh.typeName = none := rfl

@[simp] theorem seen_inType (c : Checker) (typeName : Option String) :
    (c.inType typeName).seen = c.seen := rfl

@[simp] theorem errors_inType (c : Checker) (typeName : Option String) :
    (c.inType typeName).errors = c.errors := rfl

@[simp] theorem typeName_inType (c : Checker) (typeName : Option String) :
    (c.inType typeName).typeName = typeName := rfl

@[simp] theorem typeName_visitDeclarator (c : Checker) (d : Declarator) :
    (visitDeclarator settings c d).typeName = c.typeName := rfl

/-- A name has been seen when it was seen before or is the declarator's own. -/
theorem mem_seen_visitDeclarator_iff {c : Checker} {d : Declarator} {name : String} :
    name ∈ (visitDeclarator settings c d).seen ↔ name = d.name ∨ name ∈ c.seen := by
  simp [visitDeclarator, List.mem_insert_iff]

theorem visitAll_eq_foldl (c : Checker) (nodes : List Node) :
    visitAll settings c nodes = nodes.foldl (visit settings) c := by
  induction nodes generalizing c with
  | nil => simp [visitAll]
  | cons node rest ih => simp [visitAll, ih]

/-- The nodes of a declaration that was read are its declarators, all of its type. -/
theorem visit_toNode (c : Checker) (d : Declaration) :
    visit settings c d.toNode =
      (d.declarators.foldl (visitDeclarator settings) (c.inType (some d.typeName))).inType none := by
  simp [Declaration.toNode, visit, visitAll_eq_foldl, List.foldl_map]

/-- A node that is visited from outside of all declarations leaves the checker there. -/
theorem typeName_visit {c : Checker} (h : c.typeName = none) (node : Node) :
    (visit settings c node).typeName = none := by
  cases node with
  | initializer i => simpa [visit] using h
  | declarator d => simpa [visit] using h
  | declaration typeName children line => simp [visit]

end Checker

def validate (settings : Settings) (declarations : List Declaration) : List Diagnostic :=
  (Checker.analyze settings (declarations.map Declaration.toNode)).errors

/-- The log records of an analysis that made the given diagnostics. -/
def validationLog (errors : List Diagnostic) : List Log.Record :=
  [⟨.debug, "Semantic analysis found " ++ toString errors.length ++ " error(s)"⟩]

end DeclLang
