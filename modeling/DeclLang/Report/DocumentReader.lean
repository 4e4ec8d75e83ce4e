import DeclLang.Json.Reader
import DeclLang.Report.Document

/-!
Reading the shapes of a report document back. Each reader asks for the fields that its shape has,
by name, and gives the value that was written; fields in another order or besides these are no
obstacle.
-/

set_option autoImplicit false

namespace DeclLang

open Json (Value)

namespace Json.Value

/-- The field of an object with the given name. -/
def field? (name : String) : Value → Option Value
  | .object fields => fields.lookup name
  | _ => none

def boolean? : Value → Option Bool
  | .boolean b => some b
  | _ => none

def text? : Value → Option String
  | .text s => some s
  | _ => none

def integer? : Value → Option Int
  | .integer n => some n
  | _ => none

/-- The items of the array that a value is. -/
def items? : Value → Option (List Value)
  | .array items => some items
  | _ => none

end Json.Value

/-- Whether a value is a node of the named type. -/
def isNodeOf (type : String) (v : Value) : Bool :=
  (v.field? "type").bind Value.text? == some type

def Initializer.ofJson? (v : Value) : Option Initializer := do
  guard (isNodeOf "Initializer" v)
  let kind ← (← (← v.field? "kind").text?) |> Named.find?
  let lexeme ← (← v.field? "lexeme").text?
  let line ← (← v.field? "line").integer?
  return ⟨kind, lexeme, line⟩

def Declarator.ofJson? (v : Value) : Option Declarator := do
  guard (isNodeOf "Declarator" v)
  let name ← (← v.field? "name").text?
  let line ← (← v.field? "line").integer?
  match ← v.field? "initializer" with
  | .null => return ⟨name, line, none⟩
  | i => return ⟨name, line, some (← Initializer.ofJson? i)⟩

def Declaration.ofJson? (v : Value) : Option Declaration := do
  guard (isNodeOf "Declaration" v)
  let typeName ← (← v.field? "type_name").text?
  let declarators ← (← (← v.field? "declarators").items?).mapM Declarator.ofJson?
  let line ← (← v.field? "line").integer?
  return ⟨typeName, declarators, line⟩

/-- The diagnostic of the given stage that a value describes. -/
def Diagnostic.ofJson? (stage : Stage) (v : Value) : Option Diagnostic := do
  let line ← (← v.field? "line").integer?
  let message ← (← v.field? "message").text?
  return ⟨stage, line, message⟩

def Token.ofJson? (v : Value) : Option Token := do
  let kind ← (← (← v.field? "kind").text?) |> Named.find?
  let lexeme ← (← v.field? "lexeme").text?
  let line ← (← v.field? "line").integer?
  return ⟨kind, lexeme, line⟩

/-- The diagnostics of the given stage in an object with an array for each stage. -/
def Diagnostic.listOfJson? (stage : Stage) (v : Value) : Option (List Diagnostic) := do
  (← (← v.field? stage.name).items?).mapM (Diagnostic.ofJson? stage)

namespace Report

/-- What a report document tells: the tokens are there only if they were asked for. -/
structure Contents where
  success : Bool
  state : Session.State
  declarations : List Declaration
  diagnostics : List (Stage × List Diagnostic)
  tokens : Option (List Token)
  deriving DecidableEq, Repr

namespace Contents

def ofJson? (v : Value) : Option Contents := do
  let success ← (← v.field? "success").boolean?
  let state ← (← (← v.field? "state").text?) |> Named.find?
  let declarations ← (← (← v.field? "declarations").items?).mapM Declaration.ofJson?
  let errors ← v.field? "errors"
  let diagnostics ← Stage.all.mapM fun stage => do
    return (stage, ← Diagnostic.listOfJson? stage errors)
  match v.field? "tokens" with
  | none => return ⟨success, state, declarations, diagnostics, none⟩
  | some tokens =>
    return ⟨success, state, declarations, diagnostics,
      some (← (← tokens.items?).mapM Token.ofJson?)⟩

def read? (text : String) : Option Contents := do
  ofJson? (← Value.read? text)

end Contents

end Report

/-- A list is read back if each of its items is. -/
theorem mapM_map_of_inverse {α β : Type} {write : α → β} {read : β → Option α} {items : List α}
    (h : ∀ a ∈ items, read (write a) = some a) : (items.map write).mapM read = some items := by
  induction items with
  | nil => rfl
  | cons a rest ih =>
    rw [List.forall_mem_cons] at h
    simp [h.1, ih h.2]

theorem guard_of {p : Prop} [Decidable p] (h : p) : (guard p : Option Unit) = some () :=
  if_pos h

@[simp] theorem Initializer.ofJson?_toJson (i : Initializer) :
    Initializer.ofJson? i.toJson = some i := by
  have hk : Named.find? i.kind.name = some i.kind := Named.find?_name i.kind
  simp [Initializer.ofJson?, Initializer.toJson, isNodeOf, Value.field?, Value.text?,
    Value.integer?, List.lookup_cons, hk, ↓guard_of]

@[simp] theorem Declarator.ofJson?_toJson (d : Declarator) :
    Declarator.ofJson? d.toJson = some d := by
  obtain ⟨name, line, init⟩ := d
  cases init with
  | none =>
    simp [Declarator.ofJson?, Declarator.toJson, isNodeOf, Value.field?, Value.text?,
      Value.integer?, List.lookup_cons, ↓guard_of]
  | some i =>
    have hi := Initializer.ofJson?_toJson i
    unfold Initializer.toJson at hi
    simp [Declarator.ofJson?, Declarator.toJson, Initializer.toJson, isNodeOf, Value.field?,
      Value.text?, Value.integer?, List.lookup_cons, ↓guard_of, hi]

@[simp] theorem Declaration.ofJson?_toJson (d : Declaration) :
    Declaration.ofJson? d.toJson = some d := by
  have hds : (d.declarators.map Declarator.toJson).mapM Declarator.ofJson? =
      some d.declarators :=
    mapM_map_of_inverse fun e _ => Declarator.ofJson?_toJson e
  simp [Declaration.ofJson?, Declaration.toJson, isNodeOf, Value.field?, Value.text?,
    Value.integer?, Value.items?, List.lookup_cons, ↓guard_of, hds]

/-- A diagnostic is read back as it was written, once its stage is given. -/
@[simp] theorem Diagnostic.ofJson?_toJson (d : Diagnostic) :
    Diagnostic.ofJson? d.stage d.toJson = some d := by
  simp [Diagnostic.ofJson?, Diagnostic.toJson, Value.field?, Value.text?, Value.integer?,
    List.lookup_cons]

@[simp] theorem Token.ofJson?_toJson (t : Token) : Token.ofJson? t.toJson = some t := by
  have hk : Named.find? t.kind.name = some t.kind := Named.find?_name t.kind
  simp [Token.ofJson?, Token.toJson, Value.field?, Value.text?, Value.integer?, List.lookup_cons, hk]

end DeclLang
