import DeclLang.Datum
import DeclLang.Report.Document

/-!
Trees taken apart into plain data. Nodes become records of their JSON shape and members of
enumerations become their names, at any depth of lists; other data stays as it is, and what looks
like a node inside a record is data too.
-/

set_option autoImplicit false

namespace DeclLang

mutual

def Datum.ofJson : Json.Value → Datum
  | .null => .absent
  | .boolean value => .flag value
  | .integer value => .integer value
  | .text value => .text value
  | .array items => .list (Datum.ofJsonItems items)
  | .object fields => .record (Datum.ofJsonFields fields)

/-- The items of a JSON array as plain data. -/
def Datum.ofJsonItems : List Json.Value → List Datum
  | [] => []
  | item :: rest => Datum.ofJson item :: Datum.ofJsonItems rest

/-- The fields of a JSON object as plain data. -/
def Datum.ofJsonFields : List (String × Json.Value) → List (String × Datum)
  | [] => []
  | (name, value) :: rest => (name, Datum.ofJson value) :: Datum.ofJsonFields rest

end

namespace Report

inductive Part where
  | datum (value : Datum)
  | tokenKind (kind : Token.Kind)
  | stage (stage : Stage)
  | state (state : Session.State)
  | node (node : Node)
  | list (items : List Part)
  deriving Repr

namespace Part

mutual

def toDatum : Part → Datum
  | .datum value => value
  | .tokenKind k => .text k.name
  | .stage s => .text s.name
  | .state s => .text s.name
  | .node n => Datum.ofJson n.toJson
  | .list items => .list (listToDatum items)

def listToDatum : List Part → List Datum
  | [] => []
  | item :: rest => item.toDatum :: listToDatum rest

end

theorem listToDatum_eq_map (items : List Part) : listToDatum items = items.map toDatum := by
  induction items with
  | nil => simp [listToDatum]
  | cons item rest ih => simp [listToDatum, ih]

end Part

end Report

end DeclLang
