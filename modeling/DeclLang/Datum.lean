import DeclLang.Numeral.Display
import DeclLang.Text.Quoted

/-!
Plain data from outside: what stands where a name is expected, and what is left of a tree once its
nodes are taken apart. Records keep the order of their fields, since a message shows it.
-/

set_option autoImplicit false

namespace DeclLang

inductive Datum where
  | absent
  | flag (value : Bool)
  | integer (value : Int)
  | decimal (value : Numeral)
  | text (value : String)
  | list (items : List Datum)
  | record (fields : List (String × Datum))
  deriving Repr

namespace Datum

mutual

def display : Datum → String
  | .absent => "None"
  | .flag true => "True"
  | .flag false => "False"
  | .integer value => toString value
  | .decimal value => value.display
  | .text value => Text.quote value
  | .list items => "[" ++ ", ".intercalate (displayItems items) ++ "]"
  | .record fields => "\x7b" ++ ", ".intercalate (displayFields fields) ++ "\x7d"

def displayItems : List Datum → List String
  | [] => []
  | item :: rest => item.display :: displayItems rest

def displayFields : List (String × Datum) → List String
  | [] => []
  | (name, value) :: rest =>
    (Text.quote name ++ ": " ++ value.display) :: displayFields rest

end

example : (Datum.list [.integer 1, .text "a", .absent]).display = "[1, 'a', None]" := by
  decide +kernel

example : (Datum.record [("a", .list []), ("b", .flag true)]).display =
    "\x7b'a': [], 'b': True\x7d" := by
  decide +kernel

end Datum

end DeclLang
