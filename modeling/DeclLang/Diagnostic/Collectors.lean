import DeclLang.Diagnostic.Collection

/-!
Several collections at once, each under a name. A collection comes into being empty the first time
its name is used, so the state is a total map from names; a step changes the collection it is
addressed to and no other.
-/

set_option autoImplicit false

namespace DeclLang

/-- Named collections of diagnostics; a name that was not used yet stands for the empty one. -/
def Collectors : Type := String → Diagnostics

namespace Collectors

def initial : Collectors := fun _ => .empty

def get (cs : Collectors) (name : String) : Diagnostics := cs name

def set (cs : Collectors) (name : String) (ds : Diagnostics) : Collectors :=
  fun other => if other = name then ds else cs other

/-- The changes that can be made to a collection. -/
inductive Change where
  | add (diagnostic : Diagnostic)
  | extend (diagnostics : List Diagnostic)
  | merge (other : String)
  deriving DecidableEq, Repr

/-- What a change appends, given the collections as they are. -/
def Change.appended (cs : Collectors) : Change → List Diagnostic
  | .add d => [d]
  | .extend ds => ds
  | .merge other => (cs.get other).entries

/-- Makes a change to the collection of the given name. -/
def apply (cs : Collectors) (name : String) : Change → Collectors
  | .add d => cs.set name ((cs.get name).add d)
  | .extend ds => cs.set name ((cs.get name).extend ds)
  | .merge other => cs.set name ((cs.get name).merge (cs.get other))

@[simp] theorem get_initial (name : String) : initial.get name = .empty := rfl

@[simp] theorem get_set_self (cs : Collectors) (name : String) (ds : Diagnostics) :
    (cs.set name ds).get name = ds := by
  simp [get, set]

@[simp] theorem get_set_of_ne {cs : Collectors} {name other : String} {ds : Diagnostics}
    (h : other ≠ name) : (cs.set name ds).get other = cs.get other := by
  simp [get, set, h]

end Collectors

end DeclLang
