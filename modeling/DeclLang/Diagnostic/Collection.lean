import DeclLang.Diagnostic.Basic

/-!
Diagnostics collected over all stages, in the order in which they were found, and their listings.
A listing groups by stage and numbers each stage's entries from one, so the order between stages is
not part of it.
-/

set_option autoImplicit false

namespace DeclLang

/-- Diagnostics in the order in which they were found. -/
structure Diagnostics where
  entries : List Diagnostic
  deriving DecidableEq, Repr

namespace Diagnostics

def empty : Diagnostics := ⟨[]⟩

def add (ds : Diagnostics) (d : Diagnostic) : Diagnostics :=
  ⟨ds.entries ++ [d]⟩

def extend (ds : Diagnostics) (more : List Diagnostic) : Diagnostics :=
  ⟨ds.entries ++ more⟩

/-- All diagnostics of another collection, after the present ones. -/
def merge (ds other : Diagnostics) : Diagnostics :=
  ds.extend other.entries

def hasErrors (ds : Diagnostics) : Bool :=
  !ds.entries.isEmpty

def ofStage (ds : Diagnostics) (stage : Stage) : List Diagnostic :=
  ds.entries.filter (·.stage == stage)

/-- How many diagnostics there are, of one stage or of all. -/
def count (ds : Diagnostics) : Option Stage → Nat
  | none => ds.entries.length
  | some stage => (ds.ofStage stage).length

def messages (ds : Diagnostics) : List String :=
  ds.entries.map Diagnostic.tagged

def numbered : Nat → List Diagnostic → List String
  | _, [] => []
  | start, d :: rest => (toString start ++ ". " ++ d.display) :: numbered (start + 1) rest

/-- The lines of one stage's listing: its title, then its numbered diagnostics. -/
def stageLines (ds : Diagnostics) (stage : Stage) : List String :=
  (stage.title ++ " errors:") :: numbered 1 (ds.ofStage stage)

def stageListing (ds : Diagnostics) (stage : Stage) : String :=
  "\n".intercalate (ds.stageLines stage)

def summary (ds : Diagnostics) : String :=
  "Analysis summary: " ++ toString (ds.count none) ++ " error(s)"

/-- The listing of all stages that found something, with a summary line. -/
def listing (ds : Diagnostics) : String :=
  if ds.hasErrors then
    let reporting := Stage.all.filter fun stage => !(ds.ofStage stage).isEmpty
    "\n".intercalate (reporting.map ds.stageListing) ++ "\n" ++ ds.summary
  else "No diagnostics."

@[simp] theorem entries_empty : empty.entries = [] := rfl

@[simp] theorem entries_add (ds : Diagnostics) (d : Diagnostic) :
    (ds.add d).entries = ds.entries ++ [d] := rfl

@[simp] theorem entries_extend (ds : Diagnostics) (more : List Diagnostic) :
    (ds.extend more).entries = ds.entries ++ more := rfl

@[simp] theorem entries_merge (ds other : Diagnostics) :
    (ds.merge other).entries = ds.entries ++ other.entries := rfl

theorem hasErrors_eq_false_iff (ds : Diagnostics) : ds.hasErrors = false ↔ ds.entries = [] := by
  simp [hasErrors]

theorem mem_ofStage_iff {ds : Diagnostics} {stage : Stage} {d : Diagnostic} :
    d ∈ ds.ofStage stage ↔ d ∈ ds.entries ∧ d.stage = stage := by
  simp [ofStage]

@[simp] theorem length_numbered (start : Nat) (ds : List Diagnostic) :
    (numbered start ds).length = ds.length := by
  induction ds generalizing start with
  | nil => rfl
  | cons d ds ih => simp [numbered, ih]

end Diagnostics

end DeclLang
