import DeclLang.Named

/-!
Diagnostics: a problem in the source, the stage that found it and the line it stands on. Stages
come in the order in which they are run, which is also the order in which reports list them.
-/

set_option autoImplicit false

namespace DeclLang

inductive Stage where
  | lexical
  | syntactic
  | semantic
  deriving DecidableEq, Repr

namespace Stage

/-- All stages, in the order in which they run. -/
def all : List Stage := [.lexical, .syntactic, .semantic]

def name : Stage → String
  | .lexical => "lexical"
  | .syntactic => "syntax"
  | .semantic => "semantic"

def title : Stage → String
  | .lexical => "Lexical Analysis"
  | .syntactic => "Syntax Analysis"
  | .semantic => "Semantic Analysis"

/-- The activity of a stage, as it is called in running text. -/
def activity (stage : Stage) : String :=
  stage.name ++ " analysis"

instance : Named Stage where
  enumeration := "Stage"
  members := all
  name := name

instance : LawfulNamed Stage where
  mem_members a := by cases a <;> decide
  name_injective a b h := by
    cases a <;> cases b <;> first | rfl | exact absurd h (by decide)

end Stage

structure Diagnostic where
  stage : Stage
  line : Int
  message : String
  deriving DecidableEq, Repr

namespace Diagnostic

/-- A diagnostic as one line of text, without its stage. -/
def display (d : Diagnostic) : String :=
  "Line " ++ toString d.line ++ ": " ++ d.message

/-- A diagnostic as one line of text that names its stage. -/
def tagged (d : Diagnostic) : String :=
  "ERROR [" ++ d.stage.name ++ ":" ++ toString d.line ++ "]: " ++ d.message

end Diagnostic

end DeclLang
