import DeclLang.Diagnostic.Basic

/-!
How far the analysis of a source has come. A state tells how the stage that ran last ended and from
which states a stage may run; the results that go with a state are kept by the session.
-/

set_option autoImplicit false

namespace DeclLang.Session

inductive State where
  | idle
  | lexedOk
  | lexedFail
  | parsedOk
  | parsedFail
  | validatedOk
  | validatedFail
  deriving DecidableEq, Repr

namespace State

def all : List State :=
  [.idle, .lexedOk, .lexedFail, .parsedOk, .parsedFail, .validatedOk, .validatedFail]

def name : State → String
  | .idle => "idle"
  | .lexedOk => "lexed_ok"
  | .lexedFail => "lexed_fail"
  | .parsedOk => "parsed_ok"
  | .parsedFail => "parsed_fail"
  | .validatedOk => "validated_ok"
  | .validatedFail => "validated_fail"

instance : Named State where
  enumeration := "PipelineState"
  members := all
  name := name

instance : LawfulNamed State where
  mem_members a := by cases a <;> decide
  name_injective a b h := by
    cases a <;> cases b <;> first | rfl | exact absurd h (by decide)

def failed : State → Bool
  | .lexedFail | .parsedFail | .validatedFail => true
  | _ => false

/-- The states from which a stage may run, in the order of their names. -/
def ready : Stage → List State
  | .lexical => all
  | .syntactic => [.lexedOk, .parsedFail, .parsedOk, .validatedFail, .validatedOk]
  | .semantic => [.parsedOk, .validatedFail, .validatedOk]

end State

end DeclLang.Session
