import DeclLang.Diagnostic.Collection
import DeclLang.Session.Basic

/-!
The analysis of one source text up to a last stage. The stages run in a session one after the
other; a stage is left out when the one before it found errors, because the session then refuses
it, or when it lies behind the last stage that was asked for.
-/

set_option autoImplicit false

namespace DeclLang

/-- The results of an analysis: the session at its end, the tokens of the scan and the diagnostics
of all stages that ran. -/
structure Analysis where
  session : Session
  tokens : List Token
  diagnostics : Diagnostics
  log : List Log.Record

namespace Analysis

def success (a : Analysis) : Bool :=
  !a.diagnostics.hasErrors

/-- The declarations that the analysis arrived at; none unless they were read without error. -/
def declarations (a : Analysis) : List Declaration :=
  a.session.declarations.getD []

def start (settings : Settings) (source : String) : Analysis :=
  let loaded := (Session.start settings).load source
  let lexed := loaded.session.runLexical
  { session := lexed.session
    tokens := lexed.answer.tokens
    diagnostics := Diagnostics.empty.extend lexed.answer.errors
    log := loaded.log ++ lexed.log }

/-- Goes on with the outcome of a stage, unless the session refused to run it. -/
def goOn {α : Type} (a : Analysis) (errors : α → List Diagnostic)
    (o : Session.Outcome (Except Session.Refusal α)) : Analysis :=
  match o.answer with
  | .ok result =>
    { a with
      session := o.session
      diagnostics := a.diagnostics.extend (errors result)
      log := a.log ++ o.log }
  | .error _ => a

def continueSyntactic (a : Analysis) : Analysis :=
  a.goOn Declaration.Reading.errors a.session.runSyntactic

def continueSemantic (a : Analysis) : Analysis :=
  a.goOn id a.session.runSemantic

end Analysis

def analyze (settings : Settings) (last : Stage) (source : String) : Analysis :=
  let lexed := Analysis.start settings source
  match last with
  | .lexical => lexed
  | .syntactic => lexed.continueSyntactic
  | .semantic => lexed.continueSyntactic.continueSemantic

end DeclLang
