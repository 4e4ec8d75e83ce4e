import DeclLang.Declaration.Reading
import DeclLang.Session.State
import DeclLang.Source.Scan
import DeclLang.Validity.Checker

/-!
Sessions: a source text under analysis. The three stages can be asked for in any order and any
number of times; a stage that the state does not allow is refused and changes nothing. Loading a
text gives up all results and scanning it anew gives up those of later stages. The state and the
results are kept side by side, and nothing in the data ties them to each other or to the source.
-/

set_option autoImplicit false

namespace DeclLang

/-- A source text, the settings for its analysis, how far that has come and what is kept of it. -/
structure Session where
  settings : Settings
  source : String
  state : Session.State
  /-- The tokens of the last scan, if it was free of errors. -/
  tokens : Option (List Token)
  /-- The declarations of the last reading, if it was free of errors. -/
  declarations : Option (List Declaration)
  deriving DecidableEq, Repr

namespace Session

def start (settings : Settings) : Session :=
  ⟨settings, "", .idle, none, none⟩

def canRun (s : Session) (stage : Stage) : Bool :=
  decide (s.state ∈ State.ready stage)

/-- A stage that was asked for before its input was there. -/
structure Refusal where
  stage : Stage
  current : State
  deriving DecidableEq, Repr

/-- The states in which the refused stage would have run. -/
def Refusal.required (r : Refusal) : List State :=
  State.ready r.stage

def Refusal.message (r : Refusal) : String :=
  "Cannot run " ++ r.stage.activity ++ ": prerequisite not met (requires one of " ++
    ", ".intercalate (r.required.map State.name) ++ ", current state is " ++ r.current.name ++ ")"

/-- What a command leaves behind: the session, an answer and log records. -/
structure Outcome (α : Type) where
  session : Session
  answer : α
  log : List Log.Record

def outcomeLog (stage : Stage) (errors : List Diagnostic) : Log.Record :=
  ⟨.info, stage.activity.capitalize ++
    if errors.isEmpty then " passed"
    else " failed with " ++ toString errors.length ++ " error(s)"⟩

def load (s : Session) (source : String) : Outcome Unit :=
  ⟨{ s with source := source, state := .idle, tokens := none, declarations := none }, (),
    [⟨.debug, "Loaded " ++ toString source.length ++ " character(s) of source"⟩]⟩

def clear (s : Session) : Outcome Unit :=
  s.load ""

/-- Keeps the tokens of a scan without errors, and nothing else. -/
def keepScan (s : Session) (scan : Source.Scan) : Session :=
  if scan.ok then
    { s with state := .lexedOk, tokens := some scan.tokens, declarations := none }
  else { s with state := .lexedFail, tokens := none, declarations := none }

def runLexical (s : Session) : Outcome Source.Scan :=
  let scan := Source.scan s.settings s.source
  ⟨s.keepScan scan, scan, scan.log ++ [outcomeLog .lexical scan.errors]⟩

/-- Keeps the declarations of a reading without errors, beside the tokens. -/
def keepReading (s : Session) (reading : Declaration.Reading) : Session :=
  if reading.ok then
    { s with state := .parsedOk, declarations := some reading.declarations }
  else { s with state := .parsedFail, declarations := none }

/-- Runs the syntactic stage on the tokens of the session, or refuses to. The state alone decides;
that the tokens are there in every state that lets the stage run is a fact about the states that
commands lead to. -/
def runSyntactic (s : Session) : Outcome (Except Refusal Declaration.Reading) :=
  if s.canRun .syntactic then
    let reading := Declaration.read (s.tokens.getD [])
    ⟨s.keepReading reading, .ok reading, reading.log ++ [outcomeLog .syntactic reading.errors]⟩
  else ⟨s, .error ⟨.syntactic, s.state⟩, []⟩

def keepValidation (s : Session) (errors : List Diagnostic) : Session :=
  { s with state := if errors.isEmpty then .validatedOk else .validatedFail }

/-- Runs the semantic stage on the declarations of the session, or refuses to; again the state alone
decides. -/
def runSemantic (s : Session) : Outcome (Except Refusal (List Diagnostic)) :=
  if s.canRun .semantic then
    let errors := validate s.settings (s.declarations.getD [])
    ⟨s.keepValidation errors, .ok errors, validationLog errors ++ [outcomeLog .semantic errors]⟩
  else ⟨s, .error ⟨.semantic, s.state⟩, []⟩

inductive Command where
  | load (source : String)
  | clear
  | run (stage : Stage)
  deriving DecidableEq, Repr

inductive Answer where
  | done
  | scan (result : Source.Scan)
  | reading (result : Declaration.Reading)
  | diagnostics (result : List Diagnostic)
  | refused (reason : Refusal)
  deriving DecidableEq, Repr

def Answer.isRefusal : Answer → Bool
  | .refused _ => true
  | _ => false

def Outcome.map {α β : Type} (f : α → β) (o : Outcome α) : Outcome β :=
  ⟨o.session, f o.answer, o.log⟩

def perform (s : Session) : Command → Outcome Answer
  | .load source => (s.load source).map fun _ => .done
  | .clear => s.clear.map fun _ => .done
  | .run .lexical => s.runLexical.map .scan
  | .run .syntactic => s.runSyntactic.map fun
    | .ok reading => .reading reading
    | .error reason => .refused reason
  | .run .semantic => s.runSemantic.map fun
    | .ok errors => .diagnostics errors
    | .error reason => .refused reason

/-- The session after commands, each carried out on what the one before it left. -/
def after (s : Session) : List Command → Session
  | [] => s
  | c :: rest => (s.perform c).session.after rest

end Session

end DeclLang
