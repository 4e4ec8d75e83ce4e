import DeclLang.Command.Files
import DeclLang.Command.Options
import DeclLang.Log.Basic
import DeclLang.Report.Document
import DeclLang.Text.ControlSequence
import DeclLang.Text.LineEnd
import DeclLang.Text.Utf8

/-!
The command as a function from its arguments and the files it can see to its exit code and its two
outputs. A source comes either from a file, read as UTF-8 with all line ends made newlines, or from
the command line as it stands; from there on the two are treated alike. The report alone goes to
the standard output; log lines and failures go to the standard error. What the command itself puts
out is freed of control sequences, its log is not.
-/

set_option autoImplicit false

namespace DeclLang.Command

abbrev FileView := String → Option Entry

/-- The folded form of a character, as far as the values of options need it. -/
def foldChar (c : Char) : Char :=
  if c = 'ſ' then 's' else if c = '\u212a' then 'k' else c.toLower

/-- Whether a value names a choice; case does not matter. -/
def isChoice (choice value : String) : Bool :=
  value.toList.map foldChar == choice.toList

def stageChoice? (value : String) : Option Stage :=
  Stage.all.find? fun stage => isChoice stage.name value

def levelChoices : List (String × Log.Level) :=
  [("debug", .debug), ("info", .info), ("warning", .warning), ("error", .error)]

def levelChoice? (value : String) : Option Log.Level :=
  (levelChoices.find? fun choice => isChoice choice.1 value).map Prod.snd

structure Request where
  path : Option String
  input : Option String
  stage : Stage
  level : Log.Level
  showTokens : Bool
  json : Bool
  stopOnFirstError : Bool
  deriving DecidableEq, Repr

/-- Understands the values of a command line. A path must be possible and lead somewhere, and this
is asked after the values of the options and before the number of arguments. -/
def RawOptions.toRequest (o : RawOptions) (view : FileView) : Except UsageFault Request :=
  match stageChoice? o.stage, levelChoice? o.logLevel with
  | some stage, some level =>
    let path := o.positionals.head?
    if path.any fun p => '\x00' ∈ p.toList then .error .impossiblePath
    else if path.any fun p => (view p).isNone then .error .badParameter
    else if 1 < o.positionals.length then .error .tooManyArguments
    else .ok
      { path := path
        input := o.input
        stage := stage
        level := level
        showTokens := o.has .tokens
        json := o.has .json
        stopOnFirstError := o.has .stopOnFirstError }
  | _, _ => .error .badParameter

inductive SourceFault where
  | bothGiven
  | noneGiven
  | isFolder (path : String)
  | notText (fault : Text.Utf8.Fault)
  deriving DecidableEq, Repr

def SourceFault.message : SourceFault → String
  | .bothGiven => "Error: Cannot specify both input file and --input string"
  | .noneGiven => "Error: Must specify either an input file or --input string"
  | .isFolder path =>
    "Failed to read input file: [Errno 21] Is a directory: " ++ Text.quote (displayPath path)
  | .notText fault => "Failed to read input file: " ++ fault.message

def Request.source (r : Request) (view : FileView) : Except SourceFault String :=
  match r.path, r.input with
  | some _, some _ => .error .bothGiven
  | none, none => .error .noneGiven
  | none, some text => .ok text
  | some path, none =>
    match view path with
    | some (.file bytes) =>
      match Text.Utf8.decode bytes with
      | .ok text => .ok (String.ofList (Text.unifyLineEnds text))
      | .error fault => .error (.notText fault)
    | _ => .error (.isFolder path)

structure Result where
  exitCode : Nat
  stdout : String
  stderr : String
  deriving DecidableEq, Repr

/-- A line as it is put out: without control sequences and with its newline. -/
def echo (line : String) : String :=
  String.ofList (Text.withoutSequences (line ++ "\n").toList)

def echoAll (lines : List String) : String :=
  String.join (lines.map echo)

def logLines (records : List Log.Record) : String :=
  String.join (records.map (·.display ++ "\n"))

def Request.settings (r : Request) : Settings :=
  { stopOnFirstError := r.stopOnFirstError }

def Request.report (r : Request) (a : Analysis) : String :=
  if r.json then Report.json r.showTokens a else Report.text r.showTokens a

/-- The line that announces a file, at the levels that show such lines. -/
def Request.announcement (r : Request) : List String :=
  match r.path with
  | some path =>
    if r.level.severity ≤ Log.Level.info.severity then ["Analyzing " ++ displayPath path ++ "..."]
    else []
  | none => []

def failureLine (a : Analysis) : List String :=
  if a.success then []
  else ["Analysis failed with " ++ toString (a.diagnostics.count none) ++ " error(s)."]

def Request.analyze (r : Request) (source : String) : Result :=
  let a := DeclLang.analyze r.settings r.stage source
  { exitCode := if a.success then 0 else 1
    stdout := echo (r.report a)
    stderr := echoAll r.announcement ++ logLines (Log.atLeast r.level.severity a.log) ++
      echoAll (failureLine a) }

def Request.run (r : Request) (view : FileView) : Result :=
  match r.source view with
  | .ok source => r.analyze source
  | .error fault => ⟨1, "", echo fault.message⟩

inductive Response where
  | usage (fault : UsageFault)
  | help
  | result (result : Result)
  deriving DecidableEq, Repr

/-- Runs the command. A request for help comes before the values of the options are looked at. -/
def run (view : FileView) (arguments : List String) : Response :=
  match readArguments {} arguments with
  | .error fault => .usage fault
  | .ok options =>
    if options.has .help then .help
    else
      match options.toRequest view with
      | .error fault => .usage fault
      | .ok request => .result (request.run view)

end DeclLang.Command
