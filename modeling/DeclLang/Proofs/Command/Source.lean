import DeclLang.Command.Run
import DeclLang.Proofs.Text.Utf8

/-!
# Where a source comes from does not matter

A text given on the command line and a file that holds the same text are analysed alike: the exit
code and the standard output are the same, at whatever log levels the two are run. Only the standard
error tells them apart, by the line that announces a file.

The two texts are the same when all line ends of the file are newlines in the text that is given.
-/

set_option autoImplicit false

namespace DeclLang.Command

/-! ### What a command line asks for -/

/-- Whether the arguments of a command are understood as a request. -/
def Asks (view : FileView) (arguments : List String) (r : Request) : Prop :=
  ∃ o, readArguments {} arguments = .ok o ∧ o.has .help = false ∧ o.toRequest view = .ok r

theorem run_of_asks {view : FileView} {arguments : List String} {r : Request}
    (h : Asks view arguments r) : run view arguments = .result (r.run view) := by
  obtain ⟨o, hread, hhelp, hrequest⟩ := h
  simp [run, hread, hhelp, hrequest]

def ValueOption.word : ValueOption → String
  | .input => "--input"
  | .stage => "--stage"
  | .logLevel => "--log-level"

def Flag.word : Flag → String
  | .tokens => "--tokens"
  | .json => "--json"
  | .stopOnFirstError => "--stop-on-first-error"
  | .help => "--help"

theorem classify_valueOption (option : ValueOption) :
    classify option.word = .long (.value option) none := by
  cases option <;> decide +kernel

theorem classify_flag (flag : Flag) : classify flag.word = .long (.flag flag) none := by
  cases flag <;> decide +kernel

theorem readArguments_value (o : RawOptions) (option : ValueOption) (value : String)
    (rest : List String) :
    readArguments o (option.word :: value :: rest) = readArguments (o.set value option) rest := by
  rw [readArguments.eq_def]
  simp only [classify_valueOption]

theorem readArguments_flag (o : RawOptions) (flag : Flag) (rest : List String) :
    readArguments o (flag.word :: rest) = readArguments (o.raiseFlag flag) rest := by
  rw [readArguments.eq_def]
  simp only [classify_flag]

theorem readArguments_separator (o : RawOptions) (rest : List String) :
    readArguments o ("--" :: rest) = .ok (o.addPositionals rest) := by
  have hseparator : classify "--" = .separator := if_pos rfl
  rw [readArguments.eq_def]
  simp only [hseparator]

def levelWord : Log.Level → String
  | .debug => "debug"
  | .info => "info"
  | .warning => "warning"
  | .error => "error"

theorem stageChoice?_name (stage : Stage) : stageChoice? stage.name = some stage := by
  cases stage <;> decide +kernel

theorem levelChoice?_levelWord (level : Log.Level) :
    levelChoice? (levelWord level) = some level := by
  cases level <;> decide +kernel

namespace Request

def flags (r : Request) : List Flag :=
  (if r.showTokens then [.tokens] else []) ++ (if r.json then [.json] else []) ++
    (if r.stopOnFirstError then [.stopOnFirstError] else [])

/-- The values of a command line that asks for a request. -/
def rawOptions (r : Request) : RawOptions :=
  ⟨r.input, r.stage.name, levelWord r.level, r.flags.reverse, r.path.toList⟩

/-- Arguments that ask for a request. -/
def arguments (r : Request) : List String :=
  r.flags.map Flag.word ++
    [ValueOption.word .stage, r.stage.name, ValueOption.word .logLevel, levelWord r.level] ++
    (match r.input with
      | some text => [ValueOption.word .input, text]
      | none => []) ++
    (match r.path with
      | some path => ["--", path]
      | none => [])

end Request

theorem readArguments_flags (o : RawOptions) (flags : List Flag) (rest : List String) :
    readArguments o (flags.map Flag.word ++ rest) =
      readArguments { o with flags := flags.reverse ++ o.flags } rest := by
  induction flags generalizing o with
  | nil => rfl
  | cons flag flags ih =>
    rw [List.map_cons, List.cons_append, readArguments_flag, ih]
    simp [RawOptions.raiseFlag]

theorem readArguments_arguments (r : Request) :
    readArguments {} r.arguments = .ok r.rawOptions := by
  obtain ⟨path, input, stage, level, _, _, _⟩ := r
  cases path <;> cases input <;>
    simp [Request.arguments, Request.rawOptions, readArguments_value, readArguments_flags,
      readArguments_separator, readArguments, RawOptions.set, RawOptions.addPositionals]

section PossiblePath

variable {view : FileView} {r : Request}
  (h : ∀ path, r.path = some path → '\x00' ∉ path.toList ∧ (view path).isSome = true)
include h

theorem toRequest_rawOptions : r.rawOptions.toRequest view = .ok r := by
  have hnul : r.path.any (fun p => '\x00' ∈ p.toList) = false := by
    cases hpath : r.path with
    | none => rfl
    | some path => simp [(h path hpath).1]
  have hview : r.path.any (fun p => (view p).isNone) = false := by
    cases hpath : r.path with
    | none => rfl
    | some path => simpa [Option.isSome_iff_ne_none] using (h path hpath).2
  have hcount : ¬ 1 < r.path.toList.length := by
    cases r.path <;> simp
  have hhead : r.path.toList.head? = r.path := by
    cases r.path <;> rfl
  have htokens : decide (.tokens ∈ r.flags) = r.showTokens := by simp [Request.flags]
  have hjson : decide (.json ∈ r.flags) = r.json := by simp [Request.flags]
  have hstop : decide (.stopOnFirstError ∈ r.flags) = r.stopOnFirstError := by
    simp [Request.flags]
  simp [Request.rawOptions, RawOptions.toRequest, RawOptions.has, stageChoice?_name,
    levelChoice?_levelWord, hhead, hnul, hview, hcount, htokens, hjson, hstop]

/-- Every request can be asked for, if its path can be. -/
theorem asks_arguments : Asks view r.arguments r := by
  refine ⟨r.rawOptions, readArguments_arguments r, ?_, toRequest_rawOptions h⟩
  simp [Request.rawOptions, RawOptions.has, Request.flags]

end PossiblePath

/-! ### The two ways -/

open Text (replacePairs replaceReturns)

/-- The line that announces a file, if the level shows it. -/
def announcementAt (level : Log.Level) (path : String) : String :=
  if level = .debug ∨ level = .info then echo ("Analyzing " ++ displayPath path ++ "...") else ""

theorem source_of_file {view : FileView} {r : Request} {path : String} {text : List Char}
    (hpath : r.path = some path) (hinput : r.input = none)
    (hfile : view path = some (.file (Text.Utf8.encode text))) :
    r.source view = .ok (String.ofList (replaceReturns (replacePairs text))) := by
  simp [Request.source, hpath, hinput, hfile, Text.Utf8.decode_encode, Text.unifyLineEnds_eq]

theorem source_of_input {view : FileView} {r : Request} {text : String} (hpath : r.path = none)
    (hinput : r.input = some text) : r.source view = .ok text := by
  simp [Request.source, hpath, hinput]

theorem echoAll_announcement {r : Request} {path : String} (h : r.path = some path) :
    echoAll r.announcement = announcementAt r.level path := by
  rw [Request.announcement, h]
  cases hlevel : r.level <;>
    simp [announcementAt, echoAll, Log.Level.severity, String.join]

/-- A file and a text given on the command line that is the text of the file with newlines for all
its line ends: both commands end alike, and only the line that announces the file tells them apart.
Any arguments may be used that ask for the same in both cases; there always are such. -/
theorem run_file_eq_run_input {view : FileView} {path : String} {text : List Char}
    (hpath : '\x00' ∉ path.toList) (hfile : view path = some (.file (Text.Utf8.encode text)))
    (r : Request) (fileLevel inputLevel : Log.Level) :
    let file : Request := { r with path := some path, input := none, level := fileLevel }
    let input : Request := { r with
      path := none
      input := some (String.ofList (replaceReturns (replacePairs text)))
      level := inputLevel }
    Asks view file.arguments file ∧ Asks view input.arguments input ∧
      ∀ fileArguments inputArguments, Asks view fileArguments file →
        Asks view inputArguments input →
        ∃ a b, run view fileArguments = .result a ∧ run view inputArguments = .result b ∧
          a.exitCode = b.exitCode ∧ a.stdout = b.stdout ∧
          (fileLevel = inputLevel → a.stderr = announcementAt fileLevel path ++ b.stderr) := by
  intro file input
  refine ⟨asks_arguments ?_, asks_arguments ?_, ?_⟩
  · rintro _ ⟨⟩
    exact ⟨hpath, by rw [hfile]; rfl⟩
  · rintro _ ⟨⟩
  · intro fileArguments inputArguments hfileAsks hinputAsks
    refine ⟨_, _, run_of_asks hfileAsks, run_of_asks hinputAsks, ?_⟩
    rw [Request.run, source_of_file rfl rfl hfile, Request.run, source_of_input rfl rfl]
    refine ⟨rfl, rfl, ?_⟩
    rintro rfl
    have hfileAnnounces : echoAll file.announcement = announcementAt fileLevel path :=
      echoAll_announcement rfl
    have hinputAnnounces : echoAll input.announcement = "" := rfl
    simp only [Request.analyze, hfileAnnounces, hinputAnnounces, String.empty_append,
      String.append_assoc]
    rfl

/-- A file with all three line ends, one of them behind a lone return, and characters of every
encoded length. -/
theorem run_file_eq_run_input_lineEnds :
    let view : FileView := fun p =>
      if p = "tables.decl" then
        some (.file (Text.Utf8.encode "int a;\r\r\nString s =\n\"é€😀\";\r".toList))
      else none
    ∃ a b, run view ["--json", "--log-level=INFO", "tables.decl"] = .result a ∧
      run view ["-i", "int a;\n\nString s =\n\"é€😀\";\n", "--log-level", "info", "--json"] =
        .result b ∧
      a.exitCode = b.exitCode ∧ a.stdout = b.stdout ∧
      a.stderr = announcementAt .info "tables.decl" ++ b.stderr := by
  intro view
  have hfile : view "tables.decl" =
      some (.file (Text.Utf8.encode "int a;\r\r\nString s =\n\"é€😀\";\r".toList)) := if_pos rfl
  obtain ⟨-, -, hruns⟩ := run_file_eq_run_input (by decide +kernel) hfile
    { path := none, input := none, stage := .semantic, level := .info, showTokens := false,
      json := true, stopOnFirstError := false } .info .info
  obtain ⟨a, b, ha, hb, hcode, hstdout, hstderr⟩ := hruns
    ["--json", "--log-level=INFO", "tables.decl"]
    ["-i", "int a;\n\nString s =\n\"é€😀\";\n", "--log-level", "info", "--json"]
    ⟨_, rfl, rfl, rfl⟩ ⟨_, rfl, rfl, rfl⟩
  exact ⟨a, b, ha, hb, hcode, hstdout, hstderr rfl⟩

end DeclLang.Command
