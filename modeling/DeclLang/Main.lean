import DeclLang.Command.Run

/-!
The command line program. It looks at the one file that the arguments name, leaves all decisions to
`Command.run`, and prints what that returns.
-/

set_option autoImplicit false

namespace DeclLang

/-- What stands at a path of the machine's files. -/
def entryAt (path : String) : IO (Option Command.Entry) := do
  try
    return some (.file (← IO.FS.readBinFile path).toList)
  catch
    | .inappropriateType .. => return some .folder
    | _ => return none

def namedPath (arguments : List String) : Option String :=
  match Command.readArguments {} arguments with
  | .ok options => options.positionals.head?
  | .error _ => none

/-- The text shown for a command line that cannot be understood. -/
def usageText : Command.UsageFault → String
  | .noSuchOption => "Error: No such option"
  | .badOptionUsage => "Error: Bad use of an option"
  | .badParameter => "Error: Invalid value"
  | .impossiblePath => "Error: Invalid path"
  | .tooManyArguments => "Error: Got unexpected extra arguments"

def helpText : String :=
  "Usage: decllang [INPUT_FILE] [-i TEXT] [--stage lexical|syntax|semantic] [--tokens] " ++
    "[--json] [--stop-on-first-error] [--log-level debug|info|warning|error]"

end DeclLang

open DeclLang in
def main (arguments : List String) : IO UInt32 := do
  let path := namedPath arguments
  let entry ← match path with
    | some path => entryAt path
    | none => pure none
  match Command.run (fun p => if some p = path then entry else none) arguments with
  | .help =>
    IO.println helpText
    return 0
  | .usage fault =>
    IO.eprintln (usageText fault)
    return 2
  | .result result =>
    IO.eprint result.stderr
    IO.print result.stdout
    return result.exitCode.toUInt32
