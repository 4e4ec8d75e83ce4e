import DeclLang.Diagnostic.Collection
import DeclLang.Json.Reader
import DeclLang.Text.Lines

/-!
Reading a listing back. The title of a stage says which stage the entries below it belong to, and an
entry says its line and its message; ranks and the summary are passed over. What is read comes stage
after stage, as the listing has it.
-/

set_option autoImplicit false

namespace DeclLang.Diagnostics

/-- The stage that a line of a listing is the title of. -/
def titled? (line : String) : Option Stage :=
  Stage.all.find? fun stage => stage.title ++ " errors:" == line

/-- The line and the message that a numbered entry shows. -/
def readRow? (line : String) : Option (Int × String) :=
  match line.toList.dropWhile Char.isDigit with
  | '.' :: ' ' :: 'L' :: 'i' :: 'n' :: 'e' :: ' ' :: entry =>
    match Json.readInteger entry with
    | some (number, ':' :: ' ' :: message) => some (number, String.ofList message)
    | _ => none
  | _ => none

/-- The diagnostic that a line of a listing shows below the title of a stage. -/
def shown? (current : Option Stage) (line : String) : Option Diagnostic := do
  let stage ← current
  let (number, message) ← readRow? line
  return ⟨stage, number, message⟩

/-- The diagnostics that lines of a listing show, below the title of a stage if there is one. -/
def readLines : Option Stage → List String → List Diagnostic
  | _, [] => []
  | current, line :: rest =>
    match titled? line with
    | some stage => readLines (some stage) rest
    | none => (shown? current line).toList ++ readLines current rest

def readListing (text : String) : List Diagnostic :=
  readLines none (Text.lines text)

end DeclLang.Diagnostics
