/-!
Log records and their levels. Records are values that a run returns beside its result, in the order
in which they arise; whether one is shown is a comparison of levels and is decided where it is
printed. A threshold is given by name, which is compared in upper case; besides the ASCII letters,
the dotless i and the long s have an upper-case form that occurs in a name.
-/

set_option autoImplicit false

namespace DeclLang

namespace Log

/-- The levels of log records, from the least to the most severe. -/
inductive Level where
  | debug
  | info
  | warning
  | error
  deriving DecidableEq, Repr

namespace Level

def severity : Level → Nat
  | .debug => 10
  | .info => 20
  | .warning => 30
  | .error => 40

/-- The name that stands before a record of this level. -/
def name : Level → String
  | .debug => "DEBUG"
  | .info => "INFO"
  | .warning => "WARNING"
  | .error => "ERROR"

end Level

structure Record where
  level : Level
  message : String
  deriving DecidableEq, Repr

def Record.display (r : Record) : String :=
  r.level.name ++ ": " ++ r.message

def atLeast (severity : Nat) (records : List Record) : List Record :=
  records.filter fun r => severity ≤ r.level.severity

/-! ### Thresholds by name -/

/-- The upper-case form of a character, as far as the names of thresholds need it. -/
def upperChar (c : Char) : Char :=
  if c = 'ı' then 'I' else if c = 'ſ' then 'S' else c.toUpper

def thresholds : List (String × Nat) :=
  [("CRITICAL", 50), ("FATAL", 50), ("ERROR", 40), ("WARNING", 30), ("WARN", 30), ("INFO", 20),
   ("DEBUG", 10), ("NOTSET", 0)]

structure UnknownThreshold where
  name : String
  deriving DecidableEq, Repr

/-- The message for a name that stands for no threshold. -/
def UnknownThreshold.message (e : UnknownThreshold) : String :=
  "Invalid log level: " ++ e.name

/-- The least severity that is shown under a threshold of the given name. -/
def threshold (name : String) : Except UnknownThreshold Nat :=
  match thresholds.lookup (String.ofList (name.toList.map upperChar)) with
  | some severity => .ok severity
  | none => .error ⟨name⟩

/-- The pattern that a line of the log follows. -/
def linePattern : String := "%(levelname)s: %(message)s"

end Log

end DeclLang
