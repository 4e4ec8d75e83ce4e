/-!
The arguments of the command, read into their raw values. Options and the positional argument mix
freely, two dashes end the options, the last repeat of an option wins, and the argument after an
option that takes a value is always that value.
-/

set_option autoImplicit false

namespace DeclLang.Command

/-- The ways in which a command line can be wrong. -/
inductive UsageFault where
  | noSuchOption
  | badOptionUsage
  | badParameter
  /-- A path that no file system can hold. -/
  | impossiblePath
  | tooManyArguments
  deriving DecidableEq, Repr

inductive ValueOption where
  | input
  | stage
  | logLevel
  deriving DecidableEq, Repr

inductive Flag where
  | tokens
  | json
  | stopOnFirstError
  | help
  deriving DecidableEq, Repr

/-- What a command line says, with the values of its options as they were given. -/
structure RawOptions where
  input : Option String := none
  stage : String := "semantic"
  logLevel : String := "warning"
  flags : List Flag := []
  positionals : List String := []
  deriving DecidableEq, Repr

namespace RawOptions

def set (o : RawOptions) (value : String) : ValueOption → RawOptions
  | .input => { o with input := some value }
  | .stage => { o with stage := value }
  | .logLevel => { o with logLevel := value }

def raiseFlag (o : RawOptions) (flag : Flag) : RawOptions :=
  { o with flags := flag :: o.flags }

def has (o : RawOptions) (flag : Flag) : Bool :=
  decide (flag ∈ o.flags)

def addPositionals (o : RawOptions) (arguments : List String) : RawOptions :=
  { o with positionals := o.positionals ++ arguments }

end RawOptions

inductive Switch where
  | value (option : ValueOption)
  | flag (option : Flag)
  deriving DecidableEq, Repr

def longSwitch? : String → Option Switch
  | "--input" => some (.value .input)
  | "--stage" => some (.value .stage)
  | "--log-level" => some (.value .logLevel)
  | "--tokens" => some (.flag .tokens)
  | "--json" => some (.flag .json)
  | "--stop-on-first-error" => some (.flag .stopOnFirstError)
  | "--help" => some (.flag .help)
  | _ => none

def splitEquals (argument : String) : String × Option String :=
  let text := argument.toList
  match text.dropWhile (· != '=') with
  | [] => (argument, none)
  | _ :: value => (String.ofList (text.takeWhile (· != '=')), some (String.ofList value))

inductive Argument where
  /-- The mark that ends the options. -/
  | separator
  | positional
  /-- A long option with the value attached to it, if any. -/
  | long (switch : Switch) (attached : Option String)
  /-- The short form of the input option with the value attached to it, if any. -/
  | shortInput (attached : Option String)
  | unknown
  deriving DecidableEq, Repr

/-- Understands one argument. A single dash is positional. -/
def classify (argument : String) : Argument :=
  if argument = "--" then .separator
  else
    match argument.toList with
    | '-' :: c :: rest =>
      let (name, attached) := splitEquals argument
      match longSwitch? name with
      | some switch => .long switch attached
      | none =>
        if c = 'i' then .shortInput (if rest.isEmpty then none else some (String.ofList rest))
        else .unknown
    | _ => .positional

/-- Reads arguments, adding to what was read before them. -/
def readArguments (o : RawOptions) : List String → Except UsageFault RawOptions
  | [] => .ok o
  | argument :: rest =>
    match classify argument with
    | .separator => .ok (o.addPositionals rest)
    | .positional => readArguments (o.addPositionals [argument]) rest
    | .unknown => .error .noSuchOption
    | .long (.flag flag) none => readArguments (o.raiseFlag flag) rest
    | .long (.flag _) (some _) => .error .badOptionUsage
    | .long (.value option) (some value) => readArguments (o.set value option) rest
    | .shortInput (some value) => readArguments (o.set value .input) rest
    | .long (.value option) none =>
      match rest with
      | value :: rest => readArguments (o.set value option) rest
      | [] => .error .badOptionUsage
    | .shortInput none =>
      match rest with
      | value :: rest => readArguments (o.set value .input) rest
      | [] => .error .badOptionUsage

end DeclLang.Command
