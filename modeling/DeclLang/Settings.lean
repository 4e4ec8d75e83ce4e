/-!
Settings of an analysis: which words are type names, which names are reserved and whether scanning
ends at the first problem. The type names are consulted through a look-up that may itself fail for
some words; the failure is data of the settings, with the reason to be reported.
-/

set_option autoImplicit false

namespace DeclLang

def defaultTypeNames : List String :=
  ["byte", "short", "int", "long", "float", "double", "boolean", "char", "String"]

/-- The names that no variable may have: the keywords and the literal names. -/
def defaultReservedWords : List String :=
  ["abstract", "assert", "boolean", "break", "byte", "case", "catch", "char", "class", "const",
   "continue", "default", "do", "double", "else", "enum", "extends", "final", "finally", "float",
   "for", "goto", "if", "implements", "import", "instanceof", "int", "interface", "long", "native",
   "new", "package", "private", "protected", "public", "return", "short", "static", "strictfp",
   "super", "switch", "synchronized", "this", "throw", "throws", "transient", "try", "void",
   "volatile", "while", "true", "false", "null"]

structure Settings where
  /-- Words that are type names. -/
  typeNames : List String := defaultTypeNames
  /-- Names that no variable may have. -/
  reservedWords : List String := defaultReservedWords
  /-- Whether scanning ends after the first problem. -/
  stopOnFirstError : Bool := false
  /-- Words whose look-up among the type names fails, each with the reason. -/
  failingWords : List (String × String) := []
  deriving DecidableEq, Repr

namespace Settings

/-- Looks a word up among the type names: whether it is one, or why the look-up failed. -/
def lookUpType (settings : Settings) (word : String) : Except String Bool :=
  match settings.failingWords.lookup word with
  | some reason => .error reason
  | none => .ok (decide (word ∈ settings.typeNames))

theorem lookUpType_of_failingWords_eq_nil {settings : Settings} (h : settings.failingWords = [])
    (word : String) : settings.lookUpType word = .ok (decide (word ∈ settings.typeNames)) := by
  simp [lookUpType, h]

end Settings

end DeclLang
