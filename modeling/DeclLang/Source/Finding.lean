import DeclLang.Token.Basic

/-!
What a scanned item of the source turns out to be: a token of some kind, or one of the lexical
faults. Each fault carries what its message quotes.
-/

set_option autoImplicit false

namespace DeclLang.Source

/-- The ways in which an item can fail to be a token. -/
inductive LexicalFault where
  /-- A character that no token starts with. -/
  | unknownCharacter (c : Char)
  /-- A number with a point and the suffix of a whole number. -/
  | pointInLong (text : List Char)
  /-- A number that runs into the characters of a word. -/
  | digitLedWord (text : List Char)
  /-- A string whose line ends before its closing quote. -/
  | unterminatedString
  /-- A character literal without a closing quote before the end of the text. -/
  | unterminatedChar
  /-- A character literal whose line ends before its closing quote. -/
  | newlineInChar
  /-- A closed character literal that holds neither one character nor a known escape. -/
  | badCharContent (content : List Char)
  /-- A word whose look-up among the type names failed. -/
  | lookUpFailed (reason : String)
  deriving DecidableEq, Repr

def LexicalFault.message : LexicalFault → String
  | .unknownCharacter c => "Unrecognized character '" ++ String.singleton c ++ "'"
  | .pointInLong text => "Invalid long literal with decimal point: " ++ String.ofList text
  | .digitLedWord text =>
    "Invalid token (identifier starting with digit): " ++ String.ofList text
  | .unterminatedString => "Unterminated string literal"
  | .unterminatedChar => "Unterminated char literal"
  | .newlineInChar => "Newline inside char literal"
  | .badCharContent content => "Invalid char literal: '" ++ String.ofList content ++ "'"
  | .lookUpFailed reason => "Lexical exception: " ++ reason

inductive Finding where
  | token (kind : Token.Kind)
  | fault (fault : LexicalFault)
  deriving DecidableEq, Repr

def Finding.isFault : Finding → Bool
  | .token _ => false
  | .fault _ => true

/-- An item split off a text, with what it is and what follows it. -/
structure Scanned where
  item : List Char
  finding : Finding
  rest : List Char
  deriving DecidableEq, Repr

end DeclLang.Source
