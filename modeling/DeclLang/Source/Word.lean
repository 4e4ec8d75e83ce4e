import DeclLang.Settings
import DeclLang.Source.Finding
import DeclLang.Text.Letter
import DeclLang.Text.Numeric

/-!
Words: a letter or underscore followed by letters, numerics and underscores of any script. A word
is looked up among the type names first, so a type name wins over a boolean literal, and a look-up
that fails makes the whole word a fault.
-/

set_option autoImplicit false

namespace DeclLang.Source

open Text

def isWordStart (c : Char) : Bool :=
  isLetter c || c == '_'

def isWordChar (c : Char) : Bool :=
  isLetter c || isNumeric c || c == '_'

def booleanWords : List String := ["true", "false"]

def wordFinding (settings : Settings) (word : String) : Finding :=
  match settings.lookUpType word with
  | .error reason => .fault (.lookUpFailed reason)
  | .ok true => .token .typeName
  | .ok false => .token (if word ∈ booleanWords then .literal .boolean else .identifier)

/-- Splits off the word that a text starts with. -/
def scanWord (settings : Settings) (text : List Char) : Scanned :=
  let word := text.takeWhile isWordChar
  ⟨word, wordFinding settings (String.ofList word), text.dropWhile isWordChar⟩

theorem isWordChar_of_isWordStart {c : Char} (h : isWordStart c = true) : isWordChar c = true := by
  simp only [isWordStart, isWordChar, Bool.or_eq_true] at h ⊢
  rcases h with h | h
  · exact Or.inl (Or.inl h)
  · exact Or.inr h

@[simp] theorem scanWord_append (settings : Settings) (text : List Char) :
    (scanWord settings text).item ++ (scanWord settings text).rest = text :=
  List.takeWhile_append_dropWhile

end DeclLang.Source
