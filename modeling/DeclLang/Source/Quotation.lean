import DeclLang.Source.Finding

/-!
Quoted literals. A literal ends at the first quote of its own kind on its line that no backslash
takes along; a backslash takes the next character along unless the line or the text ends there.
Strings may hold anything, a character literal holds one character or one of the known escapes.
-/

set_option autoImplicit false

namespace DeclLang.Source

inductive Ending where
  | closed
  | newline
  | endOfText
  deriving DecidableEq, Repr

/-- The body of a quoted literal, how it ends and what follows. After a closing quote the rest
starts behind the quote; a newline is left in the rest. -/
structure Quotation where
  body : List Char
  ending : Ending
  rest : List Char
  deriving DecidableEq, Repr

/-- A quotation whose body has more characters in front. -/
def Quotation.prepend (front : List Char) (q : Quotation) : Quotation :=
  { q with body := front ++ q.body }

/-- Reads the body of a literal behind its opening quote. -/
def readQuotation (mark : Char) : List Char → Quotation
  | [] => ⟨[], .endOfText, []⟩
  | ['\\'] => ⟨['\\'], .endOfText, []⟩
  | '\\' :: c :: rest =>
    if c = '\n' then ⟨['\\'], .newline, c :: rest⟩
    else (readQuotation mark rest).prepend ['\\', c]
  | c :: rest =>
    if c = mark then ⟨[], .closed, rest⟩
    else if c = '\n' then ⟨[], .newline, c :: rest⟩
    else (readQuotation mark rest).prepend [c]

/-- The characters that may follow the backslash in a character literal. -/
def charEscapes : List Char := ['b', 't', 'n', 'f', 'r', '\'', '"', '\\']

/-- Whether a character literal may hold the given text. -/
def isCharContent : List Char → Bool
  | [_] => true
  | ['\\', c] => c ∈ charEscapes
  | _ => false

/-- Splits off the string that starts before the given text with its opening quote. -/
def scanString (text : List Char) : Scanned :=
  let q := readQuotation '"' text
  match q.ending with
  | .closed => ⟨'"' :: q.body ++ ['"'], .token (.literal .string), q.rest⟩
  | _ => ⟨'"' :: q.body, .fault .unterminatedString, q.rest⟩

/-- Splits off the character literal that starts before the given text with its opening quote. A
newline that ends it early belongs to the item. -/
def scanCharacter (text : List Char) : Scanned :=
  let q := readQuotation '\'' text
  match q.ending with
  | .closed =>
    ⟨'\'' :: q.body ++ ['\''],
      if isCharContent q.body then .token (.literal .char) else .fault (.badCharContent q.body),
      q.rest⟩
  | .newline => ⟨'\'' :: q.body ++ ['\n'], .fault .newlineInChar, q.rest.drop 1⟩
  | .endOfText => ⟨'\'' :: q.body, .fault .unterminatedChar, q.rest⟩

/-- What the end of a quotation adds to its body. -/
def Quotation.closing (mark : Char) (q : Quotation) : List Char :=
  match q.ending with
  | .closed => [mark]
  | _ => []

theorem readQuotation_append (mark : Char) (text : List Char) :
    (readQuotation mark text).body ++ (readQuotation mark text).closing mark ++
      (readQuotation mark text).rest = text := by
  fun_induction readQuotation mark text <;>
    simp_all [Quotation.closing, Quotation.prepend]

/-- A body that a newline ends leaves that newline in the rest. -/
theorem rest_of_ending_newline {mark : Char} {text : List Char}
    (h : (readQuotation mark text).ending = .newline) :
    ∃ rest, (readQuotation mark text).rest = '\n' :: rest := by
  fun_induction readQuotation mark text <;> simp_all [Quotation.prepend]

@[simp] theorem scanString_append (text : List Char) :
    (scanString text).item ++ (scanString text).rest = '"' :: text := by
  have h := readQuotation_append '"' text
  unfold scanString
  cases he : (readQuotation '"' text).ending <;> simpa [Quotation.closing, he] using h

@[simp] theorem scanCharacter_append (text : List Char) :
    (scanCharacter text).item ++ (scanCharacter text).rest = '\'' :: text := by
  have h := readQuotation_append '\'' text
  unfold scanCharacter
  cases he : (readQuotation '\'' text).ending with
  | closed => simpa [Quotation.closing, he] using h
  | endOfText => simpa [Quotation.closing, he] using h
  | newline =>
    obtain ⟨rest, hr⟩ := rest_of_ending_newline he
    simpa [Quotation.closing, he, hr] using h

end DeclLang.Source
