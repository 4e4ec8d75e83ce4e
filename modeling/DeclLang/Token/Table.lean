import DeclLang.Token.Basic

/-!
Tokens as rows of text: three columns, of which the first two are padded to their widths in code
points and the third holds the line. A field longer than its column pushes the rest of its row to
the right and is never cut. The closing token has no row in a table.
-/

set_option autoImplicit false

namespace DeclLang.Token

def kindWidth : Nat := 14

def lexemeWidth : Nat := 20

/-- A text filled up with spaces to a width; longer texts stay as they are. -/
def pad (width : Nat) (text : String) : String :=
  String.ofList (text.toList.rightpad width ' ')

/-- A row of three fields, one space between the padded columns. -/
def row (kind lexeme line : String) : String :=
  pad kindWidth kind ++ " " ++ pad lexemeWidth lexeme ++ " " ++ line

/-- The display form of a token, with its lexeme as it is. -/
def display (t : Token) : String :=
  row t.kind.name t.lexeme ("line " ++ toString t.line)

/-- A character of a lexeme in a table cell: line ends are written as escapes. -/
def cellChar : Char → List Char
  | '\n' => ['\\', 'n']
  | '\r' => ['\\', 'r']
  | c => [c]

/-- A lexeme as the text of a table cell, which stays on one line. -/
def cell (lexeme : String) : String :=
  String.ofList (lexeme.toList.flatMap cellChar)

def tableRow (t : Token) : String :=
  row t.kind.name (cell t.lexeme) ("line " ++ toString t.line)

def tableHeader : List String :=
  [row "TOKEN TYPE" "LEXEME" "LINE", row "----------" "------" "----"]

/-- The rows of a table: the headers, then one row for each token except closing ones. -/
def tableRows (tokens : List Token) : List String :=
  tableHeader ++ (tokens.filter (!·.isEnd)).map tableRow

/-- The table of a token list, its rows separated by newlines. -/
def table (tokens : List Token) : String :=
  "\n".intercalate (tableRows tokens)

@[simp] theorem length_pad (width : Nat) (text : String) :
    (pad width text).length = max text.length width := by
  simp only [pad, String.length_ofList, List.length_rightpad, String.length_toList]
  omega

theorem newline_notMem_cell (lexeme : String) :
    '\n' ∉ (cell lexeme).toList ∧ '\r' ∉ (cell lexeme).toList := by
  have h : ∀ c d : Char, d ∈ cellChar c → d ≠ '\n' ∧ d ≠ '\r' := by
    intro c d hd
    unfold cellChar at hd
    split at hd <;> simp_all <;> rcases hd with rfl | rfl <;> decide
  simp only [cell, String.toList_ofList, List.mem_flatMap, not_exists, not_and]
  exact ⟨fun c _ hc => (h c _ hc).1 rfl, fun c _ hc => (h c _ hc).2 rfl⟩

end DeclLang.Token
