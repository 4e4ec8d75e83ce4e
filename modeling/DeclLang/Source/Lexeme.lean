import DeclLang.Source.Item

/-!
The lexical grammar: which texts are tokens of which kind. It speaks of texts alone, without a
scanner and without what stands around them, and does not say how a text is cut into tokens.
-/

set_option autoImplicit false

namespace DeclLang.Source

/-- Words: a start character and word characters. -/
def IsWord : List Char → Prop
  | [] => False
  | c :: rest => isWordStart c = true ∧ ∀ d ∈ rest, isWordChar d = true

def IsDigits (text : List Char) : Prop :=
  text ≠ [] ∧ ∀ c ∈ text, c.isDigit = true

/-- Whole numbers: digits, with or without a minus sign. -/
def IsInteger (text : List Char) : Prop :=
  IsDigits text ∨ ∃ digits, IsDigits digits ∧ text = '-' :: digits

/-- Numbers with a point, behind which digits may be missing. -/
def IsDecimal (text : List Char) : Prop :=
  ∃ whole fraction, IsInteger whole ∧ (∀ c ∈ fraction, c.isDigit = true) ∧
    text = whole ++ '.' :: fraction

def IsNumber (text : List Char) : Prop :=
  IsInteger text ∨ IsDecimal text

/-- What may stand between two quotes: characters of one line, where a backslash takes the next
one along and only so can the quote itself occur. -/
inductive QuotedBody (mark : Char) : List Char → Prop where
  | nil : QuotedBody mark []
  | plain {c : Char} {rest : List Char} :
      c ≠ mark → c ≠ '\\' → c ≠ '\n' → QuotedBody mark rest → QuotedBody mark (c :: rest)
  | escape {c : Char} {rest : List Char} :
      c ≠ '\n' → QuotedBody mark rest → QuotedBody mark ('\\' :: c :: rest)

/-- The literals of a kind under the given settings. -/
def IsLiteral (settings : Settings) (kind : LiteralKind) (text : List Char) : Prop :=
  match kind with
  | .int => IsInteger text
  | .long => ∃ n c, IsInteger n ∧ suffixKind c = some .long ∧ text = n ++ [c]
  | .float => ∃ n c, IsNumber n ∧ suffixKind c = some .float ∧ text = n ++ [c]
  | .double =>
    IsDecimal text ∨ ∃ n c, IsNumber n ∧ suffixKind c = some .double ∧ text = n ++ [c]
  | .char => ∃ body, QuotedBody '\'' body ∧ isCharContent body = true ∧
      text = '\'' :: body ++ ['\'']
  | .string => ∃ body, QuotedBody '"' body ∧ text = '"' :: body ++ ['"']
  | .boolean => String.ofList text ∈ booleanWords ∧
      settings.lookUpType (String.ofList text) = .ok false

/-- The texts that are tokens of a kind under the given settings. -/
def IsLexeme (settings : Settings) (kind : Token.Kind) (text : List Char) : Prop :=
  match kind with
  | .typeName => IsWord text ∧ settings.lookUpType (String.ofList text) = .ok true
  | .identifier => IsWord text ∧ settings.lookUpType (String.ofList text) = .ok false ∧
      String.ofList text ∉ booleanWords
  | .literal kind => IsLiteral settings kind text
  | .equals => text = ['=']
  | .comma => text = [',']
  | .semicolon => text = [';']
  | .endOfInput => False

theorem isDigit_ne_point {c : Char} (h : c.isDigit = true) : c ≠ '.' := by
  rintro rfl
  exact absurd h (by decide)

theorem IsDigits.point_notMem {text : List Char} (h : IsDigits text) : '.' ∉ text :=
  fun hm => isDigit_ne_point (h.2 _ hm) rfl

theorem IsInteger.point_notMem {text : List Char} (h : IsInteger text) : '.' ∉ text := by
  rcases h with h | ⟨digits, h, rfl⟩
  · exact h.point_notMem
  · simpa using h.point_notMem

theorem IsInteger.mem_cases {text : List Char} {c : Char} (h : IsInteger text) (hc : c ∈ text) :
    c.isDigit = true ∨ c = '-' := by
  rcases h with h | ⟨digits, h, rfl⟩
  · exact .inl (h.2 c hc)
  · rcases List.mem_cons.mp hc with hc | hc
    · exact .inr hc
    · exact .inl (h.2 c hc)

theorem IsNumber.mem_cases {text : List Char} {c : Char} (h : IsNumber text) (hc : c ∈ text) :
    c.isDigit = true ∨ c = '-' ∨ c = '.' := by
  rcases h with h | ⟨whole, fraction, hw, hf, rfl⟩
  · exact (h.mem_cases hc).imp_right .inl
  · rcases List.mem_append.mp hc with hc | hc
    · exact (hw.mem_cases hc).imp_right .inl
    · rcases List.mem_cons.mp hc with hc | hc
      · exact .inr (.inr hc)
      · exact .inl (hf c hc)

theorem IsDecimal.point_mem {text : List Char} (h : IsDecimal text) : '.' ∈ text := by
  obtain ⟨whole, fraction, _, _, rfl⟩ := h
  simp

theorem IsInteger.of_point_notMem {text : List Char} (h : IsNumber text) (hp : '.' ∉ text) :
    IsInteger text :=
  h.resolve_right fun hd => hp hd.point_mem

theorem IsDecimal.of_point_mem {text : List Char} (h : IsNumber text) (hp : '.' ∈ text) :
    IsDecimal text :=
  h.resolve_left fun hi => hi.point_notMem hp

end DeclLang.Source
