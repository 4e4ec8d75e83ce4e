import DeclLang.Proofs.Json.Writing
import DeclLang.Text.Lines
import DeclLang.Token.Table
import Mathlib.Data.List.Forall2

/-!
# The rows of a token table

A row is a line of the table, whatever stands in the lexemes, since their line ends are written as
escapes and no other field has any. Fields that are no longer than their columns start where the
columns of the headers start; a longer lexeme moves the line that stands behind it and nothing else.
-/

set_option autoImplicit false

namespace DeclLang.Token

open Text Json

/-! ### Lexemes on one line -/

/-- A text with a character written as a backslash and a letter wherever it occurs. -/
def escape (c letter : Char) (text : List Char) : List Char :=
  text.flatMap fun d => if d = c then ['\\', letter] else [d]

/-- A lexeme with its newlines escaped, and then its returns. -/
def escaped (lexeme : String) : String :=
  String.ofList (escape '\r' 'r' (escape '\n' 'n' lexeme.toList))

/-- The second replacement finds no return that the first one has written. -/
theorem cell_eq_escaped (lexeme : String) : cell lexeme = escaped lexeme := by
  have hchar : ∀ c, cellChar c =
      escape '\r' 'r' (if c = '\n' then ['\\', 'n'] else [c]) := by
    intro c
    by_cases hn : c = '\n'
    · subst hn
      rfl
    · by_cases hr : c = '\r'
      · subst hr
        rfl
      · rw [cellChar, if_neg hn, escape, List.flatMap_singleton, if_neg hr]
        · exact hn
        · exact hr
  rw [cell, escaped, escape, escape, List.flatMap_assoc, funext hchar]
  rfl

/-! ### One row -/

/-- What stands in the columns of a row. -/
structure Fields where
  kind : String
  lexeme : String
  line : String

/-- The fields of the two headers. -/
def headerFields : List Fields :=
  [⟨"TOKEN TYPE", "LEXEME", "LINE"⟩, ⟨"----------", "------", "----"⟩]

/-- The fields of a token's row. -/
def fields (t : Token) : Fields :=
  ⟨t.kind.name, escaped t.lexeme, "line " ++ toString t.line⟩

def Fields.row (f : Fields) : String :=
  Token.row f.kind f.lexeme f.line

theorem tableRows_eq (tokens : List Token) :
    tableRows tokens = (headerFields ++ (tokens.filter (!·.isEnd)).map fields).map Fields.row := by
  rw [List.map_append, List.map_map]
  have hrow : tableRow = Fields.row ∘ fields := by
    funext t
    rw [tableRow, cell_eq_escaped]
    rfl
  rw [tableRows, hrow]
  rfl

theorem toList_row (f : Fields) :
    f.row.toList =
      (f.kind.toList ++ List.replicate (14 - f.kind.length + 1) ' ') ++
        ((f.lexeme.toList ++ List.replicate (20 - f.lexeme.length + 1) ' ') ++
          f.line.toList) := by
  simp only [Fields.row, row, pad, List.rightpad, kindWidth, lexemeWidth, String.toList_append,
    String.toList_ofList, String.length_toList, List.replicate_succ', List.append_assoc]
  rfl

/-- A row holds the characters of its fields and blanks. -/
theorem mem_row {f : Fields} {c : Char} (h : c ∈ f.row.toList) :
    c = ' ' ∨ c ∈ f.kind.toList ∨ c ∈ f.lexeme.toList ∨ c ∈ f.line.toList := by
  rw [toList_row] at h
  simp only [List.mem_append, List.mem_replicate] at h
  rcases h with (h | ⟨_, h⟩) | (h | ⟨_, h⟩) | h <;> simp only [h, true_or, or_true]

section

variable {c : Char} (hc : c = '\n' ∨ c = '\r')
include hc

theorem lineEnd_notMem_name (kind : Kind) : c ∉ kind.name.toList := by
  have hall : ∀ kind ∈ Kind.all, '\n' ∉ kind.name.toList ∧ '\r' ∉ kind.name.toList := by decide
  have hkind := hall kind (LawfulNamed.mem_members kind)
  rcases hc with rfl | rfl
  · exact hkind.1
  · exact hkind.2

theorem lineEnd_notMem_escaped (lexeme : String) : c ∉ (escaped lexeme).toList := by
  have hcell := newline_notMem_cell lexeme
  rw [cell_eq_escaped] at hcell
  rcases hc with rfl | rfl
  · exact hcell.1
  · exact hcell.2

theorem lineEnd_notMem_line (line : Int) : c ∉ ("line " ++ toString line).toList := by
  intro hmem
  rw [String.toList_append, List.mem_append] at hmem
  rcases hmem with hword | hnumber
  · rcases hc with rfl | rfl <;> exact absurd hword (by decide)
  · rcases (isInteger_toString line).mem_cases hnumber with rfl | hdigit
    · exact absurd hc (by decide)
    · rcases hc with rfl | rfl <;> cases hdigit

theorem lineEnd_notMem_row (t : Token) : c ∉ t.fields.row.toList := by
  intro hmem
  rcases mem_row hmem with rfl | hkind | hlexeme | hline
  · exact absurd hc (by decide)
  · exact lineEnd_notMem_name hc t.kind hkind
  · exact lineEnd_notMem_escaped hc t.lexeme hlexeme
  · exact lineEnd_notMem_line hc t.line hline

end

/-- The lines of a table are its rows. -/
theorem lines_table (tokens : List Token) :
    lines (table tokens) =
      (headerFields ++ (tokens.filter (!·.isEnd)).map fields).map Fields.row := by
  have hne : tableRows tokens ≠ [] := List.cons_ne_nil _ _
  rw [table, lines_intercalate hne, tableRows_eq]
  have hheader : ∀ row ∈ headerFields.map Fields.row, '\n' ∉ row.toList := by decide
  apply flatMap_lines_eq_self
  intro row hrow
  rw [List.map_append, List.mem_append] at hrow
  rcases hrow with hrow | hrow
  · exact hheader row hrow
  · obtain ⟨f, hf, rfl⟩ := List.mem_map.mp hrow
    obtain ⟨t, _, rfl⟩ := List.mem_map.mp hf
    exact lineEnd_notMem_row (.inl rfl) t

/-- A row that shows a token: a single line that starts with the kind and ends with the line, with
the escaped lexeme between them. -/
structure Shows (row : String) (t : Token) : Prop where
  return_notMem : '\r' ∉ row.toList
  starts : t.kind.name.toList <+: row.toList
  ends : ("line " ++ toString t.line).toList <:+ row.toList
  columns : ∃ m n, row.toList =
    t.kind.name.toList ++ List.replicate (m + 1) ' ' ++
      ((escaped t.lexeme).toList ++ List.replicate (n + 1) ' ' ++
        ("line " ++ toString t.line).toList)

theorem shows_row (t : Token) : Shows t.fields.row t := by
  have hrow := toList_row t.fields
  refine ⟨lineEnd_notMem_row (.inr rfl) t, ?_, ?_, _, _, hrow⟩
  · rw [hrow, List.append_assoc]
    exact List.prefix_append _ _
  · rw [hrow, ← List.append_assoc]
    exact List.suffix_append _ _

/-- Splitting a table at its newlines gives the two headers and one row for each token but the
closing ones, which are hidden wherever they stand. -/
theorem lines_table_headers (tokens : List Token) :
    ∃ rows, lines (table tokens) =
        "TOKEN TYPE     LEXEME               LINE" ::
          "----------     ------               ----" :: rows ∧
      List.Forall₂ Shows rows (tokens.filter (!·.isEnd)) := by
  refine ⟨((tokens.filter (!·.isEnd)).map fields).map Fields.row, ?_, ?_⟩
  · rw [lines_table, List.map_append]
    have hheaders : headerFields.map Fields.row =
        ["TOKEN TYPE     LEXEME               LINE",
          "----------     ------               ----"] := by decide
    rw [hheaders]
    rfl
  · rw [List.map_map, List.forall₂_map_left_iff, List.forall₂_same]
    exact fun t _ => shows_row t

/-! ### Columns -/

/-- In a row, a field stands in the column between two offsets, with blanks up to its end. -/
def StandsIn (row : String) (start stop : Nat) (field : String) : Prop :=
  ∃ blanks, (row.toList.drop start).take (stop - start) =
    field.toList ++ List.replicate (blanks + 1) ' '

/-- In a row, lexeme and line stand in columns that start this much behind those of the headers. -/
structure Aligned (shift : Nat) (row : String) (f : Fields) : Prop where
  lexeme : StandsIn row (15 + shift) (36 + shift) f.lexeme
  line : row.toList.drop (36 + shift) = f.line.toList

theorem length_row {f : Fields} (hlexeme : f.lexeme.length ≤ 20) :
    f.row.toList.length = 36 + (f.kind.length - 14) + f.line.length := by
  rw [toList_row]
  simp only [List.length_append, List.length_replicate, String.length_toList]
  omega

/-- A kind that is too long for its column moves the columns behind it. -/
theorem aligned_row {f : Fields} (hlexeme : f.lexeme.length ≤ 20) :
    Aligned (f.kind.length - 14) f.row f := by
  let first := f.kind.toList ++ List.replicate (14 - f.kind.length + 1) ' '
  let second := f.lexeme.toList ++ List.replicate (20 - f.lexeme.length + 1) ' '
  have hfirst : first.length = 15 + (f.kind.length - 14) := by
    simp only [first, List.length_append, List.length_replicate, String.length_toList]
    omega
  have hsecond : second.length = 21 := by
    simp only [second, List.length_append, List.length_replicate, String.length_toList]
    omega
  have hwidth : 36 + (f.kind.length - 14) = 15 + (f.kind.length - 14) + 21 := by omega
  have hrow : f.row.toList = first ++ (second ++ f.line.toList) := toList_row f
  have hdrop : f.row.toList.drop (15 + (f.kind.length - 14)) = second ++ f.line.toList := by
    rw [hrow, List.drop_left' hfirst]
  refine ⟨⟨20 - f.lexeme.length, ?_⟩, ?_⟩
  · rw [hdrop, hwidth, Nat.add_sub_cancel_left, List.take_left' hsecond]
  · rw [hwidth, ← List.drop_drop, hdrop, List.drop_left' hsecond]

/-- Columns are those of the headers only if the kind fits into its own. -/
theorem aligned_zero_iff {f : Fields} (hlexeme : f.lexeme.length ≤ 20) :
    Aligned 0 f.row f ↔ f.kind.length ≤ 14 := by
  constructor
  · intro h
    have hlength := congrArg List.length h.line
    rw [List.length_drop, length_row hlexeme, String.length_toList] at hlength
    omega
  · intro hkind
    have hrow := aligned_row hlexeme
    rwa [Nat.sub_eq_zero_of_le hkind] at hrow

/-- Of all kinds one has a name that is too long for its column, by one character. -/
theorem length_name_sub (kind : Kind) :
    kind.name.length - 14 = if kind = .literal .boolean then 1 else 0 := by
  have hall : ∀ kind ∈ Kind.all,
      kind.name.length - 14 = if kind = .literal .boolean then 1 else 0 := by decide
  exact hall kind (LawfulNamed.mem_members kind)

theorem length_name_le_iff (kind : Kind) : kind.name.length ≤ 14 ↔ kind ≠ .literal .boolean := by
  have hsub := length_name_sub kind
  split at hsub <;> simp_all <;> omega

theorem aligned_fields {t : Token} (h : (escaped t.lexeme).length ≤ 20) :
    Aligned (if t.kind = .literal .boolean then 1 else 0) t.fields.row t.fields ∧
      (Aligned 0 t.fields.row t.fields ↔ t.kind ≠ .literal .boolean) := by
  have hrow := aligned_row (f := t.fields) h
  have hzero := aligned_zero_iff (f := t.fields) h
  have hkind : t.fields.kind = t.kind.name := rfl
  rw [hkind, length_name_sub] at hrow
  rw [hkind, length_name_le_iff] at hzero
  exact ⟨hrow, hzero⟩

theorem aligned_header : ∀ f ∈ headerFields, Aligned 0 f.row f := by
  have hfits : ∀ f ∈ headerFields, f.lexeme.length ≤ 20 ∧ f.kind.length ≤ 14 := by
    simp only [headerFields, List.forall_mem_cons]
    decide
  intro f hf
  exact (aligned_zero_iff (hfits f hf).1).mpr (hfits f hf).2

/-- Where no escaped lexeme is longer than its column, a table has the columns of its headers
exactly if it shows no boolean literal: the row of such a token has them one further on. -/
theorem table_aligned_iff {tokens : List Token}
    (h : ∀ t ∈ tokens, (escaped t.lexeme).length ≤ 20) :
    let shown := tokens.filter (!·.isEnd)
    (List.Forall₂ (Aligned 0) (lines (table tokens)) (headerFields ++ shown.map fields) ↔
      ∀ t ∈ tokens, t.kind ≠ .literal .boolean) ∧
    ∃ headers rows, lines (table tokens) = headers ++ rows ∧
      List.Forall₂ (Aligned 0) headers headerFields ∧
      List.Forall₂ (fun row t => Aligned (if t.kind = .literal .boolean then 1 else 0) row t.fields)
        rows shown := by
  intro shown
  have hshown : ∀ t ∈ shown, t ∈ tokens := fun t ht => (List.mem_filter.mp ht).1
  constructor
  · rw [lines_table, List.forall₂_map_left_iff, List.forall₂_same, List.forall_mem_append]
    constructor
    · rintro ⟨_, hrows⟩ t ht hboolean
      have hmem : t ∈ shown := List.mem_filter.mpr ⟨ht, by simp [isEnd, hboolean]⟩
      exact (aligned_fields (h t ht)).2.mp (hrows _ (List.mem_map_of_mem hmem)) hboolean
    · intro hkinds
      refine ⟨aligned_header, ?_⟩
      intro f hf
      obtain ⟨t, ht, rfl⟩ := List.mem_map.mp hf
      exact (aligned_fields (h t (hshown t ht))).2.mpr (hkinds t (hshown t ht))
  · refine ⟨headerFields.map Fields.row, (shown.map fields).map Fields.row, ?_, ?_, ?_⟩
    · rw [lines_table, List.map_append]
    · rw [List.forall₂_map_left_iff, List.forall₂_same]
      exact aligned_header
    · rw [List.map_map, List.forall₂_map_left_iff, List.forall₂_same]
      exact fun t ht => (aligned_fields (h t (hshown t ht))).1

/-- A lexeme that fills its column once its newline is escaped, and a closing token with a lexeme. -/
theorem table_aligned_iff_full :
    let tokens : List Token :=
      [⟨.typeName, "int", -1⟩, ⟨.endOfInput, "end", 0⟩,
        ⟨.literal .string, "\"a\n345678901234567\"", 7⟩]
    (∀ t ∈ tokens, (escaped t.lexeme).length ≤ 20) ∧
      (escaped "\"a\n345678901234567\"").length = 20 ∧
      List.Forall₂ (Aligned 0) (lines (table tokens))
        (headerFields ++ (tokens.filter (!·.isEnd)).map fields) := by
  intro tokens
  have hfits : ∀ t ∈ tokens, (escaped t.lexeme).length ≤ 20 := by decide
  exact ⟨hfits, by decide, (table_aligned_iff hfits).1.mpr (by decide)⟩

/-- The row of a boolean literal has blanks where the headers have their columns. -/
theorem table_not_aligned :
    let t : Token := ⟨.literal .boolean, "true", 1⟩
    let row := "BOOLEAN_LITERAL true                 line 1"
    (escaped t.lexeme).length ≤ 20 ∧
      lines (table [t]) = ["TOKEN TYPE     LEXEME               LINE",
        "----------     ------               ----", row] ∧
      (row.toList.drop 15).take 5 = " true".toList ∧
      (row.toList.drop 36).take 5 = " line".toList ∧
      ¬ List.Forall₂ (Aligned 0) (lines (table [t])) (headerFields ++ [t.fields]) := by
  intro t row
  have hlines : lines (table [t]) = ["TOKEN TYPE     LEXEME               LINE",
      "----------     ------               ----", row] := by
    rw [lines_table]
    decide
  refine ⟨by decide, hlines, by decide, by decide, ?_⟩
  intro haligned
  rw [lines_table, List.forall₂_map_left_iff] at haligned
  have hrow : Aligned 0 t.fields.row t.fields :=
    List.forall₂_same.mp haligned t.fields (List.mem_append_right _ (List.mem_singleton_self _))
  exact (aligned_fields (by decide)).2.mp hrow rfl

end DeclLang.Token
