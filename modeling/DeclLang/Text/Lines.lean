/-!
Lines of a text. Newlines stand between lines and not behind them, so a text without a newline is a
single line, and behind a newline at the end there is one more line, which is empty.
-/

set_option autoImplicit false

namespace DeclLang.Text

def lines (text : String) : List String :=
  (text.toList.splitOn '\n').map String.ofList

theorem lines_append_newline (front back : String) :
    lines (front ++ "\n" ++ back) = lines front ++ lines back := by
  have htext : (front ++ "\n" ++ back).toList = front.toList ++ '\n' :: back.toList := by
    simp
  rw [lines, htext, List.splitOn_append_cons_self, List.map_append]
  rfl

theorem lines_of_newline_notMem {text : String} (h : '\n' ∉ text.toList) : lines text = [text] := by
  rw [lines, List.splitOn_eq_singleton h, List.map_singleton, String.ofList_toList]

/-- Texts that are put one behind the other, each on new lines, keep their lines. -/
theorem lines_intercalate {texts : List String} (h : texts ≠ []) :
    lines ("\n".intercalate texts) = texts.flatMap lines := by
  induction texts with
  | nil => exact absurd rfl h
  | cons text texts ih =>
    cases texts with
    | nil => rw [String.intercalate_singleton, List.flatMap_singleton]
    | cons next texts =>
      rw [String.intercalate_cons_cons, lines_append_newline, ih (by simp)]
      rfl

/-- Texts that are rows with newlines between them are put one behind the other row by row. -/
theorem intercalate_flatMap {α : Type} {rows : α → List String} {parts : List α}
    (h : ∀ part ∈ parts, rows part ≠ []) :
    "\n".intercalate (parts.flatMap rows) =
      "\n".intercalate (parts.map fun part => "\n".intercalate (rows part)) := by
  induction parts with
  | nil => rfl
  | cons part parts ih =>
    rw [List.forall_mem_cons] at h
    cases parts with
    | nil => simp
    | cons next parts =>
      have hrest : (next :: parts).flatMap rows ≠ [] := by
        rw [List.flatMap_cons]
        exact List.append_ne_nil_of_left_ne_nil (h.2 next List.mem_cons_self) _
      rw [List.flatMap_cons, String.intercalate_append_of_ne_nil h.1 hrest, ih h.2]
      exact String.intercalate_cons_cons.symm

theorem flatMap_lines_eq_self {rows : List String} (h : ∀ row ∈ rows, '\n' ∉ row.toList) :
    rows.flatMap lines = rows := by
  induction rows with
  | nil => rfl
  | cons row rows ih =>
    rw [List.forall_mem_cons] at h
    rw [List.flatMap_cons, lines_of_newline_notMem h.1, ih h.2]
    rfl

end DeclLang.Text
