/-!
Line ends. Text files may end a line with a carriage return, a newline or both; read as text, each
of the three is one newline.
-/

set_option autoImplicit false

namespace DeclLang.Text

/-- A text in which every line end is a newline. -/
def unifyLineEnds : List Char → List Char
  | [] => []
  | '\r' :: '\n' :: rest => '\n' :: unifyLineEnds rest
  | c :: rest => (if c = '\r' then '\n' else c) :: unifyLineEnds rest

theorem return_notMem_unifyLineEnds (text : List Char) : '\r' ∉ unifyLineEnds text := by
  fun_induction unifyLineEnds text with
  | case1 => simp
  | case2 rest ih => simpa using ih
  | case3 c rest _ ih =>
    by_cases h : c = '\r'
    · simpa [h] using ih
    · simpa [h] using ⟨Ne.symm h, ih⟩

theorem unifyLineEnds_eq_self {text : List Char} (h : '\r' ∉ text) : unifyLineEnds text = text := by
  fun_induction unifyLineEnds text with
  | case1 => rfl
  | case2 rest ih => simp at h
  | case3 c rest _ ih =>
    simp only [List.mem_cons, not_or] at h
    rw [if_neg (Ne.symm h.1), ih h.2]

/-- A text with a newline in place of each pair of a carriage return and a newline. -/
def replacePairs : List Char → List Char
  | [] => []
  | '\r' :: '\n' :: rest => '\n' :: replacePairs rest
  | c :: rest => c :: replacePairs rest

/-- A text with a newline in place of each carriage return. -/
def replaceReturns (text : List Char) : List Char :=
  text.map fun c => if c = '\r' then '\n' else c

/-- Line ends are unified by replacing the pairs first and then the returns that are left. -/
theorem unifyLineEnds_eq (text : List Char) :
    unifyLineEnds text = replaceReturns (replacePairs text) := by
  fun_induction unifyLineEnds text with
  | case1 => rfl
  | case2 rest ih => rw [replacePairs, ih]; rfl
  | case3 c rest hpair ih =>
    rw [replacePairs, ih]
    · rfl
    · exact hpair

/-- A text with a carriage return in front of each newline. -/
def insertReturns (text : List Char) : List Char :=
  text.flatMap fun c => if c = '\n' then ['\r', '\n'] else [c]

/-- The second text is the first one with carriage returns in front of some of its newlines. -/
inductive AddsReturns : List Char → List Char → Prop where
  | nil : AddsReturns [] []
  | keep {c : Char} {text text' : List Char} :
      AddsReturns text text' → AddsReturns (c :: text) (c :: text')
  | insert {text text' : List Char} :
      AddsReturns text text' → AddsReturns ('\n' :: text) ('\r' :: '\n' :: text')

theorem addsReturns_insertReturns (text : List Char) : AddsReturns text (insertReturns text) := by
  induction text with
  | nil => exact .nil
  | cons c text ih =>
    rw [insertReturns, List.flatMap_cons]
    by_cases hc : c = '\n'
    · rw [if_pos hc, hc]
      exact .insert ih
    · rw [if_neg hc]
      exact .keep ih

namespace AddsReturns

variable {text text' : List Char}

theorem refl (text : List Char) : AddsReturns text text := by
  induction text with
  | nil => exact .nil
  | cons c text ih => exact .keep ih

theorem append_left (front : List Char) (h : AddsReturns text text') :
    AddsReturns (front ++ text) (front ++ text') := by
  induction front with
  | nil => exact h
  | cons c front ih => exact .keep ih

theorem of_cons {c : Char} (hc : c ≠ '\n') (h : AddsReturns (c :: text) text') :
    ∃ rest', text' = c :: rest' ∧ AddsReturns text rest' := by
  generalize hfront : c :: text = front at h
  cases h with
  | nil => cases hfront
  | keep h =>
    obtain ⟨rfl, rfl⟩ := List.cons.inj hfront
    exact ⟨_, rfl, h⟩
  | insert _ => exact absurd (List.cons.inj hfront).1 hc

theorem of_newline (h : AddsReturns ('\n' :: text) text') :
    ∃ rest', AddsReturns text rest' ∧ (text' = '\n' :: rest' ∨ text' = '\r' :: '\n' :: rest') := by
  cases h with
  | keep h => exact ⟨_, h, Or.inl rfl⟩
  | insert h => exact ⟨_, h, Or.inr rfl⟩

/-- Lines stay the same in number. -/
theorem count_newline (h : AddsReturns text text') : text'.count '\n' = text.count '\n' := by
  induction h with
  | nil => rfl
  | keep _ ih => rw [List.count_cons, List.count_cons, ih]
  | insert _ ih => simp [ih]

/-- A character that belongs to no line end leads the second text only if it leads the first. -/
theorem exists_cons_of_head? {c : Char} (h : AddsReturns text text') (hn : c ≠ '\n')
    (hr : c ≠ '\r') (hhead : text'.head? = some c) : ∃ rest, text = c :: rest := by
  cases h with
  | nil => cases hhead
  | keep _ =>
    obtain rfl := Option.some.inj hhead
    exact ⟨_, rfl⟩
  | insert _ => exact absurd (Option.some.inj hhead).symm hr

/-- The texts are the same up to a newline, in front of which one may have a carriage return. -/
theorem exists_line (h : AddsReturns text text') :
    ∃ line, (text = line ∧ text' = line) ∨
      ∃ rest rest', AddsReturns rest rest' ∧ text = line ++ '\n' :: rest ∧
        (text' = line ++ '\n' :: rest' ∨ text' = line ++ '\r' :: '\n' :: rest') := by
  induction h with
  | nil => exact ⟨[], Or.inl ⟨rfl, rfl⟩⟩
  | @insert rest rest' h _ => exact ⟨[], Or.inr ⟨rest, rest', h, rfl, Or.inr rfl⟩⟩
  | @keep c rest rest' h ih =>
    by_cases hc : c = '\n'
    · subst hc
      exact ⟨[], Or.inr ⟨rest, rest', h, rfl, Or.inl rfl⟩⟩
    · obtain ⟨line, ⟨rfl, rfl⟩ | ⟨more, more', hmore, rfl, rfl | rfl⟩⟩ := ih
      · exact ⟨_, Or.inl ⟨rfl, rfl⟩⟩
      · exact ⟨c :: line, Or.inr ⟨more, more', hmore, rfl, Or.inl rfl⟩⟩
      · exact ⟨c :: line, Or.inr ⟨more, more', hmore, rfl, Or.inr rfl⟩⟩

end AddsReturns

example : unifyLineEnds ['\r', '\r', '\n', 'a', '\r'] = ['\n', '\n', 'a', '\n'] := by decide

end DeclLang.Text
