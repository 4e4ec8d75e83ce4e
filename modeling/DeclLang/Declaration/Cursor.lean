import DeclLang.Declaration.Reading

/-!
Declarations read with a cursor. Such a reader keeps all of its tokens and the number of the one that
it is at, and nothing but its own moves keeps this number in bounds. It takes a token with
`advance`, which leaves a closing token alone, and gives up tokens one by one with `next`; from
beyond its tokens it would see the last of them, which closes the input.

Both loops go on where their last round left the cursor, and they end because each round that is
followed by another has moved it on.
-/

set_option autoImplicit false

namespace DeclLang.Declaration

open Token

/-- Tokens of which the last one closes the input. -/
structure Closed where
  tokens : List Token
  closed : tokens.getLast?.any isEnd = true

namespace Closed

/-- Adds a closing token on the line of the last token, unless that is a closing token itself. -/
def ofTokens (ts : List Token) : Closed :=
  if h : ts.getLast?.any isEnd = true then ⟨ts, h⟩
  else ⟨ts ++ [endAt ((ts.getLast?.map Token.line).getD 1)], by simp⟩

theorem length_pos (input : Closed) : 0 < input.tokens.length := by
  obtain ⟨tokens, closed⟩ := input
  cases tokens with
  | nil => cases closed
  | cons t ts => exact Nat.succ_pos _

end Closed

/-- The number of the token that a reader is at, and the faults that it has noticed. -/
structure Cursor (input : Closed) where
  position : Nat
  faults : List SyntaxFault
  deriving DecidableEq, Repr

namespace Cursor

variable {input : Closed}

def start (input : Closed) : Cursor input := ⟨0, []⟩

/-- The token that the cursor is at; beyond all tokens this is the last one. -/
def peek (c : Cursor input) : Token :=
  have hlength := input.length_pos
  input.tokens[min c.position (input.tokens.length - 1)]

def atEnd (c : Cursor input) : Bool :=
  c.peek.isEnd

def next (c : Cursor input) : Cursor input :=
  { c with position := c.position + 1 }

def advance (c : Cursor input) : Cursor input :=
  if c.atEnd then c else c.next

def report (c : Cursor input) (fault : SyntaxFault) : Cursor input :=
  { c with faults := c.faults ++ [fault] }

theorem lt_length_of_atEnd_eq_false {c : Cursor input} (h : c.atEnd = false) :
    c.position + 1 < input.tokens.length := by
  -- At the last token and beyond it the cursor sees the closing token.
  rw [← Nat.not_le]
  intro hle
  have hmin : min c.position (input.tokens.length - 1) = input.tokens.length - 1 := by omega
  have hclosed := input.closed
  rw [List.getLast?_eq_getElem?, List.getElem?_eq_getElem (by have := input.length_pos; omega),
    Option.any_some] at hclosed
  simp only [atEnd, peek, hmin, hclosed] at h
  cases h

/-- Gives up tokens in front of the first one that is asked for, or of the end. -/
def skipUntil (stop : Token → Bool) (c : Cursor input) : Cursor input :=
  if _h : (c.atEnd || stop c.peek) = true then c else skipUntil stop c.next
termination_by input.tokens.length - c.position
decreasing_by
  have hnot : c.atEnd = false := (Bool.or_eq_false_iff.mp (Bool.not_eq_true _ ▸ _h)).1
  have hlt := lt_length_of_atEnd_eq_false hnot
  simp only [next]
  omega

/-- Takes a token of the given kind, if the cursor is at one. -/
def take (kind : Kind) (c : Cursor input) : Cursor input :=
  if c.peek.kind = kind then c.advance else c

/-- Reads an equals sign and the literal behind it. -/
def initializer (c : Cursor input) : Option Initializer × Cursor input :=
  if c.peek.kind = .equals then
    let value := c.advance.peek
    if value.kind.isLiteral then
      (some ⟨value.kind, value.lexeme, value.line⟩, c.advance.advance)
    else (none, c.advance.report (.expectedLiteral value))
  else (none, c)

def declarator (c : Cursor input) : Option Declarator × Cursor input :=
  let name := c.peek
  if name.kind = .identifier then
    let init := c.advance.initializer
    (some ⟨name.lexeme, name.line, init.1⟩, init.2)
  else (none, (c.report (.expectedIdentifier name)).skipUntil isDelimiter)

/-- One round of the loop over declarators, up to a delimiter. -/
def item (c : Cursor input) : Option Declarator × Cursor input :=
  let d := c.declarator
  if d.2.peek.isDelimiter || d.2.atEnd then d
  else (d.1, (d.2.report (.unexpected d.2.peek)).skipUntil isDelimiter)

/-! ### The cursor goes forward -/

/-- Where a cursor gets by taking tokens and noticing faults. -/
inductive Moves : Cursor input → Cursor input → Prop
  | refl (c : Cursor input) : Moves c c
  | advance {c d : Cursor input} (h : Moves c d) : Moves c d.advance
  | report {c d : Cursor input} (h : Moves c d) (fault : SyntaxFault) : Moves c (d.report fault)

theorem Moves.trans {c d e : Cursor input} (hcd : Moves c d) (hde : Moves d e) : Moves c e := by
  induction hde with
  | refl => exact hcd
  | advance _ ih => exact ih.advance
  | report _ fault ih => exact ih.report fault

theorem next_eq_advance {c : Cursor input} (h : c.atEnd = false) : c.next = c.advance := by
  rw [advance, h]
  rfl

theorem lt_advance {c : Cursor input} (h : c.atEnd = false) : c.position < c.advance.position := by
  rw [← next_eq_advance h]
  exact Nat.lt_succ_self _

theorem Moves.le {c d : Cursor input} (h : Moves c d) : c.position ≤ d.position := by
  induction h with
  | refl => exact Nat.le_refl _
  | @advance d _ ih =>
    cases hend : d.atEnd with
    | true => rwa [Cursor.advance, hend]
    | false => exact Nat.le_trans ih (Nat.le_of_lt (lt_advance hend))
  | report _ fault ih => exact ih

theorem moves_skipUntil (stop : Token → Bool) (c : Cursor input) : Moves c (c.skipUntil stop) := by
  fun_induction skipUntil stop c with
  | case1 c h => exact .refl c
  | case2 c h ih =>
    have hnot : c.atEnd = false := (Bool.or_eq_false_iff.mp (Bool.not_eq_true _ ▸ h)).1
    rw [next_eq_advance hnot] at ih ⊢
    exact (Moves.refl c).advance.trans ih

theorem moves_take (kind : Kind) (c : Cursor input) : Moves c (c.take kind) := by
  unfold take
  split
  · exact (Moves.refl c).advance
  · exact .refl c

theorem moves_initializer (c : Cursor input) : Moves c c.initializer.2 := by
  unfold initializer
  split
  · dsimp only
    split
    · exact (Moves.refl c).advance.advance
    · exact (Moves.refl c).advance.report _
  · exact .refl c

theorem moves_declarator (c : Cursor input) : Moves c c.declarator.2 := by
  unfold declarator
  dsimp only
  split
  · exact (Moves.refl c).advance.trans (moves_initializer c.advance)
  · exact ((Moves.refl c).report _).trans (moves_skipUntil _ _)

theorem moves_item (c : Cursor input) : Moves c c.item.2 := by
  unfold item
  dsimp only
  split
  · exact moves_declarator c
  · exact ((moves_declarator c).report _).trans (moves_skipUntil _ _)

theorem atEnd_eq_false_of_kind {c : Cursor input} {kind : Kind} (h : c.peek.kind = kind)
    (hkind : kind ≠ .endOfInput) : c.atEnd = false := by
  simpa [atEnd, isEnd, h] using hkind

/-- A round over declarators that is followed by another has moved the cursor on. -/
theorem lt_item {c : Cursor input} (h : c.item.2.peek.kind = .comma) :
    c.position < c.item.2.advance.position :=
  Nat.lt_of_le_of_lt (moves_item c).le (lt_advance (atEnd_eq_false_of_kind h (by decide)))

/-- Reads declarators separated by commas, up to and including the semicolon. -/
def items (c : Cursor input) : List Declarator × Cursor input :=
  let i := c.item
  if _h : i.2.peek.kind = .comma then
    let more := i.2.advance.items
    (i.1.toList ++ more.1, more.2)
  else if i.2.peek.kind = .semicolon then (i.1.toList, i.2.advance)
  else (i.1.toList, i.2.report (.missingSemicolon i.2.peek))
termination_by input.tokens.length - c.position
decreasing_by
  have hmore : c.position < c.item.2.advance.position := lt_item _h
  have hlt := lt_length_of_atEnd_eq_false
    (atEnd_eq_false_of_kind (show c.item.2.peek.kind = .comma from _h) (by decide))
  have hle := (moves_item c).le
  omega

theorem moves_items (c : Cursor input) : Moves c c.items.2 := by
  fun_induction items c with
  | case1 c i h more ih => exact (moves_item c).advance.trans ih
  | case2 c i h hs => exact (moves_item c).advance
  | case3 c i h hs => exact (moves_item c).report _

def declaration (c : Cursor input) : List Declaration × Cursor input :=
  let type := c.peek
  if type.kind = .typeName then
    let items := c.advance.items
    (ofItems type items.1, items.2)
  else ([], (c.report (.expectedType type)).advance)

/-- Goes to where the next statement may start: here, if this is a type name, and otherwise behind
the next semicolon. -/
def toNextStatement (c : Cursor input) : Cursor input :=
  if c.atEnd || c.peek.kind == .typeName then c
  else (c.skipUntil (·.kind == .semicolon)).take .semicolon

/-- One round of the loop over statements. -/
def statement (c : Cursor input) : List Declaration × Cursor input :=
  let d := c.declaration
  (d.1, d.2.toNextStatement)

theorem moves_declaration (c : Cursor input) : Moves c c.declaration.2 := by
  unfold declaration
  dsimp only
  split
  · exact (Moves.refl c).advance.trans (moves_items c.advance)
  · exact ((Moves.refl c).report _).advance

theorem lt_declaration {c : Cursor input} (h : c.atEnd = false) :
    c.position < c.declaration.2.position := by
  unfold declaration
  dsimp only
  split
  · exact Nat.lt_of_lt_of_le (lt_advance h) (moves_items c.advance).le
  · exact lt_advance (show (c.report _).atEnd = false from h)

theorem moves_toNextStatement (c : Cursor input) : Moves c c.toNextStatement := by
  unfold toNextStatement
  split
  · exact .refl c
  · exact (moves_skipUntil _ c).trans (moves_take _ _)

theorem moves_statement (c : Cursor input) : Moves c c.statement.2 :=
  (moves_declaration c).trans (moves_toNextStatement c.declaration.2)

/-- A round over statements has moved the cursor on. -/
theorem lt_statement {c : Cursor input} (h : c.atEnd = false) :
    c.position < c.statement.2.position :=
  Nat.lt_of_lt_of_le (lt_declaration h) (moves_toNextStatement c.declaration.2).le

def statements (c : Cursor input) : List Declaration × Cursor input :=
  if _h : c.atEnd = true then ([], c)
  else
    let s := c.statement
    let more := s.2.statements
    (s.1 ++ more.1, more.2)
termination_by input.tokens.length - c.position
decreasing_by
  have hnot : c.atEnd = false := Bool.eq_false_iff.mpr _h
  have hstatement := lt_statement hnot
  have hlt := lt_length_of_atEnd_eq_false hnot
  omega

theorem moves_statements (c : Cursor input) : Moves c c.statements.2 := by
  fun_induction statements c with
  | case1 c h => exact .refl c
  | case2 c h s more ih => exact (moves_statement c).trans ih

end Cursor

/-- Reads a token list with a cursor. -/
def readByCursor (ts : List Token) : Reading :=
  let out := (Cursor.start (Closed.ofTokens ts)).statements
  ⟨out.1, out.2.faults⟩

end DeclLang.Declaration
