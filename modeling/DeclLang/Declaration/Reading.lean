import DeclLang.Declaration.Basic
import DeclLang.Declaration.Fault
import DeclLang.Log.Basic

/-!
Declarations read from a token list. Reading never gives up: after a fault it goes on at the next
delimiter inside a statement, and after a statement it goes on at the next type name or behind the
next semicolon. Every step returns the tokens that it leaves, and these become fewer, which bounds
both loops. Only the tokens before the first closing token are read; that token, or one made up for
a list without any, is what the faults at the end of the input refer to.
-/

set_option autoImplicit false

namespace DeclLang

namespace Token

/-- Whether a token ends a declarator: a comma or a semicolon. -/
def isDelimiter (t : Token) : Bool :=
  t.kind == .comma || t.kind == .semicolon

def fromDelimiter (ts : List Token) : List Token :=
  ts.dropWhile (!·.isDelimiter)

/-- The tokens at which a new statement may start, after one that ended before the given tokens:
these tokens if a type name leads them, and otherwise those behind the next semicolon. -/
def nextStatement : List Token → List Token
  | [] => []
  | t :: rest =>
    if t.kind = .typeName then t :: rest
    else ((t :: rest).dropWhile (·.kind != .semicolon)).drop 1

def beforeEnd (ts : List Token) : List Token :=
  ts.takeWhile (!·.isEnd)

/-- The first closing token; a list without one ends on the line of its last token. -/
def closing (ts : List Token) : Token :=
  (ts.find? isEnd).getD (endAt ((ts.getLast?.map Token.line).getD 1))

theorem length_fromDelimiter_le (ts : List Token) : (fromDelimiter ts).length ≤ ts.length :=
  (List.dropWhile_sublist _).length_le

theorem length_nextStatement_le (ts : List Token) : (nextStatement ts).length ≤ ts.length := by
  unfold nextStatement
  split
  · simp
  · split
    · exact Nat.le_refl _
    · rw [List.length_drop]
      exact Nat.le_trans (Nat.sub_le _ _) ((List.dropWhile_sublist _).length_le)

/-! ### The first closing token -/

section FirstEnd

variable {ts front back : List Token}

theorem beforeEnd_append (hfront : ∀ t ∈ front, t.isEnd = false)
    (hback : ∀ t, back.head? = some t → t.isEnd = true) : beforeEnd (front ++ back) = front := by
  have hpos : ∀ t ∈ front, (!t.isEnd) = true := fun t h => by simp [hfront t h]
  rw [beforeEnd, List.takeWhile_append_of_pos hpos]
  cases back with
  | nil => simp
  | cons t back => simp [hback t rfl]

theorem beforeEnd_eq_self (h : ∀ t ∈ ts, t.isEnd = false) : beforeEnd ts = ts := by
  have hend : beforeEnd (ts ++ []) = ts := beforeEnd_append h (by simp)
  rwa [List.append_nil] at hend

theorem find?_isEnd_eq_none (h : ∀ t ∈ ts, t.isEnd = false) : ts.find? isEnd = none := by
  apply List.find?_eq_none.mpr
  intro t ht
  rw [h t ht]
  decide

/-- Tokens that follow others end the input as they do on their own. -/
theorem closing_append (hfront : ∀ t ∈ front, t.isEnd = false) (hne : back ≠ []) :
    closing (front ++ back) = closing back := by
  have hlast := List.getLast?_eq_some_getLast hne
  rw [closing, closing, List.find?_append, find?_isEnd_eq_none hfront, Option.none_or,
    List.getLast?_append, hlast]
  rfl

theorem closing_cons_of_isEnd {t : Token} (h : t.isEnd = true) (ts : List Token) :
    closing (t :: ts) = t := by
  rw [closing, List.find?_cons_of_pos h]
  rfl

theorem isEnd_closing (ts : List Token) : (closing ts).isEnd = true := by
  rw [closing]
  cases hfind : ts.find? isEnd with
  | none => rfl
  | some t => exact List.find?_some hfind

end FirstEnd

end Token

namespace Declaration

open Token

/-- What a step read, the faults it noticed and the tokens it left. -/
structure Step (α : Type) where
  value : α
  faults : List SyntaxFault
  rest : List Token

variable (closing : Token)

/-- Reads an equals sign and the literal behind it, if the tokens start so. -/
def readInitializer : List Token → Step (Option Initializer)
  | [] => ⟨none, [], []⟩
  | t :: rest =>
    if t.kind = .equals then
      match rest with
      | [] => ⟨none, [.expectedLiteral closing], []⟩
      | l :: after =>
        if l.kind.isLiteral then ⟨some ⟨l.kind, l.lexeme, l.line⟩, [], after⟩
        else ⟨none, [.expectedLiteral l], l :: after⟩
    else ⟨none, [], t :: rest⟩

/-- Reads a name and its initializer; without a name, everything before the next delimiter is
given up. -/
def readDeclarator : List Token → Step (Option Declarator)
  | [] => ⟨none, [.expectedIdentifier closing], []⟩
  | t :: rest =>
    if t.kind = .identifier then
      let init := readInitializer closing rest
      ⟨some ⟨t.lexeme, t.line, init.value⟩, init.faults, init.rest⟩
    else ⟨none, [.expectedIdentifier t], fromDelimiter (t :: rest)⟩

/-- The fault of tokens that stand before the next delimiter. -/
def strayFault : List Token → List SyntaxFault
  | [] => []
  | t :: _ => if t.isDelimiter then [] else [.unexpected t]

/-- Reads a declarator and gives up what stands between it and the next delimiter. -/
def readItem (ts : List Token) : Step (Option Declarator) :=
  let d := readDeclarator closing ts
  ⟨d.value, d.faults ++ strayFault d.rest, fromDelimiter d.rest⟩

theorem length_readInitializer_rest_le (ts : List Token) :
    (readInitializer closing ts).rest.length ≤ ts.length := by
  unfold readInitializer
  split
  · exact Nat.le_refl _
  · split
    · split
      · simp
      · split
        · simp only [List.length_cons]
          omega
        · simp
    · exact Nat.le_refl _

theorem length_readDeclarator_rest_le (ts : List Token) :
    (readDeclarator closing ts).rest.length ≤ ts.length := by
  unfold readDeclarator
  split
  · exact Nat.le_refl _
  · split
    · exact Nat.le_trans (length_readInitializer_rest_le closing _) (Nat.le_succ _)
    · exact length_fromDelimiter_le _

theorem length_readItem_rest_le (ts : List Token) :
    (readItem closing ts).rest.length ≤ ts.length :=
  Nat.le_trans (length_fromDelimiter_le _) (length_readDeclarator_rest_le closing ts)

/-- Reads declarators separated by commas, up to and including the semicolon. -/
def readItems (ts : List Token) : Step (List Declarator) :=
  let item := readItem closing ts
  match _hrest : item.rest with
  | [] => ⟨item.value.toList, item.faults ++ [.missingSemicolon closing], []⟩
  | t :: rest =>
    if t.kind = .comma then
      let more := readItems rest
      ⟨item.value.toList ++ more.value, item.faults ++ more.faults, more.rest⟩
    else ⟨item.value.toList, item.faults, rest⟩
termination_by ts.length
decreasing_by
  have h := length_readItem_rest_le closing ts
  rw [show (readItem closing ts).rest = t :: rest from _hrest] at h
  exact h

theorem length_readItems_rest_le (ts : List Token) :
    (readItems closing ts).rest.length ≤ ts.length := by
  fun_induction readItems closing ts with
  | case1 ts item hrest => simp
  | case2 ts item t rest hrest hcomma more ih =>
    have h := length_readItem_rest_le closing ts
    rw [show (readItem closing ts).rest = t :: rest from hrest] at h
    exact Nat.le_trans ih (Nat.le_of_succ_le h)
  | case3 ts item t rest hrest hcomma =>
    have h := length_readItem_rest_le closing ts
    rw [show (readItem closing ts).rest = t :: rest from hrest] at h
    exact Nat.le_of_succ_le h

structure Reading where
  declarations : List Declaration
  faults : List SyntaxFault
  deriving DecidableEq, Repr

/-- The declaration of a type name and its declarators; without a declarator there is none. -/
def ofItems (type : Token) (declarators : List Declarator) : List Declaration :=
  if declarators.isEmpty then [] else [⟨type.lexeme, declarators, type.line⟩]

def readStatements : List Token → Reading
  | [] => ⟨[], []⟩
  | t :: rest =>
    if t.kind = .typeName then
      let items := readItems closing rest
      let more := readStatements (nextStatement items.rest)
      ⟨ofItems t items.value ++ more.declarations, items.faults ++ more.faults⟩
    else
      let more := readStatements (nextStatement rest)
      ⟨more.declarations, .expectedType t :: more.faults⟩
termination_by ts => ts.length
decreasing_by
  · exact Nat.lt_succ_of_le
      (Nat.le_trans (length_nextStatement_le _) (length_readItems_rest_le closing rest))
  · exact Nat.lt_succ_of_le (length_nextStatement_le rest)

/-- Reads a token list as a list of declarations. -/
def read (ts : List Token) : Reading :=
  readStatements (Token.closing ts) (beforeEnd ts)

namespace Reading

def errors (r : Reading) : List Diagnostic :=
  r.faults.map SyntaxFault.toDiagnostic

def ok (r : Reading) : Bool :=
  r.faults.isEmpty

def log (r : Reading) : List Log.Record :=
  [⟨.debug, "Parsed " ++ toString r.declarations.length ++ " declaration(s) with " ++
    toString r.errors.length ++ " error(s)"⟩]

@[simp] theorem ok_iff (r : Reading) : r.ok = true ↔ r.faults = [] := by
  simp [ok]

@[simp] theorem errors_eq_nil_iff (r : Reading) : r.errors = [] ↔ r.faults = [] := by
  simp [errors]

end Reading

end Declaration

end DeclLang
