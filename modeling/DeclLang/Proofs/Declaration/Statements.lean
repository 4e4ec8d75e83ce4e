import DeclLang.Proofs.Declaration.RoundTrip

/-!
# Statements are read apart

Tokens that end with a semicolon, however malformed, are read in the same way whatever follows
them, and the type name that follows is where reading goes on: neither a fault nor a token that is
given up crosses a semicolon behind which a new statement starts.

This does NOT hold where the second part starts otherwise; a name behind a semicolon may be passed
over or be a fault, as the statement before it has it.
-/

set_option autoImplicit false

namespace DeclLang.Declaration

open Token

/-- No statement is left open: there are no tokens, or the last one is a semicolon. -/
def EndsStatement (ts : List Token) : Prop :=
  ∀ t ∈ ts.getLast?, t.kind = .semicolon

def StartsStatement (ts : List Token) : Prop :=
  ∀ t ∈ ts.head?, t.kind = .typeName

instance (ts : List Token) : Decidable (EndsStatement ts) :=
  inferInstanceAs (Decidable (∀ t ∈ ts.getLast?, t.kind = .semicolon))

instance (ts : List Token) : Decidable (StartsStatement ts) :=
  inferInstanceAs (Decidable (∀ t ∈ ts.head?, t.kind = .typeName))

/-- The tokens inside of a statement, up to a semicolon. -/
def InStatement (ts : List Token) : Prop :=
  ts ≠ [] ∧ EndsStatement ts

/-- A step that leaves more tokens. -/
def Step.leaving {α : Type} (s : Step α) (back : List Token) : Step α :=
  { s with rest := s.rest ++ back }

variable {ts back : List Token}

/-! ### Ends of statements -/

theorem endsStatement_nil : EndsStatement [] := by
  intro t ht
  cases ht

theorem EndsStatement.of_append (front : List Token) (h : EndsStatement (front ++ ts)) :
    EndsStatement ts := by
  intro t ht
  apply h t
  rw [List.getLast?_append, ht]
  rfl

theorem EndsStatement.tail {t : Token} (h : EndsStatement (t :: ts)) : EndsStatement ts :=
  EndsStatement.of_append [t] h

/-- Behind a token that is no semicolon the statement goes on. -/
theorem EndsStatement.inStatement_tail {t : Token} (h : EndsStatement (t :: ts))
    (ht : t.kind ≠ .semicolon) : InStatement ts := by
  refine ⟨?_, h.tail⟩
  rintro rfl
  exact ht (h t rfl)

theorem InStatement.tail {t : Token} (h : InStatement (t :: ts)) (ht : t.kind ≠ .semicolon) :
    InStatement ts :=
  h.2.inStatement_tail ht

/-- A search that no semicolon passes ends inside of the statement. -/
theorem InStatement.dropWhile {p : Token → Bool} (h : InStatement ts)
    (hp : ∀ t : Token, t.kind = .semicolon → p t = false) : InStatement (ts.dropWhile p) := by
  constructor
  · intro hnil
    have hall := List.dropWhile_eq_nil_iff.mp hnil
    have hlast := h.2 _ (List.getLast?_eq_some_getLast h.1)
    have htrue := hall _ (List.getLast_mem h.1)
    rw [hp _ hlast] at htrue
    cases htrue
  · apply EndsStatement.of_append (ts.takeWhile p)
    rw [List.takeWhile_append_dropWhile]
    exact h.2

theorem dropWhile_append_of_ne_nil {p : Token → Bool} (h : ts.dropWhile p ≠ [])
    (back : List Token) : (ts ++ back).dropWhile p = ts.dropWhile p ++ back := by
  rw [List.dropWhile_append]
  cases hd : ts.dropWhile p with
  | nil => exact absurd hd h
  | cons t rest => rfl

theorem InStatement.fromDelimiter_append (h : InStatement ts) (back : List Token) :
    fromDelimiter (ts ++ back) = fromDelimiter ts ++ back ∧ InStatement (fromDelimiter ts) := by
  have hdrop : InStatement (fromDelimiter ts) := by
    apply h.dropWhile
    intro t ht
    rw [isDelimiter_iff.mpr (Or.inr ht)]
    rfl
  exact ⟨dropWhile_append_of_ne_nil hdrop.1 back, hdrop⟩

/-! ### The parts of a statement -/

section Parts

variable (closing closing' : Token) (back : List Token)

theorem readInitializer_append_of_inStatement (h : InStatement ts) :
    readInitializer closing (ts ++ back) = (readInitializer closing' ts).leaving back ∧
      InStatement (readInitializer closing' ts).rest := by
  cases ts with
  | nil => exact absurd rfl h.1
  | cons t rest =>
    by_cases ht : t.kind = .equals
    · have hrest := h.tail (by rw [ht]; decide)
      cases rest with
      | nil => exact absurd rfl hrest.1
      | cons l after =>
        simp only [readInitializer, ht, List.cons_append, if_true]
        by_cases hl : l.kind.isLiteral = true
        · rw [if_pos hl, if_pos hl]
          refine ⟨rfl, hrest.tail ?_⟩
          intro hs
          rw [hs] at hl
          cases hl
        · rw [if_neg hl, if_neg hl]
          exact ⟨rfl, hrest⟩
    · simp only [readInitializer, ht, List.cons_append, if_false]
      exact ⟨rfl, h⟩

theorem readDeclarator_append_of_inStatement (h : InStatement ts) :
    readDeclarator closing (ts ++ back) = (readDeclarator closing' ts).leaving back ∧
      InStatement (readDeclarator closing' ts).rest := by
  cases ts with
  | nil => exact absurd rfl h.1
  | cons t rest =>
    by_cases ht : t.kind = .identifier
    · have hrest := h.tail (by rw [ht]; decide)
      obtain ⟨hinit, hin⟩ := readInitializer_append_of_inStatement closing closing' back hrest
      simp only [readDeclarator, ht, List.cons_append, if_true, hinit]
      exact ⟨rfl, hin⟩
    · obtain ⟨hskip, hin⟩ := h.fromDelimiter_append back
      rw [List.cons_append] at hskip
      simp only [readDeclarator, ht, List.cons_append, if_false, hskip]
      exact ⟨rfl, hin⟩

theorem strayFault_append (h : ts ≠ []) : strayFault (ts ++ back) = strayFault ts := by
  cases ts with
  | nil => exact absurd rfl h
  | cons t rest => rfl

theorem readItem_append_of_inStatement (h : InStatement ts) :
    readItem closing (ts ++ back) = (readItem closing' ts).leaving back ∧
      InStatement (readItem closing' ts).rest := by
  obtain ⟨hread, hrest⟩ := readDeclarator_append_of_inStatement closing closing' back h
  obtain ⟨hskip, hin⟩ := hrest.fromDelimiter_append back
  refine ⟨?_, hin⟩
  simp only [readItem, hread, Step.leaving, strayFault_append back hrest.1, hskip]

/-- Declarators are read up to a semicolon among the tokens in front. -/
theorem readItems_append_of_inStatement (h : InStatement ts) :
    readItems closing (ts ++ back) = (readItems closing' ts).leaving back ∧
      EndsStatement (readItems closing' ts).rest := by
  -- One item at a time: the comma behind an item is no semicolon, so more tokens follow it.
  fun_induction readItems closing' ts with
  | case1 ts item hrest =>
    exact absurd hrest (readItem_append_of_inStatement closing closing' back h).2.1
  | case2 ts item t rest hrest hcomma more ih =>
    obtain ⟨hitem, hin⟩ := readItem_append_of_inStatement closing closing' back h
    rw [show (readItem closing' ts).rest = t :: rest from hrest] at hin
    obtain ⟨hmore, hends⟩ := ih (hin.tail (by rw [hcomma]; decide))
    have hnext : (readItem closing (ts ++ back)).rest = t :: (rest ++ back) := by
      rw [hitem]
      exact congrArg (· ++ back) hrest
    refine ⟨?_, hends⟩
    rw [readItems_of_comma closing hnext hcomma, hmore, hitem]
    rfl
  | case3 ts item t rest hrest hcomma =>
    obtain ⟨hitem, hin⟩ := readItem_append_of_inStatement closing closing' back h
    rw [show (readItem closing' ts).rest = t :: rest from hrest] at hin
    have hnext : (readItem closing (ts ++ back)).rest = t :: (rest ++ back) := by
      rw [hitem]
      exact congrArg (· ++ back) hrest
    refine ⟨?_, hin.2.tail⟩
    rw [readItems_of_not_comma closing hnext hcomma, hitem]
    rfl

end Parts

/-! ### From statement to statement -/

theorem nextStatement_of_startsStatement (h : StartsStatement ts) : nextStatement ts = ts := by
  cases ts with
  | nil => rfl
  | cons t rest => rw [nextStatement, if_pos (h t rfl)]

theorem nextStatement_append (h : EndsStatement ts) (hback : StartsStatement back) :
    nextStatement (ts ++ back) = nextStatement ts ++ back ∧
      EndsStatement (nextStatement ts) := by
  cases ts with
  | nil => exact ⟨nextStatement_of_startsStatement hback, endsStatement_nil⟩
  | cons t rest =>
    by_cases ht : t.kind = .typeName
    · rw [List.cons_append, nextStatement, nextStatement, if_pos ht, if_pos ht]
      exact ⟨rfl, h⟩
    · have hin : InStatement (t :: rest) := ⟨by simp, h⟩
      have hdrop := hin.dropWhile (p := (·.kind != .semicolon)) (by simp)
      have happ := dropWhile_append_of_ne_nil hdrop.1 back
      rw [List.cons_append] at happ
      rw [List.cons_append, nextStatement, nextStatement, if_neg ht, if_neg ht, happ]
      obtain ⟨semicolon, after, hafter⟩ := List.exists_cons_of_ne_nil hdrop.1
      rw [hafter] at hdrop ⊢
      exact ⟨rfl, hdrop.2.tail⟩

/-- Statements that end with a semicolon are read as if nothing came behind them. -/
theorem readStatements_append_of_startsStatement (closing closing' : Token)
    (h : EndsStatement ts) (hback : StartsStatement back) :
    readStatements closing (ts ++ back) =
      ⟨(readStatements closing' ts).declarations ++ (readStatements closing back).declarations,
        (readStatements closing' ts).faults ++ (readStatements closing back).faults⟩ := by
  fun_induction readStatements closing' ts with
  | case1 => rfl
  | case2 t rest ht items more ih =>
    have hrest := h.inStatement_tail (by rw [ht]; decide)
    obtain ⟨hitems, hends⟩ := readItems_append_of_inStatement closing closing' back hrest
    obtain ⟨hnext, hends'⟩ := nextStatement_append hends hback
    have hmore : readStatements closing (nextStatement (readItems closing' rest).rest ++ back) =
        ⟨more.declarations ++ (readStatements closing back).declarations,
          more.faults ++ (readStatements closing back).faults⟩ := ih hends'
    rw [List.cons_append, readStatements_of_typeName closing _ ht, hitems]
    simp only [Step.leaving, hnext, hmore, List.append_assoc]
    rfl
  | case3 t rest ht more ih =>
    obtain ⟨hnext, hends⟩ := nextStatement_append h.tail hback
    rw [List.cons_append, readStatements, if_neg ht, hnext, ih hends]
    rfl

/-- Statements up to a semicolon, however malformed, and statements from a type name on are read
apart: the declarations and the errors of the two are those of the first and those of the second. -/
theorem read_append {front back : List Token} (hfront : ∀ t ∈ front, t.isEnd = false)
    (hback : ∀ t ∈ back, t.isEnd = false) (hends : EndsStatement front)
    (hstarts : StartsStatement back) :
    (read (front ++ back)).declarations = (read front).declarations ++ (read back).declarations ∧
      (read (front ++ back)).errors = (read front).errors ++ (read back).errors := by
  by_cases hnil : back = []
  · subst hnil
    have hempty : read [] = ⟨[], []⟩ := by decide +kernel
    rw [List.append_nil, hempty]
    simp [Reading.errors]
  · have hboth : ∀ t ∈ front ++ back, t.isEnd = false := by
      intro t ht
      exact (List.mem_append.mp ht).elim (hfront t) (hback t)
    have hread := readStatements_append_of_startsStatement (Token.closing back)
      (Token.closing front) hends hstarts
    have heq : read (front ++ back) = ⟨(read front).declarations ++ (read back).declarations,
        (read front).faults ++ (read back).faults⟩ := by
      rw [read, read, read, closing_append hfront hnil, beforeEnd_eq_self hboth,
        beforeEnd_eq_self hfront, beforeEnd_eq_self hback]
      exact hread
    rw [heq]
    exact ⟨rfl, List.map_append⟩

/-- A statement that faults in its declarator list and in its initializer, stray tokens behind it,
a statement without a type name, and then a good declaration. -/
theorem read_append_faulty :
    let front : List Token :=
      [⟨.typeName, "int", 1⟩, ⟨.comma, ",", 1⟩, ⟨.identifier, "a", 1⟩, ⟨.equals, "=", 1⟩,
        ⟨.semicolon, ";", 1⟩, ⟨.equals, "=", 2⟩, ⟨.semicolon, ";", 2⟩, ⟨.identifier, "b", 2⟩,
        ⟨.semicolon, ";", 3⟩]
    let back : List Token :=
      [⟨.typeName, "char", 4⟩, ⟨.identifier, "c", 4⟩, ⟨.identifier, "d", 4⟩]
    (∀ t ∈ front, t.isEnd = false) ∧ (∀ t ∈ back, t.isEnd = false) ∧ EndsStatement front ∧
      StartsStatement back ∧
      (read (front ++ back)).declarations =
        (read front).declarations ++ (read back).declarations ∧
      (read (front ++ back)).errors = (read front).errors ++ (read back).errors :=
  ⟨by decide, by decide, by decide, by decide,
    read_append (by decide) (by decide) (by decide) (by decide)⟩

end DeclLang.Declaration
