import DeclLang.Proofs.Declaration.CursorReading

/-!
# The first closing token is a hard stop

Closing tokens may stand anywhere in a list that was made by hand, or nowhere. A reading sees the
tokens up to and including the first one and stops at it, so that what stands behind it is as good
as not there. Tokens without any closing token are read as if one were added to them.

This does NOT say that the closing token itself is immaterial. It may have any text, which is never
shown, but its line is that of the faults that are noticed at it.
-/

set_option autoImplicit false

namespace DeclLang.Declaration

open Token

/-- The tokens up to and including the first closing one, or all of them if there is none. -/
def throughEnd (ts : List Token) : List Token :=
  ts.take ((beforeEnd ts).length + 1)

variable {ts us : List Token}

/-! ### The tokens that are seen -/

theorem throughEnd_append_cons {front : List Token} {t : Token}
    (hfront : ∀ u ∈ front, u.isEnd = false) (ht : t.isEnd = true) (unread : List Token) :
    throughEnd (front ++ t :: unread) = front ++ [t] := by
  rw [throughEnd, (beforeEnd_closing_append hfront ht unread).1, List.take_length_add_append]
  rfl

theorem throughEnd_eq_self (h : ∀ t ∈ ts, t.isEnd = false) : throughEnd ts = ts := by
  rw [throughEnd, beforeEnd_eq_self h]
  exact List.take_of_length_le (Nat.le_succ _)

theorem throughEnd_append (h : ∃ t ∈ ts, t.isEnd = true) (unread : List Token) :
    throughEnd (ts ++ unread) = throughEnd ts := by
  rcases exists_first_end ts with ⟨front, t, more, rfl, hfront, ht⟩ | hnone
  · rw [List.append_assoc, List.cons_append, throughEnd_append_cons hfront ht,
      throughEnd_append_cons hfront ht]
  · obtain ⟨t, hmem, ht⟩ := h
    rw [hnone t hmem] at ht
    cases ht

theorem beforeEnd_closing_throughEnd (ts : List Token) :
    beforeEnd (throughEnd ts) = beforeEnd ts ∧
      Token.closing (throughEnd ts) = Token.closing ts := by
  rcases exists_first_end ts with ⟨front, t, unread, rfl, hfront, ht⟩ | hnone
  · obtain ⟨hbefore, hclosing⟩ := beforeEnd_closing_append hfront ht unread
    rw [throughEnd_append_cons hfront ht, hbefore, hclosing]
    exact beforeEnd_closing_append hfront ht []
  · rw [throughEnd_eq_self hnone]
    exact ⟨rfl, rfl⟩

theorem throughEnd_closed (input : Closed) :
    throughEnd input.tokens = beforeEnd input.tokens ++ [Token.closing input.tokens] := by
  obtain ⟨unread, htokens⟩ := input.exists_split
  have hbefore : ∀ t ∈ beforeEnd input.tokens, t.isEnd = false :=
    fun t => isEnd_of_mem_beforeEnd
  have hseen := throughEnd_append_cons hbefore (isEnd_closing input.tokens) unread
  rwa [← htokens] at hseen

/-! ### What the cursor sees, and where it stops -/

namespace Cursor

variable {input : Closed} {c : Cursor input}

theorem getElem?_throughEnd (h : c.Inside) :
    (throughEnd input.tokens)[c.position]? = some c.peek := by
  rw [throughEnd_closed]
  cases hleft : c.left with
  | nil =>
    have hposition := position_of_atEnd h (atEnd_of_left_nil h hleft)
    rw [hposition, List.getElem?_concat_length, peek_of_left_nil h hleft]
  | cons t rest =>
    have hget := getElem?_of_left_cons hleft
    obtain ⟨hlt, _⟩ := List.getElem?_eq_some_iff.mp hget
    rw [List.getElem?_append_left hlt, hget, (peek_of_left_cons hleft).1]

theorem atEnd_statements (c : Cursor input) : c.statements.2.atEnd = true := by
  fun_induction statements c with
  | case1 c hend => exact hend
  | case2 c hend s more ih => exact ih

end Cursor

/-! ### The text of a closing token -/

/-- Steps whose faults may differ, but not in what is shown of them. -/
structure Step.ShownAlike {α : Type} (s s' : Step α) : Prop where
  value : s.value = s'.value
  shown : s.faults.map SyntaxFault.toDiagnostic = s'.faults.map SyntaxFault.toDiagnostic
  rest : s.rest = s'.rest

theorem Step.ShownAlike.refl {α : Type} (s : Step α) : s.ShownAlike s :=
  ⟨rfl, rfl, rfl⟩

theorem toDiagnostic_congr {f g : SyntaxFault} (hline : f.token.line = g.token.line)
    (hmessage : f.message = g.message) : f.toDiagnostic = g.toDiagnostic := by
  rw [SyntaxFault.toDiagnostic, SyntaxFault.toDiagnostic, hline, hmessage]

section Text

variable {closing closing' : Token} (hend : closing.isEnd = true) (hend' : closing'.isEnd = true)
  (hline : closing.line = closing'.line)
include hend hend' hline

/-- Of a closing token only the line is shown, in whatever fault. -/
theorem toDiagnostic_closing :
    (SyntaxFault.expectedIdentifier closing).toDiagnostic =
        (SyntaxFault.expectedIdentifier closing').toDiagnostic ∧
      (SyntaxFault.expectedLiteral closing).toDiagnostic =
        (SyntaxFault.expectedLiteral closing').toDiagnostic ∧
      (SyntaxFault.missingSemicolon closing).toDiagnostic =
        (SyntaxFault.missingSemicolon closing').toDiagnostic := by
  have hmention : closing.mention = closing'.mention := by
    rw [Token.mention, Token.mention, if_pos hend, if_pos hend']
  refine ⟨?_, ?_, ?_⟩
  · exact toDiagnostic_congr hline (congrArg (_ ++ ·) hmention)
  · exact toDiagnostic_congr hline (congrArg (_ ++ ·) hmention)
  · exact toDiagnostic_congr hline rfl

theorem shownAlike_readInitializer (ts : List Token) :
    (readInitializer closing ts).ShownAlike (readInitializer closing' ts) := by
  obtain ⟨_, hliteral, _⟩ := toDiagnostic_closing hend hend' hline
  cases ts with
  | nil => exact .refl _
  | cons t rest =>
    cases rest with
    | nil =>
      by_cases ht : t.kind = .equals
      · simp only [readInitializer, ht, if_true]
        exact ⟨rfl, congrArg (fun d => [d]) hliteral, rfl⟩
      · simp only [readInitializer, ht, if_false]
        exact .refl _
    | cons l after => exact .refl _

theorem shownAlike_readDeclarator (ts : List Token) :
    (readDeclarator closing ts).ShownAlike (readDeclarator closing' ts) := by
  obtain ⟨hidentifier, _⟩ := toDiagnostic_closing hend hend' hline
  cases ts with
  | nil => exact ⟨rfl, congrArg (fun d => [d]) hidentifier, rfl⟩
  | cons t rest =>
    by_cases ht : t.kind = .identifier
    · have hinit := shownAlike_readInitializer hend hend' hline rest
      simp only [readDeclarator, ht, if_true]
      exact ⟨by rw [hinit.value], hinit.shown, hinit.rest⟩
    · simp only [readDeclarator, ht, if_false]
      exact .refl _

theorem shownAlike_readItem (ts : List Token) :
    (readItem closing ts).ShownAlike (readItem closing' ts) := by
  have hd := shownAlike_readDeclarator hend hend' hline ts
  refine ⟨hd.value, ?_, ?_⟩
  · simp only [readItem, List.map_append, hd.shown, hd.rest]
  · simp only [readItem, hd.rest]

theorem shownAlike_readItems (ts : List Token) :
    (readItems closing ts).ShownAlike (readItems closing' ts) := by
  obtain ⟨_, _, hsemicolon⟩ := toDiagnostic_closing hend hend' hline
  fun_induction readItems closing ts with
  | case1 ts item hrest =>
    have hitem := shownAlike_readItem hend hend' hline ts
    rw [readItems_of_rest_eq_nil closing' (hitem.rest.symm.trans hrest)]
    refine ⟨congrArg Option.toList hitem.value, ?_, rfl⟩
    rw [List.map_append, List.map_append, hitem.shown]
    exact congrArg (fun d => _ ++ [d]) hsemicolon
  | case2 ts item t rest hrest hcomma more ih =>
    have hitem := shownAlike_readItem hend hend' hline ts
    rw [readItems_of_comma closing' (hitem.rest.symm.trans hrest) hcomma]
    refine ⟨?_, ?_, ih.rest⟩
    · rw [← hitem.value, ← ih.value]
    · rw [List.map_append, List.map_append, hitem.shown, ih.shown]
  | case3 ts item t rest hrest hcomma =>
    have hitem := shownAlike_readItem hend hend' hline ts
    rw [readItems_of_not_comma closing' (hitem.rest.symm.trans hrest) hcomma]
    exact ⟨congrArg Option.toList hitem.value, hitem.shown, rfl⟩

theorem readStatements_closing (ts : List Token) :
    (readStatements closing ts).declarations = (readStatements closing' ts).declarations ∧
      (readStatements closing ts).errors = (readStatements closing' ts).errors := by
  fun_induction readStatements closing ts with
  | case1 => simp [readStatements, Reading.errors]
  | case2 t rest ht items more ih =>
    have hitems := shownAlike_readItems hend hend' hline rest
    obtain ⟨hdeclarations, herrors⟩ := ih
    rw [readStatements_of_typeName closing' rest ht, ← hitems.rest, ← hitems.value]
    simp only [Reading.errors, List.map_append, ← hitems.shown] at herrors ⊢
    exact ⟨congrArg (_ ++ ·) hdeclarations, congrArg (_ ++ ·) herrors⟩
  | case3 t rest ht more ih =>
    obtain ⟨hdeclarations, herrors⟩ := ih
    rw [readStatements, if_neg ht]
    exact ⟨hdeclarations, congrArg (_ :: ·) herrors⟩

end Text
/-! ### Readings of the same tokens -/

theorem read_throughEnd (ts : List Token) : read (throughEnd ts) = read ts := by
  obtain ⟨hbefore, hclosing⟩ := beforeEnd_closing_throughEnd ts
  rw [read, read, hbefore, hclosing]

theorem read_eq_of_throughEnd_eq (h : throughEnd us = throughEnd ts) : read us = read ts := by
  rw [← read_throughEnd us, h, read_throughEnd]

theorem read_concat_closing {closing : Token} (h : ∀ t ∈ ts, t.isEnd = false)
    (hend : closing.isEnd = true) (hline : closing.line = (ts.getLast?.map Token.line).getD 1) :
    (read ts).declarations = (read (ts ++ [closing])).declarations ∧
      (read ts).errors = (read (ts ++ [closing])).errors := by
  obtain ⟨hbefore, hclosing⟩ := beforeEnd_closing_append h hend []
  rw [read, read, hbefore, hclosing, beforeEnd_eq_self h, closing_eq_endAt h]
  exact readStatements_closing (isEnd_endAt _) hend hline.symm ts

/-- The first closing token is a hard stop, and there need not be one. Wherever a reading takes the
cursor, it sees the token at its place among those up to and including the first closing one, and it
stops there. So lists that agree on these tokens have the same declarations and the same faults, and
whatever stands behind a closing token is never noticed. A list without any is read as if it were
closed on the line of its last token, by a closing token of any text. -/
theorem read_stopsAtEnd (ts : List Token) :
    readByCursor ts = read ts ∧
    (let input := Closed.ofTokens ts
      let start := Cursor.start input
      (∀ c, start.Moves c → (throughEnd input.tokens)[c.position]? = some c.peek) ∧
      start.Moves start.statements.2 ∧ start.statements.2.peek = Token.closing ts) ∧
    (∀ us, throughEnd us = throughEnd ts → readByCursor us = readByCursor ts) ∧
    ((∃ t ∈ ts, t.isEnd = true) → ∀ unread, readByCursor (ts ++ unread) = readByCursor ts) ∧
    ((∀ t ∈ ts, t.isEnd = false) → ∀ closing : Token, closing.isEnd = true →
      closing.line = (ts.getLast?.map Token.line).getD 1 →
      (readByCursor ts).declarations = (readByCursor (ts ++ [closing])).declarations ∧
        (readByCursor ts).errors = (readByCursor (ts ++ [closing])).errors) := by
  have hinside := Cursor.inside_start (Closed.ofTokens ts)
  have hmoves := Cursor.moves_statements (Cursor.start (Closed.ofTokens ts))
  simp only [readByCursor_eq_read]
  refine ⟨trivial, ⟨?_, hmoves, ?_⟩, ?_, ?_, ?_⟩
  · intro c hc
    exact Cursor.getElem?_throughEnd (hc.inside hinside)
  · rw [← (closed_ofTokens ts).2]
    exact Cursor.peek_of_left_nil (hmoves.inside hinside)
      (Cursor.left_eq_nil_of_atEnd (Cursor.atEnd_statements _))
  · intro us hus
    exact read_eq_of_throughEnd_eq hus
  · intro hend unread
    exact read_eq_of_throughEnd_eq (throughEnd_append hend unread)
  · intro hopen closing hend hline
    exact read_concat_closing hopen hend hline

/-- Two closing tokens with tokens behind each of them, a list that goes on otherwise behind the
first one, and a list without any, closed by a token that has a text. -/
theorem read_stopsAtEnd_twoEnds :
    let seen : List Token := [⟨.typeName, "int", 1⟩, ⟨.identifier, "a", 1⟩, ⟨.endOfInput, "", 2⟩]
    let ts := seen ++ [⟨.semicolon, ";", 2⟩, ⟨.endOfInput, "", 3⟩, ⟨.equals, "=", 3⟩]
    let us := seen ++ [⟨.comma, ",", 9⟩]
    let unclosed : List Token := [⟨.typeName, "int", 1⟩, ⟨.identifier, "a", 4⟩]
    let closing : Token := ⟨.endOfInput, "stop", 4⟩
    throughEnd us = throughEnd ts ∧ (∃ t ∈ ts, t.isEnd = true) ∧
      (∀ t ∈ unclosed, t.isEnd = false) ∧ closing.isEnd = true ∧
      closing.line = (unclosed.getLast?.map Token.line).getD 1 ∧
      readByCursor us = readByCursor ts ∧ readByCursor (ts ++ unclosed) = readByCursor ts ∧
      (readByCursor unclosed).declarations = (readByCursor (unclosed ++ [closing])).declarations ∧
      (readByCursor unclosed).errors = (readByCursor (unclosed ++ [closing])).errors := by
  intro seen ts us unclosed closing
  have hseen : throughEnd us = throughEnd ts := by decide
  have hend : ∃ t ∈ ts, t.isEnd = true := by decide
  have hopen : ∀ t ∈ unclosed, t.isEnd = false := by decide
  have hline : closing.line = (unclosed.getLast?.map Token.line).getD 1 := by decide
  obtain ⟨_, _, hsame, hunread, _⟩ := read_stopsAtEnd ts
  obtain ⟨_, _, _, _, hclose⟩ := read_stopsAtEnd unclosed
  exact ⟨hseen, hend, hopen, rfl, hline, hsame us hseen, hunread hend unclosed,
    hclose hopen closing rfl hline⟩

end DeclLang.Declaration
