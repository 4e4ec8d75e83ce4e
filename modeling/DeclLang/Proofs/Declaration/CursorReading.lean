import DeclLang.Declaration.Cursor
import DeclLang.Proofs.Declaration.FaultFree

/-!
# Reading with a cursor

A reader with a cursor reads what a reader does that passes on the tokens it has left. The two go in
step as long as the cursor is not beyond the first closing token: the tokens left are then those
between the cursor and that token, and what the cursor sees is the first of them or, when there are
none, the closing token itself. No move takes the cursor further, so the tokens behind the first
closing token are never seen.
-/

set_option autoImplicit false

namespace DeclLang.Declaration

open Token

/-! ### Closed tokens -/

theorem exists_first_end (ts : List Token) :
    (∃ front t unread, ts = front ++ t :: unread ∧ (∀ u ∈ front, u.isEnd = false) ∧
      t.isEnd = true) ∨ ∀ t ∈ ts, t.isEnd = false := by
  cases hfind : ts.find? isEnd with
  | none =>
    refine Or.inr fun t ht => ?_
    simpa using List.find?_eq_none.mp hfind t ht
  | some t =>
    obtain ⟨hend, front, unread, hts, hfront⟩ := List.find?_eq_some_iff_append.mp hfind
    exact Or.inl ⟨front, t, unread, hts, fun u hu => by simpa using hfront u hu, hend⟩

/-- From the first closing token on, tokens do not matter. -/
theorem beforeEnd_closing_append {front : List Token} {t : Token}
    (hfront : ∀ u ∈ front, u.isEnd = false) (ht : t.isEnd = true) (unread : List Token) :
    beforeEnd (front ++ t :: unread) = front ∧ Token.closing (front ++ t :: unread) = t := by
  constructor
  · apply beforeEnd_append hfront
    rintro u hu
    rwa [← Option.some.inj hu]
  · rw [closing_append hfront (List.cons_ne_nil t unread), closing_cons_of_isEnd ht]

theorem closing_eq_endAt {ts : List Token} (h : ∀ t ∈ ts, t.isEnd = false) :
    Token.closing ts = endAt ((ts.getLast?.map Token.line).getD 1) := by
  rw [Token.closing, find?_isEnd_eq_none h]
  rfl

/-- Closed tokens are those before the end, the closing token and tokens that are never read. -/
theorem Closed.exists_split (input : Closed) :
    ∃ unread, input.tokens = beforeEnd input.tokens ++ Token.closing input.tokens :: unread := by
  rcases exists_first_end input.tokens with ⟨front, t, unread, htokens, hfront, ht⟩ | hnone
  · obtain ⟨hbefore, hclosing⟩ := beforeEnd_closing_append hfront ht unread
    rw [htokens, hbefore, hclosing]
    exact ⟨unread, rfl⟩
  · obtain ⟨last, hlast, hend⟩ := (Option.any_eq_true _ _).mp input.closed
    rw [hnone last (List.mem_of_getLast? hlast)] at hend
    cases hend

/-- A closing token that is added changes neither the tokens before the end nor the first closing
token. -/
theorem closed_ofTokens (ts : List Token) :
    beforeEnd (Closed.ofTokens ts).tokens = beforeEnd ts ∧
      Token.closing (Closed.ofTokens ts).tokens = Token.closing ts := by
  unfold Closed.ofTokens
  split
  · exact ⟨rfl, rfl⟩
  · rcases exists_first_end ts with ⟨front, t, unread, rfl, hfront, ht⟩ | hnone
    · obtain ⟨hbefore, hclosing⟩ := beforeEnd_closing_append hfront ht unread
      rw [hbefore, hclosing]
      simp only [List.append_assoc, List.cons_append]
      exact beforeEnd_closing_append hfront ht _
    · rw [beforeEnd_eq_self hnone, closing_eq_endAt hnone]
      exact beforeEnd_closing_append hnone (isEnd_endAt _) []

namespace Cursor

variable {input : Closed}

/-- The tokens between the cursor and the first closing token. -/
def left (c : Cursor input) : List Token :=
  (beforeEnd input.tokens).drop c.position

/-- The cursor is not beyond the first closing token. -/
def Inside (c : Cursor input) : Prop :=
  c.position ≤ (beforeEnd input.tokens).length

/-- A step with a cursor and a step on the tokens left do the same. -/
structure Agrees {α : Type} (c : Cursor input) (out : α × Cursor input) (s : Step α) : Prop where
  value : out.1 = s.value
  faults : out.2.faults = c.faults ++ s.faults
  left : out.2.left = s.rest

theorem inside_start (input : Closed) : (start input).Inside :=
  Nat.zero_le _

variable {c : Cursor input} {t : Token} {rest : List Token}

/-! ### What the cursor sees -/

theorem peek_eq_of_getElem? (h : input.tokens[c.position]? = some t) : c.peek = t := by
  obtain ⟨hlt, hget⟩ := List.getElem?_eq_some_iff.mp h
  have hmin : min c.position (input.tokens.length - 1) = c.position := by omega
  simp only [peek, hmin, hget]

theorem peek_of_left_nil (h : c.Inside) (hleft : c.left = []) :
    c.peek = Token.closing input.tokens := by
  obtain ⟨unread, htokens⟩ := input.exists_split
  have hposition : c.position = (beforeEnd input.tokens).length :=
    Nat.le_antisymm h (List.drop_eq_nil_iff.mp hleft)
  have hget : (beforeEnd input.tokens ++ Token.closing input.tokens :: unread)[c.position]? =
      some (Token.closing input.tokens) := by
    rw [hposition, List.getElem?_append_right (Nat.le_refl _), Nat.sub_self]
    rfl
  rw [← htokens] at hget
  exact peek_eq_of_getElem? hget

theorem kind_closing (input : Closed) : (Token.closing input.tokens).kind = .endOfInput := by
  simpa [isEnd] using isEnd_closing input.tokens

theorem atEnd_of_left_nil (h : c.Inside) (hleft : c.left = []) : c.atEnd = true := by
  rw [atEnd, peek_of_left_nil h hleft]
  exact isEnd_closing input.tokens

theorem getElem?_of_left_cons (hleft : c.left = t :: rest) :
    (beforeEnd input.tokens)[c.position]? = some t := by
  rw [← List.head?_drop]
  exact congrArg List.head? hleft

theorem peek_of_left_cons (hleft : c.left = t :: rest) : c.peek = t ∧ c.atEnd = false := by
  obtain ⟨unread, htokens⟩ := input.exists_split
  have hget := getElem?_of_left_cons hleft
  obtain ⟨hlt, _⟩ := List.getElem?_eq_some_iff.mp hget
  have hpeek : c.peek = t := by
    apply peek_eq_of_getElem?
    rw [htokens, List.getElem?_append_left hlt, hget]
  refine ⟨hpeek, ?_⟩
  rw [atEnd, hpeek]
  exact isEnd_of_mem_beforeEnd (List.mem_of_getElem? hget)

/-- The cursor takes no token from the first closing one on. -/
theorem Moves.inside {d : Cursor input} (hmoves : Moves c d) (h : c.Inside) : d.Inside := by
  induction hmoves with
  | refl => exact h
  | @advance d _ ih =>
    cases hend : d.atEnd with
    | true => rwa [Cursor.advance, hend]
    | false =>
      rw [← next_eq_advance hend]
      refine Nat.lt_of_le_of_ne ih fun hposition => ?_
      have hleft : d.left = [] := List.drop_eq_nil_iff.mpr (Nat.le_of_eq hposition.symm)
      rw [atEnd_of_left_nil ih hleft] at hend
      cases hend
  | report _ fault ih => exact ih

theorem left_eq_nil_of_atEnd (hend : c.atEnd = true) : c.left = [] := by
  cases hleft : c.left with
  | nil => rfl
  | cons t rest =>
    rw [(peek_of_left_cons hleft).2] at hend
    cases hend

theorem position_of_atEnd (h : c.Inside) (hend : c.atEnd = true) :
    c.position = (beforeEnd input.tokens).length :=
  Nat.le_antisymm h (List.drop_eq_nil_iff.mp (left_eq_nil_of_atEnd hend))

theorem inside_advance (h : c.Inside) : c.advance.Inside :=
  (Moves.refl c).advance.inside h

theorem left_next_of_left_cons (hleft : c.left = t :: rest) : c.next.left = rest := by
  have hdrop := congrArg List.tail hleft
  rwa [left, List.tail_drop] at hdrop

theorem advance_of_left_cons (hleft : c.left = t :: rest) :
    c.advance.left = rest ∧ c.advance.faults = c.faults := by
  rw [← next_eq_advance (peek_of_left_cons hleft).2]
  exact ⟨left_next_of_left_cons hleft, rfl⟩

/-! ### Moves and steps -/

theorem skipUntil_eq_dropWhile (stop : Token → Bool) (h : c.Inside) :
    (c.skipUntil stop).left = c.left.dropWhile (!stop ·) ∧
      (c.skipUntil stop).faults = c.faults := by
  fun_induction skipUntil stop c with
  | case1 c hstop =>
    refine ⟨?_, rfl⟩
    cases hleft : c.left with
    | nil => rfl
    | cons t rest =>
      obtain ⟨hpeek, hend⟩ := peek_of_left_cons hleft
      rw [hpeek, hend, Bool.false_or] at hstop
      rw [List.dropWhile_cons_of_neg (by simp [hstop])]
  | case2 c hgo ih =>
    cases hleft : c.left with
    | nil => exact absurd (by rw [atEnd_of_left_nil h hleft, Bool.true_or]) hgo
    | cons t rest =>
      obtain ⟨hpeek, hend⟩ := peek_of_left_cons hleft
      have hinside : c.next.Inside := by
        rw [next_eq_advance hend]
        exact inside_advance h
      have hskip := ih hinside
      rw [hpeek, hend, Bool.false_or] at hgo
      rw [left_next_of_left_cons hleft] at hskip
      rw [List.dropWhile_cons_of_pos (by simpa using hgo)]
      exact hskip

theorem agrees_initializer (h : c.Inside) :
    Agrees c c.initializer (readInitializer (Token.closing input.tokens) c.left) := by
  unfold initializer
  cases hleft : c.left with
  | nil =>
    have hpeek := peek_of_left_nil h hleft
    rw [if_neg (by simp [hpeek, kind_closing])]
    exact ⟨rfl, (List.append_nil _).symm, hleft⟩
  | cons t rest =>
    have hpeek := (peek_of_left_cons hleft).1
    obtain ⟨hadvance, hfaults⟩ := advance_of_left_cons hleft
    rw [hpeek]
    by_cases ht : t.kind = .equals
    · rw [if_pos ht]
      cases rest with
      | nil =>
        have hvalue := peek_of_left_nil (inside_advance h) hadvance
        simp only [hvalue, kind_closing, Kind.isLiteral, Bool.false_eq_true, if_false,
          readInitializer, ht, if_true]
        exact ⟨rfl, congrArg (· ++ _) hfaults, hadvance⟩
      | cons value after =>
        have hvalue := (peek_of_left_cons hadvance).1
        obtain ⟨hmore, hmoreFaults⟩ := advance_of_left_cons hadvance
        simp only [hvalue, readInitializer, ht, if_true]
        split
        · exact ⟨rfl, by rw [hmoreFaults, hfaults, List.append_nil], hmore⟩
        · exact ⟨rfl, congrArg (· ++ _) hfaults, hadvance⟩
    · simp only [readInitializer, ht, if_false]
      exact ⟨rfl, (List.append_nil _).symm, hleft⟩

theorem agrees_declarator (h : c.Inside) :
    Agrees c c.declarator (readDeclarator (Token.closing input.tokens) c.left) := by
  unfold declarator
  cases hleft : c.left with
  | nil =>
    have hpeek := peek_of_left_nil h hleft
    obtain ⟨hskip, hfaults⟩ :=
      skipUntil_eq_dropWhile isDelimiter (c := c.report (.expectedIdentifier c.peek)) h
    simp only [hpeek, kind_closing, reduceCtorEq, if_false] at hskip hfaults ⊢
    refine ⟨rfl, hfaults, hskip.trans ?_⟩
    exact congrArg (List.dropWhile _) hleft
  | cons t rest =>
    have hpeek := (peek_of_left_cons hleft).1
    simp only [hpeek, readDeclarator]
    split
    · obtain ⟨hadvance, hfaults⟩ := advance_of_left_cons hleft
      have hinit := agrees_initializer (inside_advance h)
      rw [hadvance] at hinit
      exact ⟨by rw [hinit.value], by rw [hinit.faults, hfaults], hinit.left⟩
    · obtain ⟨hskip, hfaults⟩ :=
        skipUntil_eq_dropWhile isDelimiter (c := c.report (.expectedIdentifier t)) h
      exact ⟨rfl, hfaults, hskip.trans (congrArg (List.dropWhile _) hleft)⟩

theorem agrees_item (h : c.Inside) :
    Agrees c c.item (readItem (Token.closing input.tokens) c.left) := by
  have hd := agrees_declarator h
  have hinside := (moves_declarator c).inside h
  unfold item readItem
  dsimp only
  rw [← hd.left]
  cases hleft : c.declarator.2.left with
  | nil =>
    have hend := atEnd_of_left_nil hinside hleft
    rw [hend, Bool.or_true, if_pos rfl]
    refine ⟨hd.value, ?_, hleft⟩
    rw [hd.faults]
    exact congrArg (_ ++ ·) (List.append_nil _).symm
  | cons t rest =>
    obtain ⟨hpeek, hend⟩ := peek_of_left_cons hleft
    rw [hpeek, hend, Bool.or_false]
    cases ht : t.isDelimiter with
    | true =>
      refine ⟨hd.value, ?_, ?_⟩
      · simp [strayFault, ht, hd.faults]
      · rw [fromDelimiter, List.dropWhile_cons_of_neg (by simp [ht])]
        exact hleft
    | false =>
      obtain ⟨hskip, hfaults⟩ :=
        skipUntil_eq_dropWhile isDelimiter (c := c.declarator.2.report (.unexpected t)) hinside
      rw [if_neg Bool.false_ne_true]
      refine ⟨hd.value, ?_, ?_⟩
      · refine hfaults.trans ?_
        rw [report, hd.faults, List.append_assoc]
        simp [strayFault, ht]
      · exact hskip.trans (congrArg (List.dropWhile _) hleft)

theorem agrees_items (h : c.Inside) :
    Agrees c c.items (readItems (Token.closing input.tokens) c.left) := by
  fun_induction items c with
  | case1 c i hcomma more ih =>
    have hitem := agrees_item h
    have hinside := (moves_item c).inside h
    cases hleft : c.item.2.left with
    | nil =>
      rw [peek_of_left_nil hinside hleft, kind_closing] at hcomma
      cases hcomma
    | cons t rest =>
      obtain ⟨hadvance, hfaults⟩ := advance_of_left_cons hleft
      have hmore := ih (inside_advance hinside)
      rw [hadvance] at hmore
      rw [(peek_of_left_cons hleft).1] at hcomma
      rw [readItems_of_comma _ (hitem.left.symm.trans hleft) hcomma]
      refine ⟨?_, ?_, hmore.left⟩
      · rw [← hitem.value, ← hmore.value]
      · rw [hmore.faults, hfaults, hitem.faults, List.append_assoc]
  | case2 c i hcomma hsemicolon =>
    have hitem := agrees_item h
    cases hleft : c.item.2.left with
    | nil =>
      rw [peek_of_left_nil ((moves_item c).inside h) hleft, kind_closing] at hsemicolon
      cases hsemicolon
    | cons t rest =>
      obtain ⟨hadvance, hfaults⟩ := advance_of_left_cons hleft
      rw [(peek_of_left_cons hleft).1] at hcomma
      rw [readItems_of_not_comma _ (hitem.left.symm.trans hleft) hcomma]
      exact ⟨congrArg Option.toList hitem.value, hfaults.trans hitem.faults, hadvance⟩
  | case3 c i hcomma hsemicolon =>
    have hitem := agrees_item h
    cases hleft : c.item.2.left with
    | nil =>
      have hpeek := peek_of_left_nil ((moves_item c).inside h) hleft
      rw [readItems_of_rest_eq_nil _ (hitem.left.symm.trans hleft)]
      refine ⟨congrArg Option.toList hitem.value, ?_, hleft⟩
      rw [← List.append_assoc, ← hitem.faults, ← hpeek]
      rfl
    | cons t rest =>
      -- What is left behind an item starts with a delimiter, so these are all cases.
      have hstart : StartsDelimited (t :: rest) := by
        rw [← hleft, hitem.left]
        exact startsDelimited_fromDelimiter _
      rw [show i.2.peek = t from (peek_of_left_cons hleft).1] at hcomma hsemicolon
      rcases isDelimiter_iff.mp (startsDelimited_cons_iff.mp hstart) with hk | hk
      · exact absurd hk hcomma
      · exact absurd hk hsemicolon

theorem agrees_declaration (h : c.Inside) (hleft : c.left = t :: rest) :
    Agrees c c.declaration
      (if t.kind = .typeName then
        ⟨ofItems t (readItems (Token.closing input.tokens) rest).value,
          (readItems (Token.closing input.tokens) rest).faults,
          (readItems (Token.closing input.tokens) rest).rest⟩
      else ⟨[], [.expectedType t], rest⟩) := by
  obtain ⟨hpeek, _⟩ := peek_of_left_cons hleft
  unfold declaration
  rw [hpeek]
  by_cases ht : t.kind = .typeName
  · obtain ⟨hadvance, hfaults⟩ := advance_of_left_cons hleft
    have hitems := agrees_items (inside_advance h)
    rw [hadvance] at hitems
    simp only [ht, if_true]
    exact ⟨by rw [hitems.value], by rw [hitems.faults, hfaults], hitems.left⟩
  · have hreport : (c.report (.expectedType t)).left = t :: rest := hleft
    obtain ⟨hadvance, hfaults⟩ := advance_of_left_cons hreport
    simp only [ht, if_false]
    exact ⟨rfl, hfaults, hadvance⟩

theorem toNextStatement_eq_nextStatement (h : c.Inside) :
    c.toNextStatement.left = nextStatement c.left ∧ c.toNextStatement.faults = c.faults := by
  unfold toNextStatement
  cases hleft : c.left with
  | nil =>
    rw [atEnd_of_left_nil h hleft, Bool.true_or, if_pos rfl]
    exact ⟨hleft, rfl⟩
  | cons t rest =>
    obtain ⟨hpeek, hend⟩ := peek_of_left_cons hleft
    rw [hpeek, hend, Bool.false_or, nextStatement]
    by_cases ht : t.kind = .typeName
    · rw [if_pos (by simp [ht]), if_pos ht]
      exact ⟨hleft, rfl⟩
    · rw [if_neg (by simp [ht]), if_neg ht]
      obtain ⟨hskip, hfaults⟩ := skipUntil_eq_dropWhile (·.kind == .semicolon) h
      rw [hleft] at hskip
      change _ = (t :: rest).dropWhile (·.kind != .semicolon) at hskip
      rw [← hskip, take]
      cases hbehind : (c.skipUntil (·.kind == .semicolon)).left with
      | nil =>
        rw [if_neg (by simp [peek_of_left_nil ((moves_skipUntil _ c).inside h) hbehind,
          kind_closing])]
        exact ⟨hbehind, hfaults⟩
      | cons semicolon after =>
        have hs := List.head?_dropWhile_not (fun t : Token => t.kind != .semicolon) (t :: rest)
        rw [← hskip, hbehind] at hs
        obtain ⟨hadvance, hkept⟩ := advance_of_left_cons hbehind
        rw [if_pos (by simpa [(peek_of_left_cons hbehind).1] using hs)]
        exact ⟨hadvance, hkept.trans hfaults⟩

theorem agrees_statement (h : c.Inside) (hleft : c.left = t :: rest) :
    Agrees c c.statement
      (if t.kind = .typeName then
        ⟨ofItems t (readItems (Token.closing input.tokens) rest).value,
          (readItems (Token.closing input.tokens) rest).faults,
          nextStatement (readItems (Token.closing input.tokens) rest).rest⟩
      else ⟨[], [.expectedType t], nextStatement rest⟩) := by
  have hd := agrees_declaration h hleft
  obtain ⟨hnext, hfaults⟩ := toNextStatement_eq_nextStatement ((moves_declaration c).inside h)
  by_cases ht : t.kind = .typeName
  · simp only [ht, if_true] at hd ⊢
    exact ⟨hd.value, hfaults.trans hd.faults, hnext.trans (congrArg _ hd.left)⟩
  · simp only [ht, if_false] at hd ⊢
    exact ⟨hd.value, hfaults.trans hd.faults, hnext.trans (congrArg _ hd.left)⟩

theorem statements_eq_readStatements (h : c.Inside) :
    c.statements.1 = (readStatements (Token.closing input.tokens) c.left).declarations ∧
      c.statements.2.faults =
        c.faults ++ (readStatements (Token.closing input.tokens) c.left).faults := by
  fun_induction statements c with
  | case1 c hend =>
    rw [left_eq_nil_of_atEnd hend]
    simp [readStatements]
  | case2 c hend s more ih =>
    cases hleft : c.left with
    | nil => exact absurd (atEnd_of_left_nil h hleft) hend
    | cons t rest =>
      have hs := agrees_statement h hleft
      obtain ⟨hvalue, hfaults⟩ := ih ((moves_statement c).inside h)
      rw [hs.left] at hvalue hfaults
      by_cases ht : t.kind = .typeName
      · simp only [ht, if_true] at hs hvalue hfaults
        rw [readStatements_of_typeName _ _ ht]
        constructor
        · rw [← hvalue]
          exact congrArg (· ++ _) hs.value
        · rw [hfaults, hs.faults, List.append_assoc]
      · simp only [ht, if_false] at hs hvalue hfaults
        rw [readStatements, if_neg ht]
        constructor
        · rw [← hvalue]
          exact congrArg (· ++ _) hs.value
        · rw [hfaults, hs.faults, List.append_assoc]
          rfl

end Cursor

/-- A reader with a cursor reads what is read by passing on the tokens left. -/
theorem readByCursor_eq_read (ts : List Token) : readByCursor ts = read ts := by
  obtain ⟨hvalue, hfaults⟩ :=
    Cursor.statements_eq_readStatements (Cursor.inside_start (Closed.ofTokens ts))
  obtain ⟨hbefore, hclosing⟩ := closed_ofTokens ts
  have hleft : (Cursor.start (Closed.ofTokens ts)).left = beforeEnd ts := hbefore
  rw [hleft, hclosing] at hvalue hfaults
  rw [readByCursor, hvalue, hfaults]
  rfl

end DeclLang.Declaration
