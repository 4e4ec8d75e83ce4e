import DeclLang.Proofs.Declaration.Statements

/-!
# Declarations are read item by item

The tokens behind a type name, up to the semicolon or the end of the input, fall at their commas
into items. What an item reads as, and its faults, depend on its own tokens and its delimiter, and
reading a declaration is reading its items one after the other: whatever is wrong with one of them,
the items beside it read as they would without it.

The errors of an item are stated once as faults, which carry the token they were noticed at, and
once as what a report shows of them: a line and a text that names the token. Which tokens are given
up between two declarations is no subject here.
-/

set_option autoImplicit false

namespace DeclLang.Declaration

open Token

/-- An item of a declaration: its tokens and the delimiter behind them. -/
structure Item where
  tokens : List Token
  delimiter : Token
  deriving DecidableEq, Repr

namespace Item

/-- The initializer and the faults of the tokens behind a name, with their delimiter. -/
def initializerOf (delimiter : Token) : List Token → Option Initializer × List SyntaxFault
  | [] => (none, [])
  | mark :: rest =>
    if mark.kind = .equals then
      match rest with
      | [] => (none, [.expectedLiteral delimiter])
      | value :: rest =>
        if value.kind.isLiteral then
          (some ⟨value.kind, value.lexeme, value.line⟩, (rest.head?.map .unexpected).toList)
        else (none, [.expectedLiteral value, .unexpected value])
    else (none, [.unexpected mark])

/-- The declarator and the faults of an item. -/
def reading (i : Item) : Option Declarator × List SyntaxFault :=
  match i.tokens with
  | [] => (none, [.expectedIdentifier i.delimiter])
  | name :: rest =>
    if name.kind = .identifier then
      let init := initializerOf i.delimiter rest
      (some ⟨name.lexeme, name.line, init.1⟩, init.2)
    else (none, [.expectedIdentifier name])

def declarator? (i : Item) : Option Declarator :=
  i.reading.1

/-- The faults of an item and, where the input ends behind it, the missing semicolon. -/
def faults (i : Item) : List SyntaxFault :=
  i.reading.2 ++ if i.delimiter.isEnd then [.missingSemicolon i.delimiter] else []

/-! ### The errors in words -/

/-- A token of a declaration as messages name it. -/
def quoted (t : Token) : String :=
  "'" ++ t.lexeme ++ "'"

/-- A delimiter as messages name it; the end of the input has no text that could be quoted. -/
def delimiterText (delimiter : Token) : String :=
  if delimiter.isEnd then "end of input" else quoted delimiter

def unexpectedError (t : Token) : Diagnostic :=
  ⟨.syntactic, t.line, "Unexpected token " ++ quoted t⟩

/-- The errors of the tokens behind a name, with their delimiter. -/
def initializerErrors (delimiter : Token) : List Token → List Diagnostic
  | [] => []
  | mark :: rest =>
    if mark.kind = .equals then
      match rest with
      | [] =>
        [⟨.syntactic, delimiter.line, "Expected literal but found " ++ delimiterText delimiter⟩]
      | value :: rest =>
        if value.kind.isLiteral then (rest.head?.map unexpectedError).toList
        else
          [⟨.syntactic, value.line, "Expected literal but found " ++ quoted value⟩,
            unexpectedError value]
    else [unexpectedError mark]

def readingErrors (i : Item) : List Diagnostic :=
  match i.tokens with
  | [] =>
    [⟨.syntactic, i.delimiter.line,
      "Expected identifier but found " ++ delimiterText i.delimiter⟩]
  | name :: rest =>
    if name.kind = .identifier then initializerErrors i.delimiter rest
    else [⟨.syntactic, name.line, "Expected identifier but found " ++ quoted name⟩]

/-- The errors of an item and, where the input ends behind it, that of the missing semicolon. -/
def errors (i : Item) : List Diagnostic :=
  i.readingErrors ++
    if i.delimiter.isEnd then
      [⟨.syntactic, i.delimiter.line, "Unexpected end of input; missing ';'"⟩]
    else []

end Item

/-- The items that tokens start with, up to a semicolon or else to the given closing token. -/
def itemsOf (closing : Token) (ts : List Token) : List Item :=
  let body := ts.takeWhile (·.kind != .semicolon)
  let last := (ts.dropWhile (·.kind != .semicolon)).head?.getD closing
  (body.splitOnP (·.kind == .comma)).zipWith Item.mk (body.filter (·.kind == .comma) ++ [last])

/-- What stands behind the first semicolon. -/
def behindSemicolon (ts : List Token) : List Token :=
  (ts.dropWhile (·.kind != .semicolon)).drop 1

/-- Tokens that no delimiter is among. -/
def Undelimited (ts : List Token) : Prop :=
  ∀ t ∈ ts, t.isDelimiter = false

variable {front back : List Token}

theorem Undelimited.tail {t : Token} (h : Undelimited (t :: front)) : Undelimited front :=
  fun u hu => h u (List.mem_cons_of_mem t hu)

theorem Undelimited.kind_ne {t : Token} (h : Undelimited front) (ht : t ∈ front) :
    t.kind ≠ .comma ∧ t.kind ≠ .semicolon := by
  have hd := h t ht
  simpa [isDelimiter] using hd

/-! ### Splitting tokens into items -/

section Splitting

variable (closing : Token)

theorem Undelimited.splitOnP (h : Undelimited front) :
    front.splitOnP (·.kind == .comma) = [front] ∧ front.filter (·.kind == .comma) = [] := by
  have hcomma : ∀ t ∈ front, (t.kind == .comma) = false := by
    intro t ht
    simpa using (h.kind_ne ht).1
  refine ⟨List.splitOnP_eq_singleton hcomma, List.filter_eq_nil_iff.mpr ?_⟩
  intro t ht
  rw [hcomma t ht]
  decide

theorem Undelimited.bne_semicolon (h : Undelimited front) :
    ∀ t ∈ front, (t.kind != .semicolon) = true := by
  intro t ht
  simpa using (h.kind_ne ht).2

/-- A comma ends an item, and the items behind it are those of the tokens behind it. -/
theorem itemsOf_of_comma (h : Undelimited front) {comma : Token} (hcomma : comma.kind = .comma)
    (back : List Token) :
    itemsOf closing (front ++ comma :: back) = ⟨front, comma⟩ :: itemsOf closing back := by
  have hbody : (front ++ comma :: back).takeWhile (·.kind != .semicolon) =
      front ++ comma :: back.takeWhile (·.kind != .semicolon) := by
    simp [List.takeWhile_append_of_pos h.bne_semicolon, hcomma]
  have hafter : (front ++ comma :: back).dropWhile (·.kind != .semicolon) =
      back.dropWhile (·.kind != .semicolon) := by
    simp [List.dropWhile_append_of_pos h.bne_semicolon, hcomma]
  have hsplit := List.splitOnP_append_cons_of_forall_mem (p := fun t : Token => t.kind == .comma)
    (fun t ht => by simpa using (h.kind_ne ht).1) comma (by simp [hcomma])
    (back.takeWhile (·.kind != .semicolon))
  simp only [itemsOf, hbody, hafter, hsplit, List.filter_append, h.splitOnP.2]
  simp [hcomma]

theorem itemsOf_of_semicolon (h : Undelimited front) {semicolon : Token}
    (hs : semicolon.kind = .semicolon) (back : List Token) :
    itemsOf closing (front ++ semicolon :: back) = [⟨front, semicolon⟩] := by
  obtain ⟨hsplit, hfilter⟩ := h.splitOnP
  simp [itemsOf, List.takeWhile_append_of_pos h.bne_semicolon,
    List.dropWhile_append_of_pos h.bne_semicolon, hs, hsplit, hfilter]

theorem itemsOf_of_end (h : Undelimited front) : itemsOf closing front = [⟨front, closing⟩] := by
  obtain ⟨hsplit, hfilter⟩ := h.splitOnP
  have hdrop := List.dropWhile_eq_nil_iff.mpr h.bne_semicolon
  simp [itemsOf, List.takeWhile_eq_self_iff.mpr h.bne_semicolon, hdrop, hsplit, hfilter]

theorem behindSemicolon_of_comma (h : Undelimited front) {comma : Token}
    (hcomma : comma.kind = .comma) (back : List Token) :
    behindSemicolon (front ++ comma :: back) = behindSemicolon back := by
  simp [behindSemicolon, List.dropWhile_append_of_pos h.bne_semicolon, hcomma]

theorem behindSemicolon_of_semicolon (h : Undelimited front) {semicolon : Token}
    (hs : semicolon.kind = .semicolon) (back : List Token) :
    behindSemicolon (front ++ semicolon :: back) = back := by
  simp [behindSemicolon, List.dropWhile_append_of_pos h.bne_semicolon, hs]

theorem behindSemicolon_of_end (h : Undelimited front) : behindSemicolon front = [] := by
  simp [behindSemicolon, List.dropWhile_eq_nil_iff.mpr h.bne_semicolon]

end Splitting

/-! ### Reading one item -/

section Item

variable (closing : Token)

/-- The first of the tokens left over is the fault, and they are given up together. -/
theorem Undelimited.leftover (h : Undelimited front) (hback : StartsDelimited back) :
    strayFault (front ++ back) = (front.head?.map .unexpected).toList ∧
      fromDelimiter (front ++ back) = back := by
  constructor
  · cases front with
    | nil => exact strayFault_eq_nil_iff.mpr hback
    | cons t front => simp [strayFault, h t List.mem_cons_self]
  · have hskip : ∀ t ∈ front, (!t.isDelimiter) = true := by
      intro t ht
      rw [h t ht]
      rfl
    rw [fromDelimiter, List.dropWhile_append_of_pos hskip]
    exact fromDelimiter_of_startsDelimited hback

/-- A delimiter begins neither a name nor an initializer and is no literal. -/
theorem StartsDelimited.kind_ne {t : Token} {ts : List Token} (h : StartsDelimited (t :: ts)) :
    t.kind ≠ .identifier ∧ t.kind.isLiteral = false := by
  rcases isDelimiter_iff.mp (startsDelimited_cons_iff.mp h) with hk | hk <;> rw [hk] <;> decide

theorem readInitializer_eq (h : Undelimited front) (hback : StartsDelimited back) :
    (readInitializer closing (front ++ back)).value =
        (Item.initializerOf (back.head?.getD closing) front).1 ∧
      (readInitializer closing (front ++ back)).faults ++
          strayFault (readInitializer closing (front ++ back)).rest =
        (Item.initializerOf (back.head?.getD closing) front).2 ∧
      fromDelimiter (readInitializer closing (front ++ back)).rest = back := by
  have hnone : strayFault back = [] := strayFault_eq_nil_iff.mpr hback
  have hstay : fromDelimiter back = back := fromDelimiter_of_startsDelimited hback
  cases front with
  | nil =>
    rw [List.nil_append, readInitializer_of_startsDelimited closing hback]
    exact ⟨rfl, hnone, hstay⟩
  | cons mark front =>
    by_cases hmark : mark.kind = .equals
    · cases front with
      | nil =>
        cases back with
        | nil => simp [readInitializer, Item.initializerOf, hmark, strayFault, fromDelimiter]
        | cons t back =>
          simp [readInitializer, Item.initializerOf, hmark, hback.kind_ne.2, hnone, hstay]
      | cons value front =>
        obtain ⟨hstray, hskip⟩ := h.tail.tail.leftover hback
        obtain ⟨hstray', hskip'⟩ := h.tail.leftover hback
        rw [List.cons_append] at hstray' hskip'
        by_cases hvalue : value.kind.isLiteral = true
        · simp [readInitializer, Item.initializerOf, hmark, hvalue, hstray, hskip]
        · simp [readInitializer, Item.initializerOf, hmark, hvalue, hstray', hskip']
    · obtain ⟨hstray, hskip⟩ := h.leftover hback
      rw [List.cons_append] at hstray hskip
      simp [readInitializer, Item.initializerOf, hmark, hstray, hskip]

/-- An item is read on its own, by its tokens and its delimiter. -/
theorem readItem_eq (h : Undelimited front) (hback : StartsDelimited back) :
    readItem closing (front ++ back) =
      ⟨(Item.mk front (back.head?.getD closing)).reading.1,
        (Item.mk front (back.head?.getD closing)).reading.2, back⟩ := by
  have hnone : strayFault back = [] := strayFault_eq_nil_iff.mpr hback
  have hstay : fromDelimiter back = back := fromDelimiter_of_startsDelimited hback
  cases front with
  | nil =>
    cases back with
    | nil => rfl
    | cons t back =>
      simp [readItem, readDeclarator, Item.reading, hback.kind_ne.1, hnone, hstay]
  | cons name front =>
    by_cases hname : name.kind = .identifier
    · obtain ⟨hvalue, hfaults, hrest⟩ := readInitializer_eq closing h.tail hback
      simp [readItem, readDeclarator, Item.reading, hname, hvalue, hfaults, hrest]
    · obtain ⟨_, hskip⟩ := h.leftover hback
      rw [List.cons_append] at hskip
      simp [readItem, readDeclarator, Item.reading, hname, hskip, hnone, hstay]

end Item

/-! ### The errors of one item in words -/

section Wording

variable {t : Token} (h : t.isEnd = false)
include h

theorem mention_eq_quoted : t.mention = Item.quoted t := by
  rw [mention, if_neg (by simp [h])]
  rfl

/-- What is said about a token that does not end the input quotes it. -/
theorem syntactic_mention (front : String) :
    (⟨.syntactic, t.line, front ++ t.mention⟩ : Diagnostic) =
      ⟨.syntactic, t.line, front ++ Item.quoted t⟩ := by
  rw [mention_eq_quoted h]

theorem toDiagnostic_unexpected :
    (SyntaxFault.unexpected t).toDiagnostic = Item.unexpectedError t :=
  syntactic_mention h _

theorem toDiagnostic_expectedLiteral :
    (SyntaxFault.expectedLiteral t).toDiagnostic =
      ⟨.syntactic, t.line, "Expected literal but found " ++ Item.quoted t⟩ :=
  syntactic_mention h _

theorem toDiagnostic_expectedIdentifier :
    (SyntaxFault.expectedIdentifier t).toDiagnostic =
      ⟨.syntactic, t.line, "Expected identifier but found " ++ Item.quoted t⟩ :=
  syntactic_mention h _

end Wording

theorem map_toDiagnostic_initializerOf (delimiter : Token) (h : ∀ t ∈ front, t.isEnd = false) :
    (Item.initializerOf delimiter front).2.map SyntaxFault.toDiagnostic =
      Item.initializerErrors delimiter front := by
  cases front with
  | nil => rfl
  | cons mark front =>
    obtain ⟨hmarkEnd, h⟩ := List.forall_mem_cons.mp h
    by_cases hmark : mark.kind = .equals
    · simp only [Item.initializerOf, Item.initializerErrors, if_pos hmark]
      cases front with
      | nil => rfl
      | cons value front =>
        obtain ⟨hvalueEnd, h⟩ := List.forall_mem_cons.mp h
        by_cases hvalue : value.kind.isLiteral = true
        · simp only [if_pos hvalue]
          cases front with
          | nil => rfl
          | cons t front =>
            have hunexpected := toDiagnostic_unexpected (h t List.mem_cons_self)
            exact congrArg (fun d => [d]) hunexpected
        · simp only [if_neg hvalue, List.map_cons, List.map_nil,
            toDiagnostic_expectedLiteral hvalueEnd, toDiagnostic_unexpected hvalueEnd]
    · simp only [Item.initializerOf, Item.initializerErrors, if_neg hmark, List.map_cons,
        List.map_nil, toDiagnostic_unexpected hmarkEnd]

theorem map_toDiagnostic_reading {i : Item} (h : ∀ t ∈ i.tokens, t.isEnd = false) :
    i.reading.2.map SyntaxFault.toDiagnostic = i.readingErrors := by
  obtain ⟨tokens, delimiter⟩ := i
  cases tokens with
  | nil => rfl
  | cons name rest =>
    obtain ⟨hnameEnd, h⟩ := List.forall_mem_cons.mp h
    by_cases hname : name.kind = .identifier
    · simp only [Item.reading, Item.readingErrors, if_pos hname]
      exact map_toDiagnostic_initializerOf delimiter h
    · simp only [Item.reading, Item.readingErrors, if_neg hname, List.map_cons, List.map_nil,
        toDiagnostic_expectedIdentifier hnameEnd]

/-- The errors of an item are its faults in words. Only its delimiter may be the end of the input. -/
theorem map_toDiagnostic_faults {i : Item} (h : ∀ t ∈ i.tokens, t.isEnd = false) :
    i.faults.map SyntaxFault.toDiagnostic = i.errors := by
  rw [Item.faults, Item.errors, List.map_append, map_toDiagnostic_reading h]
  cases i.delimiter.isEnd <;> rfl

example :
    (Item.mk [⟨.identifier, "c", 2⟩, ⟨.equals, "=", 2⟩] (.endAt 3)).faults.map
        SyntaxFault.toDiagnostic =
      [⟨.syntactic, 3, "Expected literal but found end of input"⟩,
        ⟨.syntactic, 3, "Unexpected end of input; missing ';'"⟩] := by
  decide +kernel

/-! ### Reading all items -/

theorem undelimited_takeWhile (ts : List Token) : Undelimited (ts.takeWhile (!·.isDelimiter)) := by
  intro t ht
  simpa using List.mem_takeWhile_imp ht

/-- Tokens are an item in front of a comma, of a semicolon or of the end. -/
theorem exists_undelimited (ts : List Token) :
    ∃ front, Undelimited front ∧
      (ts = front ∨ (∃ comma back, comma.kind = .comma ∧ ts = front ++ comma :: back) ∨
        ∃ semicolon back, semicolon.kind = .semicolon ∧ ts = front ++ semicolon :: back) := by
  refine ⟨ts.takeWhile (!·.isDelimiter), undelimited_takeWhile ts, ?_⟩
  have happ := List.takeWhile_append_dropWhile (p := fun t : Token => !t.isDelimiter) (l := ts)
  cases hdrop : ts.dropWhile (!·.isDelimiter) with
  | nil =>
    rw [hdrop, List.append_nil] at happ
    exact Or.inl happ.symm
  | cons t back =>
    have ht := List.head?_dropWhile_not (fun t : Token => !t.isDelimiter) ts
    rw [hdrop] at happ ht
    have hd : t.isDelimiter = true := by simpa using ht
    rcases isDelimiter_iff.mp hd with hk | hk
    · exact Or.inr (Or.inl ⟨t, back, hk, happ.symm⟩)
    · exact Or.inr (Or.inr ⟨t, back, hk, happ.symm⟩)

/-- What holds of an item alone and of an item in front of further ones holds of all tokens. -/
theorem items_induction {motive : List Token → Prop}
    (last : ∀ front, Undelimited front → motive front)
    (semicolon : ∀ front semicolon back, Undelimited front → semicolon.kind = .semicolon →
      motive (front ++ semicolon :: back))
    (comma : ∀ front comma back, Undelimited front → comma.kind = .comma → motive back →
      motive (front ++ comma :: back)) (ts : List Token) : motive ts := by
  -- By the number of tokens: behind the comma of the first item there are fewer.
  induction hn : ts.length using Nat.strongRecOn generalizing ts with
  | _ n ih =>
    obtain ⟨front, hfront, rfl | ⟨c, back, hcomma, rfl⟩ | ⟨s, back, hs, rfl⟩⟩ :=
      exists_undelimited ts
    · exact last ts hfront
    · exact comma front c back hfront hcomma (ih back.length (by simp [← hn]; omega) back rfl)
    · exact semicolon front s back hfront hs

/-- An item has no tokens but those that were split. -/
theorem subset_of_mem_itemsOf {closing : Token} {ts : List Token} :
    ∀ i ∈ itemsOf closing ts, i.tokens ⊆ ts := by
  induction ts using items_induction with
  | last front hfront =>
    rw [itemsOf_of_end closing hfront]
    intro i hi
    rw [List.mem_singleton.mp hi]
    exact List.Subset.refl front
  | semicolon front semicolon back hfront hs =>
    rw [itemsOf_of_semicolon closing hfront hs]
    intro i hi
    rw [List.mem_singleton.mp hi]
    exact List.subset_append_left front (semicolon :: back)
  | comma front comma back hfront hcomma ih =>
    rw [itemsOf_of_comma closing hfront hcomma, List.forall_mem_cons]
    refine ⟨List.subset_append_left front (comma :: back), ?_⟩
    intro i hi t ht
    exact List.mem_append_right front (List.mem_cons_of_mem comma (ih i hi ht))

/-- The faults of items, in words, where no token of theirs closes the input. -/
theorem map_toDiagnostic_itemsOf (closing : Token) {ts : List Token}
    (h : ∀ t ∈ ts, t.isEnd = false) :
    ((itemsOf closing ts).flatMap Item.faults).map SyntaxFault.toDiagnostic =
      (itemsOf closing ts).flatMap Item.errors := by
  rw [List.map_flatMap]
  apply List.flatMap_congr
  intro i hi
  exact map_toDiagnostic_faults fun t ht => h t (subset_of_mem_itemsOf i hi ht)

theorem isEnd_eq_false_of_isDelimiter {t : Token} (h : t.isDelimiter = true) : t.isEnd = false := by
  rcases isDelimiter_iff.mp h with hk | hk <;> rw [isEnd, hk] <;> rfl

theorem faults_of_isDelimiter {i : Item} (h : i.delimiter.isDelimiter = true) :
    i.faults = i.reading.2 := by
  simp [Item.faults, isEnd_eq_false_of_isDelimiter h]

theorem filterMap_declarator?_cons (i : Item) (items : List Item) :
    (i :: items).filterMap Item.declarator? =
      i.reading.1.toList ++ items.filterMap Item.declarator? := by
  rw [List.filterMap_cons, Item.declarator?]
  cases i.reading.1 <;> rfl

/-- What is read behind a type name is what its items read as, one after the other. -/
theorem readItems_eq_itemsOf {closing : Token} (hclosing : closing.isEnd = true) (ts : List Token) :
    readItems closing ts =
      ⟨(itemsOf closing ts).filterMap Item.declarator?, (itemsOf closing ts).flatMap Item.faults,
        behindSemicolon ts⟩ := by
  induction ts using items_induction with
  | last front hfront =>
    have hstart : StartsDelimited [] := by simp [StartsDelimited]
    have hitem := readItem_eq closing hfront hstart
    rw [List.append_nil] at hitem
    rw [readItems_of_rest_eq_nil closing (congrArg Step.rest hitem), hitem,
      itemsOf_of_end closing hfront, behindSemicolon_of_end hfront, filterMap_declarator?_cons]
    simp [Item.faults, hclosing]
  | semicolon front semicolon back hfront hs =>
    have hd : semicolon.isDelimiter = true := isDelimiter_iff.mpr (Or.inr hs)
    have hstart : StartsDelimited (semicolon :: back) := startsDelimited_cons_iff.mpr hd
    have hitem := readItem_eq closing hfront hstart
    rw [readItems_of_not_comma closing (congrArg Step.rest hitem) (by rw [hs]; decide), hitem,
      itemsOf_of_semicolon closing hfront hs, behindSemicolon_of_semicolon hfront hs,
      filterMap_declarator?_cons, List.flatMap_cons, faults_of_isDelimiter hd]
    simp
  | comma front comma back hfront hcomma ih =>
    have hd : comma.isDelimiter = true := isDelimiter_iff.mpr (Or.inl hcomma)
    have hstart : StartsDelimited (comma :: back) := startsDelimited_cons_iff.mpr hd
    have hitem := readItem_eq closing hfront hstart
    rw [readItems_of_comma closing (congrArg Step.rest hitem) hcomma, hitem, ih,
      itemsOf_of_comma closing hfront hcomma, behindSemicolon_of_comma hfront hcomma,
      filterMap_declarator?_cons, List.flatMap_cons, faults_of_isDelimiter hd]
    rfl

/-- A declaration is read item by item. From a type name on, wherever in the tokens it stands,
reading gives the declarators and the faults of the items behind it, in their order, and goes on
behind the first semicolon; where the input ends before one, it is at that end. What is reported of
the declaration is what its items have to report, and the errors of what follows come after it. -/
theorem readStatements_itemwise {ts : List Token} {n : Nat} {type : Token}
    (hn : ts[n]? = some type) (htype : type.kind = .typeName) :
    let closing := Token.closing (ts.drop n)
    let behind := beforeEnd (ts.drop (n + 1))
    let items := itemsOf closing behind
    let next := readStatements closing (nextStatement (behindSemicolon behind))
    readItems closing behind =
        ⟨items.filterMap Item.declarator?, items.flatMap Item.faults, behindSemicolon behind⟩ ∧
      (readItems closing behind).faults.map SyntaxFault.toDiagnostic = items.flatMap Item.errors ∧
      readStatements closing (beforeEnd (ts.drop n)) =
        ⟨ofItems type (items.filterMap Item.declarator?) ++ next.declarations,
          items.flatMap Item.faults ++ next.faults⟩ ∧
      (readStatements closing (beforeEnd (ts.drop n))).errors =
        items.flatMap Item.errors ++ next.errors := by
  intro closing behind items next
  have hitems := readItems_eq_itemsOf (isEnd_closing (ts.drop n)) behind
  have herrors : (items.flatMap Item.faults).map SyntaxFault.toDiagnostic =
      items.flatMap Item.errors :=
    map_toDiagnostic_itemsOf closing fun t => isEnd_of_mem_beforeEnd
  have hdrop : ts.drop n = type :: ts.drop (n + 1) := by
    obtain ⟨hlt, hget⟩ := List.getElem?_eq_some_iff.mp hn
    rw [List.drop_eq_getElem_cons hlt, hget]
  have hbefore : beforeEnd (ts.drop n) = type :: behind := by
    rw [hdrop, beforeEnd, List.takeWhile_cons_of_pos (by simp [isEnd, htype])]
    rfl
  have hstatements : readStatements closing (beforeEnd (ts.drop n)) =
      ⟨ofItems type (items.filterMap Item.declarator?) ++ next.declarations,
        items.flatMap Item.faults ++ next.faults⟩ := by
    rw [hbefore, readStatements_of_typeName closing behind htype, hitems]
  refine ⟨hitems, ?_, hstatements, ?_⟩
  · rw [hitems, herrors]
  · rw [hstatements, Reading.errors, List.map_append, herrors]
    rfl

/-- A token too many behind a name, an empty item, and an initializer without a literal in front of
the semicolon; the name behind it is left. -/
theorem readStatements_itemwise_faulty :
    let a : Token := ⟨.identifier, "a", 1⟩
    let b : Token := ⟨.identifier, "b", 1⟩
    let c : Token := ⟨.identifier, "c", 2⟩
    let d : Token := ⟨.identifier, "d", 3⟩
    let type : Token := ⟨.typeName, "int", 1⟩
    let equals : Token := ⟨.equals, "=", 2⟩
    let comma : Token := ⟨.comma, ",", 1⟩
    let semicolon : Token := ⟨.semicolon, ";", 3⟩
    let ts := [semicolon, type, a, b, comma, comma, c, equals, semicolon, d]
    let items := readItems (Token.closing (ts.drop 1)) (beforeEnd (ts.drop 2))
    ts[1]? = some type ∧ type.kind = .typeName ∧
      items = ⟨[⟨"a", 1, none⟩, ⟨"c", 2, none⟩],
        [.unexpected b, .expectedIdentifier comma, .expectedLiteral semicolon], [d]⟩ ∧
      items.faults.map SyntaxFault.toDiagnostic =
        [⟨.syntactic, 1, "Unexpected token 'b'"⟩,
          ⟨.syntactic, 1, "Expected identifier but found ','"⟩,
          ⟨.syntactic, 3, "Expected literal but found ';'"⟩] := by
  intro a b c d type equals comma semicolon ts items
  have hn : ts[1]? = some type := rfl
  have htype : type.kind = .typeName := rfl
  obtain ⟨hitems, herrors, _⟩ := readStatements_itemwise hn htype
  exact ⟨hn, htype, hitems.trans rfl, herrors.trans (by decide +kernel)⟩

end DeclLang.Declaration
