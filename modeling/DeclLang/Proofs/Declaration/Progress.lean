import DeclLang.Proofs.Declaration.CursorReading
import Mathlib.Logic.Function.Iterate

/-!
# Progress and the number of faults

Each fault is charged to a token that was read when it was noticed, and each token carries one at
most. An item can be one fault in debt, since it may notice a missing name and give up nothing; the
comma behind it pays for this. Only the last item of a statement has no comma behind it. A
semicolon pays as well, and without one the input has ended, where two faults are owed and no
statement follows. The type name in front of them pays for one of the two.
-/

set_option autoImplicit false

namespace DeclLang

namespace SyntaxFault

def missesSemicolon : SyntaxFault → Bool
  | .missingSemicolon _ => true
  | _ => false

/-- A missing semicolon is known by its message. -/
theorem missesSemicolon_of_message {f : SyntaxFault}
    (h : f.message = "Unexpected end of input; missing ';'") : f.missesSemicolon = true := by
  have hfront (front : String) (mention : String) (heq : front ++ mention = f.message) :
      front.toList <+: "Unexpected end of input; missing ';'".toList := by
    rw [← h, ← heq, String.toList_append]
    exact List.prefix_append _ _
  cases f with
  | expectedType t => simpa using hfront "Expected type but found " t.mention rfl
  | expectedIdentifier t => simpa using hfront "Expected identifier but found " t.mention rfl
  | expectedLiteral t => simpa using hfront "Expected literal but found " t.mention rfl
  | unexpected t => simpa using hfront "Unexpected token " t.mention rfl
  | missingSemicolon t => rfl

end SyntaxFault

namespace Declaration

open Token

/-! ### Faults and the tokens read -/

section Charge

variable (closing : Token)

theorem length_readInitializer_faults_le (ts : List Token) :
    (readInitializer closing ts).faults.length + (readInitializer closing ts).rest.length ≤
      ts.length := by
  unfold readInitializer
  split
  · exact Nat.le_refl _
  · split
    · split
      · exact Nat.le_refl _
      · split
        · simp only [List.length_nil, List.length_cons]
          omega
        · simp only [List.length_nil, List.length_cons]
          omega
    · simp

theorem length_strayFault_le (ts : List Token) :
    (strayFault ts).length + (fromDelimiter ts).length ≤ ts.length := by
  cases ts with
  | nil => exact Nat.le_refl _
  | cons t ts =>
    cases ht : t.isDelimiter with
    | true => simp [strayFault, fromDelimiter, ht]
    | false =>
      have hle := length_fromDelimiter_le ts
      simp only [strayFault, fromDelimiter, ht, List.dropWhile_cons, Bool.not_false,
        Bool.false_eq_true, if_false, if_true, List.length_cons, List.length_nil] at hle ⊢
      omega

theorem length_readDeclarator_faults_le (ts : List Token) :
    (readDeclarator closing ts).faults.length + (readDeclarator closing ts).rest.length ≤
      ts.length + 1 := by
  unfold readDeclarator
  split
  · exact Nat.le_refl _
  · split
    · exact Nat.le_trans (length_readInitializer_faults_le closing _) (Nat.le_add_right _ 2)
    · have hle := length_fromDelimiter_le (‹Token› :: ‹List Token›)
      simp only [List.length_cons, List.length_nil] at hle ⊢
      omega

/-- An item is one fault in debt at most. -/
theorem length_readItem_faults_le (ts : List Token) :
    (readItem closing ts).faults.length + (readItem closing ts).rest.length ≤ ts.length + 1 := by
  have hd := length_readDeclarator_faults_le closing ts
  have hs := length_strayFault_le (readDeclarator closing ts).rest
  simp only [readItem, List.length_append]
  omega

theorem length_readItems_faults_le (ts : List Token) :
    (readItems closing ts).faults.length + (readItems closing ts).rest.length ≤ ts.length ∨
      (readItems closing ts).rest = [] ∧ (readItems closing ts).faults.length ≤ ts.length + 2 := by
  fun_induction readItems closing ts with
  | case1 ts item hrest =>
    have hitem := length_readItem_faults_le closing ts
    right
    simp only [List.length_append, List.length_singleton, true_and, item]
    omega
  | case2 ts item t rest hrest hcomma more ih =>
    have hitem := length_readItem_faults_le closing ts
    rw [show (readItem closing ts).rest = t :: rest from hrest, List.length_cons] at hitem
    simp only [List.length_append, item, more]
    rcases ih with hpaid | ⟨hmore, howed⟩
    · left
      omega
    · right
      exact ⟨hmore, by omega⟩
  | case3 ts item t rest hrest hcomma =>
    have hitem := length_readItem_faults_le closing ts
    rw [show (readItem closing ts).rest = t :: rest from hrest, List.length_cons] at hitem
    left
    simp only [item]
    omega

theorem length_readStatements_faults_le (ts : List Token) :
    (readStatements closing ts).faults.length ≤ ts.length + 1 := by
  fun_induction readStatements closing ts with
  | case1 => exact Nat.zero_le _
  | case2 t rest htype items more ih =>
    have hnext := length_nextStatement_le (readItems closing rest).rest
    simp only [List.length_append, List.length_cons, items, more] at ih ⊢
    rcases length_readItems_faults_le closing rest with hpaid | ⟨hrest, howed⟩
    · omega
    · rw [hrest] at ih ⊢
      simp only [nextStatement, readStatements, List.length_nil] at ih ⊢
      omega
  | case3 t rest htype more ih =>
    have hnext := length_nextStatement_le rest
    simp only [List.length_cons, more] at ih ⊢
    omega

end Charge

theorem length_read_errors_le (ts : List Token) :
    (read ts).errors.length ≤ (beforeEnd ts).length + 1 := by
  rw [Reading.errors, List.length_map]
  exact length_readStatements_faults_le _ _

/-! ### A missing semicolon is noticed last -/

section Missing

variable (closing : Token)

theorem mem_dropLast_append {as bs : List SyntaxFault} {f : SyntaxFault}
    (h : f ∈ (as ++ bs).dropLast) : f ∈ as ∨ f ∈ bs.dropLast := by
  rw [List.dropLast_append] at h
  split at h
  · exact Or.inl (List.dropLast_subset _ h)
  · exact List.mem_append.mp h

theorem missesSemicolon_of_mem_strayFault {ts : List Token} {f : SyntaxFault}
    (h : f ∈ strayFault ts) : f.missesSemicolon = false := by
  cases ts with
  | nil => cases h
  | cons t ts =>
    rw [strayFault] at h
    split at h
    · cases h
    · rw [List.mem_singleton.mp h]
      rfl

theorem missesSemicolon_of_mem_readInitializer {ts : List Token} {f : SyntaxFault}
    (h : f ∈ (readInitializer closing ts).faults) : f.missesSemicolon = false := by
  unfold readInitializer at h
  split at h
  · cases h
  · split at h
    · split at h
      · rw [List.mem_singleton.mp h]
        rfl
      · split at h
        · cases h
        · rw [List.mem_singleton.mp h]
          rfl
    · cases h

theorem missesSemicolon_of_mem_readItem {ts : List Token} {f : SyntaxFault}
    (h : f ∈ (readItem closing ts).faults) : f.missesSemicolon = false := by
  rcases List.mem_append.mp h with hd | hs
  · unfold readDeclarator at hd
    split at hd
    · rw [List.mem_singleton.mp hd]
      rfl
    · split at hd
      · exact missesSemicolon_of_mem_readInitializer closing hd
      · rw [List.mem_singleton.mp hd]
        rfl
  · exact missesSemicolon_of_mem_strayFault hs

/-- A declaration misses its semicolon only where the input ends, after all of its other faults. -/
theorem missesSemicolon_of_mem_readItems (ts : List Token) :
    (∀ f ∈ (readItems closing ts).faults, f.missesSemicolon = false) ∨
      (readItems closing ts).rest = [] ∧
        ∀ f ∈ (readItems closing ts).faults.dropLast, f.missesSemicolon = false := by
  fun_induction readItems closing ts with
  | case1 ts item hrest =>
    refine Or.inr ⟨rfl, fun f hf => ?_⟩
    rw [List.dropLast_concat] at hf
    exact missesSemicolon_of_mem_readItem closing hf
  | case2 ts item t rest hrest hcomma more ih =>
    rcases ih with hall | ⟨hmore, hinit⟩
    · refine Or.inl fun f hf => ?_
      rcases List.mem_append.mp hf with hf | hf
      · exact missesSemicolon_of_mem_readItem closing hf
      · exact hall f hf
    · refine Or.inr ⟨hmore, fun f hf => ?_⟩
      rcases mem_dropLast_append hf with hf | hf
      · exact missesSemicolon_of_mem_readItem closing hf
      · exact hinit f hf
  | case3 ts item t rest hrest hcomma =>
    exact Or.inl fun f hf => missesSemicolon_of_mem_readItem closing hf

theorem missesSemicolon_of_mem_readStatements (ts : List Token) :
    ∀ f ∈ (readStatements closing ts).faults.dropLast, f.missesSemicolon = false := by
  fun_induction readStatements closing ts with
  | case1 => simp
  | case2 t rest htype items more ih =>
    intro f hf
    rcases missesSemicolon_of_mem_readItems closing rest with hall | ⟨hrest, hinit⟩
    · rcases mem_dropLast_append hf with hf | hf
      · exact hall f hf
      · exact ih f hf
    · -- The input has ended, so no faults of further statements follow.
      have hmore : more.faults = [] := by
        simp [more, items, hrest, nextStatement, readStatements]
      rw [hmore, List.append_nil] at hf
      exact hinit f hf
  | case3 t rest htype more ih =>
    intro f hf
    change f ∈ ([SyntaxFault.expectedType t] ++ more.faults).dropLast at hf
    rcases mem_dropLast_append hf with hf | hf
    · rw [List.mem_singleton.mp hf]
      rfl
    · exact ih f hf

end Missing

theorem message_ne_of_mem_dropLast {ts : List Token} {e : Diagnostic}
    (he : e ∈ (read ts).errors.dropLast) : e.message ≠ "Unexpected end of input; missing ';'" := by
  rw [Reading.errors, ← List.map_dropLast] at he
  obtain ⟨f, hf, rfl⟩ := List.mem_map.mp he
  intro hmessage
  have hfalse := missesSemicolon_of_mem_readStatements _ _ f hf
  rw [SyntaxFault.missesSemicolon_of_message hmessage] at hfalse
  cases hfalse

/-! ### As many faults as there can be -/

theorem length_readItems_replicate_comma (closing : Token) {comma : Token}
    (hcomma : comma.kind = .comma) (k : Nat) :
    (readItems closing (List.replicate k comma)).faults.length = k + 2 := by
  induction k with
  | zero =>
    rw [List.replicate_zero, readItems_of_rest_eq_nil closing rfl]
    rfl
  | succ k ih =>
    have hdelimiter : comma.isDelimiter = true := isDelimiter_iff.mpr (Or.inl hcomma)
    have hitem : readItem closing (comma :: List.replicate k comma) =
        ⟨none, [.expectedIdentifier comma], comma :: List.replicate k comma⟩ := by
      simp [readItem, readDeclarator, fromDelimiter, strayFault, hcomma, hdelimiter]
    rw [List.replicate_succ, readItems_of_comma closing (congrArg Step.rest hitem) hcomma, hitem,
      List.length_append, ih, List.length_singleton]
    omega

/-- A type name with nothing but commas behind it has one fault more than tokens. -/
theorem length_read_errors_replicate_comma {type comma : Token} (htype : type.kind = .typeName)
    (hcomma : comma.kind = .comma) (k : Nat) :
    (beforeEnd (type :: List.replicate k comma)).length = k + 1 ∧
      (read (type :: List.replicate k comma)).errors.length = k + 2 := by
  have hbefore : beforeEnd (type :: List.replicate k comma) = type :: List.replicate k comma := by
    apply beforeEnd_eq_self
    intro t ht
    rcases List.mem_cons.mp ht with rfl | ht
    · simp [isEnd, htype]
    · simp [isEnd, List.eq_of_mem_replicate ht, hcomma]
  have hbound := length_read_errors_le (type :: List.replicate k comma)
  have hitems := length_readItems_replicate_comma
    (Token.closing (type :: List.replicate k comma)) hcomma k
  rw [hbefore, List.length_cons, List.length_replicate] at hbound ⊢
  refine ⟨rfl, Nat.le_antisymm hbound ?_⟩
  rw [read, hbefore, Reading.errors, List.length_map, readStatements_of_typeName _ _ htype,
    List.length_append, hitems]
  exact Nat.le_add_right _ _

/-! ### The rounds of a loop -/

namespace Cursor

variable {input : Closed}

/-- From a cursor on, a loop does this many rounds: each of them starts where the loop goes on, and
the last one leaves the cursor where it does not. -/
def Rounds (goesOn : Cursor input → Bool) (round : Cursor input → Cursor input)
    (c : Cursor input) (k : Nat) : Prop :=
  (∀ i < k, goesOn (round^[i] c) = true) ∧ goesOn (round^[k] c) = false

variable {goesOn : Cursor input → Bool} {round : Cursor input → Cursor input} {c : Cursor input}
  {k : Nat}

theorem Rounds.succ (hgo : goesOn c = true) (h : Rounds goesOn round (round c) k) :
    Rounds goesOn round c (k + 1) := by
  refine ⟨fun i hi => ?_, h.2⟩
  cases i with
  | zero => exact hgo
  | succ i => exact h.1 i (Nat.lt_of_succ_lt_succ hi)

/-- A loop whose rounds move the cursor on does no more rounds than there are tokens in front of the
first closing token. -/
theorem exists_rounds (hmoves : ∀ c, Moves c (round c))
    (hlt : ∀ c, goesOn c = true → c.position < (round c).position) (c : Cursor input)
    (h : c.Inside) :
    ∃ k, k + c.position ≤ (beforeEnd input.tokens).length ∧ Rounds goesOn round c k := by
  cases hgo : goesOn c with
  | false =>
    have hposition : 0 + c.position ≤ (beforeEnd input.tokens).length := by
      rw [Nat.zero_add]
      exact h
    exact ⟨0, hposition, fun i hi => absurd hi (Nat.not_lt_zero i), hgo⟩
  | true =>
    have hround := hlt c hgo
    have hinside : (round c).Inside := (hmoves c).inside h
    obtain ⟨k, hk, hrounds⟩ := exists_rounds hmoves hlt (round c) hinside
    exact ⟨k + 1, by omega, hrounds.succ hgo⟩
termination_by (beforeEnd input.tokens).length - c.position
decreasing_by
  rw [Inside] at hinside
  omega

/-- The statements are read by the rounds of a loop that goes on up to the closing token. -/
theorem statements_of_rounds (h : Rounds (!·.atEnd) (·.statement.2) c k) :
    c.statements.2 = (·.statement.2)^[k] c := by
  induction k generalizing c with
  | zero =>
    have hend : c.atEnd = true := by simpa using h.2
    rw [statements, dif_pos hend]
    rfl
  | succ k ih =>
    have hgo : ¬c.atEnd = true := by simpa using h.1 0 (Nat.succ_pos k)
    rw [statements, dif_neg hgo]
    exact ih ⟨fun i hi => h.1 (i + 1) (Nat.succ_lt_succ hi), h.2⟩

end Cursor

/-- Reading always makes progress: with `n` tokens before the first closing token, neither loop does
more than `n` rounds and the cursor stops at that token. The faults are one more than these tokens
at most, and for every number of tokens but zero they can be; a missing semicolon is the last of
them. -/
theorem read_progress :
    (∀ ts : List Token,
      let n := (beforeEnd ts).length
      let start := Cursor.start (Closed.ofTokens ts)
      readByCursor ts = read ts ∧
      -- Both loops, at every cursor, also at those that no reading comes to.
      (∀ c : Cursor (Closed.ofTokens ts),
        (c.atEnd = false → c.position < c.statement.2.position) ∧
        (c.item.2.peek.kind = .comma → c.position < c.item.2.advance.position)) ∧
      (∃ k ≤ n, Cursor.Rounds (!·.atEnd) (·.statement.2) start k ∧
        start.statements.2 = (·.statement.2)^[k] start) ∧
      (∀ c, start.Moves c → c.position ≤ n ∧
        ∃ k ≤ n, Cursor.Rounds (·.item.2.peek.kind == .comma) (·.item.2.advance) c k) ∧
      start.Moves start.statements.2 ∧ start.statements.2.position = n ∧
      (read ts).errors.length ≤ n + 1 ∧
      (n = 0 → (read ts).errors = []) ∧
      ∀ e ∈ (read ts).errors.dropLast, e.message ≠ "Unexpected end of input; missing ';'") ∧
    ∀ n ≠ 0, ∃ ts, (beforeEnd ts).length = n ∧ (read ts).errors.length = n + 1 := by
  refine ⟨fun ts => ?_, fun n hn => ?_⟩
  · have hbefore := (closed_ofTokens ts).1
    have hinside := Cursor.inside_start (Closed.ofTokens ts)
    have hlt : ∀ c : Cursor (Closed.ofTokens ts), (!c.atEnd) = true →
        c.position < c.statement.2.position :=
      fun c hgo => Cursor.lt_statement (by simpa using hgo)
    obtain ⟨k, hk, hrounds⟩ := Cursor.exists_rounds Cursor.moves_statement hlt _ hinside
    have hlast := Cursor.statements_of_rounds hrounds
    have hmoves := Cursor.moves_statements (Cursor.start (Closed.ofTokens ts))
    rw [hbefore] at hk
    refine ⟨readByCursor_eq_read ts, fun c => ⟨Cursor.lt_statement, Cursor.lt_item⟩,
      ⟨k, hk, hrounds, hlast⟩, ?_, hmoves, ?_, length_read_errors_le ts, ?_,
      fun e he => message_ne_of_mem_dropLast he⟩
    · intro c hc
      have hcinside := hc.inside hinside
      obtain ⟨k, hk, hitems⟩ := Cursor.exists_rounds (fun c => (Cursor.moves_item c).advance)
        (fun c hgo => Cursor.lt_item (beq_iff_eq.mp hgo)) c hcinside
      rw [Cursor.Inside, hbefore] at hcinside
      rw [hbefore] at hk
      exact ⟨hcinside, k, by omega, hitems⟩
    · rw [← hbefore]
      apply Cursor.position_of_atEnd (hmoves.inside hinside)
      rw [hlast]
      simpa using hrounds.2
    · intro hn
      rw [Reading.errors_eq_nil_iff, read, List.length_eq_zero_iff.mp hn, readStatements]
  · obtain ⟨k, rfl⟩ := Nat.exists_eq_succ_of_ne_zero hn
    have htype : (⟨.typeName, "int", 1⟩ : Token).kind = .typeName := rfl
    have hcomma : (⟨.comma, ",", 1⟩ : Token).kind = .comma := rfl
    exact ⟨_, length_read_errors_replicate_comma htype hcomma k⟩

end Declaration

end DeclLang
