import DeclLang.Declaration.Reading
import DeclLang.Proofs.Declaration.Grammar
import Mathlib.Data.List.TakeWhile

/-!
# Readings without a fault

Every production of the grammar is read without a fault, whatever stands behind it, and what is
read without a fault is a production. Between declarations this fails: behind a semicolon, tokens
that no type name leads are passed over and no fault is noticed. Loose programs admit just these
tokens, and they are exactly what is read without a fault.
-/

set_option autoImplicit false

namespace DeclLang.Declaration

open Token

/-- Nothing stands before the next delimiter. -/
def StartsDelimited (ts : List Token) : Prop :=
  ∀ t, ts.head? = some t → t.isDelimiter = true

theorem isDelimiter_iff {t : Token} :
    t.isDelimiter = true ↔ t.kind = .comma ∨ t.kind = .semicolon := by
  simp [isDelimiter]

theorem startsDelimited_cons_iff {t : Token} {ts : List Token} :
    StartsDelimited (t :: ts) ↔ t.isDelimiter = true := by
  simp [StartsDelimited]

theorem strayFault_eq_nil_iff {ts : List Token} : strayFault ts = [] ↔ StartsDelimited ts := by
  cases ts with
  | nil => simp [strayFault, StartsDelimited]
  | cons t ts => simp [strayFault, startsDelimited_cons_iff]

theorem fromDelimiter_of_startsDelimited {ts : List Token} (h : StartsDelimited ts) :
    fromDelimiter ts = ts := by
  cases ts with
  | nil => rfl
  | cons t ts =>
    have ht := startsDelimited_cons_iff.mp h
    simp [fromDelimiter, ht]

theorem startsDelimited_fromDelimiter (ts : List Token) : StartsDelimited (fromDelimiter ts) := by
  intro t ht
  have hhead := List.head?_dropWhile_not (fun t : Token => !t.isDelimiter) ts
  rw [show (ts.dropWhile (!·.isDelimiter)).head? = some t from ht] at hhead
  simpa using hhead

theorem isEnd_of_mem_beforeEnd {ts : List Token} {t : Token} (h : t ∈ beforeEnd ts) :
    t.isEnd = false := by
  simpa using List.mem_takeWhile_imp h

/-! ### Sentences are read without a fault -/

section Reading

variable (closing : Token)

theorem readInitializer_of_startsDelimited {rest : List Token} (h : StartsDelimited rest) :
    readInitializer closing rest = ⟨none, [], rest⟩ := by
  cases rest with
  | nil => rfl
  | cons t rest =>
    have ht : t.kind ≠ .equals := by
      intro heq
      rcases isDelimiter_iff.mp (startsDelimited_cons_iff.mp h) with hk | hk <;>
        exact absurd (heq.symm.trans hk) (by decide)
    simp [readInitializer, ht]

theorem readDeclarator_append {front rest : List Token} {d : Declarator}
    (h : IsDeclarator front d) (hr : StartsDelimited rest) :
    readDeclarator closing (front ++ rest) = ⟨some d, [], rest⟩ := by
  cases h with
  | plain hname => simp [readDeclarator, hname, readInitializer_of_startsDelimited closing hr]
  | initialized hname hequals hliteral =>
    simp [readDeclarator, readInitializer, hname, hequals, hliteral]

theorem readItem_append {front rest : List Token} {d : Declarator}
    (h : IsDeclarator front d) (hr : StartsDelimited rest) :
    readItem closing (front ++ rest) = ⟨some d, [], rest⟩ := by
  rw [readItem, readDeclarator_append closing h hr, strayFault_eq_nil_iff.mpr hr,
    fromDelimiter_of_startsDelimited hr, List.append_nil]

theorem readItems_of_rest_eq_nil {ts : List Token} (h : (readItem closing ts).rest = []) :
    readItems closing ts =
      ⟨(readItem closing ts).value.toList,
        (readItem closing ts).faults ++ [.missingSemicolon closing], []⟩ := by
  rw [readItems]
  split
  · rfl
  · rename_i hrest
    rw [h] at hrest
    cases hrest

theorem readItems_of_comma {ts rest : List Token} {t : Token}
    (h : (readItem closing ts).rest = t :: rest) (ht : t.kind = .comma) :
    readItems closing ts =
      ⟨(readItem closing ts).value.toList ++ (readItems closing rest).value,
        (readItem closing ts).faults ++ (readItems closing rest).faults,
        (readItems closing rest).rest⟩ := by
  rw [readItems]
  split
  · rename_i hrest
    rw [h] at hrest
    cases hrest
  · rename_i hrest
    rw [h] at hrest
    cases hrest
    rw [if_pos ht]

theorem readItems_of_not_comma {ts rest : List Token} {t : Token}
    (h : (readItem closing ts).rest = t :: rest) (ht : t.kind ≠ .comma) :
    readItems closing ts = ⟨(readItem closing ts).value.toList, (readItem closing ts).faults, rest⟩ := by
  rw [readItems]
  split
  · rename_i hrest
    rw [h] at hrest
    cases hrest
  · rename_i hrest
    rw [h] at hrest
    cases hrest
    rw [if_neg ht]

theorem readItems_append {front rest : List Token} {semicolon : Token} {ds : List Declarator}
    (h : IsDeclaratorList front ds) (hs : semicolon.kind = .semicolon) :
    readItems closing (front ++ semicolon :: rest) = ⟨ds, [], rest⟩ := by
  induction h with
  | @single front d hd =>
    have hstart : StartsDelimited (semicolon :: rest) :=
      startsDelimited_cons_iff.mpr (isDelimiter_iff.mpr (Or.inr hs))
    have hitem := readItem_append closing hd hstart
    rw [readItems_of_not_comma closing (congrArg Step.rest hitem) (by rw [hs]; decide), hitem]
    rfl
  | @more front back comma d ds hd hcomma _ ih =>
    have hstart : StartsDelimited (comma :: (back ++ semicolon :: rest)) :=
      startsDelimited_cons_iff.mpr (isDelimiter_iff.mpr (Or.inl hcomma))
    have hitem := readItem_append closing hd hstart
    rw [List.append_assoc, List.cons_append,
      readItems_of_comma closing (congrArg Step.rest hitem) hcomma, hitem, ih]
    rfl

end Reading

/-! ### What is read without a fault is a sentence -/

section Faultless

variable {closing : Token}

theorem readInitializer_of_faults_nil {ts : List Token}
    (h : (readInitializer closing ts).faults = []) :
    readInitializer closing ts = ⟨none, [], ts⟩ ∨
      ∃ equals literal after, ts = equals :: literal :: after ∧ equals.kind = .equals ∧
        literal.kind.isLiteral = true ∧ readInitializer closing ts =
          ⟨some ⟨literal.kind, literal.lexeme, literal.line⟩, [], after⟩ := by
  cases ts with
  | nil => exact Or.inl rfl
  | cons t rest =>
    by_cases ht : t.kind = .equals
    · cases rest with
      | nil => simp [readInitializer, ht] at h
      | cons l after =>
        by_cases hl : l.kind.isLiteral = true
        · exact Or.inr ⟨t, l, after, rfl, ht, hl, by simp [readInitializer, ht, hl]⟩
        · simp [readInitializer, ht, hl] at h
    · exact Or.inl (by simp [readInitializer, ht])

theorem exists_isDeclarator {ts : List Token} (h : (readDeclarator closing ts).faults = []) :
    ∃ front d, IsDeclarator front d ∧ ts = front ++ (readDeclarator closing ts).rest ∧
      (readDeclarator closing ts).value = some d := by
  cases ts with
  | nil => simp [readDeclarator] at h
  | cons t rest =>
    by_cases ht : t.kind = .identifier
    · simp only [readDeclarator, ht, if_true] at h ⊢
      rcases readInitializer_of_faults_nil h with
        heq | ⟨equals, literal, after, rfl, hequals, hliteral, heq⟩
      · exact ⟨[t], _, .plain ht, by rw [heq]; rfl, by rw [heq]⟩
      · exact ⟨[t, equals, literal], _, .initialized ht hequals hliteral, by rw [heq]; rfl,
          by rw [heq]⟩
    · simp [readDeclarator, ht] at h

theorem exists_isDeclarator_of_readItem {ts : List Token}
    (h : (readItem closing ts).faults = []) :
    ∃ front d, IsDeclarator front d ∧ ts = front ++ (readItem closing ts).rest ∧
      (readItem closing ts).value = some d ∧ StartsDelimited (readItem closing ts).rest := by
  obtain ⟨hfaults, hstray⟩ := List.append_eq_nil_iff.mp h
  have hstart := strayFault_eq_nil_iff.mp hstray
  have hrest : (readItem closing ts).rest = (readDeclarator closing ts).rest :=
    fromDelimiter_of_startsDelimited hstart
  obtain ⟨front, d, hd, hts, hvalue⟩ := exists_isDeclarator hfaults
  rw [hrest]
  exact ⟨front, d, hd, hts, hvalue, hstart⟩

/-- Declarators that are read without a fault end with a semicolon. -/
theorem exists_isDeclaratorList {ts : List Token} (h : (readItems closing ts).faults = []) :
    ∃ front semicolon, IsDeclaratorList front (readItems closing ts).value ∧
      semicolon.kind = .semicolon ∧
      ts = front ++ semicolon :: (readItems closing ts).rest := by
  fun_induction readItems closing ts with
  | case1 ts item hrest => simp at h
  | case2 ts item t rest hrest ht more ih =>
    obtain ⟨hitem, hmore⟩ := List.append_eq_nil_iff.mp h
    obtain ⟨front, d, hd, hts, hvalue, _⟩ := exists_isDeclarator_of_readItem hitem
    obtain ⟨back, semicolon, hback, hs, hrest'⟩ := ih hmore
    refine ⟨front ++ t :: back, semicolon, ?_, hs, ?_⟩
    · rw [hvalue]
      exact .more hd ht hback
    · rw [List.append_assoc, List.cons_append, ← hrest', ← hrest]
      exact hts
  | case3 ts item t rest hrest ht =>
    obtain ⟨front, d, hd, hts, hvalue, hstart⟩ := exists_isDeclarator_of_readItem h
    rw [show (readItem closing ts).rest = t :: rest from hrest] at hts hstart
    have hs := (isDelimiter_iff.mp (startsDelimited_cons_iff.mp hstart)).resolve_left ht
    refine ⟨front, t, ?_, hs, hts⟩
    rw [hvalue]
    exact .single hd

end Faultless

/-! ### Loose programs -/

/-- The tokens that may be passed over behind a declaration, with those that follow. -/
inductive IsLeftover : List Token → List Token → Prop where
  | typeName {t : Token} {rest : List Token} : t.kind = .typeName → IsLeftover [] (t :: rest)
  | semicolon {run rest : List Token} {semicolon : Token} :
      (∀ t, run.head? = some t → t.kind ≠ .typeName) → (∀ t ∈ run, t.kind ≠ .semicolon) →
      semicolon.kind = .semicolon → IsLeftover (run ++ [semicolon]) rest
  | endOfTokens {run : List Token} :
      (∀ t, run.head? = some t → t.kind ≠ .typeName) → (∀ t ∈ run, t.kind ≠ .semicolon) →
      IsLeftover run []

/-- Declarations, each with tokens behind it that are passed over. -/
inductive IsLooseProgram : List Token → List Declaration → Prop where
  | nil : IsLooseProgram [] []
  | cons {front skipped back : List Token} {d : Declaration} {ds : List Declaration} :
      IsDeclaration front d → IsLeftover skipped back → IsLooseProgram back ds →
      IsLooseProgram (front ++ (skipped ++ back)) (d :: ds)

theorem nextStatement_of_not_typeName {ts : List Token}
    (h : ∀ t, ts.head? = some t → t.kind ≠ .typeName) :
    nextStatement ts = (ts.dropWhile (·.kind != .semicolon)).drop 1 := by
  cases ts with
  | nil => rfl
  | cons t rest => rw [nextStatement, if_neg (h t rfl)]

theorem nextStatement_of_isLeftover {skipped rest : List Token} (h : IsLeftover skipped rest) :
    nextStatement (skipped ++ rest) = rest := by
  cases h with
  | typeName ht => simp [nextStatement, ht]
  | @semicolon run _ semicolon hhead hrun hs =>
    have hne : ∀ t, (run ++ [semicolon] ++ rest).head? = some t → t.kind ≠ .typeName := by
      cases run with
      | nil =>
        intro t ht
        obtain rfl := Option.some.inj ht
        rw [hs]
        decide
      | cons u run => exact hhead
    rw [nextStatement_of_not_typeName hne, List.append_assoc,
      List.dropWhile_append_of_pos (by simpa using hrun)]
    simp [hs]
  | endOfTokens hhead hrun =>
    have hdrop : skipped.dropWhile (·.kind != .semicolon) = [] :=
      List.dropWhile_eq_nil_iff.mpr (by simpa using hrun)
    rw [List.append_nil, nextStatement_of_not_typeName hhead, hdrop]
    rfl

/-- What `nextStatement` passes over may be passed over. -/
theorem exists_isLeftover (ts : List Token) :
    ∃ skipped, ts = skipped ++ nextStatement ts ∧ IsLeftover skipped (nextStatement ts) := by
  by_cases htype : ∃ t rest, ts = t :: rest ∧ t.kind = .typeName
  · obtain ⟨t, rest, rfl, ht⟩ := htype
    have hnext : nextStatement (t :: rest) = t :: rest := by simp [nextStatement, ht]
    rw [hnext]
    exact ⟨[], rfl, .typeName ht⟩
  · have hhead : ∀ t, ts.head? = some t → t.kind ≠ .typeName := by
      intro t ht hk
      obtain ⟨rest, rfl⟩ := List.head?_eq_some_iff.mp ht
      exact htype ⟨t, rest, rfl, hk⟩
    rw [nextStatement_of_not_typeName hhead]
    cases hdrop : ts.dropWhile (·.kind != .semicolon) with
    | nil =>
      have hrun := List.dropWhile_eq_nil_iff.mp hdrop
      exact ⟨ts, by simp, .endOfTokens hhead (by simpa using hrun)⟩
    | cons semicolon rest =>
      have hsplit := List.takeWhile_append_dropWhile (p := fun t : Token => t.kind != .semicolon)
        (l := ts)
      have hs := List.head?_dropWhile_not (fun t : Token => t.kind != .semicolon) ts
      rw [hdrop] at hsplit hs
      refine ⟨ts.takeWhile (·.kind != .semicolon) ++ [semicolon], by simp [hsplit],
        .semicolon ?_ ?_ (by simpa using hs)⟩
      · intro t ht
        apply hhead t
        rw [← hsplit, List.head?_append, ht]
        rfl
      · intro t ht
        simpa using List.mem_takeWhile_imp ht

theorem ofItems_of_ne_nil (type : Token) {ds : List Declarator} (h : ds ≠ []) :
    ofItems type ds = [⟨type.lexeme, ds, type.line⟩] := by
  simp [ofItems, h]

theorem readStatements_of_typeName (closing : Token) {t : Token} (rest : List Token)
    (h : t.kind = .typeName) :
    readStatements closing (t :: rest) =
      ⟨ofItems t (readItems closing rest).value ++
          (readStatements closing (nextStatement (readItems closing rest).rest)).declarations,
        (readItems closing rest).faults ++
          (readStatements closing (nextStatement (readItems closing rest).rest)).faults⟩ := by
  rw [readStatements, if_pos h]

theorem readStatements_append (closing : Token) {front : List Token} {d : Declaration}
    (h : IsDeclaration front d) (rest : List Token) :
    readStatements closing (front ++ rest) =
      ⟨d :: (readStatements closing (nextStatement rest)).declarations,
        (readStatements closing (nextStatement rest)).faults⟩ := by
  cases h with
  | @mk type semicolon items ds htype hitems hs =>
    have hread : readItems closing (items ++ semicolon :: rest) = ⟨ds, [], rest⟩ :=
      readItems_append closing hitems hs
    rw [List.cons_append, List.append_assoc, List.singleton_append,
      readStatements_of_typeName closing _ htype, hread, ofItems_of_ne_nil type hitems.ne_nil]
    rfl

theorem readStatements_of_isLooseProgram (closing : Token) {ts : List Token}
    {ds : List Declaration} (h : IsLooseProgram ts ds) :
    readStatements closing ts = ⟨ds, []⟩ := by
  induction h with
  | nil => simp [readStatements]
  | cons hd hskip _ ih =>
    rw [readStatements_append closing hd, nextStatement_of_isLeftover hskip, ih]

theorem isLooseProgram_of_faults_nil {closing : Token} {ts : List Token}
    (h : (readStatements closing ts).faults = []) :
    IsLooseProgram ts (readStatements closing ts).declarations := by
  fun_induction readStatements closing ts with
  | case1 => exact .nil
  | case2 t rest ht items more ih =>
    obtain ⟨hitems, hmore⟩ := List.append_eq_nil_iff.mp h
    obtain ⟨front, semicolon, hfront, hs, hrest⟩ := exists_isDeclaratorList hitems
    obtain ⟨skipped, hnext, hskip⟩ := exists_isLeftover items.rest
    have htokens : t :: rest = (t :: (front ++ [semicolon])) ++ (skipped ++ nextStatement items.rest) := by
      rw [← hnext, List.cons_append, List.append_assoc]
      exact congrArg (t :: ·) hrest
    rw [htokens, ofItems_of_ne_nil t hfront.ne_nil]
    exact .cons (.mk ht hfront hs) hskip (ih hmore)
  | case3 t rest ht more ih => simp at h

/-- Loose programs, and nothing else, are read without a fault, each as its own tree. -/
theorem readStatements_eq_iff {closing : Token} {ts : List Token} {ds : List Declaration} :
    readStatements closing ts = ⟨ds, []⟩ ↔ IsLooseProgram ts ds := by
  constructor
  · intro h
    have hloose := isLooseProgram_of_faults_nil (congrArg Reading.faults h)
    rwa [h] at hloose
  · exact readStatements_of_isLooseProgram closing

end DeclLang.Declaration
