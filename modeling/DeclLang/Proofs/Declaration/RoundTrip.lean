import DeclLang.Proofs.Declaration.FaultFree
import Mathlib.Data.List.Chain

/-!
# Reading and the token form of declarations

Reading undoes the token form of well-formed declarations. Conversely, what was read without a
fault has the tokens as its token form exactly when they pass nothing over: a statement adjoins the
one before it, so that behind each semicolon a type name leads. Readings with a fault are no
subject here.
-/

set_option autoImplicit false

namespace DeclLang.Declaration

open Token

/-- Behind each semicolon that is not the last token stands a type name. -/
def StatementsAdjoin (ts : List Token) : Prop :=
  ts.IsChain fun t u => t.kind = .semicolon → u.kind = .typeName

instance (ts : List Token) : Decidable (StatementsAdjoin ts) :=
  inferInstanceAs (Decidable (ts.IsChain fun t u => t.kind = .semicolon → u.kind = .typeName))

theorem statementsAdjoin_of_not_semicolon {ts : List Token}
    (h : ∀ t ∈ ts, t.kind ≠ .semicolon) (last : Token) : StatementsAdjoin (ts ++ [last]) := by
  apply List.Pairwise.isChain
  rw [List.pairwise_append]
  refine ⟨?_, List.pairwise_singleton _ _, fun t ht _ _ hs => absurd hs (h t ht)⟩
  exact List.Pairwise.imp_of_mem (fun ht _ _ hs => absurd hs (h _ ht)) (List.pairwise_of_forall
    fun _ _ => trivial)

theorem isDeclarator_kind_ne {ts : List Token} {d : Declarator} (h : IsDeclarator ts d) :
    ∀ t ∈ ts, t.kind ≠ .semicolon ∧ t.kind ≠ .endOfInput := by
  cases h with
  | plain hname => simp [hname]
  | initialized hname hequals hliteral =>
    have hl : ∀ kind : Kind, kind.isLiteral = true → kind ≠ .semicolon ∧ kind ≠ .endOfInput := by
      intro kind hk
      constructor <;>
        · rintro rfl
          exact absurd hk (by decide)
    simp [hname, hequals, hl _ hliteral]

theorem isDeclaratorList_kind_ne {ts : List Token} {ds : List Declarator}
    (h : IsDeclaratorList ts ds) : ∀ t ∈ ts, t.kind ≠ .semicolon ∧ t.kind ≠ .endOfInput := by
  induction h with
  | single hd => exact isDeclarator_kind_ne hd
  | more hd hcomma _ ih =>
    intro t ht
    rcases List.mem_append.mp ht with ht | ht
    · exact isDeclarator_kind_ne hd t ht
    · rcases List.mem_cons.mp ht with rfl | ht
      · simp [hcomma]
      · exact ih t ht

theorem isProgram_isEnd_eq_false {ts : List Token} {ds : List Declaration}
    (h : IsProgram ts ds) : ∀ t ∈ ts, t.isEnd = false := by
  induction h with
  | nil => simp
  | cons hd _ ih =>
    intro t ht
    rcases List.mem_append.mp ht with ht | ht
    · cases hd with
      | mk htype hitems hs =>
        have hkind : t.kind ≠ .endOfInput := by
          rcases List.mem_cons.mp ht with rfl | ht
          · simp [htype]
          · rcases List.mem_append.mp ht with ht | ht
            · exact (isDeclaratorList_kind_ne hitems t ht).2
            · obtain rfl := List.mem_singleton.mp ht
              simp [hs]
        simpa [isEnd] using hkind
    · exact ih t ht

theorem isProgram_head {ts : List Token} {ds : List Declaration} (h : IsProgram ts ds) :
    ∀ t, ts.head? = some t → t.kind = .typeName := by
  intro t ht
  cases h with
  | nil => cases ht
  | cons hd _ =>
    cases hd with
    | mk htype _ _ =>
      obtain rfl := Option.some.inj ht
      exact htype

/-- The statements of a sentence adjoin. -/
theorem statementsAdjoin_of_isProgram {ts : List Token} {ds : List Declaration}
    (h : IsProgram ts ds) : StatementsAdjoin ts := by
  induction h with
  | nil => exact .nil
  | cons hd hback ih =>
    apply List.isChain_append.mpr
    refine ⟨?_, ih, fun _ _ u hu _ => isProgram_head hback u hu⟩
    cases hd with
    | @mk type semicolon items _ htype hitems _ =>
      have hfront : ∀ t ∈ type :: items, t.kind ≠ .semicolon := by
        intro t ht
        rcases List.mem_cons.mp ht with rfl | ht
        · simp [htype]
        · exact (isDeclaratorList_kind_ne hitems t ht).1
      exact statementsAdjoin_of_not_semicolon hfront semicolon

theorem isLeftover_eq_nil {skipped rest : List Token} (h : IsLeftover skipped rest)
    (hhead : ∀ t, skipped.head? = some t → t.kind = .typeName) : skipped = [] := by
  cases h with
  | typeName _ => rfl
  | @semicolon run _ semicolon hrun _ hs =>
    cases run with
    | nil =>
      have ht := hhead semicolon rfl
      rw [hs] at ht
      cases ht
    | cons t run => exact absurd (hhead t rfl) (hrun t rfl)
  | endOfTokens hrun _ =>
    cases skipped with
    | nil => rfl
    | cons t run => exact absurd (hhead t rfl) (hrun t rfl)

/-- A loose program whose statements adjoin passes nothing over. -/
theorem isProgram_of_isLooseProgram {ts : List Token} {ds : List Declaration}
    (h : IsLooseProgram ts ds) (ha : StatementsAdjoin ts) : IsProgram ts ds := by
  induction h with
  | nil => exact .nil
  | @cons front skipped back d ds hd hskip _ ih =>
    obtain ⟨_, htail, hseam⟩ := List.isChain_append.mp ha
    -- At the seam a semicolon stands last, so a type name comes next, and no leftover starts so.
    have hnil : skipped = [] := by
      apply isLeftover_eq_nil hskip
      intro t ht
      cases hd with
      | @mk type semicolon items _ _ _ hs =>
        have hlast : semicolon ∈ (type :: (items ++ [semicolon])).getLast? := by
          rw [← List.cons_append, List.getLast?_concat]
          rfl
        have hfirst : t ∈ (skipped ++ back).head? := by
          rw [List.head?_append, ht]
          rfl
        exact hseam semicolon hlast t hfirst hs
    subst hnil
    exact .cons hd (ih htail)

theorem isLooseProgram_of_isProgram {ts : List Token} {ds : List Declaration}
    (h : IsProgram ts ds) : IsLooseProgram ts ds := by
  induction h with
  | nil => exact .nil
  | @cons front back d ds hd hback ih =>
    have hskip : IsLeftover [] back := by
      cases back with
      | nil => exact .endOfTokens (by simp) (by simp)
      | cons t back => exact .typeName (isProgram_head hback t rfl)
    exact .cons hd hskip ih

/-- Loose programs, and nothing else, are read without a fault, each as its own tree. -/
theorem read_eq_iff {ts : List Token} {ds : List Declaration} :
    read ts = ⟨ds, []⟩ ↔ IsLooseProgram (beforeEnd ts) ds :=
  readStatements_eq_iff

/-- Reading undoes the token form of well-formed declarations, whatever its marks look like and
whether or not a closing token ends it. -/
theorem read_toTokens {ds : List Declaration} {ts closing : List Token}
    (hds : ∀ d ∈ ds, d.WellFormed)
    (hts : ts.map bare = (ds.flatMap Declaration.toTokens).map bare)
    (hclosing : ∀ t, closing.head? = some t → t.isEnd = true) :
    (read (ts ++ closing)).errors = [] ∧ (read (ts ++ closing)).declarations = ds := by
  have hprogram := isProgram_of_bare hds hts
  have hbefore := beforeEnd_append (isProgram_isEnd_eq_false hprogram) hclosing
  have hread : read (ts ++ closing) = ⟨ds, []⟩ := by
    apply read_eq_iff.mpr
    rw [hbefore]
    exact isLooseProgram_of_isProgram hprogram
  rw [hread]
  exact ⟨rfl, rfl⟩

/-- Two declarations with marks of unusual texts and lines, and a closing token behind them. -/
theorem read_toTokens_two :
    let ds : List Declaration :=
      [⟨"int", [⟨"a", 1, some ⟨.literal .int, "5", 2⟩⟩, ⟨"b", 3, none⟩], 1⟩,
        ⟨"char", [⟨"c", 4, none⟩], 4⟩]
    let ts : List Token :=
      [⟨.typeName, "int", 1⟩, ⟨.identifier, "a", 1⟩, ⟨.equals, "", -7⟩, ⟨.literal .int, "5", 2⟩,
        ⟨.comma, ",", 90⟩, ⟨.identifier, "b", 3⟩, ⟨.semicolon, ":", 0⟩, ⟨.typeName, "char", 4⟩,
        ⟨.identifier, "c", 4⟩, ⟨.semicolon, ";", 5⟩]
    (∀ d ∈ ds, d.WellFormed) ∧
      ts.map bare = (ds.flatMap Declaration.toTokens).map bare ∧
      (∀ t, [endAt 8].head? = some t → t.isEnd = true) ∧
      (read (ts ++ [endAt 8])).errors = [] ∧ (read (ts ++ [endAt 8])).declarations = ds :=
  ⟨by decide, by decide, by decide, read_toTokens (by decide) (by decide) (by decide)⟩

/-- What was read without a fault is the tree of the tokens before the end, and has the kinds and
texts of these tokens, exactly when their statements adjoin and every mark has its own text. -/
theorem isProgram_read_iff {ts : List Token} (h : (read ts).ok = true) :
    (IsProgram (beforeEnd ts) (read ts).declarations ∧
      ((read ts).declarations.flatMap Declaration.toTokens).map spelling =
        (beforeEnd ts).map spelling) ↔
      StatementsAdjoin (beforeEnd ts) ∧ ∀ t ∈ beforeEnd ts, t.IsSpelled := by
  have hfaults : (read ts).faults = [] := (Reading.ok_iff _).mp h
  have hloose : IsLooseProgram (beforeEnd ts) (read ts).declarations :=
    read_eq_iff.mp (by rw [← hfaults])
  constructor
  · rintro ⟨hprogram, hspelling⟩
    refine ⟨statementsAdjoin_of_isProgram hprogram, fun t ht => ?_⟩
    have hmem := List.mem_map_of_mem (f := spelling) ht
    rw [← hspelling] at hmem
    obtain ⟨u, hu, heq⟩ := List.mem_map.mp hmem
    exact isSpelled_of_spelling_eq heq.symm (hprogram.isSpelled_toTokens u hu)
  · rintro ⟨hadjoin, hspelled⟩
    have hprogram := isProgram_of_isLooseProgram hloose hadjoin
    exact ⟨hprogram,
      map_spelling_eq hprogram.bare_toTokens hprogram.isSpelled_toTokens hspelled⟩

theorem isProgram_read_two :
    let ts : List Token :=
      [⟨.typeName, "int", 1⟩, ⟨.identifier, "a", 1⟩, ⟨.equals, "=", 1⟩, ⟨.literal .int, "5", 1⟩,
        ⟨.comma, ",", 1⟩, ⟨.identifier, "b", 1⟩, ⟨.semicolon, ";", 1⟩, ⟨.typeName, "char", 2⟩,
        ⟨.identifier, "c", 2⟩, ⟨.semicolon, ";", 2⟩, endAt 2]
    (read ts).ok = true ∧ IsProgram (beforeEnd ts) (read ts).declarations ∧
      ((read ts).declarations.flatMap Declaration.toTokens).map spelling =
        (beforeEnd ts).map spelling :=
  ⟨by decide +kernel, (isProgram_read_iff (by decide +kernel)).mpr ⟨by decide, by decide⟩⟩

/-- A statement without a type name, behind a declaration, is passed over and no fault is noticed:
these tokens, of the text `int a; b;`, are no sentence. -/
theorem read_passes_over_statement :
    let ts : List Token :=
      [⟨.typeName, "int", 1⟩, ⟨.identifier, "a", 1⟩, ⟨.semicolon, ";", 1⟩, ⟨.identifier, "b", 1⟩,
        ⟨.semicolon, ";", 1⟩, endAt 1]
    (read ts).ok = true ∧ (∀ ds, ¬ IsProgram (beforeEnd ts) ds) ∧
      ((read ts).declarations.flatMap Declaration.toTokens).map spelling ≠
        (beforeEnd ts).map spelling := by
  refine ⟨by decide +kernel, fun ds hprogram => ?_, by decide +kernel⟩
  exact absurd (statementsAdjoin_of_isProgram hprogram) (by decide)

end DeclLang.Declaration
