import DeclLang.Proofs.Analysis.FirstFailure
import DeclLang.Proofs.Declaration.Kept
import DeclLang.Proofs.Literal.NumberText
import DeclLang.Proofs.Source.Layout
import DeclLang.Proofs.Validity.Mismatch

/-!
# Scanned numbers as initializers

The scanner and the checker of initializers each have their own idea of a number. They agree: every
number that is scanned is one for the checker, and a fractional literal may initialize a variable of
a whole-number type when no digit behind its point is other than zero. So a mismatch is reported of
such a literal by its digits alone, and the type names of the settings do not matter for it.
-/

set_option autoImplicit false

namespace DeclLang

open Session

/-! ### Initializers that were scanned -/

section Scanned

variable {settings : Settings} {source : String} {v : Variable} {i : Initializer}

/-- The type names and the initializers of variables are tokens that were scanned. -/
theorem kept_of_mem_variables (hv : v ∈ variablesOf (readingOf settings source).declarations) :
    (∃ line, ⟨.typeName, v.typeName, line⟩ ∈ tokensOf settings source) ∧
      ∀ i ∈ v.declarator.initializer, i.token ∈ tokensOf settings source := by
  obtain ⟨d, hd, hvd⟩ := List.mem_flatMap.mp hv
  obtain ⟨declarator, hdeclarator, rfl⟩ := List.mem_map.mp hvd
  have hkept : ∀ t ∈ d.kept, t ∈ tokensOf settings source := by
    intro t ht
    have hbefore := (Declaration.kept_read (tokensOf settings source)).subset
      (List.mem_flatMap.mpr ⟨d, hd, ht⟩)
    exact (List.takeWhile_sublist _).subset hbefore
  constructor
  · exact ⟨d.line, hkept _ List.mem_cons_self⟩
  · intro i hi
    apply hkept
    apply List.mem_cons_of_mem
    rw [List.mem_flatMap]
    refine ⟨declarator, hdeclarator, List.mem_cons_of_mem _ ?_⟩
    exact List.mem_map_of_mem (Option.mem_toList.mpr hi)

theorem space_notMem_typeName (hv : v ∈ variablesOf (readingOf settings source).declarations) :
    ' ' ∉ v.typeName.toList := by
  obtain ⟨line, htoken⟩ := (kept_of_mem_variables hv).1
  have hlexeme := Source.isLexeme_of_mem_tokens htoken rfl
  intro hspace
  exact absurd (Source.isWordChar_of_mem_word hlexeme.1 _ hspace) (by decide)

theorem isLiteral_of_mem_variables {kind : LiteralKind} (hkind : i.kind = .literal kind)
    (hv : v ∈ variablesOf (readingOf settings source).declarations)
    (hi : i ∈ v.declarator.initializer) :
    Source.IsLiteral settings kind i.lexeme.toList := by
  obtain ⟨iKind, lexeme, line⟩ := i
  obtain rfl : iKind = .literal kind := hkind
  exact Source.isLexeme_of_mem_tokens ((kept_of_mem_variables hv).2 _ hi) rfl

end Scanned

theorem parenthesis_notMem_of_isLiteral {settings : Settings} {kind : LiteralKind}
    {text : List Char} (hkind : kind.isNumber = true) (h : Source.IsLiteral settings kind text) :
    ')' ∉ text := by
  obtain ⟨number, hnumber, htext⟩ := exists_number_of_isLiteral hkind h
  have hnotMem : ')' ∉ number := by
    intro hmem
    rcases hnumber.mem_cases hmem with hc | hc | hc <;> cases hc
  rcases htext with rfl | ⟨c, hc, rfl⟩
  · exact hnotMem
  · rw [List.mem_append, List.mem_singleton]
    rintro (hmem | rfl)
    · exact hnotMem hmem
    · exact absurd hc (by decide)

/-! ### Whole-number types -/

/-- A fractional literal fits a whole-number type if its value is whole. -/
theorem isAssignable_of_fractional {typeName : String} {kind : LiteralKind}
    (htype : typeName ∈ ["byte", "short", "int", "long"]) (hkind : kind = .float ∨ kind = .double)
    (lexeme : String) :
    isAssignable (some typeName) (.literal kind) lexeme = Literal.isWhole lexeme := by
  obtain ⟨type, hname, hwhole⟩ :
      ∃ type : DeclaredType, type.name = typeName ∧ type.isWholeNumber = true := by
    simp only [List.mem_cons, List.not_mem_nil, or_false] at htype
    rcases htype with rfl | rfl | rfl | rfl
    · exact ⟨.byte, rfl, rfl⟩
    · exact ⟨.short, rfl, rfl⟩
    · exact ⟨.int, rfl, rfl⟩
    · exact ⟨.long, rfl, rfl⟩
  have hfind : Named.find? typeName = some type := Named.find?_eq_some_iff.mpr hname
  have haccepted : kind ∉ type.accepted := by
    rcases hkind with rfl | rfl <;> revert hwhole <;> cases type <;> decide
  have hfractional : (kind == .float || kind == .double) = true := by
    rcases hkind with rfl | rfl <;> rfl
  simp only [isAssignable, Option.bind_some, hfind, DeclaredType.accepts, haccepted, hwhole,
    hfractional, decide_false, Bool.false_or, Bool.true_and]

section Agreement

variable {settings : Settings} {source : String}

theorem isWhole_of_mem_tokens {t : Token} {kind : LiteralKind}
    (ht : t ∈ tokensOf settings source) (hkind : t.kind = .literal kind)
    (hnumber : kind.isNumber = true) :
    (Numeral.read (Literal.stripSuffix t.lexeme)).isSome = true ∧
      (Literal.isWhole t.lexeme = true ↔
        '.' ∉ t.lexeme.toList ∨ ∀ c ∈ digitsBehindPoint t.lexeme.toList, c = '0') := by
  have hend : t.isEnd = false := by simp [Token.isEnd, hkind]
  have hlexeme := Source.isLexeme_of_mem_tokens ht hend
  rw [hkind] at hlexeme
  obtain ⟨hread, hwhole⟩ := isWhole_iff_of_isLiteral hnumber hlexeme
  refine ⟨hread, hwhole.trans ⟨.inr, ?_⟩⟩
  rintro (hpoint | hzeros)
  · rw [digitsBehindPoint_of_notMem hpoint]
    simp
  · exact hzeros

theorem mismatch_mem_validate_of_fractional {v : Variable} {i : Initializer} {kind : LiteralKind}
    (hv : v ∈ variablesOf (readingOf settings source).declarations)
    (hi : i ∈ v.declarator.initializer) (hliteral : i.kind = .literal kind)
    (hkind : kind = .float ∨ kind = .double)
    (htype : v.typeName ∈ ["byte", "short", "int", "long"]) :
    v.mismatch i ∈ errorsOf settings source ↔
      ∃ c ∈ digitsBehindPoint i.lexeme.toList, c ≠ '0' := by
  have hnumber : kind.isNumber = true := by rcases hkind with rfl | rfl <;> rfl
  have hlexeme : ∀ w ∈ variablesOf (readingOf settings source).declarations,
      ∀ j ∈ w.declarator.initializer, j.kind = i.kind → ')' ∉ j.lexeme.toList := by
    intro w hw j hj hsame
    exact parenthesis_notMem_of_isLiteral hnumber
      (isLiteral_of_mem_variables (hsame.trans hliteral) hw hj)
  have hwhole := (isWhole_iff_of_isLiteral hnumber (isLiteral_of_mem_variables hliteral hv hi)).2
  rw [errorsOf, mismatch_mem_validate_iff hv hi hlexeme fun w hw => space_notMem_typeName hw,
    hliteral, isAssignable_of_fractional htype hkind, ← Bool.not_eq_true, hwhole]
  simp

end Agreement

/-- The scanner and the checker agree on numbers. Without its suffix every scanned number is a
numeral, and its value is whole when it has no digit but zeros behind a point. So a scanned
fractional literal that initializes a variable of a whole-number type is reported as a mismatch when
it has another digit behind its point; and the whole analysis reports what the checker does, unless
it already found faults before. -/
theorem validate_scanned_numbers (settings : Settings) (source : String) :
    let tokens := (Source.scan settings source).tokens
    let reading := Declaration.read tokens
    (∀ t ∈ tokens, ∀ kind, t.kind = .literal kind → kind.isNumber = true →
      (Numeral.read (Literal.stripSuffix t.lexeme)).isSome = true ∧
      (Literal.isWhole t.lexeme = true ↔
        '.' ∉ t.lexeme.toList ∨ ∀ c ∈ digitsBehindPoint t.lexeme.toList, c = '0')) ∧
    (∀ v ∈ variablesOf reading.declarations, ∀ i ∈ v.declarator.initializer,
      i.kind = .literal .float ∨ i.kind = .literal .double →
      v.typeName ∈ ["byte", "short", "int", "long"] →
      i.token ∈ tokens ∧
      (v.mismatch i ∈ validate settings reading.declarations ↔
        ∃ c ∈ digitsBehindPoint i.lexeme.toList, c ≠ '0')) ∧
    ((Source.scan settings source).errors = [] → reading.errors = [] →
      (analyze settings .semantic source).diagnostics.entries =
        validate settings reading.declarations) := by
  intro tokens reading
  refine ⟨?_, ?_, ?_⟩
  · intro t ht kind hkind hnumber
    exact isWhole_of_mem_tokens ht hkind hnumber
  · intro v hv i hi hkind htype
    refine ⟨(kept_of_mem_variables hv).2 i hi, ?_⟩
    rcases hkind with hkind | hkind
    · exact mismatch_mem_validate_of_fractional hv hi hkind (.inl rfl) htype
    · exact mismatch_mem_validate_of_fractional hv hi hkind (.inr rfl) htype
  · intro hscan hread
    rw [Analysis.entries_analyze, Analysis.firstErrors_of_reading (by decide) hscan hread]
    rfl

example : errorsOf {} "int x = 2.5, y = 2.0;" =
    [⟨.semantic, 1, "Type mismatch: cannot assign DOUBLE_LITERAL(2.5) to int variable 'x'"⟩] := by
  decide +kernel

end DeclLang
