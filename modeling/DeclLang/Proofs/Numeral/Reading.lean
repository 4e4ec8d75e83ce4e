import DeclLang.Numeral.Grammar
import DeclLang.Text.Run

/-!
# Reading numerals

A text is read as the numeral that it spells, if this numeral is within the range, and other texts
are not read at all. Each part of a numeral is split off by its first characters, so it matters
what the part behind it can start with: a point or an exponent starts with no digit, and what
follows a sign starts with no other sign.
-/

set_option autoImplicit false

namespace DeclLang.Numeral

open Text

variable {text rest : List Char}

/-! ### The characters of a numeral -/

/-- The characters of a numeral that are not digits. -/
def marks : List Char := ['+', '-', '.', 'e', 'E']

def isDigit (c : Char) : Bool :=
  (decimalDigit? c).isSome

/-- What the characters of a numeral can be. -/
def IsOfNumeral (c : Char) : Prop :=
  isDigit c = true ∨ c ∈ marks

theorem isBlank_eq_false_of_isDigit {c : Char} (h : isDigit c = true) : isBlank c = false := by
  have hapart : digitTable.Apart blankTable := by decide +kernel
  rw [isDigit, decimalDigit?, isSome_digitIn] at h
  exact CodePoints.contains_eq_false_of_apart digitTable_ordered blankTable_ordered hapart h

theorem IsOfNumeral.not_blank {c : Char} (h : IsOfNumeral c) : isBlank c = false := by
  rcases h with h | h
  · exact isBlank_eq_false_of_isDigit h
  · have hmarks : marks.all (!isBlank ·) = true := by decide
    simpa using List.all_eq_true.mp hmarks c h

theorem SpellsDigits.isDigit {ds : List Nat} {c : Char} (h : SpellsDigits text ds)
    (hc : c ∈ text) : isDigit c = true := by
  have hmem : decimalDigit? c ∈ ds.map some := by
    rw [← h]
    exact List.mem_map_of_mem hc
  obtain ⟨d, _, hd⟩ := List.mem_map.mp hmem
  rw [Numeral.isDigit, ← hd]
  rfl

theorem SpellsDigits.ne_nil {ds : List Nat} (h : SpellsDigits text ds) (hds : ds ≠ []) :
    text ≠ [] := by
  rintro rfl
  exact hds (List.map_eq_nil_iff.mp h.symm)

theorem SpellsSign.mem_marks {negative : Bool} {c : Char} (h : SpellsSign text negative)
    (hc : c ∈ text) : c ∈ marks := by
  cases h with
  | none => cases hc
  | plus => exact List.mem_singleton.mp hc ▸ by decide
  | minus => exact List.mem_singleton.mp hc ▸ by decide

theorem SpellsPlaces.mem_cases {whole fraction : List Nat} {c : Char}
    (h : SpellsPlaces text whole fraction) (hc : c ∈ text) : isDigit c = true ∨ c = '.' := by
  cases h with
  | plain hw => exact Or.inl (hw.isDigit hc)
  | pointed hw hf =>
    rcases List.mem_append.mp hc with hc | hc
    · exact Or.inl (hw.isDigit hc)
    · rcases List.mem_cons.mp hc with rfl | hc
      · exact Or.inr rfl
      · exact Or.inl (hf.isDigit hc)

theorem SpellsExponent.isOfNumeral {exponent : Int} {c : Char} (h : SpellsExponent text exponent)
    (hc : c ∈ text) : IsOfNumeral c := by
  cases h with
  | none => cases hc
  | marked hmark hsign hdigits _ =>
    rcases List.mem_cons.mp hc with rfl | hc
    · rcases hmark with rfl | rfl <;> exact Or.inr (by decide)
    · rcases List.mem_append.mp hc with hc | hc
      · exact Or.inr (hsign.mem_marks hc)
      · exact Or.inl (hdigits.isDigit hc)

theorem Spells.isOfNumeral {n : Numeral} {c : Char} (h : Spells text n) (hc : c ∈ text) :
    IsOfNumeral c := by
  cases h with
  | mk hsign hplaces _ hexponent =>
    rcases List.mem_append.mp hc with hc | hc
    · exact Or.inr (hsign.mem_marks hc)
    · rcases List.mem_append.mp hc with hc | hc
      · rcases hplaces.mem_cases hc with hc | rfl
        · exact Or.inl hc
        · exact Or.inr (by decide)
      · exact hexponent.isOfNumeral hc

/-! ### A numeral is read -/

theorem splitDigits_eq (text : List Char) :
    splitDigits text =
      ((text.takeWhile isDigit).filterMap decimalDigit?, text.dropWhile isDigit) := rfl

theorem splitDigits_append {ds : List Nat} (h : SpellsDigits text ds)
    (hrest : StartsOutside isDigit rest) : splitDigits (text ++ rest) = (ds, rest) := by
  have hdigits : ∀ c ∈ text, isDigit c = true := fun c hc => h.isDigit hc
  have hvalues : text.filterMap decimalDigit? = ds := by
    simpa using congrArg (List.filterMap id) h
  rw [splitDigits_eq, takeWhile_append_of_startsOutside hdigits hrest,
    dropWhile_append_of_startsOutside hdigits hrest, hvalues]

theorem splitDigits_of_spellsDigits {ds : List Nat} (h : SpellsDigits text ds) :
    splitDigits text = (ds, []) := by
  have hsplit := splitDigits_append h (startsOutside_nil isDigit)
  rwa [List.append_nil] at hsplit

def isSign (c : Char) : Bool :=
  c == '+' || c == '-'

theorem splitSign_append {negative : Bool} (h : SpellsSign text negative)
    (hrest : StartsOutside isSign rest) : splitSign (text ++ rest) = (negative, rest) := by
  cases h with
  | plus => rfl
  | minus => rfl
  | none =>
    rw [List.nil_append, splitSign]
    · rintro tail rfl
      exact absurd (hrest '-' rfl) (by decide)
    · rintro tail rfl
      exact absurd (hrest '+' rfl) (by decide)

theorem isSign_eq_false_of_isDigit {c : Char} (h : isDigit c = true) : isSign c = false := by
  rw [← Bool.not_eq_true]
  intro hsign
  simp only [isSign, Bool.or_eq_true, beq_iff_eq] at hsign
  rcases hsign with rfl | rfl <;> exact absurd h (by decide +kernel)

/-- Before a further part, digits and a point start with no sign. -/
theorem startsOutside_isSign_append (h : ∀ c ∈ text, isDigit c = true ∨ c = '.')
    (hne : text ≠ []) (rest : List Char) : StartsOutside isSign (text ++ rest) := by
  cases text with
  | nil => exact absurd rfl hne
  | cons c text =>
    apply startsOutside_cons
    rcases h c List.mem_cons_self with hc | rfl
    · exact isSign_eq_false_of_isDigit hc
    · decide

theorem splitPoint_append {whole fraction : List Nat} (h : SpellsPlaces text whole fraction)
    (hdigit : StartsOutside isDigit rest) (hpoint : StartsOutside (· == '.') rest) :
    splitPoint (text ++ rest) = ((whole, fraction), rest) := by
  cases h with
  | plain hw =>
    rw [splitPoint, splitDigits_append hw hdigit]
    dsimp only
    split
    · exact absurd (hpoint '.' rfl) (by decide)
    · rfl
  | pointed hw hf =>
    have hout : isDigit '.' = false := by decide +kernel
    simp only [List.append_assoc, List.cons_append, splitPoint,
      splitDigits_append hw (startsOutside_cons hout _), splitDigits_append hf hdigit]

theorem SpellsExponent.startsOutside {exponent : Int} (h : SpellsExponent text exponent) :
    StartsOutside isDigit text ∧ StartsOutside (· == '.') text := by
  cases h with
  | none => exact ⟨startsOutside_nil _, startsOutside_nil _⟩
  | marked hmark _ _ _ =>
    rcases hmark with rfl | rfl <;>
      exact ⟨startsOutside_cons (by decide +kernel) _, startsOutside_cons (by decide) _⟩

theorem readExponent_of_spells {exponent : Int} (h : SpellsExponent text exponent) :
    readExponent text = some exponent := by
  cases h with
  | none => rfl
  | @marked mark sign text negative digits hmark hsign hdigits hne =>
    have hstarts : StartsOutside isSign (text ++ []) :=
      startsOutside_isSign_append (fun c hc => Or.inl (hdigits.isDigit hc)) (hdigits.ne_nil hne) []
    rw [List.append_nil] at hstarts
    cases digits with
    | nil => exact absurd rfl hne
    | cons d digits =>
      simp only [readExponent, splitSign_append hsign hstarts,
        splitDigits_of_spellsDigits hdigits, hmark, if_true]

theorem SpellsPlaces.ne_nil {whole fraction : List Nat} (h : SpellsPlaces text whole fraction)
    (hne : whole ++ fraction ≠ []) : text ≠ [] := by
  cases h with
  | plain hw => exact hw.ne_nil (by simpa using hne)
  | pointed _ _ => simp

theorem isEmpty_and_isEmpty (n : Numeral) :
    (n.whole.isEmpty && n.fraction.isEmpty) = n.digits.isEmpty := by
  rw [digits]
  cases n.whole <;> rfl

theorem readExact_of_spells {n : Numeral} (h : Spells text n) : readExact text = some n := by
  cases h with
  | mk hsign hplaces hdigits hexponent =>
    obtain ⟨hdigit, hpoint⟩ := hexponent.startsOutside
    have hstarts := startsOutside_isSign_append (fun c hc => hplaces.mem_cases hc)
      (hplaces.ne_nil hdigits)
    have hempty : (n.whole.isEmpty && n.fraction.isEmpty) = false := by
      rw [isEmpty_and_isEmpty]
      exact List.isEmpty_eq_false_iff.mpr hdigits
    simp only [readExact, splitSign_append hsign (hstarts _),
      splitPoint_append hplaces hdigit hpoint, hempty, readExponent_of_spells hexponent]
    rfl

/-! ### What is read is a numeral -/

theorem spellsDigits_filterMap (h : ∀ c ∈ text, isDigit c = true) :
    SpellsDigits text (text.filterMap decimalDigit?) := by
  induction text with
  | nil => rfl
  | cons c text ih =>
    obtain ⟨d, hd⟩ := Option.isSome_iff_exists.mp (h c List.mem_cons_self)
    have hrest := ih fun c hc => h c (List.mem_cons_of_mem _ hc)
    rw [SpellsDigits, List.filterMap_cons_some hd, List.map_cons, List.map_cons, hd, hrest]

theorem exists_splitDigits (text : List Char) :
    ∃ front, text = front ++ (splitDigits text).2 ∧ SpellsDigits front (splitDigits text).1 :=
  ⟨text.takeWhile isDigit, List.takeWhile_append_dropWhile.symm,
    spellsDigits_filterMap fun _ hc => List.mem_takeWhile_imp hc⟩

theorem exists_splitSign (text : List Char) :
    ∃ sign, text = sign ++ (splitSign text).2 ∧ SpellsSign sign (splitSign text).1 := by
  unfold splitSign
  split
  · exact ⟨['-'], rfl, .minus⟩
  · exact ⟨['+'], rfl, .plus⟩
  · exact ⟨[], rfl, .none⟩

theorem exists_splitPoint (text : List Char) :
    ∃ places, text = places ++ (splitPoint text).2 ∧
      SpellsPlaces places (splitPoint text).1.1 (splitPoint text).1.2 := by
  obtain ⟨front, htext, hfront⟩ := exists_splitDigits text
  unfold splitPoint
  dsimp only
  split
  · rename_i rest hrest
    obtain ⟨back, hback, hspells⟩ := exists_splitDigits rest
    refine ⟨front ++ '.' :: back, ?_, .pointed hfront hspells⟩
    rw [List.append_assoc, List.cons_append, ← hback, ← hrest]
    exact htext
  · exact ⟨front, htext, .plain hfront⟩

theorem spells_of_readExponent {exponent : Int} (h : readExponent text = some exponent) :
    SpellsExponent text exponent := by
  cases text with
  | nil =>
    cases h
    exact .none
  | cons mark text =>
    obtain ⟨sign, htext, hsign⟩ := exists_splitSign text
    obtain ⟨front, hrest, hdigits⟩ := exists_splitDigits (splitSign text).2
    simp only [readExponent] at h
    split at h
    · rename_i d digits hsplit
      rw [hsplit] at hrest hdigits
      rw [List.append_nil] at hrest
      split at h
      · rename_i hmark
        rw [htext, hrest, ← Option.some.inj h]
        exact .marked hmark hsign hdigits (List.cons_ne_nil d digits)
      · cases h
    · cases h

theorem spells_of_readExact {n : Numeral} (h : readExact text = some n) : Spells text n := by
  obtain ⟨sign, htext, hsign⟩ := exists_splitSign text
  obtain ⟨places, hrest, hplaces⟩ := exists_splitPoint (splitSign text).2
  simp only [readExact] at h
  split at h
  · cases h
  · rename_i hempty
    obtain ⟨exponent, hexponent, rfl⟩ := Option.map_eq_some_iff.mp h
    rw [isEmpty_and_isEmpty ⟨_, _, _, exponent⟩, List.isEmpty_iff] at hempty
    have hspells := Spells.mk hsign hplaces hempty (spells_of_readExponent hexponent)
    rwa [← hrest, ← htext] at hspells

theorem readExact_eq_some_iff {n : Numeral} : readExact text = some n ↔ Spells text n :=
  ⟨spells_of_readExact, readExact_of_spells⟩

/-! ### Blanks and underscores -/

theorem exists_trimBlanks (text : List Char) :
    ∃ before after, text = before ++ (trimBlanks text ++ after) ∧
      (∀ c ∈ before, isBlank c = true) ∧ ∀ c ∈ after, isBlank c = true := by
  refine ⟨text.takeWhile isBlank, ((text.dropWhile isBlank).reverse.takeWhile isBlank).reverse,
    ?_, fun c hc => List.mem_takeWhile_imp hc,
    fun c hc => List.mem_takeWhile_imp (List.mem_reverse.mp hc)⟩
  rw [trimBlanks, ← List.reverse_append, List.takeWhile_append_dropWhile, List.reverse_reverse,
    List.takeWhile_append_dropWhile]

theorem trimBlanks_append {before core after : List Char} (hb : ∀ c ∈ before, isBlank c = true)
    (hcore : ∀ c ∈ core, isBlank c = false) (ha : ∀ c ∈ after, isBlank c = true) :
    trimBlanks (before ++ (core ++ after)) = core := by
  cases core with
  | nil =>
    have hall : ∀ c ∈ before ++ after, isBlank c = true :=
      fun c hc => (List.mem_append.mp hc).elim (hb c) (ha c)
    have hdrop := dropWhile_append_of_startsOutside hall (startsOutside_nil isBlank)
    rw [List.append_nil] at hdrop
    rw [List.nil_append, trimBlanks, hdrop]
    rfl
  | cons c core =>
    have hstart : StartsOutside isBlank (c :: core ++ after) :=
      startsOutside_cons (hcore c List.mem_cons_self) _
    have hend : StartsOutside isBlank (c :: core).reverse :=
      fun d hd => hcore d (List.mem_reverse.mp (List.mem_of_head? hd))
    have hafter : ∀ d ∈ after.reverse, isBlank d = true :=
      fun d hd => ha d (List.mem_reverse.mp hd)
    rw [trimBlanks, dropWhile_append_of_startsOutside hb hstart, List.reverse_append,
      dropWhile_append_of_startsOutside hafter hend, List.reverse_reverse]

theorem isSpelledBy_iff {text : String} {n : Numeral} :
    n.IsSpelledBy text ↔ readExact ((trimBlanks text.toList).filter (· != '_')) = some n := by
  rw [readExact_eq_some_iff]
  constructor
  · rintro ⟨before, core, after, htext, hb, ha, h⟩
    have hcore : ∀ c ∈ core, isBlank c = false := by
      intro c hc
      by_cases hunderscore : c = '_'
      · rw [hunderscore]
        decide
      · exact (h.isOfNumeral (List.mem_filter.mpr ⟨hc, by simpa using hunderscore⟩)).not_blank
    rwa [htext, trimBlanks_append hb hcore ha]
  · intro h
    obtain ⟨before, after, htext, hb, ha⟩ := exists_trimBlanks text.toList
    exact ⟨before, _, after, htext, hb, ha, h⟩

/-- No text is ambiguous. -/
theorem IsSpelledBy.unique {text : String} {n m : Numeral} (hn : n.IsSpelledBy text)
    (hm : m.IsSpelledBy text) : n = m :=
  Option.some.inj ((isSpelledBy_iff.mp hn).symm.trans (isSpelledBy_iff.mp hm))

/-- A text is read as the numeral that it spells, if this is within the range. -/
theorem read_eq_some_iff {text : String} {n : Numeral} :
    read text = some n ↔ n.IsSpelledBy text ∧ n.isInRange = true := by
  rw [read, Option.filter_eq_some_iff, isSpelledBy_iff]

theorem IsSpelledBy.isOfNumeral {text : String} {n : Numeral} {c : Char} (h : n.IsSpelledBy text)
    (hc : c ∈ text.toList) : isBlank c = true ∨ c = '_' ∨ IsOfNumeral c := by
  obtain ⟨before, core, after, htext, hb, ha, hcore⟩ := h
  rw [htext] at hc
  rcases List.mem_append.mp hc with hc | hc
  · exact Or.inl (hb c hc)
  · rcases List.mem_append.mp hc with hc | hc
    · by_cases hunderscore : c = '_'
      · exact Or.inr (Or.inl hunderscore)
      · exact Or.inr (Or.inr
          (hcore.isOfNumeral (List.mem_filter.mpr ⟨hc, by simpa using hunderscore⟩)))
    · exact Or.inl (ha c hc)

/-! ### Digits and the range -/

theorem SpellsDigits.lt_ten {ds : List Nat} (h : SpellsDigits text ds) : ∀ d ∈ ds, d < 10 := by
  intro d hd
  have hmem : some d ∈ text.map decimalDigit? := by
    rw [h]
    exact List.mem_map_of_mem hd
  obtain ⟨c, _, hc⟩ := List.mem_map.mp hmem
  exact decimalDigit?_lt_ten hc

theorem SpellsPlaces.lt_ten {whole fraction : List Nat} (h : SpellsPlaces text whole fraction) :
    ∀ d ∈ whole ++ fraction, d < 10 := by
  intro d hd
  cases h with
  | plain hw => exact hw.lt_ten d (by simpa using hd)
  | pointed hw hf => exact (List.mem_append.mp hd).elim (hw.lt_ten d) (hf.lt_ten d)

theorem Spells.lt_ten {n : Numeral} (h : Spells text n) : ∀ d ∈ n.digits, d < 10 := by
  cases h with
  | mk _ hplaces _ _ => exact hplaces.lt_ten

theorem IsSpelledBy.lt_ten {text : String} {n : Numeral} (h : n.IsSpelledBy text) :
    ∀ d ∈ n.digits, d < 10 := by
  obtain ⟨_, _, _, _, _, _, hspells⟩ := h
  exact hspells.lt_ten

/-- Only numerals with an exponent, or a number of digits, beyond all bounds are out of range. -/
theorem isInRange_of_le {n : Numeral}
    (h : n.exponent.natAbs + n.digits.length ≤ 999999999999999999) : n.isInRange = true := by
  have hsignificant : n.significant.length ≤ n.digits.length :=
    (List.dropWhile_sublist _).length_le
  have hfraction : n.fraction.length ≤ n.digits.length := by
    rw [digits, List.length_append]
    omega
  rw [isInRange, Bool.or_eq_true, decide_eq_true_eq, decide_eq_true_eq]
  simp only [leadingExponent, scale, leastScale, greatestExponent]
  omega

end DeclLang.Numeral
