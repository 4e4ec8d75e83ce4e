import DeclLang.Literal.Assignable
import DeclLang.Proofs.Numeral.Reading
import DeclLang.Source.LexemeScan
import Mathlib.Data.List.Basic
import Mathlib.Data.List.TakeWhile

/-!
# Number literals as numerals

The text of a number literal without its suffix is a numeral, and whether the value of this numeral
is whole can be seen from the digits behind its point. No bound on the number of digits is needed,
because a numeral without an exponent is always within the range of numerals.
-/

set_option autoImplicit false

namespace DeclLang

open Text Source

variable {number text : List Char}

/-- The digits behind the point of a text, if it has one. -/
def digitsBehindPoint (text : List Char) : List Char :=
  ((text.dropWhile (· != '.')).drop 1).filter Char.isDigit

/-- The value of an ASCII digit. -/
def digitValue (c : Char) : Nat :=
  c.toNat - '0'.toNat

/-! ### Characters -/

theorem toNat_of_isDigit {c : Char} (h : c.isDigit = true) : 48 ≤ c.toNat ∧ c.toNat ≤ 57 := by
  simp only [Char.isDigit, Bool.and_eq_true, decide_eq_true_eq] at h
  exact ⟨h.1, h.2⟩

theorem decimalDigit?_of_isDigit {c : Char} (h : c.isDigit = true) :
    decimalDigit? c = some (digitValue c) := by
  obtain ⟨hlow, hhigh⟩ := toNat_of_isDigit h
  have hmod : (c.toNat - 48) % 10 = digitValue c := by
    change (c.toNat - 48) % 10 = c.toNat - 48
    omega
  rw [decimalDigit?, digitTable, digitIn, if_neg (by omega), if_pos (by omega), hmod]

theorem digitValue_eq_zero_iff {c : Char} (h : c.isDigit = true) :
    digitValue c = 0 ↔ c = '0' := by
  have hlow := (toNat_of_isDigit h).1
  constructor
  · intro hzero
    apply Char.toNat_inj.mp
    change c.toNat - 48 = 0 at hzero
    change c.toNat = 48
    omega
  · rintro rfl
    rfl

theorem ne_underscore_of_isNumber {c : Char} (h : IsNumber number) (hc : c ∈ number) : c ≠ '_' := by
  rcases h.mem_cases hc with hc | rfl | rfl
  · rintro rfl
    cases hc
  · decide
  · decide

/-! ### Reading -/

theorem digitsBehindPoint_of_notMem (h : '.' ∉ text) : digitsBehindPoint text = [] := by
  have hdrop := (split_at_first h (startsOutside_nil _)).2
  rw [List.append_nil] at hdrop
  rw [digitsBehindPoint, hdrop]
  rfl

theorem digitsBehindPoint_append (h : '.' ∉ text) (rest : List Char) :
    digitsBehindPoint (text ++ '.' :: rest) = rest.filter Char.isDigit := by
  have hpoint : StartsOutside (· != '.') ('.' :: rest) := startsOutside_cons rfl rest
  rw [digitsBehindPoint, (split_at_first h hpoint).2]
  rfl

theorem spellsDigits_of_isDigit (h : ∀ c ∈ text, c.isDigit = true) :
    Numeral.SpellsDigits text (text.map digitValue) := by
  rw [Numeral.SpellsDigits, List.map_map]
  apply List.map_congr_left
  intro c hc
  exact decimalDigit?_of_isDigit (h c hc)

theorem exists_sign_of_isInteger (h : IsInteger text) :
    ∃ sign negative digits, text = sign ++ digits ∧ Numeral.SpellsSign sign negative ∧
      IsDigits digits := by
  rcases h with h | ⟨digits, h, rfl⟩
  · exact ⟨[], false, text, rfl, .none, h⟩
  · exact ⟨['-'], true, digits, rfl, .minus, h⟩

/-- A number of the grammar spells a numeral with an exponent of zero and its own fraction
digits. -/
theorem exists_spells_of_isNumber (h : IsNumber number) :
    ∃ n, Numeral.Spells number n ∧ n.exponent = 0 ∧
      n.fraction = (digitsBehindPoint number).map digitValue := by
  rcases h with h | ⟨integer, fraction, h, hf, rfl⟩
  · obtain ⟨sign, negative, digits, rfl, hsign, hdigits⟩ := exists_sign_of_isInteger h
    let n : Numeral := ⟨negative, digits.map digitValue, [], 0⟩
    have hplaces : Numeral.SpellsPlaces digits n.whole n.fraction :=
      .plain (spellsDigits_of_isDigit hdigits.2)
    have hspells := Numeral.Spells.mk hsign hplaces (by simpa [n, Numeral.digits] using hdigits.1)
      .none
    rw [List.append_nil] at hspells
    refine ⟨n, hspells, rfl, ?_⟩
    rw [digitsBehindPoint_of_notMem h.point_notMem]
    rfl
  · rw [digitsBehindPoint_append h.point_notMem, List.filter_eq_self.mpr hf]
    obtain ⟨sign, negative, digits, rfl, hsign, hdigits⟩ := exists_sign_of_isInteger h
    let n : Numeral := ⟨negative, digits.map digitValue, fraction.map digitValue, 0⟩
    have hplaces : Numeral.SpellsPlaces (digits ++ '.' :: fraction) n.whole n.fraction :=
      .pointed (spellsDigits_of_isDigit hdigits.2) (spellsDigits_of_isDigit hf)
    have hspells := Numeral.Spells.mk hsign hplaces
      (by simp [n, Numeral.digits, hdigits.1]) .none
    rw [List.append_nil, ← List.append_assoc] at hspells
    exact ⟨n, hspells, rfl, rfl⟩

theorem exists_read_of_isNumber (h : IsNumber number) :
    ∃ n, Numeral.read (String.ofList number) = some n ∧ n.exponent = 0 ∧
      n.fraction = (digitsBehindPoint number).map digitValue := by
  obtain ⟨n, hspells, hexponent, hfraction⟩ := exists_spells_of_isNumber h
  have hfilter : number.filter (· != '_') = number := by
    apply List.filter_eq_self.mpr
    intro c hc
    simpa using ne_underscore_of_isNumber h hc
  have hspelled : n.IsSpelledBy (String.ofList number) :=
    ⟨[], number, [], by simp, by simp, by simp, by rwa [hfilter]⟩
  have hrange : n.isInRange = true := by simp [Numeral.isInRange, hexponent]
  exact ⟨n, Numeral.read_eq_some_iff.mpr ⟨hspelled, hrange⟩, hexponent, hfraction⟩

/-! ### Whole values -/

theorem length_le_takeWhile_iff {α : Type} {p : α → Bool} (front back : List α) :
    front.length ≤ ((front ++ back).takeWhile p).length ↔ ∀ a ∈ front, p a = true := by
  constructor
  · intro hle
    have hfront : front <+: (front ++ back).takeWhile p :=
      List.prefix_of_prefix_length_le (List.prefix_append front back)
        (List.takeWhile_prefix p) hle
    intro a ha
    exact List.mem_takeWhile_imp (hfront.subset ha)
  · intro hall
    rw [List.takeWhile_append_of_pos hall, List.length_append]
    omega

/-- Without an exponent a numeral is whole when all digits behind its point are zero. -/
theorem isWhole_iff_of_exponent {n : Numeral} (h : n.exponent = 0) :
    n.isWhole = true ↔ ∀ d ∈ n.fraction, d = 0 := by
  have hzeros : n.fraction.length ≤ Numeral.trailingZeros n.digits ↔ ∀ d ∈ n.fraction, d = 0 := by
    rw [Numeral.trailingZeros, Numeral.digits, List.reverse_append, ← List.length_reverse,
      length_le_takeWhile_iff]
    simp
  have hscale : 0 ≤ n.scale + Numeral.trailingZeros n.digits ↔
      n.fraction.length ≤ Numeral.trailingZeros n.digits := by
    rw [Numeral.scale, h]
    omega
  rw [Numeral.isWhole, Bool.or_eq_true, decide_eq_true_eq, hscale, hzeros]
  constructor
  · rintro (hall | hfraction)
    · intro d hd
      have hzero := List.all_eq_true.mp hall d (List.mem_append_right n.whole hd)
      simpa using hzero
    · exact hfraction
  · exact .inr

/-! ### Literals -/

/-- The kinds of literals that are numbers. -/
def LiteralKind.isNumber : LiteralKind → Bool
  | .int | .long | .float | .double => true
  | .char | .string | .boolean => false

theorem isDigit_of_mem_suffixes {c : Char} (h : c ∈ Literal.suffixes) : c.isDigit = false := by
  simp only [Literal.suffixes, List.mem_cons, List.not_mem_nil, or_false] at h
  rcases h with rfl | rfl | rfl | rfl | rfl | rfl <;> rfl

theorem suffix_mem_suffixes {c : Char} {kind : LiteralKind} (h : suffixKind c = some kind) :
    c ∈ Literal.suffixes := by
  rcases suffixKind_eq_some_iff.mp h with ⟨_, rfl | rfl⟩ | ⟨_, rfl | rfl⟩ | ⟨_, rfl | rfl⟩ <;> decide

theorem stripSuffix_append {c : Char} (h : c ∈ Literal.suffixes) (text : List Char) :
    Literal.stripSuffix (String.ofList (text ++ [c])) = String.ofList text := by
  simp only [Literal.stripSuffix, String.toList_ofList, List.getLast?_concat, if_pos h,
    List.dropLast_concat]

theorem stripSuffix_of_isNumber (h : IsNumber number) :
    Literal.stripSuffix (String.ofList number) = String.ofList number := by
  rw [Literal.stripSuffix, String.toList_ofList]
  split
  · rename_i last hlast
    have hne : last ∉ Literal.suffixes := by
      rcases h.mem_cases (List.mem_of_getLast? hlast) with hc | rfl | rfl
      · intro hmem
        rw [isDigit_of_mem_suffixes hmem] at hc
        cases hc
      · decide
      · decide
    rw [if_neg hne]
  · rfl

theorem digitsBehindPoint_concat {c : Char} (h : c.isDigit = false) (text : List Char) :
    digitsBehindPoint (text ++ [c]) = digitsBehindPoint text := by
  by_cases hpoint : '.' ∈ text
  · obtain ⟨front, back, rfl, hfront⟩ := List.eq_append_cons_of_mem hpoint
    rw [List.append_assoc, List.cons_append, digitsBehindPoint_append hfront,
      digitsBehindPoint_append hfront, List.filter_append, List.filter_singleton, h]
    simp
  · rw [digitsBehindPoint_of_notMem hpoint]
    by_cases hc : c = '.'
    · rw [hc, digitsBehindPoint_append hpoint]
      rfl
    · apply digitsBehindPoint_of_notMem
      simp [hpoint, Ne.symm hc]

/-- The text of a number literal is a number, with or without a suffix behind it. -/
theorem exists_number_of_isLiteral {settings : Settings} {kind : LiteralKind}
    (hkind : kind.isNumber = true) (h : IsLiteral settings kind text) :
    ∃ number, IsNumber number ∧
      (text = number ∨ ∃ c ∈ Literal.suffixes, text = number ++ [c]) := by
  cases kind with
  | int => exact ⟨text, .inl h, .inl rfl⟩
  | long =>
    obtain ⟨number, c, hnumber, hc, rfl⟩ := h
    exact ⟨number, .inl hnumber, .inr ⟨c, suffix_mem_suffixes hc, rfl⟩⟩
  | float =>
    obtain ⟨number, c, hnumber, hc, rfl⟩ := h
    exact ⟨number, hnumber, .inr ⟨c, suffix_mem_suffixes hc, rfl⟩⟩
  | double =>
    rcases h with h | ⟨number, c, hnumber, hc, rfl⟩
    · exact ⟨text, .inr h, .inl rfl⟩
    · exact ⟨number, hnumber, .inr ⟨c, suffix_mem_suffixes hc, rfl⟩⟩
  | char => cases hkind
  | string => cases hkind
  | boolean => cases hkind

/-- Without its suffix a number literal is a numeral, and the value of the numeral is whole when all
digits behind the point of the literal are zeros. -/
theorem isWhole_iff_of_isLiteral {settings : Settings} {kind : LiteralKind} {lexeme : String}
    (hkind : kind.isNumber = true) (h : IsLiteral settings kind lexeme.toList) :
    (Numeral.read (Literal.stripSuffix lexeme)).isSome = true ∧
      (Literal.isWhole lexeme = true ↔ ∀ c ∈ digitsBehindPoint lexeme.toList, c = '0') := by
  obtain ⟨number, hnumber, htext⟩ := exists_number_of_isLiteral hkind h
  obtain ⟨n, hread, hexponent, hfraction⟩ := exists_read_of_isNumber hnumber
  have hstrip : Literal.stripSuffix lexeme = String.ofList number ∧
      digitsBehindPoint lexeme.toList = digitsBehindPoint number := by
    rw [← String.ofList_toList (s := lexeme), String.toList_ofList]
    rcases htext with htext | ⟨c, hc, htext⟩
    · rw [htext]
      exact ⟨stripSuffix_of_isNumber hnumber, rfl⟩
    · rw [htext]
      exact ⟨stripSuffix_append hc number,
        digitsBehindPoint_concat (isDigit_of_mem_suffixes hc) number⟩
  rw [Literal.isWhole, hstrip.1, hstrip.2, hread, Option.any_some,
    isWhole_iff_of_exponent hexponent, hfraction, List.forall_mem_map]
  refine ⟨rfl, ?_⟩
  apply forall₂_congr
  intro c hc
  exact digitValue_eq_zero_iff (List.mem_filter.mp hc).2

end DeclLang
