import DeclLang.Proofs.Source.Occurrence

/-!
# Numbers as longest matches

The scanner of numbers goes over digits and at most one point and then looks at one more character.
Here a number is the longest text of the grammar that stands at a place, and the character behind it
says which token or which diagnostic is reported of it. The two agree because a number that the scanner would take more for can be
made longer by one character and stays a number.
-/

set_option autoImplicit false

namespace DeclLang.Source

open Text

variable {text number after : List Char}

/-- The longest number that a text starts with, and what is behind it. -/
structure LongestNumber (text number after : List Char) : Prop where
  isNumber : IsNumber number
  text_eq : text = number ++ after
  longest : ∀ candidate, IsNumber candidate → candidate <+: text →
    candidate.length ≤ number.length

/-- Whether a text starts with a digit, or with a minus sign and a digit. -/
def BeginsNumber (text : List Char) : Prop :=
  ∃ c rest, c.isDigit = true ∧ (text = c :: rest ∨ text = '-' :: c :: rest)

/-- What is reported of a number on a line, by what is behind it. -/
inductive NumberOutcome (line : Nat) (number : List Char) : List Char → Reported → Prop where
  | float {c : Char} {after : List Char} : c = 'f' ∨ c = 'F' →
      NumberOutcome line number (c :: after)
        (.token (.literal .float) line (number ++ [c]) after)
  | double {c : Char} {after : List Char} : c = 'd' ∨ c = 'D' →
      NumberOutcome line number (c :: after)
        (.token (.literal .double) line (number ++ [c]) after)
  | long {c : Char} {after : List Char} : c = 'l' ∨ c = 'L' → '.' ∉ number →
      NumberOutcome line number (c :: after)
        (.token (.literal .long) line (number ++ [c]) after)
  | pointInLong {c : Char} {after : List Char} : c = 'l' ∨ c = 'L' → '.' ∈ number →
      NumberOutcome line number (c :: after)
        (.error ("Invalid long literal with decimal point: " ++ String.ofList (number ++ [c])) line
          (number ++ [c]) after)
  | digitLedWord {c : Char} {word after : List Char} :
      c ∉ ['f', 'F', 'd', 'D', 'l', 'L'] → isLetter c = true ∨ c = '_' →
      (∀ d ∈ word, isWordChar d = true) → StartsOutside isWordChar after →
      NumberOutcome line number (c :: word ++ after)
        (.error ("Invalid token (identifier starting with digit): " ++
            String.ofList (number ++ c :: word)) line
          (number ++ c :: word) after)
  | whole {after : List Char} : StartsOutside isWordStart after → '.' ∉ number →
      NumberOutcome line number after (.token (.literal .int) line number after)
  | pointed {after : List Char} : StartsOutside isWordStart after → '.' ∈ number →
      NumberOutcome line number after (.token (.literal .double) line number after)

/-! ### The longest number -/

theorem IsDigits.snoc {digits : List Char} {c : Char} (h : IsDigits digits)
    (hc : c.isDigit = true) : IsDigits (digits ++ [c]) := by
  refine ⟨by simp, ?_⟩
  rw [List.forall_mem_append]
  exact ⟨h.2, by simpa using hc⟩

theorem IsInteger.snoc {c : Char} (h : IsInteger number) (hc : c.isDigit = true) :
    IsInteger (number ++ [c]) := by
  rcases h with h | ⟨digits, h, rfl⟩
  · exact .inl (h.snoc hc)
  · exact .inr ⟨digits ++ [c], h.snoc hc, rfl⟩

theorem IsDecimal.snoc {c : Char} (h : IsDecimal number) (hc : c.isDigit = true) :
    IsDecimal (number ++ [c]) := by
  obtain ⟨whole, fraction, hw, hf, rfl⟩ := h
  refine ⟨whole, fraction ++ [c], hw, ?_, by simp⟩
  rw [List.forall_mem_append]
  exact ⟨hf, by simpa using hc⟩

/-- The scanner ends a number only where no further character makes it a longer one. -/
theorem splitNumber_or_longer (h : IsNumber number) (after : List Char) :
    splitNumber (number ++ after) = (number, after) ∨
      ∃ c rest, after = c :: rest ∧ IsNumber (number ++ [c]) := by
  cases after with
  | nil =>
    left
    exact splitNumber_append_of_isNumber h (startsOutside_nil _)
  | cons c rest =>
    by_cases hc : c.isDigit = true
    · right
      refine ⟨c, rest, rfl, ?_⟩
      rcases h with h | h
      · exact .inl (h.snoc hc)
      · exact .inr (h.snoc hc)
    · rcases h with h | h
      · by_cases hpoint : c = '.'
        · right
          refine ⟨c, rest, rfl, .inr ⟨number, [], h, by simp, ?_⟩⟩
          rw [hpoint]
        · left
          exact splitNumber_append_of_isInteger h (startsOutside_cons (by simp [hc, hpoint]) rest)
      · left
        exact splitNumber_append_of_isDecimal h (startsOutside_cons (by simpa using hc) rest)

theorem LongestNumber.splitNumber_eq (h : LongestNumber text number after) :
    splitNumber text = (number, after) := by
  rw [h.text_eq]
  apply (splitNumber_or_longer h.isNumber after).resolve_right
  rintro ⟨c, rest, rfl, hlonger⟩
  have hle := h.longest (number ++ [c]) hlonger ⟨rest, by rw [h.text_eq]; simp⟩
  rw [List.length_append] at hle
  exact absurd hle (by simp)

/-- No number at the start of a text is longer than the one that the scanner splits off. -/
theorem length_le_splitNumber (h : IsNumber number) (after : List Char) :
    number.length ≤ (splitNumber (number ++ after)).1.length := by
  -- While the number can be longer its next character is moved over to it from what is behind.
  induction after generalizing number with
  | nil =>
    rcases splitNumber_or_longer h [] with hsplit | ⟨c, rest, hnil, _⟩
    · exact Nat.le_of_eq (congrArg (fun split => split.1.length) hsplit).symm
    · cases hnil
  | cons c after ih =>
    rcases splitNumber_or_longer h (c :: after) with hsplit | ⟨d, rest, hcons, hlonger⟩
    · exact Nat.le_of_eq (congrArg (fun split => split.1.length) hsplit).symm
    · obtain ⟨rfl, rfl⟩ := List.cons.inj hcons
      have hle := ih hlonger
      rw [List.append_assoc, List.singleton_append, List.length_append] at hle
      omega

theorem startsNumber_of_beginsNumber {first : Char} {rest : List Char}
    (h : BeginsNumber (first :: rest)) : startsNumber first rest = true := by
  obtain ⟨c, tail, hc, htext | htext⟩ := h
  · obtain ⟨rfl, rfl⟩ := List.cons.inj htext
    simp [startsNumber, hc]
  · obtain ⟨rfl, rfl⟩ := List.cons.inj htext
    simp [startsNumber, hc]

theorem longestNumber_splitNumber (h : BeginsNumber text) :
    LongestNumber text (splitNumber text).1 (splitNumber text).2 := by
  obtain ⟨first, rest, rfl⟩ : ∃ first rest, text = first :: rest := by
    obtain ⟨c, rest, _, rfl | rfl⟩ := h
    · exact ⟨c, rest, rfl⟩
    · exact ⟨'-', c :: rest, rfl⟩
  refine ⟨isNumber_splitNumber (startsNumber_of_beginsNumber h), ?_, ?_⟩
  · exact (splitNumber_append (first :: rest)).symm
  · rintro candidate hcandidate ⟨after, hafter⟩
    rw [← hafter]
    exact length_le_splitNumber hcandidate after

/-! ### The character behind it -/

theorem isWordStart_iff {c : Char} : isWordStart c = true ↔ isLetter c = true ∨ c = '_' := by
  simp [isWordStart]

theorem finishNumber_of_letter {c : Char} {word : List Char}
    (hs : c ∉ ['f', 'F', 'd', 'D', 'l', 'L']) (hc : isLetter c = true ∨ c = '_')
    (hword : ∀ d ∈ word, isWordChar d = true) (hafter : StartsOutside isWordChar after) :
    finishNumber number (c :: word ++ after) =
      ⟨number ++ c :: word, .fault (.digitLedWord (number ++ c :: word)), after⟩ := by
  have hw : IsWord (c :: word) := ⟨isWordStart_iff.mpr hc, hword⟩
  apply finishNumber_of_isWord hw _ hafter number
  intro d hd
  obtain rfl := Option.some.inj hd
  exact suffixKind_eq_none_iff.mpr hs

theorem numberOutcome_finishNumber (line : Nat) (number after : List Char) :
    NumberOutcome line number after ((finishNumber number after).reported line) := by
  by_cases hout : StartsOutside isWordStart after
  · rw [finishNumber_of_startsOutside hout]
    by_cases hp : '.' ∈ number
    · rw [plainKind, if_pos hp]
      exact .pointed hout hp
    · rw [plainKind, if_neg hp]
      exact .whole hout hp
  cases after with
  | nil => exact absurd (startsOutside_nil _) hout
  | cons c after =>
    have hc : isWordStart c = true := by
      by_contra hc
      exact hout (startsOutside_cons (by simpa using hc) after)
    cases hs : suffixKind c with
    | none =>
      have hsuffix := suffixKind_eq_none_iff.mp hs
      have hletter := isWordStart_iff.mp hc
      have hword : ∀ d ∈ after.takeWhile isWordChar, isWordChar d = true :=
        fun d => List.mem_takeWhile_imp
      have hrest := startsOutside_dropWhile isWordChar after
      have hitem : finishNumber number _ = _ := finishNumber_of_letter hsuffix hletter hword hrest
      have houtcome : NumberOutcome line number _ _ := .digitLedWord hsuffix hletter hword hrest
      rw [List.cons_append, List.takeWhile_append_dropWhile] at hitem houtcome
      rw [hitem]
      exact houtcome
    | some kind =>
      rw [finishNumber_of_suffix hs]
      rcases suffixKind_eq_some_iff.mp hs with ⟨rfl, hc⟩ | ⟨rfl, hc⟩ | ⟨rfl, hc⟩
      · exact .float hc
      · exact .double hc
      · by_cases hp : '.' ∈ number
        · rw [suffixFinding, if_pos ⟨rfl, hp⟩]
          exact .pointInLong hc hp
        · rw [suffixFinding, if_neg (by simp [hp])]
          exact .long hc hp

theorem NumberOutcome.eq_finishNumber {line : Nat} {r : Reported}
    (h : NumberOutcome line number after r) : r = (finishNumber number after).reported line := by
  cases h with
  | float hc =>
    have hs := suffixKind_eq_some_iff.mpr (.inl ⟨rfl, hc⟩)
    rw [finishNumber_of_suffix hs, suffixFinding_of_ne_long (by decide)]
    rfl
  | double hc =>
    have hs := suffixKind_eq_some_iff.mpr (.inr (.inl ⟨rfl, hc⟩))
    rw [finishNumber_of_suffix hs, suffixFinding_of_ne_long (by decide)]
    rfl
  | long hc hp =>
    have hs := suffixKind_eq_some_iff.mpr (.inr (.inr ⟨rfl, hc⟩))
    rw [finishNumber_of_suffix hs, suffixFinding, if_neg (by simp [hp])]
    rfl
  | pointInLong hc hp =>
    have hs := suffixKind_eq_some_iff.mpr (.inr (.inr ⟨rfl, hc⟩))
    rw [finishNumber_of_suffix hs, suffixFinding, if_pos ⟨rfl, hp⟩]
    rfl
  | digitLedWord hs hc hword hafter =>
    rw [finishNumber_of_letter hs hc hword hafter]
    rfl
  | whole hout hp =>
    rw [finishNumber_of_startsOutside hout, plainKind, if_neg hp]
    rfl
  | pointed hout hp =>
    rw [finishNumber_of_startsOutside hout, plainKind, if_pos hp]
    rfl

theorem numberOutcome_iff {line : Nat} {r : Reported} :
    NumberOutcome line number after r ↔ r = (finishNumber number after).reported line := by
  constructor
  · intro h
    exact h.eq_finishNumber
  · rintro rfl
    exact numberOutcome_finishNumber line number after

/-! ### In a source -/

theorem scanItem_of_beginsNumber (settings : Settings) {first : Char} {rest : List Char}
    (h : BeginsNumber (first :: rest)) :
    scanItem settings first rest = scanNumber (first :: rest) := by
  have hstart := startsNumber_of_beginsNumber h
  have hlt : first.toNat < 0x41 := by
    obtain ⟨c, tail, hc, htext | htext⟩ := h
    · obtain ⟨rfl, rfl⟩ := List.cons.inj htext
      exact isDigit_toNat_lt hc
    · rw [(List.cons.inj htext).1]
      decide
  simp [scanItem, isWordStart_eq_false_of_lt hlt, hstart]

/-- Numbers are scanned by longest matches. Where an item of a scan begins with a digit, or with a
minus sign and a digit, a longest number stands there, and the token or the diagnostic that is
reported on its line is what becomes of this number by what is behind it, and nothing else could
become of it. -/
theorem scan_numbers (settings : Settings) (source : String) :
    ∃ items, ScansAs settings source items ∧
      ∀ o ∈ items, BeginsNumber (o.item ++ o.after) →
        (∃ number after, LongestNumber (o.item ++ o.after) number after) ∧
        ∀ number after, LongestNumber (o.item ++ o.after) number after →
          ∀ r, NumberOutcome o.line number after r ↔ r = o.reported := by
  obtain ⟨items, hscan, _⟩ := exists_scansAs settings source
  refine ⟨items, hscan, ?_⟩
  intro o ho hbegins
  refine ⟨⟨_, _, longestNumber_splitNumber hbegins⟩, ?_⟩
  intro number after hlongest r
  obtain ⟨first, rest, htext, hscanned⟩ := hscan.isScanned o ho
  rw [htext] at hbegins hlongest
  have hitem : o.scanned = finishNumber number after := by
    rw [← hscanned, scanItem_of_beginsNumber settings hbegins, scanNumber,
      hlongest.splitNumber_eq]
  rw [numberOutcome_iff, ← hitem, o.reported_scanned]

end DeclLang.Source
