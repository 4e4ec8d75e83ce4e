import DeclLang.Source.LexemeScan

/-!
# The grammar of faults

Which texts are faulty items, in front of which texts. Unlike tokens, some faults show only by
what stands behind them: an open string needs the end of its line, a single character that begins
nothing needs the character behind it. Scanning reports a fault exactly where the grammar has one.

The grammar does not say what stands in front of an item; a quote inside a comment, say, begins
nothing.
-/

set_option autoImplicit false

namespace DeclLang.Source

open Text

/-- A character that, in front of the given text, begins no gap, no word, no quoted literal and no
token. -/
structure StartsNothing (settings : Settings) (c : Char) (rest : List Char) : Prop where
  blank : isBlank c = false
  comment : c = '/' → rest.head? ≠ some '/' ∧ rest.head? ≠ some '*'
  word : isWordStart c = false
  quote : c ≠ '"' ∧ c ≠ '\''
  token : ∀ kind lexeme, IsLexeme settings kind lexeme → ¬ lexeme <+: c :: rest

/-- Bodies that the end of a line leaves open: no closing quote, perhaps a last backslash that takes
nothing along. -/
def OpenBody (mark : Char) (body : List Char) : Prop :=
  QuotedBody mark body ∨ ∃ front, QuotedBody mark front ∧ body = front ++ ['\\']

/-- Where a line ends. -/
def AtLineEnd (text : List Char) : Prop :=
  text = [] ∨ ∃ after, text = '\n' :: after

/-- The faulty items, each with its fault and in front of the text behind it. -/
inductive IsFaulty (settings : Settings) : LexicalFault → List Char → List Char → Prop where
  | unknownCharacter {c : Char} {rest : List Char} :
      StartsNothing settings c rest → IsFaulty settings (.unknownCharacter c) [c] rest
  | pointInLong {number rest : List Char} {c : Char} :
      IsDecimal number → suffixKind c = some .long →
      IsFaulty settings (.pointInLong (number ++ [c])) (number ++ [c]) rest
  | digitLedWord {number word rest : List Char} :
      IsNumber number → IsWord word → (∀ c, word.head? = some c → suffixKind c = none) →
      StartsOutside isWordChar rest →
      IsFaulty settings (.digitLedWord (number ++ word)) (number ++ word) rest
  | unterminatedString {body rest : List Char} :
      OpenBody '"' body → AtLineEnd rest → IsFaulty settings .unterminatedString ('"' :: body) rest
  | unterminatedChar {body : List Char} :
      OpenBody '\'' body → IsFaulty settings .unterminatedChar ('\'' :: body) []
  | newlineInChar {body rest : List Char} :
      OpenBody '\'' body → IsFaulty settings .newlineInChar ('\'' :: body ++ ['\n']) rest
  | badCharContent {body rest : List Char} :
      QuotedBody '\'' body → isCharContent body = false →
      IsFaulty settings (.badCharContent body) ('\'' :: body ++ ['\'']) rest
  | lookUpFailed {word rest : List Char} {reason : String} :
      IsWord word → settings.lookUpType (String.ofList word) = .error reason →
      StartsOutside isWordChar rest → IsFaulty settings (.lookUpFailed reason) word rest

/-- The items of either sort. -/
def IsItem (settings : Settings) (finding : Finding) (item rest : List Char) : Prop :=
  match finding with
  | .token kind => IsLexeme settings kind item
  | .fault fault => IsFaulty settings fault item rest

/-! ### Single characters -/

theorem startsNumber_of_append {number suffix tail : List Char} {c : Char} (h : IsNumber number)
    (heq : c :: tail = number ++ suffix) (rest : List Char) :
    startsNumber c (tail ++ rest) = true := by
  obtain ⟨first, digits, rfl, _, hs⟩ := startsNumber_of_isNumber (suffix ++ rest) h
  rw [List.cons_append] at heq
  obtain ⟨rfl, rfl⟩ := List.cons.inj heq
  rw [List.append_assoc]
  exact hs

theorem isLexeme_ne_nil {settings : Settings} {kind : Token.Kind} {lexeme : List Char}
    (h : IsLexeme settings kind lexeme) : lexeme ≠ [] := by
  have hout : StartsOutside continues [] := by simp [StartsOutside]
  obtain ⟨first, tail, rfl, _⟩ := scanItem_of_isLexeme h hout
  simp

/-- The first character of a token tells words, numbers, quoted literals and marks apart. -/
theorem first_of_isLexeme {settings : Settings} {kind : Token.Kind} {c : Char}
    {tail : List Char} (h : IsLexeme settings kind (c :: tail)) (rest : List Char) :
    isWordStart c = true ∨ startsNumber c (tail ++ rest) = true ∨ (c = '"' ∨ c = '\'') ∨
      punctuationKind c = some kind := by
  cases kind with
  | typeName => exact Or.inl h.1.1
  | identifier => exact Or.inl h.1.1
  | equals => cases h; simp [punctuationKind]
  | comma => cases h; simp [punctuationKind]
  | semicolon => cases h; simp [punctuationKind]
  | endOfInput => exact h.elim
  | literal kind =>
    cases kind with
    | int => exact Or.inr (Or.inl (startsNumber_of_append (.inl h) (List.append_nil _).symm rest))
    | long =>
      obtain ⟨n, d, hn, _, heq⟩ := h
      exact Or.inr (Or.inl (startsNumber_of_append (.inl hn) heq rest))
    | float =>
      obtain ⟨n, d, hn, _, heq⟩ := h
      exact Or.inr (Or.inl (startsNumber_of_append hn heq rest))
    | double =>
      rcases h with h | ⟨n, d, hn, _, heq⟩
      · exact Or.inr (Or.inl (startsNumber_of_append (.inr h) (List.append_nil _).symm rest))
      · exact Or.inr (Or.inl (startsNumber_of_append hn heq rest))
    | char =>
      obtain ⟨body, _, _, heq⟩ := h
      exact Or.inr (Or.inr (Or.inl (Or.inr (List.cons.inj heq).1)))
    | string =>
      obtain ⟨body, _, heq⟩ := h
      exact Or.inr (Or.inr (Or.inl (Or.inl (List.cons.inj heq).1)))
    | boolean => exact Or.inl (isWord_of_booleanWord h.1).1

theorem exists_isInteger_prefix {c : Char} {rest : List Char} (h : startsNumber c rest = true) :
    ∃ number, IsInteger number ∧ number <+: c :: rest := by
  simp only [startsNumber, Bool.or_eq_true, Bool.and_eq_true, beq_iff_eq] at h
  rcases h with h | ⟨rfl, h⟩
  · exact ⟨[c], Or.inl ⟨by simp, by simpa using h⟩, by simp⟩
  · cases rest with
    | nil => simp at h
    | cons d rest =>
      refine ⟨['-', d], Or.inr ⟨[d], ⟨by simp, ?_⟩, rfl⟩, by simp⟩
      simpa using h

theorem isLexeme_of_punctuationKind (settings : Settings) {c : Char} {kind : Token.Kind}
    (h : punctuationKind c = some kind) : IsLexeme settings kind [c] :=
  isLexeme_markFinding settings (by rw [markFinding, h])

/-- Among characters that begin neither a word nor a quoted literal, those that begin no token are
told by the scanner's own tests. -/
theorem startsNothing_iff {settings : Settings} {c : Char} {rest : List Char} :
    StartsNothing settings c rest ↔
      isBlank c = false ∧ (c = '/' → rest.head? ≠ some '/' ∧ rest.head? ≠ some '*') ∧
      isWordStart c = false ∧ (c ≠ '"' ∧ c ≠ '\'') ∧ startsNumber c rest = false ∧
      punctuationKind c = none := by
  constructor
  · intro h
    refine ⟨h.blank, h.comment, h.word, h.quote, ?_, ?_⟩
    · rw [← Bool.not_eq_true]
      intro hs
      obtain ⟨number, hn, hp⟩ := exists_isInteger_prefix hs
      exact h.token (.literal .int) number hn hp
    · rw [Option.eq_none_iff_forall_ne_some]
      intro kind hk
      exact h.token kind [c] (isLexeme_of_punctuationKind settings hk) (by simp)
  · rintro ⟨hblank, hcomment, hword, hquote, hnumber, hmark⟩
    refine ⟨hblank, hcomment, hword, hquote, ?_⟩
    intro kind lexeme hl hp
    obtain ⟨first, tail, rfl⟩ := List.exists_cons_of_ne_nil (isLexeme_ne_nil hl)
    obtain ⟨rfl, after, rfl⟩ := List.cons_prefix_cons.mp hp
    rcases first_of_isLexeme hl after with h | h | h | h
    · rw [hword] at h
      cases h
    · rw [hnumber] at h
      cases h
    · exact h.elim hquote.1 hquote.2
    · rw [hmark] at h
      cases h

/-! ### Open bodies -/

theorem OpenBody.plain {mark c : Char} {body : List Char} (hm : c ≠ mark) (hb : c ≠ '\\')
    (hn : c ≠ '\n') (h : OpenBody mark body) : OpenBody mark (c :: body) := by
  rcases h with h | ⟨front, h, rfl⟩
  · exact Or.inl (.plain hm hb hn h)
  · exact Or.inr ⟨c :: front, .plain hm hb hn h, rfl⟩

theorem OpenBody.escape {mark c : Char} {body : List Char} (hn : c ≠ '\n')
    (h : OpenBody mark body) : OpenBody mark ('\\' :: c :: body) := by
  rcases h with h | ⟨front, h, rfl⟩
  · exact Or.inl (.escape hn h)
  · exact Or.inr ⟨'\\' :: c :: front, .escape hn h, rfl⟩

theorem openBody_backslash (mark : Char) : OpenBody mark ['\\'] :=
  Or.inr ⟨[], .nil, rfl⟩

theorem openBody_of_ending_ne_closed {mark : Char} {text : List Char}
    (h : (readQuotation mark text).ending ≠ .closed) :
    OpenBody mark (readQuotation mark text).body := by
  fun_induction readQuotation mark text with
  | case1 => exact Or.inl .nil
  | case2 => exact openBody_backslash mark
  | case3 => exact openBody_backslash mark
  | case4 c rest hc ih => exact .escape hc (ih h)
  | case5 => simp at h
  | case6 => exact Or.inl .nil
  | case7 c rest h1 h2 hc hn ih =>
    refine .plain hc (fun hb => ?_) hn (ih h)
    cases rest with
    | nil => exact h1 hb rfl
    | cons d rest => exact h2 d rest hb rfl

theorem rest_of_ending_endOfText {mark : Char} {text : List Char}
    (h : (readQuotation mark text).ending = .endOfText) : (readQuotation mark text).rest = [] := by
  fun_induction readQuotation mark text <;> simp_all [Quotation.prepend]

/-- An open body in front of the end of its line is read up to that end. -/
theorem readQuotation_of_openBody {mark : Char} {body rest : List Char} (hm : mark ≠ '\n')
    (h : OpenBody mark body) (hr : AtLineEnd rest) :
    readQuotation mark (body ++ rest) =
      ⟨body, if rest = [] then .endOfText else .newline, rest⟩ := by
  rcases h with h | ⟨front, h, rfl⟩
  · rw [readQuotation_append_eq_prepend h]
    rcases hr with rfl | ⟨after, rfl⟩
    · simp [readQuotation, Quotation.prepend]
    · simp [readQuotation, Quotation.prepend, Ne.symm hm]
  · rw [List.append_assoc, readQuotation_append_eq_prepend h]
    rcases hr with rfl | ⟨after, rfl⟩
    · simp [readQuotation, Quotation.prepend]
    · simp [readQuotation, Quotation.prepend]

/-! ### What is reported belongs to the grammar -/

theorem isFaulty_scanWord {settings : Settings} {first : Char} {rest : List Char}
    {fault : LexicalFault} (h : isWordStart first = true)
    (hf : (scanWord settings (first :: rest)).finding = .fault fault) :
    IsFaulty settings fault (scanWord settings (first :: rest)).item
      (scanWord settings (first :: rest)).rest := by
  simp only [scanWord, wordFinding] at hf ⊢
  split at hf
  · rename_i reason hlook
    obtain rfl := Finding.fault.inj hf
    exact .lookUpFailed (isWord_takeWhile rest h) hlook (startsOutside_dropWhile _ _)
  · simp at hf
  · simp at hf

theorem suffixFinding_eq_fault {number : List Char} {c : Char} {kind : LiteralKind}
    {fault : LexicalFault} (h : suffixFinding number c kind = .fault fault) :
    kind = .long ∧ '.' ∈ number ∧ fault = .pointInLong (number ++ [c]) := by
  unfold suffixFinding at h
  split at h
  · rename_i hk
    exact ⟨hk.1, hk.2, (Finding.fault.inj h).symm⟩
  · simp at h

theorem isFaulty_finishNumber (settings : Settings) {number rest : List Char}
    {fault : LexicalFault} (h : IsNumber number)
    (hf : (finishNumber number rest).finding = .fault fault) :
    IsFaulty settings fault (finishNumber number rest).item (finishNumber number rest).rest := by
  cases rest with
  | nil => simp [finishNumber] at hf
  | cons c rest =>
    cases hs : suffixKind c with
    | some kind =>
      simp only [finishNumber, hs] at hf ⊢
      obtain ⟨rfl, hp, rfl⟩ := suffixFinding_eq_fault hf
      exact .pointInLong (.of_point_mem h hp) hs
    | none =>
      by_cases hstart : isWordStart c = true
      · simp only [finishNumber, hs, hstart, if_true, Finding.fault.injEq] at hf ⊢
        subst hf
        refine .digitLedWord h (isWord_takeWhile rest hstart) ?_ (startsOutside_dropWhile _ _)
        intro d hd
        rw [List.takeWhile_cons, if_pos (isWordChar_of_isWordStart hstart)] at hd
        obtain rfl := Option.some.inj hd
        exact hs
      · simp [finishNumber, hs, hstart] at hf

theorem isFaulty_scanString (settings : Settings) {text : List Char} {fault : LexicalFault}
    (hf : (scanString text).finding = .fault fault) :
    IsFaulty settings fault (scanString text).item (scanString text).rest := by
  simp only [scanString] at hf ⊢
  cases he : (readQuotation '"' text).ending with
  | closed => simp [he] at hf
  | newline =>
    simp only [he, Finding.fault.injEq] at hf ⊢
    subst hf
    exact .unterminatedString (openBody_of_ending_ne_closed (by simp [he]))
      (Or.inr (rest_of_ending_newline he))
  | endOfText =>
    simp only [he, Finding.fault.injEq] at hf ⊢
    subst hf
    exact .unterminatedString (openBody_of_ending_ne_closed (by simp [he]))
      (Or.inl (rest_of_ending_endOfText he))

theorem isFaulty_scanCharacter (settings : Settings) {text : List Char} {fault : LexicalFault}
    (hf : (scanCharacter text).finding = .fault fault) :
    IsFaulty settings fault (scanCharacter text).item (scanCharacter text).rest := by
  simp only [scanCharacter] at hf ⊢
  cases he : (readQuotation '\'' text).ending with
  | closed =>
    simp only [he] at hf ⊢
    split at hf
    · simp at hf
    · rename_i hc
      obtain rfl := Finding.fault.inj hf
      exact .badCharContent (quotedBody_of_closed he) (Bool.not_eq_true _ ▸ hc)
  | newline =>
    simp only [he, Finding.fault.injEq] at hf ⊢
    subst hf
    exact .newlineInChar (openBody_of_ending_ne_closed (by simp [he]))
  | endOfText =>
    simp only [he, Finding.fault.injEq] at hf ⊢
    subst hf
    rw [rest_of_ending_endOfText he]
    exact .unterminatedChar (openBody_of_ending_ne_closed (by simp [he]))

/-- Where no gap stands in front, what is scanned as faulty is so by the grammar. -/
theorem isFaulty_scanItem {settings : Settings} {first : Char} {rest : List Char}
    {fault : LexicalFault} (hblank : isBlank first = false)
    (hcomment : first = '/' → rest.head? ≠ some '/' ∧ rest.head? ≠ some '*')
    (hf : (scanItem settings first rest).finding = .fault fault) :
    IsFaulty settings fault (scanItem settings first rest).item
      (scanItem settings first rest).rest := by
  rcases scanItem_cases settings first rest with
    ⟨hword, h⟩ | ⟨_, hnumber, h⟩ | ⟨_, h⟩ | ⟨_, h⟩ | ⟨hword, hnumber, hquote, h⟩ <;> rw [h] at hf ⊢
  · exact isFaulty_scanWord hword hf
  · exact isFaulty_finishNumber settings (isNumber_splitNumber hnumber) hf
  · exact isFaulty_scanString settings hf
  · exact isFaulty_scanCharacter settings hf
  · cases hmark : punctuationKind first with
    | some kind => simp [markFinding, hmark] at hf
    | none =>
      simp only [markFinding, hmark, Finding.fault.injEq] at hf ⊢
      subst hf
      exact .unknownCharacter
        (startsNothing_iff.mpr ⟨hblank, hcomment, hword, hquote, hnumber, hmark⟩)

/-! ### What belongs to the grammar is reported -/

theorem scanItem_of_startsNothing {settings : Settings} {c : Char} {rest : List Char}
    (h : StartsNothing settings c rest) :
    scanItem settings c rest = ⟨[c], .fault (.unknownCharacter c), rest⟩ := by
  obtain ⟨_, _, hword, hquote, hnumber, hmark⟩ := startsNothing_iff.mp h
  simp [scanItem, hword, hnumber, hquote, markFinding, hmark]

/-- The letters of a word continue no number. -/
theorem startsOutside_number_of_isWord {word rest : List Char} (h : IsWord word) :
    StartsOutside (fun c => c.isDigit || c == '.') (word ++ rest) := by
  cases word with
  | nil => exact h.elim
  | cons c word =>
    apply startsOutside_cons
    rw [Bool.or_eq_false_iff]
    constructor
    · rw [← Bool.not_eq_true]
      intro hdigit
      have hstart := isWordStart_eq_false_of_lt (isDigit_toNat_lt hdigit)
      rw [h.1] at hstart
      cases hstart
    · rw [beq_eq_false_iff_ne]
      rintro rfl
      exact absurd h.1 (by decide)

theorem scanNumber_of_isWord {number word rest : List Char} (hn : IsNumber number)
    (hw : IsWord word) (hs : ∀ c, word.head? = some c → suffixKind c = none)
    (hr : StartsOutside isWordChar rest) :
    scanNumber (number ++ (word ++ rest)) =
      ⟨number ++ word, .fault (.digitLedWord (number ++ word)), rest⟩ := by
  rw [scanNumber, splitNumber_append_of_isNumber hn (startsOutside_number_of_isWord hw)]
  exact finishNumber_of_isWord hw hs hr number

/-- A faulty item is scanned as a whole, with its fault, in front of the text that makes it one. -/
theorem scanItem_of_isFaulty {settings : Settings} {fault : LexicalFault} {item rest : List Char}
    (h : IsFaulty settings fault item rest) :
    ∃ first tail, item = first :: tail ∧
      scanItem settings first (tail ++ rest) = ⟨item, .fault fault, rest⟩ := by
  cases h with
  | unknownCharacter h => exact ⟨_, [], rfl, scanItem_of_startsNothing h⟩
  | @pointInLong number _ c hn hc =>
    have hs := scanNumber_of_suffix rest (.inr hn) hc
    rw [suffixFinding, if_pos ⟨rfl, hn.point_mem⟩] at hs
    exact scanItem_number settings (.inr hn) hs (by simp)
  | digitLedWord hn hw hs hr =>
    exact scanItem_number settings hn (scanNumber_of_isWord hn hw hs hr) (by simp)
  | @unterminatedString body _ hb hr =>
    refine ⟨'"', body, rfl, ?_⟩
    rw [scanItem_doubleQuote, scanString, readQuotation_of_openBody (by decide) hb hr]
    split
    · rename_i hend
      split at hend <;> simp at hend
    · rfl
  | @unterminatedChar body hb =>
    refine ⟨'\'', body, rfl, ?_⟩
    rw [scanItem_singleQuote, scanCharacter,
      readQuotation_of_openBody (by decide) hb (Or.inl rfl)]
    simp
  | @newlineInChar body _ hb =>
    refine ⟨'\'', body ++ ['\n'], rfl, ?_⟩
    rw [scanItem_singleQuote, scanCharacter, List.append_assoc, List.singleton_append,
      readQuotation_of_openBody (by decide) hb (Or.inr ⟨rest, rfl⟩)]
    simp
  | @badCharContent body _ hb hc =>
    refine ⟨'\'', body ++ ['\''], rfl, ?_⟩
    rw [scanItem_singleQuote, scanCharacter, List.append_assoc]
    simp [readQuotation_append_of_quotedBody (by decide) hb, hc]
  | lookUpFailed hw hlook hr =>
    obtain ⟨first, tail, hitem, hscan⟩ := scanWord_of_outside settings hw hr
    exact ⟨first, tail, hitem, by rw [hscan, wordFinding, hlook]⟩

end DeclLang.Source
