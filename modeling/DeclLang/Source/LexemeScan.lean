import DeclLang.Source.Lexeme
import DeclLang.Text.Blank
import DeclLang.Text.Run

/-!
Scanning and the lexical grammar. The text of a scanned token belongs to the grammar of its kind,
and a text of the grammar is scanned as a whole, with its kind, wherever nothing follows that could
continue it.
-/

set_option autoImplicit false

namespace DeclLang.Source

open Text

/-! ### What is scanned belongs to the grammar -/

theorem isNumber_splitUnsigned {text : List Char} (h : text.takeWhile Char.isDigit ≠ []) :
    IsDigits (splitUnsigned text).1 ∨ ∃ whole fraction, IsDigits whole ∧
      (∀ c ∈ fraction, c.isDigit = true) ∧ (splitUnsigned text).1 = whole ++ '.' :: fraction := by
  have hdigits : IsDigits (text.takeWhile Char.isDigit) := ⟨h, fun c => List.mem_takeWhile_imp⟩
  unfold splitUnsigned
  split
  · exact Or.inr ⟨_, _, hdigits, fun c => List.mem_takeWhile_imp, rfl⟩
  · exact Or.inl hdigits

theorem isNumber_splitNumber {first : Char} {rest : List Char}
    (h : startsNumber first rest = true) : IsNumber (splitNumber (first :: rest)).1 := by
  simp only [startsNumber, Bool.or_eq_true, Bool.and_eq_true, beq_iff_eq] at h
  by_cases hminus : first = '-'
  · subst hminus
    have hne : rest.takeWhile Char.isDigit ≠ [] := by
      rcases h with h | ⟨_, h⟩
      · exact absurd h (by decide)
      · cases rest with
        | nil => simp at h
        | cons d rest => simp_all
    rcases isNumber_splitUnsigned hne with hd | ⟨whole, fraction, hw, hf, heq⟩
    · exact Or.inl (Or.inr ⟨_, hd, rfl⟩)
    · refine Or.inr ⟨'-' :: whole, fraction, Or.inr ⟨whole, hw, rfl⟩, hf, ?_⟩
      simp [splitNumber, heq]
  · have hd : first.isDigit = true := h.resolve_right fun h => hminus h.1
    have hsplit : splitNumber (first :: rest) = splitUnsigned (first :: rest) := by
      rw [splitNumber]
      intro _ heq
      exact hminus (List.cons.inj heq).1
    have hne : (first :: rest).takeWhile Char.isDigit ≠ [] := by simp [hd]
    rw [hsplit]
    rcases isNumber_splitUnsigned hne with hd | ⟨whole, fraction, hw, hf, heq⟩
    · exact Or.inl (Or.inl hd)
    · exact Or.inr ⟨whole, fraction, Or.inl hw, hf, heq⟩

theorem isLexeme_plainKind (settings : Settings) {number : List Char} (h : IsNumber number) :
    IsLexeme settings (.literal (plainKind number)) number := by
  by_cases hp : '.' ∈ number
  · simpa [plainKind, hp, IsLexeme, IsLiteral] using Or.inl (IsDecimal.of_point_mem h hp)
  · simpa [plainKind, hp, IsLexeme, IsLiteral] using IsInteger.of_point_notMem h hp

/-- A number with its suffix belongs to the grammar of the kind that the suffix gives it. -/
theorem isLexeme_suffix (settings : Settings) {number : List Char} {c : Char}
    {suffix : LiteralKind} {kind : Token.Kind} (h : IsNumber number)
    (hs : suffixKind c = some suffix) (hk : suffixFinding number c suffix = .token kind) :
    IsLexeme settings kind (number ++ [c]) := by
  unfold suffixFinding at hk
  split at hk
  · simp at hk
  · rename_i hpoint
    obtain rfl := Finding.token.inj hk
    rcases suffixKind_eq_some_iff.mp hs with ⟨rfl, _⟩ | ⟨rfl, _⟩ | ⟨rfl, _⟩
    · exact ⟨number, c, h, hs, rfl⟩
    · exact Or.inr ⟨number, c, h, hs, rfl⟩
    · exact ⟨number, c, .of_point_notMem h fun hp => hpoint ⟨rfl, hp⟩, hs, rfl⟩

theorem isLexeme_finishNumber (settings : Settings) {number rest : List Char}
    {kind : Token.Kind} (h : IsNumber number)
    (hk : (finishNumber number rest).finding = .token kind) :
    IsLexeme settings kind (finishNumber number rest).item := by
  unfold finishNumber at hk ⊢
  split
  · obtain rfl := Finding.token.inj hk
    exact isLexeme_plainKind settings h
  · rename_i c rest
    dsimp only at hk ⊢
    cases hs : suffixKind c with
    | some suffix =>
      rw [hs] at hk
      exact isLexeme_suffix settings h hs hk
    | none =>
      rw [hs] at hk
      by_cases hstart : isWordStart c = true
      · simp [hstart] at hk
      · simp only [hstart, Bool.false_eq_true, if_false, Finding.token.injEq] at hk ⊢
        exact hk ▸ isLexeme_plainKind settings h

theorem isLexeme_scanNumber (settings : Settings) {first : Char} {rest : List Char}
    {kind : Token.Kind} (h : startsNumber first rest = true)
    (hk : (scanNumber (first :: rest)).finding = .token kind) :
    IsLexeme settings kind (scanNumber (first :: rest)).item :=
  isLexeme_finishNumber settings (isNumber_splitNumber h) hk

theorem isWord_takeWhile {first : Char} (rest : List Char) (h : isWordStart first = true) :
    IsWord ((first :: rest).takeWhile isWordChar) := by
  rw [List.takeWhile_cons, if_pos (isWordChar_of_isWordStart h)]
  exact ⟨h, fun d hd => List.mem_takeWhile_imp hd⟩

theorem isLexeme_scanWord {settings : Settings} {first : Char} {rest : List Char}
    {kind : Token.Kind} (h : isWordStart first = true)
    (hk : (scanWord settings (first :: rest)).finding = .token kind) :
    IsLexeme settings kind (scanWord settings (first :: rest)).item := by
  have hword := isWord_takeWhile rest h
  simp only [scanWord, wordFinding] at hk ⊢
  split at hk
  · simp at hk
  · rename_i hlook
    simp only [Finding.token.injEq] at hk
    subst hk
    exact ⟨hword, hlook⟩
  · rename_i hlook
    simp only [Finding.token.injEq] at hk
    subst hk
    split
    · rename_i hmem
      exact ⟨hmem, hlook⟩
    · rename_i hmem
      exact ⟨hword, hlook, hmem⟩

theorem quotedBody_of_closed {mark : Char} {text : List Char}
    (h : (readQuotation mark text).ending = .closed) :
    QuotedBody mark (readQuotation mark text).body := by
  fun_induction readQuotation mark text with
  | case1 => simp at h
  | case2 => simp at h
  | case3 => simp at h
  | case4 c rest hc ih => exact .escape hc (ih h)
  | case5 => exact .nil
  | case6 => simp at h
  | case7 c rest h1 h2 hc hn ih =>
    refine .plain hc (fun hb => ?_) hn (ih h)
    cases rest with
    | nil => exact h1 hb rfl
    | cons d rest => exact h2 d rest hb rfl

theorem isLexeme_scanString (settings : Settings) {text : List Char} {kind : Token.Kind}
    (hk : (scanString text).finding = .token kind) :
    IsLexeme settings kind (scanString text).item := by
  simp only [scanString] at hk ⊢
  cases he : (readQuotation '"' text).ending <;> rw [he] at hk <;>
    simp only [Finding.token.injEq, reduceCtorEq] at hk
  exact hk ▸ ⟨_, quotedBody_of_closed he, rfl⟩

theorem isLexeme_scanCharacter (settings : Settings) {text : List Char} {kind : Token.Kind}
    (hk : (scanCharacter text).finding = .token kind) :
    IsLexeme settings kind (scanCharacter text).item := by
  simp only [scanCharacter] at hk ⊢
  cases he : (readQuotation '\'' text).ending <;> rw [he] at hk <;>
    simp only [reduceCtorEq] at hk
  split at hk
  · rename_i hc
    obtain rfl := Finding.token.inj hk
    exact ⟨_, quotedBody_of_closed he, hc, rfl⟩
  · simp at hk

theorem isLexeme_markFinding (settings : Settings) {c : Char} {kind : Token.Kind}
    (hk : markFinding c = .token kind) : IsLexeme settings kind [c] := by
  unfold markFinding punctuationKind at hk
  split at hk
  · rename_i mark hmark
    obtain rfl := Finding.token.inj hk
    split at hmark <;> simp at hmark <;> subst hmark <;> rfl
  · simp at hk

/-- The text of a scanned token belongs to the grammar of its kind. -/
theorem isLexeme_scanItem {settings : Settings} {first : Char} {rest : List Char}
    {kind : Token.Kind} (hk : (scanItem settings first rest).finding = .token kind) :
    IsLexeme settings kind (scanItem settings first rest).item := by
  rcases scanItem_cases settings first rest with
    ⟨hword, h⟩ | ⟨_, hnumber, h⟩ | ⟨_, h⟩ | ⟨_, h⟩ | ⟨_, _, _, h⟩ <;> rw [h] at hk ⊢
  · exact isLexeme_scanWord hword hk
  · exact isLexeme_scanNumber settings hnumber hk
  · exact isLexeme_scanString settings hk
  · exact isLexeme_scanCharacter settings hk
  · exact isLexeme_markFinding settings hk

/-! ### What belongs to the grammar is scanned -/

/-- Whether a character behind a token could make it longer. -/
def continues (c : Char) : Bool :=
  isWordChar c || c == '.'

theorem isDigit_toNat_lt {c : Char} (h : c.isDigit = true) : c.toNat < 0x41 := by
  simp only [Char.isDigit, Bool.and_eq_true, decide_eq_true_eq] at h
  have := UInt32.le_iff_toNat_le.mp h.2
  exact Nat.lt_of_le_of_lt this (by decide)

theorem isWordStart_eq_false_of_lt {c : Char} (h : c.toNat < 0x41) : isWordStart c = false := by
  have hc : c ≠ '_' := by
    rintro rfl
    exact absurd h (by decide)
  simp [isWordStart, isLetter_eq_false_of_lt h, hc]

theorem isWordChar_of_isDigit {c : Char} (h : c.isDigit = true) : isWordChar c = true := by
  simp [isWordChar, isNumeric_of_isDigit h]

theorem suffix_not_isDigit {c : Char} {kind : LiteralKind} (h : suffixKind c = some kind) :
    c.isDigit = false ∧ c ≠ '.' := by
  revert h
  unfold suffixKind
  split <;> simp

theorem splitUnsigned_append_of_isDigits {number rest : List Char} (h : IsDigits number)
    (hr : StartsOutside (fun c => c.isDigit || c == '.') rest) :
    splitUnsigned (number ++ rest) = (number, rest) := by
  have hout := startsOutside_mono (q := Char.isDigit) hr (by simp +contextual)
  rw [splitUnsigned, dropWhile_append_of_startsOutside h.2 hout,
    takeWhile_append_of_startsOutside h.2 hout]
  split
  · have := hr '.' rfl
    simp at this
  · rfl

theorem splitUnsigned_append_of_point {whole fraction rest : List Char} (hw : IsDigits whole)
    (hf : ∀ c ∈ fraction, c.isDigit = true) (hr : StartsOutside Char.isDigit rest) :
    splitUnsigned (whole ++ '.' :: fraction ++ rest) = (whole ++ '.' :: fraction, rest) := by
  have hout : StartsOutside Char.isDigit ('.' :: (fraction ++ rest)) :=
    startsOutside_cons (by decide) _
  rw [show whole ++ '.' :: fraction ++ rest = whole ++ '.' :: (fraction ++ rest) by simp,
    splitUnsigned, dropWhile_append_of_startsOutside hw.2 hout,
    takeWhile_append_of_startsOutside hw.2 hout]
  simp [takeWhile_append_of_startsOutside hf hr, dropWhile_append_of_startsOutside hf hr]

theorem splitNumber_of_isDigit {c : Char} {text : List Char} (h : c.isDigit = true) :
    splitNumber (c :: text) = splitUnsigned (c :: text) := by
  rw [splitNumber]
  intro _ heq
  obtain rfl := (List.cons.inj heq).1
  exact absurd h (by decide)

theorem splitNumber_append_of_isInteger {number rest : List Char} (h : IsInteger number)
    (hr : StartsOutside (fun c => c.isDigit || c == '.') rest) :
    splitNumber (number ++ rest) = (number, rest) := by
  rcases h with h | ⟨digits, h, rfl⟩
  · cases number with
    | nil => exact absurd rfl h.1
    | cons c number =>
      have hc := h.2 c (by simp)
      rw [List.cons_append, splitNumber_of_isDigit hc, ← List.cons_append,
        splitUnsigned_append_of_isDigits h hr]
  · rw [List.cons_append, splitNumber, splitUnsigned_append_of_isDigits h hr]

theorem splitNumber_append_of_isDecimal {number rest : List Char} (h : IsDecimal number)
    (hr : StartsOutside Char.isDigit rest) : splitNumber (number ++ rest) = (number, rest) := by
  obtain ⟨whole, fraction, hw, hf, rfl⟩ := h
  rcases hw with hw | ⟨digits, hw, rfl⟩
  · have hsplit := splitUnsigned_append_of_point hw hf hr
    cases whole with
    | nil => exact absurd rfl hw.1
    | cons c whole =>
      have hc := hw.2 c (by simp)
      simp only [List.cons_append] at hsplit ⊢
      rw [splitNumber_of_isDigit hc, hsplit]
  · have hsplit := splitUnsigned_append_of_point hw hf hr
    simp only [List.cons_append] at hsplit ⊢
    rw [splitNumber, hsplit]

/-- A number is split off as a whole where neither a digit nor a point follows. -/
theorem splitNumber_append_of_isNumber {number rest : List Char} (h : IsNumber number)
    (hr : StartsOutside (fun c => c.isDigit || c == '.') rest) :
    splitNumber (number ++ rest) = (number, rest) := by
  rcases h with h | h
  · exact splitNumber_append_of_isInteger h hr
  · exact splitNumber_append_of_isDecimal h
      (startsOutside_mono (q := Char.isDigit) hr (by simp +contextual))

theorem startsNumber_of_isInteger {number : List Char} (rest : List Char) (h : IsInteger number) :
    ∃ first tail, number = first :: tail ∧ first.toNat < 0x41 ∧
      startsNumber first (tail ++ rest) = true := by
  rcases h with h | ⟨digits, h, rfl⟩
  · cases number with
    | nil => exact absurd rfl h.1
    | cons c number =>
      have hc := h.2 c (by simp)
      exact ⟨c, number, rfl, isDigit_toNat_lt hc, by simp [startsNumber, hc]⟩
  · cases digits with
    | nil => exact absurd rfl h.1
    | cons c digits =>
      have hc := h.2 c (by simp)
      exact ⟨'-', c :: digits, rfl, by decide, by simp [startsNumber, hc]⟩

theorem startsNumber_of_isNumber {number : List Char} (rest : List Char) (h : IsNumber number) :
    ∃ first tail, number = first :: tail ∧ first.toNat < 0x41 ∧
      startsNumber first (tail ++ rest) = true := by
  rcases h with h | ⟨whole, fraction, hw, _, rfl⟩
  · exact startsNumber_of_isInteger rest h
  · obtain ⟨first, tail, rfl, hlt, hs⟩ :=
      startsNumber_of_isInteger ('.' :: fraction ++ rest) hw
    exact ⟨first, tail ++ '.' :: fraction, rfl, hlt, by simpa using hs⟩

theorem scanItem_of_isNumber (settings : Settings) {number : List Char} (rest : List Char)
    (h : IsNumber number) :
    ∃ first tail, number = first :: tail ∧
      scanItem settings first (tail ++ rest) = scanNumber (number ++ rest) := by
  obtain ⟨first, tail, rfl, hlt, hs⟩ := startsNumber_of_isNumber rest h
  refine ⟨first, tail, rfl, ?_⟩
  simp [scanItem, isWordStart_eq_false_of_lt hlt, hs]

theorem isWordStart_of_isAlpha {c : Char} (h : c.isAlpha = true) : isWordStart c = true := by
  simp [isWordStart, isLetter_of_isAlpha h]

theorem isWordStart_of_suffixKind {c : Char} {kind : LiteralKind} (h : suffixKind c = some kind) :
    isWordStart c = true := by
  apply isWordStart_of_isAlpha
  revert h
  unfold suffixKind
  split <;> simp

/-- A number that no letter follows has the kind that its point gives it. -/
theorem finishNumber_of_startsOutside {number rest : List Char}
    (hr : StartsOutside isWordStart rest) :
    finishNumber number rest = ⟨number, .token (.literal (plainKind number)), rest⟩ := by
  cases rest with
  | nil => rfl
  | cons c rest =>
    have hc : isWordStart c = false := hr c rfl
    cases hs : suffixKind c with
    | some kind =>
      rw [isWordStart_of_suffixKind hs] at hc
      cases hc
    | none => simp [finishNumber, hs, hc]

theorem finishNumber_of_outside {number rest : List Char} (hr : StartsOutside continues rest) :
    finishNumber number rest = ⟨number, .token (.literal (plainKind number)), rest⟩ := by
  apply finishNumber_of_startsOutside
  apply startsOutside_mono hr
  intro c hc
  simp [continues, isWordChar_of_isWordStart hc]

theorem scanNumber_of_outside {number rest : List Char} (h : IsNumber number)
    (hr : StartsOutside continues rest) :
    scanNumber (number ++ rest) = ⟨number, .token (.literal (plainKind number)), rest⟩ := by
  have hout : StartsOutside (fun c => c.isDigit || c == '.') rest :=
    startsOutside_mono hr fun c hc => by
      simp only [Bool.or_eq_true] at hc
      simp only [continues, Bool.or_eq_true]
      exact hc.imp isWordChar_of_isDigit id
  rw [scanNumber, splitNumber_append_of_isNumber h hout, finishNumber_of_outside hr]

theorem scanNumber_of_suffix {number : List Char} {c : Char} {kind : LiteralKind}
    (rest : List Char) (h : IsNumber number) (hs : suffixKind c = some kind) :
    scanNumber (number ++ c :: rest) = ⟨number ++ [c], suffixFinding number c kind, rest⟩ := by
  have hout : StartsOutside (fun c => c.isDigit || c == '.') (c :: rest) :=
    startsOutside_cons (by simp [suffix_not_isDigit hs]) rest
  rw [scanNumber, splitNumber_append_of_isNumber h hout, finishNumber_of_suffix hs]

theorem plainKind_of_isInteger {number : List Char} (h : IsInteger number) :
    plainKind number = .int :=
  if_neg h.point_notMem

theorem plainKind_of_isDecimal {number : List Char} (h : IsDecimal number) :
    plainKind number = .double :=
  if_pos h.point_mem

theorem suffixFinding_of_ne_long {number : List Char} {c : Char} {kind : LiteralKind}
    (h : kind ≠ .long) : suffixFinding number c kind = .token (.literal kind) :=
  if_neg fun hk => h hk.1

theorem suffixFinding_of_isInteger {number : List Char} {c : Char} {kind : LiteralKind}
    (h : IsInteger number) : suffixFinding number c kind = .token (.literal kind) :=
  if_neg fun hk => h.point_notMem hk.2

theorem isWordChar_of_mem_word {word : List Char} (h : IsWord word) :
    ∀ d ∈ word, isWordChar d = true := by
  cases word with
  | nil => exact h.elim
  | cons c word =>
    intro d hd
    rcases List.mem_cons.mp hd with rfl | hd
    · exact isWordChar_of_isWordStart h.1
    · exact h.2 d hd

/-- A word that does not begin with a suffix is a fault together with the number before it. -/
theorem finishNumber_of_isWord {word rest : List Char} (hw : IsWord word)
    (hs : ∀ c, word.head? = some c → suffixKind c = none) (hr : StartsOutside isWordChar rest)
    (number : List Char) :
    finishNumber number (word ++ rest) =
      ⟨number ++ word, .fault (.digitLedWord (number ++ word)), rest⟩ := by
  have hrun := takeWhile_append_of_startsOutside (isWordChar_of_mem_word hw) hr
  have hafter := dropWhile_append_of_startsOutside (isWordChar_of_mem_word hw) hr
  cases word with
  | nil => exact hw.elim
  | cons c word =>
    rw [List.cons_append] at hrun hafter ⊢
    simp [finishNumber, hs c rfl, hw.1, hrun, hafter]

/-- A word is scanned as a whole where no word character follows. -/
theorem scanWord_of_outside (settings : Settings) {word rest : List Char} (h : IsWord word)
    (hr : StartsOutside isWordChar rest) :
    ∃ first tail, word = first :: tail ∧ scanItem settings first (tail ++ rest) =
      ⟨word, wordFinding settings (String.ofList word), rest⟩ := by
  have hall := isWordChar_of_mem_word h
  cases word with
  | nil => exact h.elim
  | cons c word =>
    refine ⟨c, word, rfl, ?_⟩
    rw [scanItem, if_pos h.1, scanWord, ← List.cons_append,
      takeWhile_append_of_startsOutside hall hr, dropWhile_append_of_startsOutside hall hr]

theorem isWord_of_booleanWord {word : List Char} (h : String.ofList word ∈ booleanWords) :
    IsWord word := by
  simp only [booleanWords, List.mem_cons, List.not_mem_nil, or_false] at h
  rcases h with h | h <;>
    · have htext := congrArg String.toList h
      rw [String.toList_ofList] at htext
      subst htext
      refine ⟨isWordStart_of_isAlpha (by decide), fun d hd => ?_⟩
      exact isWordChar_of_isWordStart (isWordStart_of_isAlpha
        (List.all_eq_true.mp (by decide) d hd))

/-- A quoted body is passed over as a whole, whatever follows it. -/
theorem readQuotation_append_eq_prepend {mark : Char} {body : List Char}
    (h : QuotedBody mark body) (rest : List Char) :
    readQuotation mark (body ++ rest) = (readQuotation mark rest).prepend body := by
  induction h with
  | nil => rfl
  | @plain c body h1 h2 h3 _ ih =>
    rw [List.cons_append, readQuotation, if_neg h1, if_neg h3, ih]
    · rfl
    · exact fun h => absurd h h2
    · exact fun _ _ h => absurd h h2
  | @escape c body hc _ ih =>
    rw [List.cons_append, List.cons_append, readQuotation, if_neg hc, ih]
    rfl

/-- A quoted body in front of a closing quote is read up to that quote. -/
theorem readQuotation_append_of_quotedBody {mark : Char} {body rest : List Char}
    (hm : mark ≠ '\\') (h : QuotedBody mark body) :
    readQuotation mark (body ++ mark :: rest) = ⟨body, .closed, rest⟩ := by
  rw [readQuotation_append_eq_prepend h, readQuotation, if_pos rfl]
  · simp [Quotation.prepend]
  · exact fun h => absurd h hm
  · exact fun _ _ h => absurd h hm

theorem scanItem_doubleQuote (settings : Settings) (rest : List Char) :
    scanItem settings '"' rest = scanString rest := by
  simp [scanItem, show isWordStart '"' = false by decide, startsNumber,
    show ('"').isDigit = false by decide]

theorem scanItem_singleQuote (settings : Settings) (rest : List Char) :
    scanItem settings '\'' rest = scanCharacter rest := by
  simp [scanItem, show isWordStart '\'' = false by decide, startsNumber,
    show ('\'').isDigit = false by decide]

theorem scanItem_mark (settings : Settings) {c : Char} {kind : Token.Kind} (rest : List Char)
    (h : punctuationKind c = some kind) :
    scanItem settings c rest = ⟨[c], .token kind, rest⟩ := by
  have hc : c = '=' ∨ c = ',' ∨ c = ';' := by
    revert h
    unfold punctuationKind
    split <;> simp
  have hstart : isWordStart c = false := by rcases hc with rfl | rfl | rfl <;> decide
  have hnumber : startsNumber c rest = false := by
    rcases hc with rfl | rfl | rfl <;> simp [startsNumber]
  have hquote : c ≠ '"' ∧ c ≠ '\'' := by rcases hc with rfl | rfl | rfl <;> decide
  simp [scanItem, hstart, hnumber, hquote, markFinding, h]

theorem scanItem_number (settings : Settings) {number lexeme rest after : List Char}
    {finding : Finding} (h : IsNumber number)
    (hs : scanNumber (number ++ rest) = ⟨lexeme, finding, after⟩)
    (hl : lexeme ++ after = number ++ rest) :
    ∃ first tail, lexeme = first :: tail ∧
      scanItem settings first (tail ++ after) = ⟨lexeme, finding, after⟩ := by
  obtain ⟨first, tail, rfl, hscan⟩ := scanItem_of_isNumber settings rest h
  have happ := scanItem_append settings first (tail ++ rest)
  have hne := scanItem_item_ne_nil settings first (tail ++ rest)
  rw [hscan, hs] at happ hne
  cases lexeme with
  | nil => exact absurd rfl hne
  | cons d lexeme =>
    rw [List.cons_append, List.cons_append] at hl
    obtain ⟨rfl, htail⟩ := List.cons.inj hl
    exact ⟨d, lexeme, rfl, by rw [htail, hscan, hs]⟩

/-- A text of the grammar is scanned as a whole, with its kind, where nothing continues it. -/
theorem scanItem_of_isLexeme {settings : Settings} {kind : Token.Kind} {lexeme rest : List Char}
    (h : IsLexeme settings kind lexeme) (hr : StartsOutside continues rest) :
    ∃ first tail, lexeme = first :: tail ∧
      scanItem settings first (tail ++ rest) = ⟨lexeme, .token kind, rest⟩ := by
  have hword : StartsOutside isWordChar rest :=
    startsOutside_mono hr fun c hc => by simp [continues, hc]
  cases kind with
  | typeName =>
    obtain ⟨first, tail, hl, hs⟩ := scanWord_of_outside settings h.1 hword
    exact ⟨first, tail, hl, by rw [hs, wordFinding, h.2]⟩
  | identifier =>
    obtain ⟨first, tail, hl, hs⟩ := scanWord_of_outside settings h.1 hword
    exact ⟨first, tail, hl, by rw [hs, wordFinding, h.2.1]; simp [h.2.2]⟩
  | equals => exact ⟨'=', [], h, h ▸ scanItem_mark settings rest (c := '=') rfl⟩
  | comma => exact ⟨',', [], h, h ▸ scanItem_mark settings rest (c := ',') rfl⟩
  | semicolon => exact ⟨';', [], h, h ▸ scanItem_mark settings rest (c := ';') rfl⟩
  | endOfInput => exact h.elim
  | literal kind =>
    cases kind with
    | int =>
      have hs := scanNumber_of_outside (.inl h) hr
      rw [plainKind_of_isInteger h] at hs
      exact scanItem_number settings (.inl h) hs rfl
    | long =>
      obtain ⟨n, c, hn, hc, rfl⟩ := h
      have hs := scanNumber_of_suffix rest (.inl hn) hc
      rw [suffixFinding_of_isInteger hn] at hs
      exact scanItem_number settings (.inl hn) hs (by simp)
    | float =>
      obtain ⟨n, c, hn, hc, rfl⟩ := h
      have hs := scanNumber_of_suffix rest hn hc
      rw [suffixFinding_of_ne_long (by decide)] at hs
      exact scanItem_number settings hn hs (by simp)
    | double =>
      rcases h with h | ⟨n, c, hn, hc, rfl⟩
      · have hs := scanNumber_of_outside (.inr h) hr
        rw [plainKind_of_isDecimal h] at hs
        exact scanItem_number settings (.inr h) hs rfl
      · have hs := scanNumber_of_suffix rest hn hc
        rw [suffixFinding_of_ne_long (by decide)] at hs
        exact scanItem_number settings hn hs (by simp)
    | char =>
      obtain ⟨body, hbody, hc, rfl⟩ := h
      refine ⟨'\'', body ++ ['\''], rfl, ?_⟩
      rw [scanItem_singleQuote, List.append_assoc, scanCharacter]
      simp [readQuotation_append_of_quotedBody (by decide) hbody, hc]
    | string =>
      obtain ⟨body, hbody, rfl⟩ := h
      refine ⟨'"', body ++ ['"'], rfl, ?_⟩
      rw [scanItem_doubleQuote, List.append_assoc, scanString]
      simp [readQuotation_append_of_quotedBody (by decide) hbody]
    | boolean =>
      obtain ⟨first, tail, hl, hs⟩ :=
        scanWord_of_outside settings (isWord_of_booleanWord h.1) hword
      exact ⟨first, tail, hl, by rw [hs, wordFinding, h.2]; simp [h.1]⟩

theorem continues_eq_false_of_isBlank {c : Char} (h : isBlank c = true) : continues c = false := by
  have hletter : isLetter c = false :=
    CodePoints.contains_eq_false_of_apart blankTable_ordered letterTable_ordered
      (by decide +kernel) h
  have hnumeric : isNumeric c = false :=
    CodePoints.contains_eq_false_of_apart blankTable_ordered numericTable_ordered
      (by decide +kernel) h
  have hc : c ≠ '_' ∧ c ≠ '.' := by
    constructor <;>
      · rintro rfl
        exact absurd h (by decide)
  simp [continues, isWordChar, hletter, hnumeric, hc]

end DeclLang.Source
