import DeclLang.Proofs.Source.FaultGrammar

/-!
# Where items end

An item ends before anything that could not continue it: behind a complete item, a line end or a
blank changes neither the item nor what it is. Only a quoted literal that the text leaves open takes
more of what stands behind it: a carriage return becomes part of it, and a newline ends it. A string
is then the fault that it was; a character literal becomes another fault, which takes the newline.
-/

set_option autoImplicit false

namespace DeclLang.Source

open Text

/-- A scanned item that leaves more text. -/
def Scanned.leaving (s : Scanned) (back : List Char) : Scanned :=
  { s with rest := s.rest ++ back }

/-- A quotation that leaves more text. -/
def Quotation.leaving (q : Quotation) (back : List Char) : Quotation :=
  { q with rest := q.rest ++ back }

variable {settings : Settings} {back : List Char}

/-! ### Words, numbers and marks -/

theorem startsOutside_of_continues {p : Char → Bool} (h : StartsOutside continues back)
    (hp : ∀ c, p c = true → isWordChar c = true ∨ c = '.') : StartsOutside p back := by
  apply startsOutside_mono h
  intro c hc
  simpa [continues] using hp c hc

theorem startsOutside_isDigit (h : StartsOutside continues back) :
    StartsOutside Char.isDigit back :=
  startsOutside_of_continues h fun _ hc => Or.inl (isWordChar_of_isDigit hc)

theorem startsOutside_isWordChar (h : StartsOutside continues back) :
    StartsOutside isWordChar back :=
  startsOutside_of_continues h fun _ hc => Or.inl hc

theorem scanWord_append_back (text : List Char) (h : StartsOutside continues back) :
    scanWord settings (text ++ back) = (scanWord settings text).leaving back := by
  have hword := startsOutside_isWordChar h
  simp only [scanWord, Scanned.leaving, takeWhile_append_back text hword,
    dropWhile_append_back text hword]

theorem splitUnsigned_append_back (text : List Char) (h : StartsOutside continues back) :
    splitUnsigned (text ++ back) = ((splitUnsigned text).1, (splitUnsigned text).2 ++ back) := by
  have hdigit := startsOutside_isDigit h
  have hpoint : ∀ rest, back ≠ '.' :: rest := by
    rintro rest rfl
    exact absurd (h '.' rfl) (by decide)
  simp only [splitUnsigned, takeWhile_append_back text hdigit, dropWhile_append_back text hdigit]
  cases hdrop : text.dropWhile Char.isDigit with
  | nil =>
    rw [List.nil_append]
    split
    · exact absurd rfl (hpoint _)
    · rfl
  | cons c rest =>
    by_cases hc : c = '.'
    · subst hc
      simp only [List.cons_append, takeWhile_append_back rest hdigit,
        dropWhile_append_back rest hdigit]
    · simp [hc]

theorem splitNumber_append_back {text : List Char} (hne : text ≠ [])
    (h : StartsOutside continues back) :
    splitNumber (text ++ back) = ((splitNumber text).1, (splitNumber text).2 ++ back) := by
  obtain ⟨c, text, rfl⟩ := List.exists_cons_of_ne_nil hne
  by_cases hc : c = '-'
  · subst hc
    simp only [List.cons_append, splitNumber, splitUnsigned_append_back text h]
  · have hsplit : ∀ text, splitNumber (c :: text) = splitUnsigned (c :: text) := by
      intro text
      rw [splitNumber]
      intro _ heq
      exact hc (List.cons.inj heq).1
    rw [List.cons_append, hsplit, hsplit, ← List.cons_append, splitUnsigned_append_back _ h]

theorem finishNumber_append_back (number rest : List Char) (h : StartsOutside continues back) :
    finishNumber number (rest ++ back) = (finishNumber number rest).leaving back := by
  cases rest with
  | nil => exact finishNumber_of_outside h
  | cons c rest =>
    have hword := startsOutside_isWordChar h
    have htake := takeWhile_append_back (c :: rest) hword
    have hdrop := dropWhile_append_back (c :: rest) hword
    rw [List.cons_append] at htake hdrop
    simp only [List.cons_append, finishNumber, htake, hdrop]
    split
    · rfl
    · split <;> rfl

theorem scanNumber_append_back {text : List Char} (hne : text ≠ [])
    (h : StartsOutside continues back) :
    scanNumber (text ++ back) = (scanNumber text).leaving back := by
  rw [scanNumber, splitNumber_append_back hne h, finishNumber_append_back _ _ h, ← scanNumber]

theorem startsNumber_append_back (first : Char) (rest : List Char)
    (h : StartsOutside continues back) :
    startsNumber first (rest ++ back) = startsNumber first rest := by
  cases rest with
  | nil =>
    have hdigit : back.head?.any Char.isDigit = false := by
      cases hhead : back.head? with
      | none => rfl
      | some c => exact startsOutside_isDigit h c hhead
    simp [startsNumber, hdigit]
  | cons c rest => rfl

/-! ### Quoted literals -/

section Quotation

variable {mark : Char} {text : List Char}

/-- A body that ends before the end of the text ends there whatever else the text has behind it. -/
theorem readQuotation_append_back (hb : mark ≠ '\\') (hn : mark ≠ '\n')
    (h : (readQuotation mark text).ending ≠ .endOfText) (back : List Char) :
    readQuotation mark (text ++ back) = (readQuotation mark text).leaving back := by
  have htext := readQuotation_append mark text
  cases hend : (readQuotation mark text).ending with
  | closed =>
    have hbody := quotedBody_of_closed hend
    simp only [Quotation.closing, hend] at htext
    have hread : readQuotation mark ((readQuotation mark text).body ++
        mark :: ((readQuotation mark text).rest ++ back)) =
          ⟨(readQuotation mark text).body, .closed, (readQuotation mark text).rest ++ back⟩ :=
      readQuotation_append_of_quotedBody hb hbody
    rw [← List.cons_append, ← List.append_assoc, List.append_cons, htext] at hread
    rw [hread, Quotation.leaving, ← hend]
  | newline =>
    have hbody := openBody_of_ending_ne_closed (by rw [hend]; decide)
    obtain ⟨rest, hrest⟩ := rest_of_ending_newline hend
    simp only [Quotation.closing, hend, List.append_nil] at htext
    have hline : AtLineEnd ((readQuotation mark text).rest ++ back) :=
      Or.inr ⟨rest ++ back, by rw [hrest, List.cons_append]⟩
    have hread := readQuotation_of_openBody hn hbody hline
    rw [← List.append_assoc, htext, if_neg (by simp [hrest])] at hread
    rw [hread, Quotation.leaving, ← hend]
  | endOfText => exact absurd hend h

/-- A body that the text leaves open is all of the text. -/
theorem body_of_ending_endOfText (h : (readQuotation mark text).ending = .endOfText) :
    (readQuotation mark text).body = text := by
  have htext := readQuotation_append mark text
  simpa [Quotation.closing, h, rest_of_ending_endOfText h] using htext

theorem openBody_of_ending_endOfText (h : (readQuotation mark text).ending = .endOfText) :
    OpenBody mark text := by
  have hopen := openBody_of_ending_ne_closed (by rw [h]; decide)
  rwa [body_of_ending_endOfText h] at hopen

theorem QuotedBody.append {front back : List Char} (hf : QuotedBody mark front)
    (hb : QuotedBody mark back) : QuotedBody mark (front ++ back) := by
  induction hf with
  | nil => exact hb
  | plain hm hs hn _ ih => exact .plain hm hs hn ih
  | escape hn _ ih => exact .escape hn ih

/-- A carriage return at the end of an open body belongs to it, be it behind a backslash. -/
theorem OpenBody.append_return (hm : mark ≠ '\r') (h : OpenBody mark text) :
    OpenBody mark (text ++ ['\r']) := by
  rcases h with h | ⟨front, h, rfl⟩
  · exact Or.inl (h.append (.plain hm.symm (by decide) (by decide) .nil))
  · rw [List.append_assoc]
    exact Or.inl (h.append (.escape (by decide) .nil))

theorem scanString_append_back (h : (readQuotation '"' text).ending ≠ .endOfText)
    (back : List Char) : scanString (text ++ back) = (scanString text).leaving back := by
  rw [scanString, scanString, readQuotation_append_back (by decide) (by decide) h]
  simp only [Quotation.leaving]
  split <;> rfl

theorem scanCharacter_append_back (h : (readQuotation '\'' text).ending ≠ .endOfText)
    (back : List Char) : scanCharacter (text ++ back) = (scanCharacter text).leaving back := by
  rw [scanCharacter, scanCharacter, readQuotation_append_back (by decide) (by decide) h]
  simp only [Quotation.leaving]
  split
  · rfl
  · rename_i hend
    obtain ⟨rest, hrest⟩ := rest_of_ending_newline hend
    simp [Scanned.leaving, hrest]
  · rfl

end Quotation

/-! ### All items -/

/-- Whether an item is a quoted literal that the text leaves open. -/
def LeavesOpen (first : Char) (rest : List Char) : Prop :=
  (first = '"' ∨ first = '\'') ∧ (readQuotation first rest).ending = .endOfText

variable {first : Char} {rest : List Char}

/-- Behind an item that is not left open may stand any text that continues no token. -/
theorem scanItem_append_back (hopen : ¬ LeavesOpen first rest) (h : StartsOutside continues back) :
    scanItem settings first (rest ++ back) = (scanItem settings first rest).leaving back := by
  have hnumber := startsNumber_append_back first rest h
  have hne : first :: rest ≠ [] := by simp
  simp only [scanItem, hnumber]
  split
  · rw [← List.cons_append, scanWord_append_back _ h]
  · split
    · rw [← List.cons_append, scanNumber_append_back hne h]
    · split
      · rename_i hfirst
        subst hfirst
        exact scanString_append_back (fun he => hopen ⟨Or.inl rfl, he⟩) back
      · split
        · rename_i hfirst
          subst hfirst
          exact scanCharacter_append_back (fun he => hopen ⟨Or.inr rfl, he⟩) back
        · rfl

theorem leavesOpen_append_return (h : LeavesOpen first rest) :
    LeavesOpen first (rest ++ ['\r']) := by
  obtain ⟨hfirst, hend⟩ := h
  refine ⟨hfirst, ?_⟩
  have hn : first ≠ '\n' ∧ first ≠ '\r' := by
    rcases hfirst with rfl | rfl <;> decide
  have hopen := (openBody_of_ending_endOfText hend).append_return hn.2
  have hread := readQuotation_of_openBody hn.1 hopen (Or.inl rfl)
  rw [List.append_nil] at hread
  rw [hread, if_pos rfl]

/-- A string that the text leaves open is the same fault in front of any line end. -/
theorem scanItem_of_leavesOpen_string (h : LeavesOpen '"' rest) (hline : AtLineEnd back) :
    scanItem settings '"' (rest ++ back) = ⟨'"' :: rest, .fault .unterminatedString, back⟩ := by
  have hopen := openBody_of_ending_endOfText h.2
  have hfaulty : IsFaulty settings .unterminatedString ('"' :: rest) back :=
    .unterminatedString hopen hline
  obtain ⟨_, _, heq, hscan⟩ := scanItem_of_isFaulty hfaulty
  obtain ⟨rfl, rfl⟩ := List.cons.inj heq
  exact hscan

theorem scanItem_of_leavesOpen_char (h : LeavesOpen '\'' rest) :
    scanItem settings '\'' rest = ⟨'\'' :: rest, .fault .unterminatedChar, []⟩ := by
  have hopen := openBody_of_ending_endOfText h.2
  have hfaulty : IsFaulty settings .unterminatedChar ('\'' :: rest) [] := .unterminatedChar hopen
  obtain ⟨_, _, heq, hscan⟩ := scanItem_of_isFaulty hfaulty
  obtain ⟨rfl, rfl⟩ := List.cons.inj heq
  rwa [List.append_nil] at hscan

/-- A character literal that the text leaves open takes the newline that ends its line. -/
theorem scanItem_append_newline_of_leavesOpen_char (h : LeavesOpen '\'' rest) (text : List Char) :
    scanItem settings '\'' (rest ++ '\n' :: text) =
      ⟨'\'' :: rest ++ ['\n'], .fault .newlineInChar, text⟩ := by
  have hopen := openBody_of_ending_endOfText h.2
  have hfaulty : IsFaulty settings .newlineInChar ('\'' :: rest ++ ['\n']) text :=
    .newlineInChar hopen
  obtain ⟨_, _, heq, hscan⟩ := scanItem_of_isFaulty hfaulty
  rw [List.cons_append] at heq
  obtain ⟨rfl, rfl⟩ := List.cons.inj heq
  rwa [List.append_assoc, List.singleton_append] at hscan

theorem startsOutside_newline (text : List Char) : StartsOutside continues ('\n' :: text) :=
  startsOutside_cons (by decide) text

/-- Unless an item is a character literal that the text leaves open, it ends before a newline. -/
theorem scanItem_append_newline
    (h : (scanItem settings first rest).finding ≠ .fault .unterminatedChar) (text : List Char) :
    scanItem settings first (rest ++ '\n' :: text) =
      (scanItem settings first rest).leaving ('\n' :: text) := by
  by_cases hopen : LeavesOpen first rest
  · rcases hopen.1 with rfl | rfl
    · have hnil : scanItem settings '"' (rest ++ []) =
          ⟨'"' :: rest, .fault .unterminatedString, []⟩ :=
        scanItem_of_leavesOpen_string hopen (Or.inl rfl)
      rw [List.append_nil] at hnil
      rw [scanItem_of_leavesOpen_string hopen (Or.inr ⟨text, rfl⟩), hnil]
      rfl
    · rw [scanItem_of_leavesOpen_char hopen] at h
      exact absurd rfl h
  · exact scanItem_append_back hopen (startsOutside_newline text)

end DeclLang.Source
