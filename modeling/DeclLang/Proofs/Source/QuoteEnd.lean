import DeclLang.Proofs.Source.Lines
import Mathlib.Algebra.Group.Nat.Even

/-!
# Where quoted literals end

A quoted literal ends at the first quote of its line with an even number of backslashes right before
it. This says so without reading from the opening quote on: a place where the literal could end is
judged by the backslashes that stand directly in front of it. A reader that takes two characters at
a backslash and one otherwise comes to the same end, and reports the token or the diagnostic that
the end asks for.
-/

set_option autoImplicit false

namespace DeclLang.Source

open Text

variable {mark c : Char} {text body after front back : List Char}

/-- The number of backslashes at the end of a text. -/
def trailingBackslashes (text : List Char) : Nat :=
  (text.reverse.takeWhile (· == '\\')).length

/-- An occurrence of the quote behind an opening one, between `body` and `after`, that closes the
literal: on the same line, and with an even number of backslashes right before it. -/
structure ClosedBy (mark : Char) (text body after : List Char) : Prop where
  text_eq : text = body ++ mark :: after
  inLine : '\n' ∉ body
  even : Even (trailingBackslashes body)

/-- The first occurrence that closes the literal. -/
def FirstClosedBy (mark : Char) (text body after : List Char) : Prop :=
  ClosedBy mark text body after ∧
    ∀ body' after', ClosedBy mark text body' after' → body.length ≤ body'.length

def NeverClosed (mark : Char) (text : List Char) : Prop :=
  ∀ body after, ¬ ClosedBy mark text body after

/-- What may stand between the quotes of a character literal. -/
def IsOneCharacter (body : List Char) : Prop :=
  (∃ c, body = [c]) ∨ ∃ c ∈ charEscapes, body = ['\\', c]

/-- What is reported of a double quote on a line and of the text behind it. -/
inductive StringOutcome (line : Nat) (text : List Char) : Reported → Prop where
  | literal {body after : List Char} : FirstClosedBy '"' text body after →
      StringOutcome line text (.token (.literal .string) line ('"' :: body ++ ['"']) after)
  | unterminated : NeverClosed '"' text →
      StringOutcome line text (.error "Unterminated string literal" line
        ('"' :: text.takeWhile (· != '\n')) (text.dropWhile (· != '\n')))

/-- What is reported of a single quote on a line and of the text behind it. -/
inductive CharacterOutcome (line : Nat) (text : List Char) : Reported → Prop where
  | literal {body after : List Char} : FirstClosedBy '\'' text body after → IsOneCharacter body →
      CharacterOutcome line text (.token (.literal .char) line ('\'' :: body ++ ['\'']) after)
  | badContent {body after : List Char} : FirstClosedBy '\'' text body after →
      ¬ IsOneCharacter body →
      CharacterOutcome line text (.error ("Invalid char literal: '" ++ String.ofList body ++ "'")
        line ('\'' :: body ++ ['\'']) after)
  | newline {after : List Char} : NeverClosed '\'' text →
      text.dropWhile (· != '\n') = '\n' :: after →
      CharacterOutcome line text (.error "Newline inside char literal" line
        ('\'' :: text.takeWhile (· != '\n') ++ ['\n']) after)
  | endOfText : NeverClosed '\'' text → '\n' ∉ text →
      CharacterOutcome line text (.error "Unterminated char literal" line ('\'' :: text) [])

/-! ### Counting backslashes -/

theorem trailingBackslashes_le (text : List Char) : trailingBackslashes text ≤ text.length := by
  have h := (List.takeWhile_sublist (· == '\\') (l := text.reverse)).length_le
  rwa [List.length_reverse] at h

/-- A character in front adds to the count only if it is a backslash before backslashes alone. -/
theorem trailingBackslashes_cons (c : Char) (text : List Char) :
    trailingBackslashes (c :: text) = trailingBackslashes text +
      if c = '\\' ∧ trailingBackslashes text = text.length then 1 else 0 := by
  simp only [trailingBackslashes, List.reverse_cons, List.takeWhile_append, List.length_reverse]
  by_cases hall : (text.reverse.takeWhile (· == '\\')).length = text.length
  · by_cases hc : c = '\\'
    · simp [hall, hc]
    · simp [hall, hc]
  · simp [hall]

theorem trailingBackslashes_plain (h : c ≠ '\\') (text : List Char) :
    trailingBackslashes (c :: text) = trailingBackslashes text := by
  rw [trailingBackslashes_cons, if_neg fun hc => h hc.1, Nat.add_zero]

/-- A backslash in front, with the character that it takes along, does not change the parity. -/
theorem even_trailingBackslashes_escape (c : Char) (text : List Char) :
    Even (trailingBackslashes ('\\' :: c :: text)) ↔ Even (trailingBackslashes text) := by
  have hle := trailingBackslashes_le text
  rw [trailingBackslashes_cons, trailingBackslashes_cons, List.length_cons, Nat.even_iff,
    Nat.even_iff]
  by_cases hc : c = '\\' ∧ trailingBackslashes text = text.length
  · rw [if_pos hc, if_pos ⟨rfl, by rw [hc.2]⟩]
    omega
  · rw [if_neg hc, Nat.add_zero, if_neg (fun hall => by omega), Nat.add_zero]

theorem even_of_quotedBody (h : QuotedBody mark body) : Even (trailingBackslashes body) := by
  induction h with
  | nil => exact ⟨0, rfl⟩
  | plain _ hc _ _ ih => rwa [trailingBackslashes_plain hc]
  | escape _ _ ih => rwa [even_trailingBackslashes_escape]

/-- A quote inside of a body is escaped, hence behind an odd number of backslashes. -/
theorem not_even_of_quotedBody (hm : mark ≠ '\\') (h : QuotedBody mark body)
    (hbody : body = front ++ mark :: back) : ¬ Even (trailingBackslashes front) := by
  induction h generalizing front with
  | nil => simp at hbody
  | @plain c body hne hc _ _ ih =>
    cases front with
    | nil => exact absurd (List.cons.inj hbody).1 hne
    | cons d front =>
      obtain ⟨rfl, hrest⟩ := List.cons.inj hbody
      rw [trailingBackslashes_plain hc]
      exact ih hrest
  | @escape c body _ _ ih =>
    match front with
    | [] => exact absurd (List.cons.inj hbody).1.symm hm
    | [d] =>
      obtain ⟨rfl, _⟩ := List.cons.inj hbody
      decide
    | d :: e :: front =>
      obtain ⟨rfl, htail⟩ := List.cons.inj hbody
      obtain ⟨_, hrest⟩ := List.cons.inj htail
      rw [even_trailingBackslashes_escape]
      exact ih hrest

theorem not_even_of_openBody (hm : mark ≠ '\\') (h : OpenBody mark body)
    (hbody : body = front ++ mark :: back) : ¬ Even (trailingBackslashes front) := by
  rcases h with h | ⟨quoted, h, rfl⟩
  · exact not_even_of_quotedBody hm h hbody
  · rcases List.append_eq_append_iff.mp hbody with ⟨more, _, hlast⟩ | ⟨more, hquoted, hlast⟩
    · cases more with
      | nil => exact absurd (List.cons.inj hlast).1.symm hm
      | cons d more => simp at hlast
    · cases more with
      | nil => exact absurd (List.cons.inj hlast).1 hm
      | cons d more =>
        obtain ⟨rfl, _⟩ := List.cons.inj hlast
        exact not_even_of_quotedBody hm h hquoted

/-! ### Closing quotes -/

/-- A closing quote stands in the front part of a text or behind it. -/
theorem ClosedBy.place (h : ClosedBy mark (front ++ back) body after) :
    (∃ more, front = body ++ mark :: more) ∨ ∃ more, body = front ++ more ∧
      back = more ++ mark :: after := by
  rcases List.append_eq_append_iff.mp h.text_eq with hbehind | ⟨more, hfront, hafter⟩
  · exact Or.inr hbehind
  · cases more with
    | nil => exact Or.inr ⟨[], by simpa using hfront.symm, hafter.symm⟩
    | cons d more =>
      obtain ⟨rfl, _⟩ := List.cons.inj hafter
      exact Or.inl ⟨more, hfront⟩

theorem firstClosedBy_of_quotedBody (hm : mark ≠ '\\') (h : QuotedBody mark body)
    (after : List Char) : FirstClosedBy mark (body ++ mark :: after) body after := by
  refine ⟨⟨rfl, newline_notMem_of_quotedBody h, even_of_quotedBody h⟩, ?_⟩
  intro body' after' hclosed
  rcases hclosed.place with ⟨more, hbody⟩ | ⟨more, rfl, _⟩
  · exact absurd hclosed.even (not_even_of_quotedBody hm h hbody)
  · rw [List.length_append]
    omega

theorem neverClosed_of_openBody (hm : mark ≠ '\\') (hn : mark ≠ '\n') (h : OpenBody mark body)
    (hback : AtLineEnd back) : NeverClosed mark (body ++ back) := by
  intro body' after' hclosed
  rcases hclosed.place with ⟨more, hbody⟩ | ⟨more, rfl, hrest⟩
  · exact not_even_of_openBody hm h hbody hclosed.even
  · rcases hback with rfl | ⟨line, rfl⟩
    · simp at hrest
    · cases more with
      | nil => exact hn (List.cons.inj hrest).1.symm
      | cons d more =>
        obtain ⟨rfl, _⟩ := List.cons.inj hrest
        exact hclosed.inLine (by simp)

theorem FirstClosedBy.unique {body' after' : List Char} (h : FirstClosedBy mark text body after)
    (h' : FirstClosedBy mark text body' after') : body = body' ∧ after = after' := by
  have hle := h.2 body' after' h'.1
  have hge := h'.2 body after h.1
  have htext := h.1.text_eq.symm.trans h'.1.text_eq
  obtain ⟨hbody, hrest⟩ := List.append_inj htext (by omega)
  exact ⟨hbody, (List.cons.inj hrest).2⟩

theorem FirstClosedBy.not_neverClosed (h : FirstClosedBy mark text body after) :
    ¬ NeverClosed mark text :=
  fun hnever => hnever body after h.1

theorem takeWhile_dropWhile_of_atLineEnd (hfront : '\n' ∉ front) (hback : AtLineEnd back) :
    (front ++ back).takeWhile (· != '\n') = front ∧
      (front ++ back).dropWhile (· != '\n') = back := by
  apply split_at_first hfront
  rcases hback with rfl | ⟨line, rfl⟩
  · exact startsOutside_nil _
  · exact startsOutside_cons rfl line

theorem newline_mem_of_dropWhile (h : text.dropWhile (· != '\n') = '\n' :: after) :
    '\n' ∈ text := by
  have happ := List.takeWhile_append_dropWhile (p := (· != '\n')) (l := text)
  rw [← happ, h]
  simp

/-- Reading a body comes to the first quote that closes the literal, or to the end of the line where
none does. -/
theorem readQuotation_cases (hm : mark ≠ '\\') (hn : mark ≠ '\n') (text : List Char) :
    (∃ body after, FirstClosedBy mark text body after ∧
      readQuotation mark text = ⟨body, .closed, after⟩) ∨
    (NeverClosed mark text ∧ readQuotation mark text =
      ⟨text.takeWhile (· != '\n'),
        if text.dropWhile (· != '\n') = [] then .endOfText else .newline,
        text.dropWhile (· != '\n')⟩) := by
  have htext := readQuotation_append mark text
  by_cases hend : (readQuotation mark text).ending = .closed
  · have hbody := quotedBody_of_closed hend
    generalize readQuotation mark text = q at htext hend hbody
    obtain ⟨body, ending, after⟩ := q
    obtain rfl : ending = .closed := hend
    have heq : body ++ mark :: after = text := by simpa [Quotation.closing] using htext
    refine Or.inl ⟨body, after, ?_, rfl⟩
    rw [← heq]
    exact firstClosedBy_of_quotedBody hm hbody after
  · have hopen := openBody_of_ending_ne_closed hend
    have hline : AtLineEnd (readQuotation mark text).rest := by
      cases hcase : (readQuotation mark text).ending with
      | closed => exact absurd hcase hend
      | newline => exact Or.inr (rest_of_ending_newline hcase)
      | endOfText => exact Or.inl (rest_of_ending_endOfText hcase)
    have hclosing : (readQuotation mark text).closing mark = [] := by
      unfold Quotation.closing
      split
      · rename_i hcase
        exact absurd hcase hend
      · rfl
    rw [hclosing, List.append_nil] at htext
    generalize (readQuotation mark text).body = body at htext hopen
    generalize (readQuotation mark text).rest = rest at htext hline
    subst htext
    obtain ⟨htake, hdrop⟩ :=
      takeWhile_dropWhile_of_atLineEnd (newline_notMem_of_openBody hopen) hline
    rw [htake, hdrop]
    exact Or.inr ⟨neverClosed_of_openBody hm hn hopen hline, readQuotation_of_openBody hn hopen hline⟩

/-! ### Outcomes -/

theorem isCharContent_iff : isCharContent body = true ↔ IsOneCharacter body := by
  unfold isCharContent IsOneCharacter
  split <;> simp_all

theorem stringOutcome_scanString (line : Nat) (text : List Char) :
    StringOutcome line text ((scanString text).reported line) := by
  rcases readQuotation_cases (show '"' ≠ '\\' by decide) (by decide) text with
    ⟨body, after, hfirst, hread⟩ | ⟨hnever, hread⟩
  · rw [scanString, hread]
    exact .literal hfirst
  · have hscan : scanString text = ⟨'"' :: text.takeWhile (· != '\n'),
        .fault .unterminatedString, text.dropWhile (· != '\n')⟩ := by
      rw [scanString, hread]
      split
      · rename_i hend
        dsimp only at hend
        split at hend <;> cases hend
      · rfl
    rw [hscan]
    exact .unterminated hnever

theorem characterOutcome_scanCharacter (line : Nat) (text : List Char) :
    CharacterOutcome line text ((scanCharacter text).reported line) := by
  rcases readQuotation_cases (show '\'' ≠ '\\' by decide) (by decide) text with
    ⟨body, after, hfirst, hread⟩ | ⟨hnever, hread⟩
  · rw [scanCharacter, hread]
    dsimp only
    by_cases hcontent : isCharContent body = true
    · rw [if_pos hcontent]
      exact .literal hfirst (isCharContent_iff.mp hcontent)
    · rw [if_neg hcontent]
      exact .badContent hfirst (fun h => hcontent (isCharContent_iff.mpr h))
  · have happ := List.takeWhile_append_dropWhile (p := (· != '\n')) (l := text)
    cases hdrop : text.dropWhile (· != '\n') with
    | nil =>
      have hline : text.takeWhile (· != '\n') = text := by rwa [hdrop, List.append_nil] at happ
      have hnewline : '\n' ∉ text := by
        intro hmem
        rw [← hline] at hmem
        simpa using List.mem_takeWhile_imp hmem
      rw [scanCharacter, hread, hdrop, if_pos rfl, hline]
      exact .endOfText hnever hnewline
    | cons c after =>
      have hc := startsOutside_dropWhile (· != '\n') text c (by rw [hdrop]; rfl)
      obtain rfl : c = '\n' := by simpa using hc
      rw [scanCharacter, hread, hdrop, if_neg (List.cons_ne_nil _ _)]
      exact .newline hnever hdrop

theorem StringOutcome.unique {line : Nat} {r r' : Reported} (h : StringOutcome line text r)
    (h' : StringOutcome line text r') : r = r' := by
  cases h with
  | literal hfirst =>
    cases h' with
    | literal hfirst' =>
      obtain ⟨rfl, rfl⟩ := hfirst.unique hfirst'
      rfl
    | unterminated hnever => exact absurd hnever hfirst.not_neverClosed
  | unterminated hnever =>
    cases h' with
    | literal hfirst => exact absurd hnever hfirst.not_neverClosed
    | unterminated _ => rfl

theorem CharacterOutcome.unique {line : Nat} {r r' : Reported} (h : CharacterOutcome line text r)
    (h' : CharacterOutcome line text r') : r = r' := by
  cases h with
  | literal hfirst hone =>
    cases h' with
    | literal hfirst' _ =>
      obtain ⟨rfl, rfl⟩ := hfirst.unique hfirst'
      rfl
    | badContent hfirst' hbad =>
      obtain ⟨rfl, _⟩ := hfirst.unique hfirst'
      exact absurd hone hbad
    | newline hnever _ => exact absurd hnever hfirst.not_neverClosed
    | endOfText hnever _ => exact absurd hnever hfirst.not_neverClosed
  | badContent hfirst hbad =>
    cases h' with
    | literal hfirst' hone =>
      obtain ⟨rfl, _⟩ := hfirst.unique hfirst'
      exact absurd hone hbad
    | badContent hfirst' _ =>
      obtain ⟨rfl, rfl⟩ := hfirst.unique hfirst'
      rfl
    | newline hnever _ => exact absurd hnever hfirst.not_neverClosed
    | endOfText hnever _ => exact absurd hnever hfirst.not_neverClosed
  | newline hnever hline =>
    cases h' with
    | literal hfirst _ => exact absurd hnever hfirst.not_neverClosed
    | badContent hfirst _ => exact absurd hnever hfirst.not_neverClosed
    | newline _ hline' =>
      obtain ⟨_, rfl⟩ := List.cons.inj (hline.symm.trans hline')
      rfl
    | endOfText _ hnewline => exact absurd (newline_mem_of_dropWhile hline) hnewline
  | endOfText hnever hnewline =>
    cases h' with
    | literal hfirst _ => exact absurd hnever hfirst.not_neverClosed
    | badContent hfirst _ => exact absurd hnever hfirst.not_neverClosed
    | newline _ hline => exact absurd (newline_mem_of_dropWhile hline) hnewline
    | endOfText _ _ => rfl

theorem stringOutcome_iff {line : Nat} {r : Reported} :
    StringOutcome line text r ↔ r = (scanString text).reported line := by
  constructor
  · intro h
    exact h.unique (stringOutcome_scanString line text)
  · rintro rfl
    exact stringOutcome_scanString line text

theorem characterOutcome_iff {line : Nat} {r : Reported} :
    CharacterOutcome line text r ↔ r = (scanCharacter text).reported line := by
  constructor
  · intro h
    exact h.unique (characterOutcome_scanCharacter line text)
  · rintro rfl
    exact characterOutcome_scanCharacter line text

/-- Quoted literals end at the first quote of their line that an even number of backslashes stands
right before. Where an item of a scan begins with a double or a single quote, the token or the
diagnostic that is reported on its line is what becomes of the text behind that quote, and nothing
else could become of it. -/
theorem scan_quoted (settings : Settings) (source : String) :
    ∃ items, ScansAs settings source items ∧ ∀ o ∈ items, ∀ text,
      (o.item ++ o.after = '"' :: text → ∀ r, StringOutcome o.line text r ↔ r = o.reported) ∧
      (o.item ++ o.after = '\'' :: text →
        ∀ r, CharacterOutcome o.line text r ↔ r = o.reported) := by
  obtain ⟨items, hscan, _⟩ := exists_scansAs settings source
  refine ⟨items, hscan, ?_⟩
  intro o ho text
  obtain ⟨first, rest, htext, hscanned⟩ := hscan.isScanned o ho
  rw [← o.reported_scanned, ← hscanned]
  constructor
  · intro hquote r
    obtain ⟨rfl, rfl⟩ := List.cons.inj (htext.symm.trans hquote)
    rw [scanItem_doubleQuote]
    exact stringOutcome_iff
  · intro hquote r
    obtain ⟨rfl, rfl⟩ := List.cons.inj (htext.symm.trans hquote)
    rw [scanItem_singleQuote]
    exact characterOutcome_iff

end DeclLang.Source
