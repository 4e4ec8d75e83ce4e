import DeclLang.Proofs.Source.Occurrence

/-!
# Layout does not matter

Tokens laid out with gaps between them are scanned as these tokens and without an error, whichever
gaps were taken: blanks of any script, comments of either form, and at the end a comment that
nothing closes. A gap between two tokens may not be empty, since two words written together are one.

Nothing is said here about the lines of the tokens, which do depend on the gaps.
-/

set_option autoImplicit false

namespace DeclLang.Source

open Text

/-! ### What a gap and a token begin with -/

theorem head_of_closedGap {gap : List Char} (h : ClosedGap gap) :
    ∀ c, gap.head? = some c → isBlank c = true ∨ c = '/' := by
  intro c hc
  cases h with
  | nil => cases hc
  | blank hblank _ =>
    obtain rfl := Option.some.inj hc
    exact Or.inl hblank
  | lineComment _ _ => exact Or.inr (Option.some.inj hc).symm
  | blockComment _ _ => exact Or.inr (Option.some.inj hc).symm

theorem head_of_isGap {gap : List Char} (h : IsGap gap) :
    ∀ c, gap.head? = some c → isBlank c = true ∨ c = '/' := by
  cases h with
  | closed hgap => exact head_of_closedGap hgap
  | @openEnded front comment hfront hcomment =>
    intro c hc
    cases front with
    | cons d front => exact head_of_closedGap hfront c hc
    | nil =>
      cases hcomment with
      | lineComment _ => exact Or.inr (Option.some.inj hc).symm
      | blockComment _ => exact Or.inr (Option.some.inj hc).symm

/-- A gap makes no token longer. -/
theorem startsOutside_append_of_isGap {gap : List Char} (h : IsGap gap) (hne : gap ≠ [])
    (rest : List Char) : StartsOutside continues (gap ++ rest) := by
  intro c hc
  obtain ⟨d, gap, rfl⟩ := List.exists_cons_of_ne_nil hne
  obtain rfl := Option.some.inj hc
  rcases head_of_isGap h d rfl with hblank | rfl
  · exact continues_eq_false_of_isBlank hblank
  · decide

theorem isBlank_eq_false_of_isWordChar {c : Char} (h : isWordChar c = true) :
    isBlank c = false := by
  rw [← Bool.not_eq_true]
  intro hblank
  have hout := continues_eq_false_of_isBlank hblank
  rw [continues, h] at hout
  cases hout

/-- A token begins with neither a blank nor a slash, which all comments begin with. -/
theorem first_of_isLexeme_not_gap {settings : Settings} {kind : Token.Kind} {c : Char}
    {tail : List Char} (h : IsLexeme settings kind (c :: tail)) :
    isBlank c = false ∧ c ≠ '/' := by
  rcases first_of_isLexeme h [] with hword | hnumber | hquote | hmark
  · refine ⟨isBlank_eq_false_of_isWordChar (isWordChar_of_isWordStart hword), ?_⟩
    rintro rfl
    exact absurd hword (by decide)
  · simp only [startsNumber, Bool.or_eq_true, Bool.and_eq_true, beq_iff_eq] at hnumber
    rcases hnumber with hdigit | ⟨rfl, _⟩
    · refine ⟨isBlank_eq_false_of_isWordChar (isWordChar_of_isDigit hdigit), ?_⟩
      rintro rfl
      exact absurd hdigit (by decide)
    · decide
  · rcases hquote with rfl | rfl <;> decide
  · have hc : c = '=' ∨ c = ',' ∨ c = ';' := by
      revert hmark
      unfold punctuationKind
      split <;> simp
    rcases hc with rfl | rfl | rfl <;> decide

theorem splitGap_append_of_isLexeme {settings : Settings} {kind : Token.Kind} {lexeme : List Char}
    (h : IsLexeme settings kind lexeme) (rest : List Char) :
    splitGap (lexeme ++ rest) = ([], lexeme ++ rest) := by
  obtain ⟨c, tail, rfl⟩ := List.exists_cons_of_ne_nil (isLexeme_ne_nil h)
  obtain ⟨hblank, hslash⟩ := first_of_isLexeme_not_gap h
  rw [List.cons_append]
  apply splitGap_eq_nil
  · rw [hblank]
    decide
  · exact fun hc => hslash hc.1
  · exact fun hc => hslash hc.1

/-! ### Layouts -/

/-- A layout of tokens: each one a text of its kind, closed gaps in front, none of them empty except
perhaps the first, and any gap at the end. -/
structure Segmentation.IsLayout (s : Segmentation) (settings : Settings) : Prop where
  isLexeme : ∀ x ∈ s.segments, ∃ kind, x.finding = .token kind ∧ IsLexeme settings kind x.item
  closedGap : ∀ x ∈ s.segments, ClosedGap x.gap
  apart : ∀ x ∈ s.segments.tail, x.gap ≠ []
  isGap : IsGap s.lastGap

theorem isLayout_tail {settings : Settings} {head : Segment} {s : Segmentation}
    (h : (s.cons head).IsLayout settings) : s.IsLayout settings where
  isLexeme x hx := h.isLexeme x (List.mem_cons_of_mem head hx)
  closedGap x hx := h.closedGap x (List.mem_cons_of_mem head hx)
  apart x hx := h.apart x (List.mem_of_mem_tail hx)
  isGap := h.isGap

/-- What stands behind a token of a layout does not make it longer. -/
theorem startsOutside_text {settings : Settings} {head : Segment} {s : Segmentation}
    (h : (s.cons head).IsLayout settings) : StartsOutside continues s.text := by
  have htail := isLayout_tail h
  obtain ⟨segments, last⟩ := s
  cases segments with
  | nil =>
    by_cases hlast : last = []
    · subst hlast
      intro c hc
      cases hc
    · have hout := startsOutside_append_of_isGap h.isGap hlast []
      rwa [List.append_nil] at hout
  | cons x segments =>
    have hx : x ∈ x :: segments := List.mem_cons_self
    have hgap : IsGap x.gap := .closed (htail.closedGap x hx)
    have hout := startsOutside_append_of_isGap hgap (h.apart x hx)
      (x.item ++ (Segmentation.mk segments last).text)
    simpa [Segmentation.text, Segment.text] using hout

/-- A layout is cut into the segments that it was put together from. -/
theorem segment_text_of_isLayout {settings : Settings} {s : Segmentation}
    (h : s.IsLayout settings) : segment settings s.text = s := by
  obtain ⟨segments, last⟩ := s
  induction segments with
  | nil => exact segment_of_splitGap_nil (splitGap_of_isGap h.isGap)
  | cons x segments ih =>
    let rest : Segmentation := ⟨segments, last⟩
    have hcons : (rest.cons x).IsLayout settings := h
    obtain ⟨kind, hkind, hlexeme⟩ := h.isLexeme x List.mem_cons_self
    obtain ⟨first, tail, hitem, hscan⟩ :=
      scanItem_of_isLexeme hlexeme (startsOutside_text hcons)
    have hsplit : splitGap (rest.cons x).text = (x.gap, first :: (tail ++ rest.text)) := by
      rw [text_cons, Segment.text, List.append_assoc,
        splitGap_append_of_closedGap (h.closedGap x List.mem_cons_self),
        splitGap_append_of_isLexeme hlexeme, hitem, List.append_nil, List.cons_append]
    have hgo : endsReading settings (.token kind) = false := by
      simp [endsReading, Finding.isFault]
    have hrest : segment settings rest.text = rest := ih (isLayout_tail hcons)
    change segment settings (rest.cons x).text = rest.cons x
    rw [segment_of_splitGap_cons hsplit, hscan, if_neg (by simp [hgo]), hrest, ← hkind]

/-- A word of the given kind behind a gap. -/
def Segment.ofWord (gap : List Char) (word : Token.Kind × String) : Segment :=
  ⟨gap, word.2.toList, .token word.1⟩

/-- Words with a gap in front of each, and a last gap. -/
def layOut (gaps : List (List Char)) (words : List (Token.Kind × String)) (last : List Char) :
    Segmentation :=
  ⟨(gaps.zip words).map fun x => .ofWord x.1 x.2, last⟩

theorem isLayout_layOut {settings : Settings} {gaps : List (List Char)}
    {words : List (Token.Kind × String)} {last : List Char}
    (hwords : ∀ w ∈ words, IsLexeme settings w.1 w.2.toList)
    (hgaps : ∀ gap ∈ gaps, ClosedGap gap) (hapart : ∀ gap ∈ gaps.tail, gap ≠ [])
    (hlast : IsGap last) : (layOut gaps words last).IsLayout settings where
  isLexeme := by
    intro x hx
    obtain ⟨⟨gap, w⟩, hpair, rfl⟩ := List.mem_map.mp hx
    exact ⟨w.1, rfl, hwords w (List.of_mem_zip hpair).2⟩
  closedGap := by
    intro x hx
    obtain ⟨⟨gap, w⟩, hpair, rfl⟩ := List.mem_map.mp hx
    exact hgaps gap (List.of_mem_zip hpair).1
  apart := by
    intro x hx
    have htail : (gaps.zip words).tail = gaps.tail.zip words.tail := List.tail_zipWith
    rw [layOut, ← List.map_tail, htail] at hx
    obtain ⟨⟨gap, w⟩, hpair, rfl⟩ := List.mem_map.mp hx
    exact hapart gap (List.of_mem_zip hpair).1
  isGap := hlast

theorem map_token?_locate_ofWord (place : Place) (pairs : List (List Char × (Token.Kind × String))) :
    ((locate place (pairs.map fun x => .ofWord x.1 x.2)).filterMap Located.token?).map
      (fun t => (t.kind, t.lexeme)) = pairs.map Prod.snd := by
  induction pairs generalizing place with
  | nil => rfl
  | cons x pairs ih =>
    simp only [List.map_cons, locate, Segment.ofWord, List.filterMap_cons, Located.token?,
      String.ofList_toList]
    exact congrArg _ (ih _)

theorem diagnostic?_locate_ofWord (place : Place)
    (pairs : List (List Char × (Token.Kind × String))) :
    (locate place (pairs.map fun x => .ofWord x.1 x.2)).filterMap Located.diagnostic? = [] := by
  induction pairs generalizing place with
  | nil => rfl
  | cons x pairs ih => exact ih _

theorem isLexeme_of_mem_tokens {settings : Settings} {source : String} {t : Token}
    (ht : t ∈ (scan settings source).tokens) (hend : t.isEnd = false) :
    IsLexeme settings t.kind t.lexeme.toList := by
  obtain ⟨items, hreads, htokens, _⟩ := exists_reads_scan settings source
  rw [htokens] at ht
  rcases List.mem_append.mp ht with ht | ht
  · obtain ⟨o, ho, htoken⟩ := List.mem_filterMap.mp ht
    obtain ⟨kind, hf, rfl⟩ := Occurrence.token?_eq_some_iff.mp htoken
    have hitem := (hreads.inText o ho).isItem
    rw [hf] at hitem
    rw [String.toList_ofList]
    exact hitem
  · obtain rfl := List.mem_singleton.mp ht
    cases hend

/-- Scanning undoes every layout. The tokens of a scan belong to the grammar of their kinds, and
texts of the grammar are scanned as what they are, whatever gaps stand between them. -/
theorem scan_layOut (settings : Settings) :
    (∀ source, ∀ t ∈ (scan settings source).tokens, t.isEnd = false →
      IsLexeme settings t.kind t.lexeme.toList) ∧
    ∀ (words : List (Token.Kind × String)) (gaps : List (List Char)) (last : List Char),
      (∀ w ∈ words, IsLexeme settings w.1 w.2.toList) → gaps.length = words.length →
      (∀ gap ∈ gaps, ClosedGap gap) → (∀ gap ∈ gaps.tail, gap ≠ []) → IsGap last →
      (scan settings (String.ofList (layOut gaps words last).text)).errors = [] ∧
      ∃ ts line, (scan settings (String.ofList (layOut gaps words last).text)).tokens =
        ts ++ [.endAt line] ∧ ts.map (fun t => (t.kind, t.lexeme)) = words := by
  refine ⟨fun source t ht hend => isLexeme_of_mem_tokens ht hend, ?_⟩
  intro words gaps last hwords hlength hgaps hapart hlast
  have hsegment := segment_text_of_isLayout (isLayout_layOut hwords hgaps hapart hlast)
  have hsnd : (gaps.zip words).map Prod.snd = words := List.map_snd_zip (by omega)
  rw [scan, String.toList_ofList, hsegment]
  refine ⟨diagnostic?_locate_ofWord _ _, _, _, rfl, ?_⟩
  exact (map_token?_locate_ofWord _ _).trans hsnd

/-- A long number right behind a line comment and right before a space that is not an ASCII one, a
block comment of stars alone between two words, and an open comment at the end. -/
theorem scan_layOut_comments :
    let settings : Settings := {}
    let words : List (Token.Kind × String) :=
      [(.typeName, "int"), (.identifier, "a"), (.equals, "="), (.literal .long, "-5L"),
        (.semicolon, ";")]
    let gaps : List (List Char) :=
      [[], ['/', '*', '*', '*', '/'], [' '], ['/', '/', 'b', '\n'], ['\u00a0']]
    let last : List Char := ['/', '*', ';']
    (∀ w ∈ words, IsLexeme settings w.1 w.2.toList) ∧ gaps.length = words.length ∧
      (∀ gap ∈ gaps, ClosedGap gap) ∧ (∀ gap ∈ gaps.tail, gap ≠ []) ∧ IsGap last ∧
      (scan settings (String.ofList (layOut gaps words last).text)).errors = [] ∧
      ∃ ts line, (scan settings (String.ofList (layOut gaps words last).text)).tokens =
        ts ++ [.endAt line] ∧ ts.map (fun t => (t.kind, t.lexeme)) = words := by
  intro settings words gaps last
  have hwords : ∀ w ∈ words, IsLexeme settings w.1 w.2.toList := by
    intro w hw
    simp only [words, List.mem_cons, List.not_mem_nil, or_false] at hw
    rcases hw with rfl | rfl | rfl | rfl | rfl
    · exact ⟨⟨rfl, List.all_eq_true.mp rfl⟩, rfl⟩
    · exact ⟨⟨rfl, List.all_eq_true.mp rfl⟩, rfl, by decide⟩
    · rfl
    · have hdigits : IsDigits ['5'] := ⟨by decide, List.all_eq_true.mp rfl⟩
      exact ⟨['-', '5'], 'L', Or.inr ⟨['5'], hdigits, rfl⟩, rfl, rfl⟩
    · rfl
  have hgaps : ∀ gap ∈ gaps, ClosedGap gap := by
    have hsplit : ∀ gap ∈ gaps, splitGap (gap ++ [';']) = (gap, [';']) := by decide
    exact fun gap hgap => closedGap_of_splitGap (hsplit gap hgap) (by decide)
  have hapart : ∀ gap ∈ gaps.tail, gap ≠ [] := by decide
  have hlast : IsGap last := isGap_splitGap last
  exact ⟨hwords, rfl, hgaps, hapart, hlast,
    (scan_layOut settings).2 words gaps last hwords rfl hgaps hapart hlast⟩

end DeclLang.Source
