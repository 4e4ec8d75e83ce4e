import DeclLang.Proofs.Source.Occurrence
import DeclLang.Source.OnePass

/-!
# Keeping count of lines

A reader that only keeps count of its line comes to the lines of a scan, which are those of the
items' first characters: a gap is counted as it is passed over, and of all items a character literal
that its line leaves open is the one that holds a newline, as its last character.
-/

set_option autoImplicit false

namespace DeclLang.Source

open Text

/-! ### Newlines in gaps and items -/

theorem lineBehindChar_add (line : Nat) (c : Char) (text : List Char) :
    lineBehindChar line c + text.count '\n' = line + (c :: text).count '\n' := by
  rw [lineBehindChar, List.count_cons]
  by_cases hc : c = '\n'
  · simp only [hc, if_true, beq_self_eq_true]
    omega
  · simp [hc]

theorem lineBehindGap_eq (state : GapState) (line : Nat) (text : List Char) :
    lineBehindGap state line text = line + (splitGapFrom state text).1.count '\n' := by
  fun_induction splitGapFrom state text generalizing line with
  | case1 => simp [lineBehindGap]
  | case2 rest gap after hsplit ih =>
    rw [lineBehindGap, ih, hsplit]
    simp
  | case3 rest gap after hsplit ih =>
    rw [lineBehindGap, ih, hsplit]
    simp
  | case4 c rest h1 h2 hblank gap after hsplit ih =>
    rw [lineBehindGap, if_pos hblank, ih, hsplit, lineBehindChar_add]
    · exact h1
    · exact h2
  | case5 c rest h1 h2 hblank =>
    rw [lineBehindGap, if_neg hblank]
    · rfl
    · exact h1
    · exact h2
  | case6 c rest gap after hsplit ih =>
    rw [lineBehindGap]
    by_cases hc : c = '\n'
    · simp only [hc, if_true] at hsplit ih ⊢
      rw [ih, hsplit, List.count_cons_self]
      dsimp only
      omega
    · simp only [hc, if_false] at hsplit ih ⊢
      rw [ih, hsplit, List.count_cons_of_ne hc]
  | case7 rest gap after hsplit ih =>
    rw [lineBehindGap, ih, hsplit]
    simp
  | case8 c rest h1 gap after hsplit ih =>
    rw [lineBehindGap, ih, hsplit, lineBehindChar_add]
    exact h1

theorem newline_notMem_of_isNumber {text : List Char} (h : IsNumber text) : '\n' ∉ text := by
  intro hm
  rcases h.mem_cases hm with hc | hc | hc <;> cases hc

theorem newline_notMem_of_suffix {number : List Char} {c : Char} {kind : LiteralKind}
    (h : IsNumber number) (hc : suffixKind c = some kind) : '\n' ∉ number ++ [c] := by
  have hne : '\n' ≠ c := by
    rintro rfl
    cases hc
  simp [newline_notMem_of_isNumber h, hne]

theorem newline_notMem_of_isWord {text : List Char} (h : IsWord text) : '\n' ∉ text := by
  intro hm
  exact absurd (isWordChar_of_mem_word h _ hm) (by decide)

theorem newline_notMem_of_quotedBody {mark : Char} {body : List Char} (h : QuotedBody mark body) :
    '\n' ∉ body := by
  induction h with
  | nil => simp
  | plain _ _ hn _ ih => simp [Ne.symm hn, ih]
  | escape hn _ ih => simp [Ne.symm hn, ih]

theorem newline_notMem_of_openBody {mark : Char} {body : List Char} (h : OpenBody mark body) :
    '\n' ∉ body := by
  rcases h with h | ⟨front, h, rfl⟩
  · exact newline_notMem_of_quotedBody h
  · simp [newline_notMem_of_quotedBody h]

theorem newline_notMem_of_isLexeme {settings : Settings} {kind : Token.Kind} {text : List Char}
    (h : IsLexeme settings kind text) : '\n' ∉ text := by
  cases kind with
  | typeName => exact newline_notMem_of_isWord h.1
  | identifier => exact newline_notMem_of_isWord h.1
  | equals => cases h; decide
  | comma => cases h; decide
  | semicolon => cases h; decide
  | endOfInput => exact h.elim
  | literal kind =>
    cases kind with
    | int => exact newline_notMem_of_isNumber (.inl h)
    | long =>
      obtain ⟨n, c, hn, hc, rfl⟩ := h
      exact newline_notMem_of_suffix (.inl hn) hc
    | float =>
      obtain ⟨n, c, hn, hc, rfl⟩ := h
      exact newline_notMem_of_suffix hn hc
    | double =>
      rcases h with h | ⟨n, c, hn, hc, rfl⟩
      · exact newline_notMem_of_isNumber (.inr h)
      · exact newline_notMem_of_suffix hn hc
    | char =>
      obtain ⟨body, hbody, _, rfl⟩ := h
      simp [newline_notMem_of_quotedBody hbody]
    | string =>
      obtain ⟨body, hbody, rfl⟩ := h
      simp [newline_notMem_of_quotedBody hbody]
    | boolean => exact newline_notMem_of_isWord (isWord_of_booleanWord h.1)

theorem newline_notMem_of_isFaulty {settings : Settings} {fault : LexicalFault}
    {item rest : List Char} (h : IsFaulty settings fault item rest)
    (hfault : fault ≠ .newlineInChar) : '\n' ∉ item := by
  cases h with
  | @unknownCharacter c _ hc =>
    intro hm
    obtain rfl := List.mem_singleton.mp hm
    exact absurd hc.blank (by decide)
  | pointInLong hn hc => exact newline_notMem_of_suffix (.inr hn) hc
  | digitLedWord hn hw _ _ =>
    rw [List.mem_append, not_or]
    exact ⟨newline_notMem_of_isNumber hn, newline_notMem_of_isWord hw⟩
  | unterminatedString hb _ => simpa using newline_notMem_of_openBody hb
  | unterminatedChar hb => simpa using newline_notMem_of_openBody hb
  | newlineInChar _ => exact absurd rfl hfault
  | badCharContent hb _ => simpa using newline_notMem_of_quotedBody hb
  | lookUpFailed hw _ _ => exact newline_notMem_of_isWord hw

/-- A reader moves on behind an item by the newlines of the item. -/
theorem lineBehindItem_eq {settings : Settings} {finding : Finding} {item rest : List Char}
    (h : IsItem settings finding item rest) (line : Nat) :
    lineBehindItem line finding = line + item.count '\n' := by
  cases finding with
  | token kind =>
    rw [List.count_eq_zero_of_not_mem (newline_notMem_of_isLexeme h)]
    rfl
  | fault fault =>
    by_cases hfault : fault = .newlineInChar
    · subst hfault
      cases h with
      | @newlineInChar body _ hb =>
        have hbody := List.count_eq_zero_of_not_mem (newline_notMem_of_openBody hb)
        simp [lineBehindItem, hbody]
    · rw [List.count_eq_zero_of_not_mem (newline_notMem_of_isFaulty h hfault)]
      cases fault <;> first | rfl | exact absurd rfl hfault

/-! ### Keeping count -/

theorem skipGap_line {p : Pass} {place : Place} {text gap after : List Char}
    (hline : p.line = place.line) (h : splitGap text = (gap, after)) :
    (p.skipGap text).line = (place.advance gap).line := by
  have hgap := lineBehindGap_eq .between p.line text
  rw [show splitGapFrom .between text = (gap, after) from h] at hgap
  rw [Pass.skipGap, hgap, hline]
  rfl

/-- The reports of items, added to those that a reader has made. -/
def Pass.adding (p : Pass) (items : List Located) (line : Nat) : Pass :=
  ⟨line, p.tokens ++ items.filterMap Located.token?,
    p.errors ++ items.filterMap Located.diagnostic?⟩

theorem takeItem_eq {settings : Settings} {p : Pass} {place : Place} {scanned : Scanned}
    (hline : p.line = place.line)
    (h : IsItem settings scanned.finding scanned.item scanned.rest) :
    p.takeItem scanned =
      p.adding [⟨place, scanned.item, scanned.finding⟩] (place.advance scanned.item).line := by
  have hbehind := lineBehindItem_eq h p.line
  rw [Pass.takeItem, hbehind, hline, Pass.adding]
  cases hf : scanned.finding with
  | token kind => simp [Pass.report, Located.token?, Located.diagnostic?, Place.advance, hline]
  | fault fault => simp [Pass.report, Located.token?, Located.diagnostic?, Place.advance, hline]

theorem stops_adding {settings : Settings} {p : Pass} {i : Located} {line : Nat}
    (hstop : settings.stopOnFirstError = true → p.errors = []) :
    (p.adding [i] line).stops settings = endsReading settings i.finding := by
  rw [Pass.stops, endsReading, Pass.adding]
  cases hs : settings.stopOnFirstError with
  | false => rfl
  | true =>
    cases hf : i.finding <;> simp [hstop hs, Located.diagnostic?, hf, Finding.isFault]

theorem errors_eq_nil_of_stops_eq_false {settings : Settings} {p : Pass}
    (h : p.stops settings = false) (hstop : settings.stopOnFirstError = true) : p.errors = [] := by
  rw [Pass.stops, hstop] at h
  simpa using h

theorem adding_cons (p : Pass) (i : Located) (items : List Located) (line line' : Nat) :
    (p.adding [i] line).adding items line' = p.adding (i :: items) line' := by
  simp only [Pass.adding, List.append_assoc, ← List.filterMap_append, List.singleton_append]

theorem segments_cons (head : Segment) (s : Segmentation) :
    (s.cons head).segments = head :: s.segments :=
  rfl

/-- What a reader reports of a text that it goes on to are the items of its segments. -/
theorem read_eq_adding (settings : Settings) {p : Pass} {place : Place} {text : List Char}
    (hline : p.line = place.line) (hstop : settings.stopOnFirstError = true → p.errors = []) :
    p.read settings text =
      (p.adding (locate place (segment settings text).segments)
        (place.advance (segment settings text).text).line).close := by
  -- Item by item. Where the settings stop at problems there are none so far, and the last one
  -- decides alone.
  induction text using segment_induction settings generalizing p place with
  | last text gap hs =>
    have hgap := skipGap_line hline hs
    have hskip : p.skipGap text = p.adding [] (place.advance gap).line := by
      rw [← hgap]
      simp [Pass.adding, Pass.skipGap]
    rw [Pass.read_of_splitGap_nil hs, segment_of_splitGap_nil hs, hskip]
    rfl
  | item text gap first rest hs ih =>
    have hgap := skipGap_line hline hs
    let scanned := scanItem settings first rest
    let i : Located := ⟨place.advance gap, scanned.item, scanned.finding⟩
    let next := (p.skipGap text).takeItem scanned
    have hnext : next = p.adding [i] (i.place.advance i.item).line :=
      takeItem_eq hgap (isItem_scanItem settings hs)
    have hends : next.stops settings = endsReading settings scanned.finding := by
      rw [hnext]
      exact stops_adding hstop
    rw [Pass.read_of_splitGap_cons hs, segment_of_splitGap_cons hs]
    change (if next.stops settings then next.close else next.read settings scanned.rest) = _
    cases hgo : next.stops settings with
    | true =>
      rw [if_pos rfl, if_pos (hends.symm.trans hgo), hnext]
      simp [locate, Segmentation.text, Segment.text, i, scanned]
    | false =>
      have hmore : ¬ endsReading settings scanned.finding = true := by
        rw [← hends, hgo]
        decide
      have hplace : next.line = (i.place.advance i.item).line := by
        rw [hnext]
        rfl
      have hrest := ih hplace (errors_eq_nil_of_stops_eq_false hgo)
      rw [if_neg (by decide), if_neg hmore, hrest, hnext, adding_cons]
      simp [locate, segments_cons, Segment.text, i, scanned]

/-- A reader that only keeps count reports what a scan reports. -/
theorem scanOnePass_eq (settings : Settings) (source : String) :
    scanOnePass settings source =
      ⟨1 + (segment settings source.toList).text.count '\n',
        (scan settings source).tokens, (scan settings source).errors⟩ := by
  have hline : Pass.start.line = Place.start.line := rfl
  rw [scanOnePass, read_eq_adding settings hline (fun _ => rfl)]
  rfl

end DeclLang.Source
