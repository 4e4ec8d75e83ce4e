import DeclLang.Proofs.Source.CursorPasses
import DeclLang.Proofs.Source.Lines

/-!
# Scanning by position

A reader that moves its position about in a text scans what is scanned by passing on the text that
is left. It takes each item as it is split off, its token and what else there is to report of it,
and so reports a text as its segments do.
-/

set_option autoImplicit false

namespace DeclLang.Source

open Text

namespace Cursor

variable {text : List Char} {c d : Cursor text} {item rest : List Char} {char : Char}

/-! ### Items -/

/-- A reader takes an item as it was split off: it goes behind the text of the item, gives its token
if it is one, and reports what else there is to say of it. -/
structure Takes (c : Cursor text) (out : Option Token × Cursor text) (s : Scanned) : Prop where
  left_eq : c.left = s.item ++ s.rest
  place_eq : out.2.place = c.place.advance s.item
  token_eq : out.1 = (Located.mk c.place s.item s.finding).token?
  errors_eq : out.2.errors = c.errors ++ (Located.mk c.place s.item s.finding).diagnostic?.toList
  failedLookUps_eq : out.2.failedLookUps =
    c.failedLookUps ++ (Located.mk c.place s.item s.finding).failedLookUp?.toList

theorem Takes.left_behind {out : Option Token × Cursor text} {s : Scanned} (h : Takes c out s) :
    out.2.left = s.rest :=
  left_of_place h.left_eq h.place_eq

section

variable (h : Passes c d item rest) {line : Nat} (hline : line = c.line)
include h hline

theorem Passes.takes_token (kind : Token.Kind) :
    Takes c (some (d.token c kind line), d) ⟨item, .token kind, rest⟩ where
  left_eq := h.left_eq
  place_eq := h.place_eq
  token_eq := by
    rw [token, h.since_eq, hline]
    rfl
  errors_eq := by
    rw [h.errors_eq]
    exact (List.append_nil _).symm
  failedLookUps_eq := by
    rw [h.failedLookUps_eq]
    exact (List.append_nil _).symm

theorem Passes.takes_fault {fault : LexicalFault}
    (hfault : (Located.mk c.place item (.fault fault)).failedLookUp? = none) :
    Takes c (none, d.report line fault) ⟨item, .fault fault, rest⟩ where
  left_eq := h.left_eq
  place_eq := h.place_eq
  token_eq := rfl
  errors_eq := by
    rw [report, h.errors_eq, hline]
    rfl
  failedLookUps_eq := by
    rw [hfault, report, h.failedLookUps_eq]
    exact (List.append_nil _).symm

end

/-- Behind a failed look-up, reading is taken up behind the word: that is where the cursor is. -/
theorem Passes.takes_failure (h : Passes c d item rest) (hne : item ≠ []) (hline : '\n' ∉ item)
    (reason : String) :
    Takes c (none, d.resume c reason) ⟨item, .fault (.lookUpFailed reason), rest⟩ where
  left_eq := h.left_eq
  place_eq := by
    have hpos := List.length_pos_iff.mpr hne
    have hmax : max d.position (c.position + 1) = d.position := by
      rw [h.position_eq]
      omega
    rw [← h.place_eq, resume, hmax]
    rfl
  token_eq := rfl
  errors_eq := by
    rw [← h.errors_eq]
    change d.errors ++ [⟨.lexical, d.line, _⟩] = _
    rw [h.line_eq hline]
    rfl
  failedLookUps_eq := by
    rw [← h.failedLookUps_eq]
    rfl

theorem takes_word (settings : Settings) (hleft : c.left = char :: rest)
    (hword : isWordStart char = true) :
    Takes c (c.takeItem settings char) (Source.scanWord settings (char :: rest)) := by
  have hpass := passes_passWord c
  rw [hleft] at hpass
  have hline : '\n' ∉ (char :: rest).takeWhile isWordChar :=
    fun hmem => absurd (List.mem_takeWhile_imp hmem) (by decide)
  have hne : (char :: rest).takeWhile isWordChar ≠ [] := by
    simp [isWordChar_of_isWordStart hword]
  simp only [takeItem, scanItem, if_pos hword, scanWord, hpass.since_eq, Source.scanWord,
    wordFinding]
  cases settings.lookUpType (String.ofList ((char :: rest).takeWhile isWordChar)) with
  | error reason => exact hpass.takes_failure hne hline reason
  | ok found =>
    cases found with
    | true => exact hpass.takes_token (hpass.line_eq hline) _
    | false => exact hpass.takes_token (hpass.line_eq hline) _

theorem takes_scanNumber (hleft : c.left = char :: rest) (hstarts : startsNumber char rest = true) :
    Takes c c.scanNumber (Source.scanNumber (char :: rest)) := by
  obtain ⟨hpoint, hpass⟩ := passes_sign_passNumber c
  have hnumber := isNumber_splitNumber hstarts
  have hline := newline_notMem_of_isNumber hnumber
  rw [hleft] at hpoint hpass
  unfold Source.scanNumber scanNumber
  generalize c.passSign.passNumber false = n at hpoint hpass ⊢
  generalize (splitNumber (char :: rest)).1 = number at hpoint hpass hnumber hline ⊢
  generalize (splitNumber (char :: rest)).2 = behind at hpass ⊢
  have hplain := hpass.takes_token (hpass.line_eq hline) (.literal (plainKind number))
  rw [plainKind] at hplain
  simp only [hpoint, decide_eq_true_eq, peek_zero, hpass.left_behind]
  cases behind with
  | nil => exact hplain
  | cons next behind =>
    rw [List.head?_cons, Option.bind_some, finishNumber, Option.any_some]
    cases hsuffix : suffixKind next with
    | some kind =>
      have hnewline := newline_notMem_of_suffix hnumber hsuffix
      have hne : next ≠ '\n' := fun h => hnewline (by simp [h])
      have hall := hpass.trans (passes_forward_one hpass.left_behind hne)
      dsimp only
      rw [hall.since_eq, suffixFinding]
      split
      · exact hall.takes_fault (hall.line_eq hnewline) rfl
      · exact hall.takes_token (hall.line_eq hnewline) _
    | none =>
      dsimp only
      split
      next hword =>
        have hrun := passes_passWord n.2
        rw [hpass.left_behind] at hrun
        have hall := hpass.trans hrun
        have hnewline : '\n' ∉ number ++ (next :: behind).takeWhile isWordChar := by
          rw [List.mem_append, not_or]
          exact ⟨hline, fun hmem => absurd (List.mem_takeWhile_imp hmem) (by decide)⟩
        rw [hall.since_eq]
        exact hall.takes_fault (hall.line_eq hnewline) rfl
      next hword => exact hplain

theorem takes_scanString (hleft : c.left = '"' :: rest) :
    Takes c c.scanString (Source.scanString rest) := by
  obtain ⟨hending, hpass⟩ := passes_quotation (by decide) hleft
  unfold scanString Source.scanString
  dsimp only
  rw [hending]
  cases hcase : (readQuotation '"' rest).ending with
  | closed =>
    rw [Quotation.closing, hcase] at hpass
    exact hpass.takes_token rfl _
  | newline =>
    rw [Quotation.closing, hcase, List.append_nil] at hpass
    exact hpass.takes_fault rfl rfl
  | endOfText =>
    rw [Quotation.closing, hcase, List.append_nil] at hpass
    exact hpass.takes_fault rfl rfl

theorem takes_scanCharacter (hleft : c.left = '\'' :: rest) :
    Takes c c.scanCharacter (Source.scanCharacter rest) := by
  obtain ⟨hending, hpass⟩ := passes_quotation (by decide) hleft
  unfold scanCharacter Source.scanCharacter
  dsimp only
  rw [hending]
  cases hcase : (readQuotation '\'' rest).ending with
  | closed =>
    rw [Quotation.closing, hcase] at hpass
    have hcontent : (((((c.forward 1).passQuoted '\'').2).since c).drop 1).dropLast =
        (readQuotation '\'' rest).body := by
      rw [hpass.since_eq]
      exact List.dropLast_concat
    rw [hcontent]
    dsimp only
    split
    · exact hpass.takes_token rfl _
    · exact hpass.takes_fault rfl rfl
  | newline =>
    obtain ⟨behind, hrest⟩ := rest_of_ending_newline hcase
    rw [Quotation.closing, hcase, List.append_nil, hrest] at hpass
    have hline := hpass.trans (passes_newline hpass.left_behind)
    rw [hrest]
    exact hline.takes_fault rfl rfl
  | endOfText =>
    rw [Quotation.closing, hcase, List.append_nil] at hpass
    exact hpass.takes_fault rfl rfl

theorem takes_scanMark (hleft : c.left = char :: rest) (hnewline : char ≠ '\n') :
    Takes c (c.scanMark char) ⟨[char], markFinding char, rest⟩ := by
  have hpass := passes_forward_one hleft hnewline
  have hline := hpass.line_eq (by rwa [List.mem_singleton, eq_comm])
  unfold scanMark markFinding
  cases punctuationKind char with
  | some kind =>
    have htoken := hpass.takes_token hline kind
    rw [token, hpass.since_eq] at htoken
    exact htoken
  | none => exact hpass.takes_fault hline rfl

/-- The item in front of a cursor is taken as it is split off there. -/
theorem takes_takeItem (settings : Settings) (hleft : c.left = char :: rest)
    (hnewline : char ≠ '\n') :
    Takes c (c.takeItem settings char) (Source.scanItem settings char rest) := by
  unfold Source.scanItem
  split
  next hword => exact takes_word settings hleft hword
  next hword =>
    have hstarts : (char.isDigit || (char == '-' && (c.peek 1).any Char.isDigit)) =
        startsNumber char rest := by
      rw [peek_one hleft, startsNumber]
    simp only [takeItem, scanItem, if_neg hword, hstarts]
    split
    next hnumber => exact takes_scanNumber hleft hnumber
    next hnumber =>
      split
      next hquote =>
        subst hquote
        exact takes_scanString hleft
      next hquote =>
        split
        next hquote =>
          subst hquote
          exact takes_scanCharacter hleft
        next hquote => exact takes_scanMark hleft hnewline

/-! ### The loop over items -/

theorem splitGap_of_round_eq_none {settings : Settings} (h : c.round settings = none) :
    splitGap c.left = ((splitGap c.left).1, []) := by
  have hnil := left_eq_nil_of_peek (Option.map_eq_none_iff.mp h)
  rw [(passes_skipGap c).left_behind] at hnil
  exact Prod.ext rfl hnil

/-- A round goes behind a gap and takes the item behind that. -/
theorem takes_of_round {settings : Settings} {out : Option Token × Cursor text}
    (h : c.round settings = some out) :
    ∃ char rest, splitGap c.left = ((splitGap c.left).1, char :: rest) ∧
      Takes c.skipGap out (Source.scanItem settings char rest) := by
  obtain ⟨char, hpeek, rfl⟩ := Option.map_eq_some_iff.mp h
  obtain ⟨rest, hleft⟩ := exists_left_of_peek hpeek
  have hsplit : splitGap c.left = ((splitGap c.left).1, char :: rest) := by
    rw [(passes_skipGap c).left_behind] at hleft
    exact Prod.ext rfl hleft
  have hnewline : char ≠ '\n' := by
    rintro rfl
    exact absurd (head_of_splitGap hsplit).1 (by decide)
  exact ⟨char, rest, hsplit, takes_takeItem settings hleft hnewline⟩

/-- A reader has the tokens of the items that the segments hold, reports what else there is to say
of them, and closes behind the last gap. -/
structure Reports (c : Cursor text) (out : List Token × Cursor text) (s : Segmentation) : Prop where
  tokens_eq : out.1 = (locate c.place s.segments).filterMap Located.token? ++
    [.endAt (c.place.advance s.text).line]
  errors_eq : out.2.errors = c.errors ++ (locate c.place s.segments).filterMap Located.diagnostic?
  failedLookUps_eq : out.2.failedLookUps =
    c.failedLookUps ++ (locate c.place s.segments).filterMap Located.failedLookUp?

theorem Passes.reports {gap : List Char} (h : Passes c d gap rest) :
    Reports c ([.endAt d.line], d) ⟨[], gap⟩ where
  tokens_eq := by
    rw [Segmentation.text, List.flatMap_nil, List.nil_append, ← h.place_eq]
    rfl
  errors_eq := by
    rw [h.errors_eq]
    exact (List.append_nil _).symm
  failedLookUps_eq := by
    rw [h.failedLookUps_eq]
    exact (List.append_nil _).symm

theorem filterMap_cons_eq {α β : Type} (f : α → Option β) (a : α) (as : List α) :
    (a :: as).filterMap f = (f a).toList ++ as.filterMap f := by
  cases ha : f a with
  | none => rw [List.filterMap_cons_none ha, Option.toList_none, List.nil_append]
  | some b => rw [List.filterMap_cons_some ha, Option.toList_some, List.singleton_append]

theorem Takes.reports {out : Option Token × Cursor text} {scanned : Scanned} {gap : List Char}
    {more : List Token × Cursor text} {s : Segmentation} (hgap : Passes c d gap rest)
    (htakes : Takes d out scanned) (hmore : Reports out.2 more s) :
    Reports c (out.1.toList ++ more.1, more.2) (s.cons ⟨gap, scanned.item, scanned.finding⟩) := by
  have hplace : out.2.place = (c.place.advance gap).advance scanned.item := by
    rw [htakes.place_eq, hgap.place_eq]
  have hlocate : locate c.place (s.cons ⟨gap, scanned.item, scanned.finding⟩).segments =
      ⟨d.place, scanned.item, scanned.finding⟩ :: locate out.2.place s.segments := by
    rw [hplace, hgap.place_eq, ← Place.advance_append]
    rfl
  refine ⟨?_, ?_, ?_⟩
  · rw [hlocate, filterMap_cons_eq, htakes.token_eq, hmore.tokens_eq, text_cons,
      Place.advance_append, Segment.text, Place.advance_append, ← hplace, List.append_assoc]
  · rw [hlocate, filterMap_cons_eq, hmore.errors_eq, htakes.errors_eq, hgap.errors_eq,
      List.append_assoc]
  · rw [hlocate, filterMap_cons_eq, hmore.failedLookUps_eq, htakes.failedLookUps_eq,
      hgap.failedLookUps_eq, List.append_assoc]

theorem Takes.stops_eq {settings : Settings} {out : Option Token × Cursor text} {scanned : Scanned}
    (h : Takes c out scanned) (hstop : settings.stopOnFirstError = true → c.errors = []) :
    out.2.stops settings = endsReading settings scanned.finding := by
  rw [stops, endsReading, h.errors_eq]
  cases hs : settings.stopOnFirstError with
  | false => rfl
  | true => cases hf : scanned.finding <;> simp [hstop hs, Located.diagnostic?, Finding.isFault]

/-- A reader reports the items of the text that is left to it. -/
theorem reports_read (settings : Settings) (c : Cursor text)
    (hstop : settings.stopOnFirstError = true → c.errors = []) :
    Reports c (c.read settings) (segment settings c.left) := by
  fun_induction read settings c with
  | case1 c hround =>
    rw [segment_of_splitGap_nil (splitGap_of_round_eq_none hround)]
    exact (passes_skipGap c).reports
  | case2 c out hround hstops =>
    obtain ⟨char, rest, hsplit, htakes⟩ := takes_of_round hround
    have hgap := passes_skipGap c
    have hends := htakes.stops_eq (fun hs => hgap.errors_eq.trans (hstop hs))
    rw [segment_of_splitGap_cons hsplit, if_pos (hends.symm.trans hstops)]
    exact htakes.reports hgap (Passes.refl out.2).reports
  | case3 c out hround hstops more ih =>
    obtain ⟨char, rest, hsplit, htakes⟩ := takes_of_round hround
    have hgap := passes_skipGap c
    have hends := htakes.stops_eq (fun hs => hgap.errors_eq.trans (hstop hs))
    have hclean (hs : settings.stopOnFirstError = true) : out.2.errors = [] := by
      simpa [stops, hs] using hstops
    have hmore := ih hclean
    rw [htakes.left_behind] at hmore
    rw [segment_of_splitGap_cons hsplit, if_neg (by rwa [← hends])]
    exact htakes.reports hgap hmore

end Cursor

/-- A scan by position is the scan of the text. -/
theorem scanByCursor_eq (settings : Settings) (source : String) :
    scanByCursor settings source = scan settings source := by
  have hreports := Cursor.reports_read settings (Cursor.start source.toList) (fun _ => rfl)
  rw [show (Cursor.start source.toList).left = source.toList from rfl] at hreports
  obtain ⟨htokens, herrors, hfailed⟩ := hreports
  rw [scanByCursor, htokens, herrors, hfailed]
  rfl

/-- Lines are exact. A scan reports the items of a reading of its text in their order, each with the
line of its first character, and closes on the line where reading ends; that is the end of the text
unless a problem ended it before. So does the reader that moves its position about and counts the
newlines that it goes over, and one that keeps nothing but count reports the same. -/
theorem scan_lines (settings : Settings) (source : String) :
    ∃ (items : List Occurrence) (consumed unread : List Char),
      Reads settings source.toList [] items consumed ∧
      consumed ++ unread = source.toList ∧
      (unread ≠ [] → settings.stopOnFirstError = true ∧ (scan settings source).errors ≠ []) ∧
      (scan settings source).tokens =
        items.filterMap Occurrence.token? ++ [.endAt (1 + consumed.count '\n' : Nat)] ∧
      (scan settings source).errors = items.filterMap Occurrence.diagnostic? ∧
      scanByCursor settings source = scan settings source ∧
      scanOnePass settings source =
        ⟨1 + consumed.count '\n', (scan settings source).tokens,
          (scan settings source).errors⟩ := by
  obtain ⟨items, hreads, htokens, herrors⟩ := exists_reads_scan settings source
  obtain ⟨unread, htext, hunread⟩ := hreads.exists_unread
  refine ⟨items, _, unread, hreads, htext, ?_, htokens, herrors, scanByCursor_eq settings source,
    scanOnePass_eq settings source⟩
  intro hne
  obtain ⟨hstop, o, ho, hfault⟩ := hunread hne
  obtain ⟨d, hd⟩ := exists_diagnostic?_of_isFault hfault
  refine ⟨hstop, ?_⟩
  rw [herrors]
  exact List.ne_nil_of_mem (List.mem_filterMap.mpr ⟨o, ho, hd⟩)

end DeclLang.Source
