import DeclLang.Proofs.Source.Account
import DeclLang.Proofs.Source.ItemEnd

/-!
# Texts joined by a newline

A text and a second one behind a newline are scanned apart: tokens and errors are those of the first
text and then those of the second, further down by the lines of the first. A comment or a character
literal that the first text leaves open goes on into the second one, so such texts are excluded. A
string left open is not among them, for it ends with its line in any case.
-/

set_option autoImplicit false

namespace DeclLang

/-- A token that stands further down. -/
def Token.below (lines : Nat) (t : Token) : Token :=
  { t with line := t.line + lines }

/-- A diagnostic that stands further down. -/
def Diagnostic.below (lines : Nat) (d : Diagnostic) : Diagnostic :=
  { d with line := d.line + lines }

namespace Source

open Text

/-- Whether a gap ends inside of a block comment. -/
def EndsInBlockComment (gap : List Char) : Prop :=
  ∃ front body, ClosedGap front ∧ ¬ HoldsClosing body ∧ gap = front ++ '/' :: '*' :: body

/-! ### Gaps in front of a newline -/

theorem not_holdsClosing_append {body : List Char} (h : ¬ HoldsClosing body) {c : Char}
    (hc : c ≠ '/') (rest : List Char) (hrest : ¬ HoldsClosing (c :: rest)) :
    ¬ HoldsClosing (body ++ c :: rest) := by
  induction body with
  | nil => exact hrest
  | cons d body ih =>
    rw [holdsClosing_cons_iff, not_or] at h
    rw [List.cons_append, holdsClosing_cons_iff, not_or]
    refine ⟨?_, ih h.2⟩
    rintro ⟨rfl, hhead⟩
    cases body with
    | nil => exact hc (Option.some.inj hhead)
    | cons e body => exact h.1 ⟨rfl, hhead⟩

/-- A newline closes a gap, unless it stands in a block comment. -/
theorem closedGap_append_newline_iff {gap : List Char} (h : IsGap gap) :
    ClosedGap (gap ++ ['\n']) ↔ ¬ EndsInBlockComment gap := by
  constructor
  · rintro hclosed ⟨front, body, hfront, hbody, rfl⟩
    -- With any item behind the newline, the comment would have to take the item as well.
    have hopen : ¬ HoldsClosing (body ++ ['\n', ';']) := by
      apply not_holdsClosing_append hbody (by decide)
      rw [HoldsClosing]
      decide
    have hitem := splitGap_append_of_closedGap hclosed [';']
    have hcomment := splitGap_of_isGap (.openEnded hfront (.blockComment hopen))
    have happ : front ++ '/' :: '*' :: (body ++ ['\n', ';']) =
        front ++ '/' :: '*' :: body ++ ['\n'] ++ [';'] := by simp
    rw [happ, hitem] at hcomment
    exact absurd (Prod.mk.inj hcomment).2 (by decide)
  · intro hends
    have hnewline : ClosedGap ['\n'] := .blank isBlank_newline .nil
    cases h with
    | closed hclosed => exact hclosed.append hnewline
    | @openEnded front comment hfront hcomment =>
      rw [List.append_assoc]
      cases hcomment with
      | lineComment hbody => exact hfront.append (.lineComment hbody .nil)
      | blockComment hbody => exact absurd ⟨front, _, hfront, hbody, rfl⟩ hends

/-! ### Segments -/

/-- A segmentation behind a further gap. -/
def Segmentation.behind (gap : List Char) : Segmentation → Segmentation
  | ⟨[], last⟩ => ⟨[], gap ++ last⟩
  | ⟨s :: segments, last⟩ => ⟨{ s with gap := gap ++ s.gap } :: segments, last⟩

variable {settings : Settings} {gap front : List Char}

theorem segment_append_of_closedGap (h : ClosedGap gap) (text : List Char) :
    segment settings (gap ++ text) = (segment settings text).behind gap := by
  have hsplit := splitGap_append_of_closedGap h text
  cases hs : splitGap text with
  | mk g after =>
    rw [hs] at hsplit
    cases after with
    | nil =>
      rw [segment_of_splitGap_nil hsplit, segment_of_splitGap_nil hs]
      rfl
    | cons first rest =>
      rw [segment_of_splitGap_cons hsplit, segment_of_splitGap_cons hs]
      split <;> rfl

/-- What stands behind a gap stands behind it with more text as well. -/
theorem splitGap_append_newline {rest : List Char} {first : Char}
    (h : splitGap front = (gap, first :: rest)) (back : List Char) :
    splitGap (front ++ '\n' :: back) = (gap, first :: (rest ++ '\n' :: back)) := by
  have hgap := closedGap_of_splitGap h (by simp)
  obtain ⟨hblank, hcomment⟩ := head_of_splitGap h
  have hhead : ∀ c, c ≠ '\n' → (rest ++ '\n' :: back).head? = some c → rest.head? = some c := by
    intro c hc hhead
    cases rest with
    | nil => exact absurd (Option.some.inj hhead).symm hc
    | cons d rest => exact hhead
  have hnil : splitGap (first :: (rest ++ '\n' :: back)) =
      ([], first :: (rest ++ '\n' :: back)) := by
    apply splitGap_eq_nil
    · rw [hblank]
      decide
    · rintro ⟨hfirst, hslash⟩
      exact (hcomment hfirst).1 (hhead _ (by decide) hslash)
    · rintro ⟨hfirst, hstar⟩
      exact (hcomment hfirst).2 (hhead _ (by decide) hstar)
  rw [← append_of_splitGap h, List.append_assoc, splitGap_append_of_closedGap hgap,
    List.cons_append, hnil, List.append_nil]

/-- The segments of two texts joined by a newline are those of the one and those of the other. -/
theorem segment_append_newline (hstop : settings.stopOnFirstError = false)
    (hgap : ClosedGap ((segment settings front).lastGap ++ ['\n']))
    (hchar : ∀ s ∈ (segment settings front).segments, s.finding ≠ .fault .unterminatedChar)
    (back : List Char) :
    segment settings (front ++ '\n' :: back) =
      ⟨(segment settings front).segments ++
          ((segment settings back).behind ((segment settings front).lastGap ++ ['\n'])).segments,
        ((segment settings back).behind ((segment settings front).lastGap ++ ['\n'])).lastGap⟩ := by
  induction front using segment_induction settings with
  | last front gap hs =>
    have happ := append_of_splitGap hs
    rw [List.append_nil] at happ
    subst happ
    rw [segment_of_splitGap_nil hs] at hgap ⊢
    rw [List.append_cons, segment_append_of_closedGap hgap]
    rfl
  | item front gap first rest hs ih =>
    have hgo : ∀ finding, ¬ endsReading settings finding = true := by simp [endsReading, hstop]
    rw [segment_of_splitGap_cons hs, if_neg (hgo _)] at hgap hchar ⊢
    have hfirst := scanItem_append_newline (hchar _ List.mem_cons_self) back
    have hrest := ih hgap fun s hs => hchar s (List.mem_cons_of_mem _ hs)
    rw [segment_of_splitGap_cons (splitGap_append_newline hs back), if_neg (hgo _), hfirst]
    simp only [Scanned.leaving, hrest]
    rfl

/-! ### Places further down -/

def Place.moved (lines chars : Nat) (p : Place) : Place :=
  ⟨p.line + lines, p.offset + chars⟩

def Located.moved (lines chars : Nat) (i : Located) : Located :=
  { i with place := i.place.moved lines chars }

theorem advance_moved (lines chars : Nat) (p : Place) (text : List Char) :
    (p.moved lines chars).advance text = (p.advance text).moved lines chars := by
  simp only [Place.moved, Place.advance, Nat.add_right_comm]

theorem locate_moved (lines chars : Nat) (p : Place) (segments : List Segment) :
    locate (p.moved lines chars) segments =
      (locate p segments).map (Located.moved lines chars) := by
  induction segments generalizing p with
  | nil => rfl
  | cons s segments ih =>
    rw [locate, locate, advance_moved, advance_moved, ih, List.map_cons]
    rfl

theorem token?_moved (lines chars : Nat) (i : Located) :
    (i.moved lines chars).token? = i.token?.map (Token.below lines) := by
  simp only [Located.token?, Located.moved]
  cases i.finding <;> simp [Token.below, Place.moved]

theorem diagnostic?_moved (lines chars : Nat) (i : Located) :
    (i.moved lines chars).diagnostic? = i.diagnostic?.map (Diagnostic.below lines) := by
  simp only [Located.diagnostic?, Located.moved]
  cases i.finding <;> simp [Diagnostic.below, Place.moved]

theorem filterMap_token?_moved (lines chars : Nat) (items : List Located) :
    (items.map (Located.moved lines chars)).filterMap Located.token? =
      (items.filterMap Located.token?).map (Token.below lines) := by
  rw [List.filterMap_map, List.map_filterMap]
  exact congrArg (items.filterMap ·) (funext (token?_moved lines chars))

theorem filterMap_diagnostic?_moved (lines chars : Nat) (items : List Located) :
    (items.map (Located.moved lines chars)).filterMap Located.diagnostic? =
      (items.filterMap Located.diagnostic?).map (Diagnostic.below lines) := by
  rw [List.filterMap_map, List.map_filterMap]
  exact congrArg (items.filterMap ·) (funext (diagnostic?_moved lines chars))

theorem locate_behind (p : Place) (gap : List Char) (s : Segmentation) :
    locate p (s.behind gap).segments = locate (p.advance gap) s.segments := by
  obtain ⟨segments, last⟩ := s
  cases segments with
  | nil => rfl
  | cons x segments =>
    simp only [Segmentation.behind, locate, Segment.text, Place.advance_append]

/-! ### Scans -/

/-- A fault of a segment is among the errors of the scan. -/
theorem exists_error_of_fault {s : Segmentation} {x : Segment} {fault : LexicalFault}
    (hx : x ∈ s.segments) (hfault : x.finding = .fault fault) :
    ∃ d ∈ s.toScan.errors, d.message = fault.message := by
  have hmem : Finding.fault fault ∈ (locate .start s.segments).map Located.finding := by
    rw [map_finding_locate, ← hfault]
    exact List.mem_map_of_mem hx
  obtain ⟨i, hi, hfinding⟩ := List.mem_map.mp hmem
  refine ⟨⟨.lexical, i.place.line, fault.message⟩, List.mem_filterMap.mpr ⟨i, hi, ?_⟩, rfl⟩
  simp only [Located.diagnostic?, hfinding]

theorem locate_append_newline (hstop : settings.stopOnFirstError = false)
    (hgap : ClosedGap ((segment settings front).lastGap ++ ['\n']))
    (hchar : ∀ s ∈ (segment settings front).segments, s.finding ≠ .fault .unterminatedChar)
    (back : List Char) :
    locate .start (segment settings (front ++ '\n' :: back)).segments =
      locate .start (segment settings front).segments ++
        (locate .start (segment settings back).segments).map
          (Located.moved (1 + front.count '\n') (front.length + 1)) := by
  have htext := text_segment hstop front
  have hplace : ((Place.start.advance
        ((segment settings front).segments.flatMap Segment.text)).advance
          ((segment settings front).lastGap ++ ['\n'])) =
      Place.start.moved (1 + front.count '\n') (front.length + 1) := by
    rw [← Place.advance_append, ← List.append_assoc, ← Segmentation.text, htext]
    simp [Place.advance, Place.moved, Place.start, List.count_append]
    omega
  rw [segment_append_newline hstop hgap hchar back, locate_append, locate_behind, hplace,
    locate_moved]

/-- A scan closes on the line behind all the newlines of its text. -/
theorem tokens_scan (hstop : settings.stopOnFirstError = false) (source : String) :
    (scan settings source).tokens =
      (locate .start (segment settings source.toList).segments).filterMap Located.token? ++
        [.endAt (1 + source.toList.count '\n' : Nat)] := by
  rw [scan, Segmentation.toScan, text_segment hstop]
  rfl

/-- A text and another one behind a newline are scanned apart, the other further down by the lines
of the first, unless the first leaves a block comment or a character literal open. -/
theorem scan_append_newline {settings : Settings} (hstop : settings.stopOnFirstError = false)
    {front : String} (hcomment : ¬ EndsInBlockComment (segment settings front.toList).lastGap)
    (hchar : ∀ d ∈ (scan settings front).errors, d.message ≠ "Unterminated char literal")
    (back : String) :
    let joined := scan settings (front ++ "\n" ++ back)
    let lines := 1 + front.toList.count '\n'
    ∃ ts line, (scan settings front).tokens = ts ++ [.endAt line] ∧
      joined.tokens = ts ++ (scan settings back).tokens.map (Token.below lines) ∧
      joined.errors = (scan settings front).errors ++
        (scan settings back).errors.map (Diagnostic.below lines) := by
  intro joined lines
  have hgap := (closedGap_append_newline_iff (accountsFor_segment hstop front.toList).isGap).mpr
    hcomment
  have hfaults : ∀ s ∈ (segment settings front.toList).segments,
      s.finding ≠ .fault .unterminatedChar := by
    intro s hs hfault
    obtain ⟨d, hd, hmessage⟩ := exists_error_of_fault hs hfault
    exact hchar d hd hmessage
  have hjoined : (front ++ "\n" ++ back).toList = front.toList ++ '\n' :: back.toList := by
    simp [String.toList_append]
  have hlocate := locate_append_newline hstop hgap hfaults back.toList
  rw [← hjoined] at hlocate
  refine ⟨_, _, tokens_scan hstop front, ?_, ?_⟩
  · have hend : Token.endAt (1 + (front ++ "\n" ++ back).toList.count '\n' : Nat) =
        (Token.endAt (1 + back.toList.count '\n' : Nat)).below lines := by
      simp only [hjoined, List.count_append, List.count_cons_self, Token.endAt, Token.below, lines]
      congr 1
      omega
    rw [tokens_scan hstop, tokens_scan hstop, hlocate, hend, List.filterMap_append,
      filterMap_token?_moved, List.map_append, List.append_assoc]
    rfl
  · change (locate .start _).filterMap Located.diagnostic? = _
    rw [hlocate, List.filterMap_append, filterMap_diagnostic?_moved]
    rfl

/-- A string left open behind a last backslash, and at the end a line comment that block comments
are named in. -/
theorem scan_append_newline_open :
    let settings : Settings := {}
    let front := "@ \"open\\\n-5 // /*"
    let back := "1x 'a"
    let lines := 1 + front.toList.count '\n'
    settings.stopOnFirstError = false ∧
      ¬ EndsInBlockComment (segment settings front.toList).lastGap ∧
      (∀ d ∈ (scan settings front).errors, d.message ≠ "Unterminated char literal") ∧
      ∃ ts line, (scan settings front).tokens = ts ++ [.endAt line] ∧
        (scan settings (front ++ "\n" ++ back)).tokens =
          ts ++ (scan settings back).tokens.map (Token.below lines) ∧
        (scan settings (front ++ "\n" ++ back)).errors = (scan settings front).errors ++
          (scan settings back).errors.map (Diagnostic.below lines) := by
  intro settings front back lines
  have hlast : (segment settings front.toList).lastGap = [' ', '/', '/', ' ', '/', '*'] := by
    decide +kernel
  have hcomment : ¬ EndsInBlockComment (segment settings front.toList).lastGap := by
    apply (closedGap_append_newline_iff (accountsFor_segment rfl front.toList).isGap).mp
    have hbody : '\n' ∉ [' ', '/', '*'] := by decide
    rw [hlast]
    exact .blank (by decide) (.lineComment hbody .nil)
  have hchar : ∀ d ∈ (scan settings front).errors, d.message ≠ "Unterminated char literal" := by
    decide +kernel
  exact ⟨rfl, hcomment, hchar, scan_append_newline rfl hcomment hchar back⟩

end Source

end DeclLang
