import DeclLang.Proofs.Source.FaultGrammar
import DeclLang.Source.GapGrammar
import DeclLang.Source.Scan
import Mathlib.Data.List.Forall2

/-!
# Every character accounted for

Unless scanning may end early, the segments of a text are all of it: closed gaps and nonempty items
in turn, then a last gap. Every item is a token or a fault by the grammars, and gives rise to one
token or one diagnostic, in the order of the text.

This module does not say on which lines tokens and diagnostics are.
-/

set_option autoImplicit false

namespace DeclLang.Source

open Text

/-! ### Gaps in front of an item -/

theorem newline_mem_of_lineComment {text : List Char}
    (h : (splitGapFrom .lineComment text).2 ≠ []) :
    '\n' ∈ (splitGapFrom .lineComment text).1 := by
  obtain ⟨body, hbody, rfl | ⟨rest, rfl⟩⟩ := exists_lineComment text
  · rw [splitGapFrom_lineComment_eq hbody] at h
    exact absurd rfl h
  · rw [splitGapFrom_lineComment_append rest hbody]
    simp

theorem holdsClosing_of_blockComment {text : List Char}
    (h : (splitGapFrom .blockComment text).2 ≠ []) :
    HoldsClosing (splitGapFrom .blockComment text).1 := by
  obtain ⟨body, ⟨hbody, rfl⟩ | ⟨hbody, rest, rfl⟩⟩ := exists_blockComment text
  · rw [splitGapFrom_blockComment_eq hbody] at h
    exact absurd rfl h
  · rw [splitGapFrom_blockComment_append rest hbody]
    exact ⟨body, (splitGap rest).1, by simp⟩

theorem splitGap_openComment_append_ne {comment after : List Char} (h : OpenComment comment)
    (ha : after ≠ []) : splitGap (comment ++ after) ≠ (comment, after) := by
  intro hsplit
  cases h with
  | @lineComment body hbody =>
    simp only [List.cons_append, splitGap_lineComment, Prod.mk.injEq, List.cons.injEq,
      true_and] at hsplit
    have hafter : (splitGapFrom .lineComment (body ++ after)).2 ≠ [] := by
      rw [hsplit.2]
      exact ha
    have hmem := newline_mem_of_lineComment hafter
    rw [hsplit.1] at hmem
    exact hbody hmem
  | @blockComment body hbody =>
    simp only [List.cons_append, splitGap_blockComment, Prod.mk.injEq, List.cons.injEq,
      true_and] at hsplit
    have hafter : (splitGapFrom .blockComment (body ++ after)).2 ≠ [] := by
      rw [hsplit.2]
      exact ha
    have hholds := holdsClosing_of_blockComment hafter
    rw [hsplit.1] at hholds
    exact hbody hholds

theorem append_of_splitGap {text gap after : List Char} (h : splitGap text = (gap, after)) :
    gap ++ after = text := by
  have happ := splitGap_append text
  rwa [h] at happ

theorem isGap_of_splitGap {text gap after : List Char} (h : splitGap text = (gap, after)) :
    IsGap gap := by
  have hgap := isGap_splitGap text
  rwa [h] at hgap

/-- A gap in front of an item is closed; an open comment would have gone on over the item. -/
theorem closedGap_of_splitGap {text gap after : List Char} (h : splitGap text = (gap, after))
    (ha : after ≠ []) : ClosedGap gap := by
  have hgap := isGap_of_splitGap h
  have happ := append_of_splitGap h
  cases hgap with
  | closed hgap => exact hgap
  | @openEnded front comment hfront hcomment =>
    -- Behind its closed front part the gap would be split again, comment and text behind it.
    refine absurd ?_ (splitGap_openComment_append_ne hcomment ha)
    rw [← happ, List.append_assoc, splitGap_append_of_closedGap hfront] at h
    obtain ⟨hone, htwo⟩ := Prod.mk.inj h
    exact Prod.ext (List.append_cancel_left hone) htwo

/-- What stands behind a gap begins with neither a blank nor a comment. -/
theorem head_of_splitGap {text gap rest : List Char} {c : Char}
    (h : splitGap text = (gap, c :: rest)) :
    isBlank c = false ∧ (c = '/' → rest.head? ≠ some '/' ∧ rest.head? ≠ some '*') := by
  have happ := append_of_splitGap h
  have hgap := closedGap_of_splitGap h (by simp)
  rw [← happ, splitGap_append_of_closedGap hgap] at h
  have hnil : (splitGap (c :: rest)).1 = [] := by simpa using (Prod.mk.inj h).1
  constructor
  · rw [← Bool.not_eq_true]
    intro hblank
    simp [splitGap_blank hblank] at hnil
  · rintro rfl
    cases rest with
    | nil => simp
    | cons d rest =>
      constructor
      · intro hd
        obtain rfl := Option.some.inj hd
        simp [splitGap_lineComment] at hnil
      · intro hd
        obtain rfl := Option.some.inj hd
        simp [splitGap_blockComment] at hnil

/-! ### Segments -/

/-- A segmentation that accounts for every character of a text: gaps and items are the text, all
gaps but the last are closed, and each item is one in front of the text behind it. -/
structure Segmentation.AccountsFor (s : Segmentation) (settings : Settings) (text : List Char) :
    Prop where
  text_eq : s.segments.flatMap (fun x => x.gap ++ x.item) ++ s.lastGap = text
  closedGap : ∀ x ∈ s.segments, ClosedGap x.gap
  isGap : IsGap s.lastGap
  item_ne_nil : ∀ x ∈ s.segments, x.item ≠ []
  isItem : ∀ front x back, s.segments = front ++ x :: back →
    IsItem settings x.finding x.item (back.flatMap (fun y => y.gap ++ y.item) ++ s.lastGap)

theorem accountsFor_of_isGap {settings : Settings} {gap : List Char} (h : IsGap gap) :
    (Segmentation.mk [] gap).AccountsFor settings gap where
  text_eq := rfl
  closedGap := by simp
  isGap := h
  item_ne_nil := by simp
  isItem := by simp

theorem accountsFor_cons {settings : Settings} {s : Segmentation} {head : Segment}
    {text : List Char} (hgap : ClosedGap head.gap) (hne : head.item ≠ [])
    (hitem : IsItem settings head.finding head.item text) (h : s.AccountsFor settings text) :
    (s.cons head).AccountsFor settings (head.gap ++ head.item ++ text) where
  text_eq := by
    have htext := h.text_eq
    simp only [Segmentation.cons, List.flatMap_cons, List.append_assoc] at htext ⊢
    rw [htext]
  closedGap := by
    intro x hx
    rcases List.mem_cons.mp hx with rfl | hx
    · exact hgap
    · exact h.closedGap x hx
  isGap := h.isGap
  item_ne_nil := by
    intro x hx
    rcases List.mem_cons.mp hx with rfl | hx
    · exact hne
    · exact h.item_ne_nil x hx
  isItem := by
    intro front x back heq
    cases front with
    | nil =>
      obtain ⟨rfl, rfl⟩ := List.cons.inj heq
      rw [← h.text_eq] at hitem
      exact hitem
    | cons y front => exact h.isItem front x back (List.cons.inj heq).2

/-- An item behind a gap is one by the grammars. -/
theorem isItem_scanItem (settings : Settings) {text gap rest : List Char} {first : Char}
    (h : splitGap text = (gap, first :: rest)) :
    IsItem settings (scanItem settings first rest).finding (scanItem settings first rest).item
      (scanItem settings first rest).rest := by
  obtain ⟨hblank, hcomment⟩ := head_of_splitGap h
  cases hf : (scanItem settings first rest).finding with
  | token kind => exact isLexeme_scanItem hf
  | fault fault => exact isFaulty_scanItem hblank hcomment hf

theorem accountsFor_segment {settings : Settings} (hstop : settings.stopOnFirstError = false)
    (text : List Char) : (segment settings text).AccountsFor settings text := by
  induction text using segment_induction settings with
  | last text gap hs =>
    rw [segment_of_splitGap_nil hs, ← append_of_splitGap hs, List.append_nil]
    exact accountsFor_of_isGap (isGap_of_splitGap hs)
  | item text gap first rest hs ih =>
    have hscan := scanItem_append settings first rest
    rw [segment_of_splitGap_cons hs, if_neg (by simp [endsReading, hstop]),
      ← append_of_splitGap hs, ← hscan, ← List.append_assoc]
    exact accountsFor_cons (closedGap_of_splitGap hs (by simp))
      (scanItem_item_ne_nil settings first rest) (isItem_scanItem settings hs) ih

/-! ### Outputs -/

/-- What an item gives rise to: the one token whose text it is, or one diagnostic. -/
def Segment.Yields (s : Segment) (output : Token ⊕ Diagnostic) : Prop :=
  match s.finding with
  | .token kind => kind ≠ .endOfInput ∧ ∃ line, output = .inl ⟨kind, String.ofList s.item, line⟩
  | .fault fault => ∃ line, output = .inr ⟨.lexical, line, fault.message⟩

/-- The token or the diagnostic of an item. -/
def Located.output (i : Located) : Token ⊕ Diagnostic :=
  match i.finding with
  | .token kind => .inl ⟨kind, String.ofList i.item, i.place.line⟩
  | .fault fault => .inr ⟨.lexical, i.place.line, fault.message⟩

theorem getLeft?_output (i : Located) : i.output.getLeft? = i.token? := by
  unfold Located.output Located.token?
  cases i.finding <;> rfl

theorem getRight?_output (i : Located) : i.output.getRight? = i.diagnostic? := by
  unfold Located.output Located.diagnostic?
  cases i.finding <;> rfl

theorem filterMap_getLeft?_output (items : List Located) :
    (items.map Located.output).filterMap Sum.getLeft? = items.filterMap Located.token? := by
  have hcomp : Sum.getLeft? ∘ Located.output = Located.token? := funext getLeft?_output
  rw [List.filterMap_map, hcomp]

theorem filterMap_getRight?_output (items : List Located) :
    (items.map Located.output).filterMap Sum.getRight? = items.filterMap Located.diagnostic? := by
  have hcomp : Sum.getRight? ∘ Located.output = Located.diagnostic? := funext getRight?_output
  rw [List.filterMap_map, hcomp]

theorem ne_endOfInput_of_isItem {settings : Settings} {kind : Token.Kind} {item rest : List Char}
    (h : IsItem settings (.token kind) item rest) : kind ≠ .endOfInput := by
  rintro rfl
  exact h

theorem yields_output {settings : Settings} {s : Segment} {rest : List Char} (p : Place)
    (h : IsItem settings s.finding s.item rest) :
    s.Yields (Located.output ⟨p, s.item, s.finding⟩) := by
  unfold Segment.Yields Located.output
  cases hf : s.finding with
  | token kind =>
    rw [hf] at h
    exact ⟨ne_endOfInput_of_isItem h, p.line, rfl⟩
  | fault fault => exact ⟨p.line, rfl⟩

theorem forall₂_yields {settings : Settings} {segments : List Segment}
    (h : ∀ x ∈ segments, ∃ rest, IsItem settings x.finding x.item rest) (p : Place) :
    List.Forall₂ Segment.Yields segments ((locate p segments).map Located.output) := by
  induction segments generalizing p with
  | nil => exact .nil
  | cons x segments ih =>
    obtain ⟨rest, hx⟩ := h x List.mem_cons_self
    have htail := ih (fun y hy => h y (List.mem_cons_of_mem x hy)) (p.advance x.text)
    exact .cons (yields_output (p.advance x.gap) hx) htail

/-- Every character of a text is accounted for: cut into gaps and items, each item by the grammars,
and the items one by one are the tokens in front of the closing one and the diagnostics. -/
theorem scan_accountsFor {settings : Settings} (hstop : settings.stopOnFirstError = false)
    (source : String) :
    ∃ (s : Segmentation) (outputs : List (Token ⊕ Diagnostic)),
      s.AccountsFor settings source.toList ∧ List.Forall₂ Segment.Yields s.segments outputs ∧
      (∃ line, (scan settings source).tokens =
        outputs.filterMap Sum.getLeft? ++ [.endAt line]) ∧
      (scan settings source).errors = outputs.filterMap Sum.getRight? := by
  let s := segment settings source.toList
  have haccount : s.AccountsFor settings source.toList := accountsFor_segment hstop _
  refine ⟨s, (locate .start s.segments).map Located.output, haccount, ?_, ?_, ?_⟩
  · apply forall₂_yields
    intro x hx
    obtain ⟨front, back, heq⟩ := List.append_of_mem hx
    exact ⟨_, haccount.isItem front x back heq⟩
  · refine ⟨(Place.start.advance s.text).line, ?_⟩
    rw [filterMap_getLeft?_output]
    rfl
  · rw [filterMap_getRight?_output]
    rfl

theorem scan_accountsFor_faulty :
    let settings : Settings := {}
    let source := "int a = 1x; /* open */ 'bc' @ // end"
    settings.stopOnFirstError = false ∧
      ∃ (s : Segmentation) (outputs : List (Token ⊕ Diagnostic)),
        s.AccountsFor settings source.toList ∧ List.Forall₂ Segment.Yields s.segments outputs ∧
        (∃ line, (scan settings source).tokens =
          outputs.filterMap Sum.getLeft? ++ [.endAt line]) ∧
        (scan settings source).errors = outputs.filterMap Sum.getRight? :=
  ⟨rfl, scan_accountsFor rfl _⟩

end DeclLang.Source
