import DeclLang.Proofs.Source.ItemEnd
import DeclLang.Proofs.Source.Lines
import DeclLang.Text.LineEnd

/-!
# The style of line ends does not matter

Carriage returns in front of the newlines of a text, be it of all or of some of them, change nothing
that a scan reports, faults and lines included. A reader of either text is at all times on the same
line and has reported the same; what the two have in front of them differs by carriage returns
alone.

A carriage return that no newline follows is a subject of its own and may well change a scan.
-/

set_option autoImplicit false

namespace DeclLang.Source

open Text

variable {settings : Settings} {text text' : List Char}

/-! ### Gaps -/

/-- What a reader of a gap is inside of behind a newline. -/
def GapState.behindNewline : GapState → GapState
  | .lineComment => .between
  | state => state

theorem splitGapFrom_newline (state : GapState) (text : List Char) :
    splitGapFrom state ('\n' :: text) =
      ('\n' :: (splitGapFrom state.behindNewline text).1,
        (splitGapFrom state.behindNewline text).2) := by
  cases state with
  | between => exact splitGap_blank isBlank_newline
  | lineComment => rfl
  | blockComment => exact splitGapFrom_blockComment_cons fun h => absurd h.1 (by decide)

theorem splitGapFrom_return (state : GapState) (text : List Char) :
    splitGapFrom state ('\r' :: text) =
      ('\r' :: (splitGapFrom state text).1, (splitGapFrom state text).2) := by
  cases state with
  | between => exact splitGap_blank (by decide)
  | lineComment => exact splitGapFrom_lineComment_cons (by decide)
  | blockComment => exact splitGapFrom_blockComment_cons fun h => absurd h.1 (by decide)

/-- Two texts have been split alike, gap and rest. -/
def SplitAlike (parts parts' : List Char × List Char) : Prop :=
  AddsReturns parts.1 parts'.1 ∧ AddsReturns parts.2 parts'.2

theorem SplitAlike.keep {parts parts' : List Char × List Char} (c : Char)
    (h : SplitAlike parts parts') : SplitAlike (c :: parts.1, parts.2) (c :: parts'.1, parts'.2) :=
  ⟨.keep h.1, h.2⟩

/-- Where a newline stands in a gap, a carriage return in front of it is in the gap as well. -/
theorem splitAlike_newline (state : GapState) {parts : List Char × List Char}
    (hrest : ∀ rest', AddsReturns text rest' →
      SplitAlike parts (splitGapFrom state.behindNewline rest'))
    (h : AddsReturns ('\n' :: text) text') :
    SplitAlike ('\n' :: parts.1, parts.2) (splitGapFrom state text') := by
  obtain ⟨rest', hadds, rfl | rfl⟩ := h.of_newline
  · rw [splitGapFrom_newline]
    exact (hrest rest' hadds).keep '\n'
  · obtain ⟨hgap, hafter⟩ := hrest rest' hadds
    rw [splitGapFrom_return, splitGapFrom_newline]
    exact ⟨.insert hgap, hafter⟩

/-- The gaps of the two texts end at the same place. -/
theorem splitGapFrom_of_addsReturns (state : GapState) (h : AddsReturns text text') :
    SplitAlike (splitGapFrom state text) (splitGapFrom state text') := by
  fun_induction splitGapFrom state text generalizing text' with
  | case1 =>
    cases h
    exact ⟨.nil, .nil⟩
  | case2 rest gap after hsplit ih =>
    obtain ⟨_, rfl, hmore⟩ := h.of_cons (by decide)
    obtain ⟨rest', rfl, hrest⟩ := hmore.of_cons (by decide)
    have hih := ih hrest
    rw [hsplit] at hih
    exact (hih.keep '/').keep '/'
  | case3 rest gap after hsplit ih =>
    obtain ⟨_, rfl, hmore⟩ := h.of_cons (by decide)
    obtain ⟨rest', rfl, hrest⟩ := hmore.of_cons (by decide)
    have hih := ih hrest
    rw [hsplit] at hih
    exact (hih.keep '*').keep '/'
  | case4 c rest h1 h2 hblank gap after hsplit ih =>
    rw [hsplit] at ih
    by_cases hc : c = '\n'
    · subst hc
      exact splitAlike_newline .between (fun _ hrest => ih hrest) h
    · obtain ⟨rest', rfl, hrest⟩ := h.of_cons hc
      rw [show splitGapFrom .between (c :: rest') = _ from splitGap_blank hblank]
      exact (ih hrest).keep c
  | case5 c rest h1 h2 hblank =>
    have hc : c ≠ '\n' := by
      rintro rfl
      exact hblank isBlank_newline
    obtain ⟨rest', rfl, hrest⟩ := h.of_cons hc
    have hline : ¬ (c = '/' ∧ rest'.head? = some '/') := by
      rintro ⟨rfl, hhead⟩
      obtain ⟨more, rfl⟩ := hrest.exists_cons_of_head? (by decide) (by decide) hhead
      exact h1 more rfl rfl
    have hblock : ¬ (c = '/' ∧ rest'.head? = some '*') := by
      rintro ⟨rfl, hhead⟩
      obtain ⟨more, rfl⟩ := hrest.exists_cons_of_head? (by decide) (by decide) hhead
      exact h2 more rfl rfl
    rw [show splitGapFrom .between (c :: rest') = _ from splitGap_eq_nil hblank hline hblock]
    exact ⟨.nil, .keep hrest⟩
  | case6 c rest gap after hsplit ih =>
    rw [hsplit] at ih
    by_cases hc : c = '\n'
    · subst hc
      exact splitAlike_newline .lineComment (fun _ hrest => ih hrest) h
    · obtain ⟨rest', rfl, hrest⟩ := h.of_cons hc
      rw [splitGapFrom_lineComment_cons hc]
      rw [if_neg hc] at ih
      exact (ih hrest).keep c
  | case7 rest gap after hsplit ih =>
    obtain ⟨_, rfl, hmore⟩ := h.of_cons (by decide)
    obtain ⟨rest', rfl, hrest⟩ := hmore.of_cons (by decide)
    have hih := ih hrest
    rw [hsplit] at hih
    exact (hih.keep '/').keep '*'
  | case8 c rest h1 gap after hsplit ih =>
    rw [hsplit] at ih
    by_cases hc : c = '\n'
    · subst hc
      exact splitAlike_newline .blockComment (fun _ hrest => ih hrest) h
    · obtain ⟨rest', rfl, hrest⟩ := h.of_cons hc
      have hclosing : ¬ (c = '*' ∧ rest'.head? = some '/') := by
        rintro ⟨rfl, hhead⟩
        obtain ⟨more, rfl⟩ := hrest.exists_cons_of_head? (by decide) (by decide) hhead
        exact h1 more rfl rfl
      rw [splitGapFrom_blockComment_cons hclosing]
      exact (ih hrest).keep c

/-! ### Items -/

/-- Two items are reported alike, and what they leave differs by carriage returns alone. -/
structure Scanned.Alike (s s' : Scanned) : Prop where
  finding_eq : s'.finding = s.finding
  item_eq : s.finding.isFault = false → s'.item = s.item
  rest : AddsReturns s.rest s'.rest

theorem alike_leaving (s : Scanned) {back back' : List Char} (h : AddsReturns back back') :
    (s.leaving back).Alike (s.leaving back') where
  finding_eq := rfl
  item_eq := fun _ => rfl
  rest := h.append_left s.rest

theorem startsOutside_return (text : List Char) : StartsOutside continues ('\r' :: text) :=
  startsOutside_cons (by decide) text

/-- A literal left open by its line is the same fault with a carriage return in front of the
newline and without. -/
theorem alike_of_leavesOpen {first : Char} {line rest rest' : List Char}
    (hopen : LeavesOpen first line) (h : AddsReturns rest rest') :
    (scanItem settings first (line ++ '\n' :: rest)).Alike
        (scanItem settings first (line ++ '\n' :: rest')) ∧
      (scanItem settings first (line ++ '\n' :: rest)).Alike
        (scanItem settings first (line ++ '\r' :: '\n' :: rest')) := by
  have hopen' := leavesOpen_append_return hopen
  have happ : line ++ '\r' :: '\n' :: rest' = line ++ ['\r'] ++ '\n' :: rest' := List.append_cons ..
  have hline : ∀ text, AtLineEnd ('\n' :: text) := fun text => Or.inr ⟨text, rfl⟩
  rw [happ]
  rcases hopen.1 with rfl | rfl
  · rw [scanItem_of_leavesOpen_string hopen (hline rest),
      scanItem_of_leavesOpen_string hopen (hline rest'),
      scanItem_of_leavesOpen_string hopen' (hline rest')]
    exact ⟨⟨rfl, fun _ => rfl, .keep h⟩, ⟨rfl, by simp [Finding.isFault], .keep h⟩⟩
  · rw [scanItem_append_newline_of_leavesOpen_char hopen,
      scanItem_append_newline_of_leavesOpen_char hopen,
      scanItem_append_newline_of_leavesOpen_char hopen']
    exact ⟨⟨rfl, fun _ => rfl, h⟩, ⟨rfl, by simp [Finding.isFault], h⟩⟩

theorem scanItem_of_addsReturns (settings : Settings) (first : Char) {rest rest' : List Char}
    (h : AddsReturns rest rest') :
    (scanItem settings first rest).Alike (scanItem settings first rest') := by
  obtain ⟨line, ⟨rfl, rfl⟩ | ⟨more, more', hmore, rfl, hrest'⟩⟩ := h.exists_line
  · exact ⟨rfl, fun _ => rfl, .refl _⟩
  · by_cases hopen : LeavesOpen first line
    · obtain ⟨hnewline, hreturn⟩ := alike_of_leavesOpen hopen hmore
      rcases hrest' with rfl | rfl
      · exact hnewline
      · exact hreturn
    · rw [scanItem_append_back hopen (startsOutside_newline more)]
      rcases hrest' with rfl | rfl
      · rw [scanItem_append_back hopen (startsOutside_newline more')]
        exact alike_leaving _ (.keep hmore)
      · rw [scanItem_append_back hopen (startsOutside_return ('\n' :: more'))]
        exact alike_leaving _ (.insert hmore)

/-! ### Reading -/

theorem takeItem_of_alike (p : Pass) {s s' : Scanned} (h : s.Alike s') :
    p.takeItem s' = p.takeItem s := by
  rw [Pass.takeItem, Pass.takeItem, h.finding_eq]
  cases hf : s.finding with
  | token kind =>
    have hitem : s'.item = s.item := h.item_eq (by rw [hf]; rfl)
    rw [hitem]
  | fault fault => rfl

theorem skipGap_of_addsReturns (p : Pass) (h : AddsReturns text text') :
    p.skipGap text' = p.skipGap text := by
  have hgap := (splitGapFrom_of_addsReturns .between h).1
  rw [Pass.skipGap, Pass.skipGap, lineBehindGap_eq, lineBehindGap_eq, hgap.count_newline]

/-- From the same state, the two texts are read to the same end. -/
theorem read_of_addsReturns (p : Pass) (h : AddsReturns text text') :
    p.read settings text' = p.read settings text := by
  induction text using segment_induction settings generalizing p text' with
  | last text gap hs =>
    have hskip := skipGap_of_addsReturns p h
    obtain ⟨_, hafter⟩ := splitGapFrom_of_addsReturns .between h
    rw [show splitGapFrom .between text = _ from hs] at hafter
    cases hs' : splitGap text' with
    | mk gap' after' =>
      rw [show splitGapFrom .between text' = _ from hs'] at hafter
      cases hafter
      rw [Pass.read_of_splitGap_nil hs, Pass.read_of_splitGap_nil hs', hskip]
  | item text gap first rest hs ih =>
    have hskip := skipGap_of_addsReturns p h
    obtain ⟨_, hafter⟩ := splitGapFrom_of_addsReturns .between h
    rw [show splitGapFrom .between text = _ from hs] at hafter
    have hfirst : first ≠ '\n' := by
      rintro rfl
      exact absurd (head_of_splitGap hs).1 (by decide)
    cases hs' : splitGap text' with
    | mk gap' after' =>
      rw [show splitGapFrom .between text' = _ from hs'] at hafter
      obtain ⟨rest', rfl, hrest⟩ := hafter.of_cons hfirst
      have halike := scanItem_of_addsReturns settings first hrest
      have htake := takeItem_of_alike (p.skipGap text) halike
      rw [Pass.read_of_splitGap_cons hs, Pass.read_of_splitGap_cons hs', hskip, htake,
        ih _ halike.rest]

theorem scanOnePass_of_addsReturns {source source' : String}
    (h : AddsReturns source.toList source'.toList) :
    scanOnePass settings source' = scanOnePass settings source :=
  read_of_addsReturns Pass.start h

/-- The style of line ends does not matter: a text with a carriage return in front of each newline
has the tokens and the errors of the text without them. -/
theorem scan_insertReturns (settings : Settings) (source : String) :
    let returned := String.ofList (insertReturns source.toList)
    (scan settings returned).tokens = (scan settings source).tokens ∧
      (scan settings returned).errors = (scan settings source).errors := by
  intro returned
  have hadds : AddsReturns source.toList returned.toList := by
    rw [String.toList_ofList]
    exact addsReturns_insertReturns source.toList
  have hpass : scanOnePass settings returned = scanOnePass settings source :=
    scanOnePass_of_addsReturns hadds
  rw [scanOnePass_eq, scanOnePass_eq] at hpass
  exact ⟨congrArg Pass.tokens hpass, congrArg Pass.errors hpass⟩

end DeclLang.Source
