import DeclLang.Source.Gap
import DeclLang.Source.Item

/-!
A source text cut into segments, each a gap and the item behind it, with the last gap at the end.
Reading ends early only where the settings ask for that at the first fault; the part that was read
is then a front part of the text, otherwise it is the whole text.
-/

set_option autoImplicit false

namespace DeclLang.Source

/-- A gap, the item behind it and what the item is. -/
structure Segment where
  gap : List Char
  item : List Char
  finding : Finding
  deriving DecidableEq, Repr

def Segment.text (s : Segment) : List Char :=
  s.gap ++ s.item

/-- The segments that were read and the gap behind the last one. -/
structure Segmentation where
  segments : List Segment
  lastGap : List Char
  deriving DecidableEq, Repr

def Segmentation.text (s : Segmentation) : List Char :=
  s.segments.flatMap Segment.text ++ s.lastGap

def Segmentation.cons (head : Segment) (s : Segmentation) : Segmentation :=
  ⟨head :: s.segments, s.lastGap⟩

def endsReading (settings : Settings) (finding : Finding) : Bool :=
  settings.stopOnFirstError && finding.isFault

/-- A property of texts that only consist of a gap, and that a text has if what stands behind its
first item has it, is a property of all texts. -/
theorem segment_induction (settings : Settings) {motive : List Char → Prop}
    (last : ∀ text gap, splitGap text = (gap, []) → motive text)
    (item : ∀ text gap first rest, splitGap text = (gap, first :: rest) →
      motive (scanItem settings first rest).rest → motive text) (text : List Char) :
    motive text := by
  -- By the length of the text: an item may take away any number of characters.
  induction hn : text.length using Nat.strongRecOn generalizing text with
  | _ n ih =>
    cases hs : splitGap text with
    | mk gap after =>
      cases after with
      | nil => exact last text gap hs
      | cons first rest =>
        have hlt := length_scanItem_rest_lt settings first rest
        have hle := length_splitGap_snd_le text
        rw [hs] at hle
        exact item text gap first rest hs (ih _ (hn ▸ Nat.lt_of_lt_of_le hlt hle) _ rfl)

def segment (settings : Settings) (text : List Char) : Segmentation :=
  match _hsplit : splitGap text with
  | (gap, []) => ⟨[], gap⟩
  | (gap, first :: rest) =>
    let scanned := scanItem settings first rest
    let head : Segment := ⟨gap, scanned.item, scanned.finding⟩
    if endsReading settings scanned.finding then ⟨[head], []⟩
    else (segment settings scanned.rest).cons head
termination_by text.length
decreasing_by
  have hgap := length_splitGap_snd_le text
  rw [_hsplit] at hgap
  exact Nat.lt_of_lt_of_le (length_scanItem_rest_lt settings first rest) hgap

@[simp] theorem text_cons (head : Segment) (s : Segmentation) :
    (s.cons head).text = head.text ++ s.text := by
  simp [Segmentation.cons, Segmentation.text, List.append_assoc]

theorem segment_of_splitGap_nil {settings : Settings} {text gap : List Char}
    (h : splitGap text = (gap, [])) : segment settings text = ⟨[], gap⟩ := by
  rw [segment]
  split
  · rename_i heq
    rw [h] at heq
    cases heq
    rfl
  · rename_i heq
    rw [h] at heq
    cases heq

/-- A text with something behind its first gap starts with a segment for it. -/
theorem segment_of_splitGap_cons {settings : Settings} {text gap rest : List Char} {first : Char}
    (h : splitGap text = (gap, first :: rest)) :
    segment settings text =
      if endsReading settings (scanItem settings first rest).finding then
        ⟨[⟨gap, (scanItem settings first rest).item, (scanItem settings first rest).finding⟩], []⟩
      else (segment settings (scanItem settings first rest).rest).cons
        ⟨gap, (scanItem settings first rest).item, (scanItem settings first rest).finding⟩ := by
  rw [segment]
  split
  · rename_i heq
    rw [h] at heq
    cases heq
  · rename_i heq
    rw [h] at heq
    cases heq
    rfl

/-- What was read is a front part of the text, and all of it unless reading may end early. -/
theorem exists_text_segment_append (settings : Settings) (text : List Char) :
    ∃ unread, (segment settings text).text ++ unread = text ∧
      (settings.stopOnFirstError = false → unread = []) := by
  induction text using segment_induction settings with
  | last text gap hs =>
    have happ := splitGap_append text
    rw [hs] at happ
    rw [segment_of_splitGap_nil hs]
    exact ⟨[], by simpa [Segmentation.text] using happ, fun _ => rfl⟩
  | item text gap first rest hs ih =>
    have happ := splitGap_append text
    have hscan := scanItem_append settings first rest
    rw [hs] at happ
    rw [segment_of_splitGap_cons hs]
    split
    · rename_i hend
      refine ⟨(scanItem settings first rest).rest, ?_, ?_⟩
      · simp only [Segmentation.text, Segment.text, List.flatMap_cons, List.flatMap_nil,
          List.append_nil, List.append_assoc, hscan]
        exact happ
      · intro hstop
        simp [endsReading, hstop] at hend
    · obtain ⟨unread, hread, hall⟩ := ih
      refine ⟨unread, ?_, hall⟩
      rw [text_cons, List.append_assoc, hread]
      simp only [Segment.text, List.append_assoc, hscan]
      exact happ

/-- What was read is the whole text, unless reading may end early. -/
theorem text_segment {settings : Settings} (hstop : settings.stopOnFirstError = false)
    (text : List Char) : (segment settings text).text = text := by
  obtain ⟨unread, htext, hall⟩ := exists_text_segment_append settings text
  rwa [hall hstop, List.append_nil] at htext

end DeclLang.Source
