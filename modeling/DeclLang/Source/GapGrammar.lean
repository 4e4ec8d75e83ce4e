import DeclLang.Source.Gap

/-!
The grammar of gaps, and its agreement with the splitting of a text: what is split off is a gap,
what follows starts none, and behind a gap whose comments are all closed the splitting goes on as
it would have without that gap.
-/

set_option autoImplicit false

namespace DeclLang.Source

open Text

/-- Whether a text contains the mark that closes a block comment. -/
def HoldsClosing (text : List Char) : Prop :=
  ['*', '/'] <:+: text

/-- Gaps in which every comment is closed: a line comment by its newline, a block comment by the
first closing mark behind its opening. -/
inductive ClosedGap : List Char → Prop where
  | nil : ClosedGap []
  | blank {c : Char} {rest : List Char} :
      isBlank c = true → ClosedGap rest → ClosedGap (c :: rest)
  | lineComment {body rest : List Char} :
      '\n' ∉ body → ClosedGap rest → ClosedGap ('/' :: '/' :: body ++ '\n' :: rest)
  | blockComment {body rest : List Char} :
      ¬ HoldsClosing (body ++ ['*']) → ClosedGap rest →
      ClosedGap ('/' :: '*' :: body ++ '*' :: '/' :: rest)

inductive OpenComment : List Char → Prop where
  | lineComment {body : List Char} : '\n' ∉ body → OpenComment ('/' :: '/' :: body)
  | blockComment {body : List Char} : ¬ HoldsClosing body → OpenComment ('/' :: '*' :: body)

/-- Gaps: closed ones, and closed ones with an open comment at their end. -/
inductive IsGap : List Char → Prop where
  | closed {gap : List Char} : ClosedGap gap → IsGap gap
  | openEnded {gap comment : List Char} :
      ClosedGap gap → OpenComment comment → IsGap (gap ++ comment)

theorem holdsClosing_cons_iff {c : Char} {text : List Char} :
    HoldsClosing (c :: text) ↔ (c = '*' ∧ text.head? = some '/') ∨ HoldsClosing text := by
  simp only [HoldsClosing, List.infix_cons_iff]
  refine or_congr ?_ Iff.rfl
  cases text with
  | nil => simp [List.prefix_cons_iff]
  | cons d text => simp [List.cons_prefix_cons, eq_comm]

/-- Inside a block comment, a character that does not begin a closing mark is passed over. -/
theorem splitGapFrom_blockComment_cons {c : Char} {text : List Char}
    (h : ¬ (c = '*' ∧ text.head? = some '/')) :
    splitGapFrom .blockComment (c :: text) =
      (c :: (splitGapFrom .blockComment text).1, (splitGapFrom .blockComment text).2) := by
  rw [splitGapFrom]
  rintro rest rfl rfl
  exact h ⟨rfl, rfl⟩

theorem splitGapFrom_lineComment_cons {c : Char} {text : List Char} (h : c ≠ '\n') :
    splitGapFrom .lineComment (c :: text) =
      (c :: (splitGapFrom .lineComment text).1, (splitGapFrom .lineComment text).2) := by
  rw [splitGapFrom, if_neg h]

theorem splitGapFrom_lineComment_append {body : List Char} (rest : List Char)
    (h : '\n' ∉ body) :
    splitGapFrom .lineComment (body ++ '\n' :: rest) =
      (body ++ '\n' :: (splitGap rest).1, (splitGap rest).2) := by
  induction body with
  | nil => rfl
  | cons c body ih =>
    simp only [List.mem_cons, not_or] at h
    rw [List.cons_append, splitGapFrom_lineComment_cons (Ne.symm h.1), ih h.2]
    rfl

theorem splitGapFrom_blockComment_append {body : List Char} (rest : List Char)
    (h : ¬ HoldsClosing (body ++ ['*'])) :
    splitGapFrom .blockComment (body ++ '*' :: '/' :: rest) =
      (body ++ '*' :: '/' :: (splitGap rest).1, (splitGap rest).2) := by
  induction body with
  | nil => rfl
  | cons c body ih =>
    rw [List.cons_append, holdsClosing_cons_iff, not_or] at h
    have hnext : ¬ (c = '*' ∧ (body ++ '*' :: '/' :: rest).head? = some '/') := by
      rintro ⟨hc, hhead⟩
      refine h.1 ⟨hc, ?_⟩
      cases body with
      | nil => simp at hhead
      | cons d body => simpa using hhead
    rw [List.cons_append, splitGapFrom_blockComment_cons hnext, ih h.2]
    rfl

theorem splitGapFrom_lineComment_eq {body : List Char} (h : '\n' ∉ body) :
    splitGapFrom .lineComment body = (body, []) := by
  induction body with
  | nil => rfl
  | cons c body ih =>
    simp only [List.mem_cons, not_or] at h
    rw [splitGapFrom_lineComment_cons (Ne.symm h.1), ih h.2]

theorem splitGapFrom_blockComment_eq {body : List Char} (h : ¬ HoldsClosing body) :
    splitGapFrom .blockComment body = (body, []) := by
  induction body with
  | nil => rfl
  | cons c body ih =>
    rw [holdsClosing_cons_iff, not_or] at h
    rw [splitGapFrom_blockComment_cons h.1, ih h.2]

theorem splitGap_nil : splitGap [] = ([], []) := rfl

theorem splitGap_blank {c : Char} {text : List Char} (h : isBlank c = true) :
    splitGap (c :: text) = (c :: (splitGap text).1, (splitGap text).2) := by
  have hc : c ≠ '/' := by
    rintro rfl
    exact absurd h (by decide)
  simp [splitGap, splitGapFrom, h, hc]

/-- A text has no gap in front when it starts with neither a blank nor a comment. -/
theorem splitGap_eq_nil {c : Char} {text : List Char} (hblank : ¬ isBlank c = true)
    (hline : ¬ (c = '/' ∧ text.head? = some '/')) (hblock : ¬ (c = '/' ∧ text.head? = some '*')) :
    splitGap (c :: text) = ([], c :: text) := by
  rw [splitGap, splitGapFrom, if_neg hblank]
  · rintro rest rfl rfl
    exact hline ⟨rfl, rfl⟩
  · rintro rest rfl rfl
    exact hblock ⟨rfl, rfl⟩

theorem splitGap_lineComment (text : List Char) :
    splitGap ('/' :: '/' :: text) =
      ('/' :: '/' :: (splitGapFrom .lineComment text).1, (splitGapFrom .lineComment text).2) :=
  rfl

theorem splitGap_blockComment (text : List Char) :
    splitGap ('/' :: '*' :: text) =
      ('/' :: '*' :: (splitGapFrom .blockComment text).1,
        (splitGapFrom .blockComment text).2) :=
  rfl

/-- A closed gap is passed over as a whole, whatever follows it. -/
theorem splitGap_append_of_closedGap {gap : List Char} (h : ClosedGap gap) (text : List Char) :
    splitGap (gap ++ text) = (gap ++ (splitGap text).1, (splitGap text).2) := by
  induction h with
  | nil => rfl
  | blank hc _ ih => rw [List.cons_append, splitGap_blank hc, ih]; rfl
  | @lineComment body rest hbody _ ih =>
    have hsplit := splitGapFrom_lineComment_append (rest ++ text) hbody
    rw [ih] at hsplit
    rw [show '/' :: '/' :: body ++ '\n' :: rest ++ text =
      '/' :: '/' :: (body ++ '\n' :: (rest ++ text)) by simp, splitGap_lineComment, hsplit]
    simp
  | @blockComment body rest hbody _ ih =>
    have hsplit := splitGapFrom_blockComment_append (rest ++ text) hbody
    rw [ih] at hsplit
    rw [show '/' :: '*' :: body ++ '*' :: '/' :: rest ++ text =
      '/' :: '*' :: (body ++ '*' :: '/' :: (rest ++ text)) by simp, splitGap_blockComment, hsplit]
    simp

/-- An open comment is passed over up to the end of the text. -/
theorem splitGap_of_openComment {comment : List Char} (h : OpenComment comment) :
    splitGap comment = (comment, []) := by
  cases h with
  | lineComment hbody => rw [splitGap_lineComment, splitGapFrom_lineComment_eq hbody]
  | blockComment hbody => rw [splitGap_blockComment, splitGapFrom_blockComment_eq hbody]

theorem splitGap_of_isGap {gap : List Char} (h : IsGap gap) : splitGap gap = (gap, []) := by
  cases h with
  | closed hgap =>
    have hsplit := splitGap_append_of_closedGap hgap []
    rw [List.append_nil] at hsplit
    rw [hsplit, splitGap_nil, List.append_nil]
  | openEnded hgap hcomment =>
    rw [splitGap_append_of_closedGap hgap, splitGap_of_openComment hcomment]

theorem ClosedGap.append {front back : List Char} (hf : ClosedGap front) (hb : ClosedGap back) :
    ClosedGap (front ++ back) := by
  induction hf with
  | nil => exact hb
  | blank hc _ ih => exact .blank hc ih
  | @lineComment body rest hbody _ ih => simpa using ClosedGap.lineComment hbody ih
  | @blockComment body rest hbody _ ih => simpa using ClosedGap.blockComment hbody ih

theorem IsGap.append_of_closedGap {front gap : List Char} (hf : ClosedGap front) (hg : IsGap gap) :
    IsGap (front ++ gap) := by
  cases hg with
  | closed hg => exact .closed (hf.append hg)
  | openEnded hg hc =>
    rw [← List.append_assoc]
    exact .openEnded (hf.append hg) hc

/-- A text is the body of a line comment, up to its first newline or as a whole. -/
theorem exists_lineComment (text : List Char) :
    ∃ body, '\n' ∉ body ∧ (text = body ∨ ∃ rest, text = body ++ '\n' :: rest) := by
  induction text with
  | nil => exact ⟨[], by simp⟩
  | cons c text ih =>
    by_cases hc : c = '\n'
    · exact ⟨[], by simp [hc]⟩
    · obtain ⟨body, hbody, htext⟩ := ih
      refine ⟨c :: body, by simpa [Ne.symm hc] using hbody, ?_⟩
      rcases htext with rfl | ⟨rest, rfl⟩
      · exact Or.inl rfl
      · exact Or.inr ⟨rest, rfl⟩

/-- A text is the body of a block comment, up to its first closing mark or as a whole. -/
theorem exists_blockComment (text : List Char) :
    ∃ body, (¬ HoldsClosing body ∧ text = body) ∨
      (¬ HoldsClosing (body ++ ['*']) ∧ ∃ rest, text = body ++ '*' :: '/' :: rest) := by
  induction text with
  | nil => exact ⟨[], Or.inl ⟨by simp [HoldsClosing], rfl⟩⟩
  | cons c text ih =>
    by_cases hc : c = '*' ∧ text.head? = some '/'
    · obtain ⟨rfl, hhead⟩ := hc
      cases text with
      | nil => simp at hhead
      | cons d rest =>
        obtain rfl : d = '/' := by simpa using hhead
        refine ⟨[], Or.inr ⟨?_, rest, rfl⟩⟩
        rw [List.nil_append, holdsClosing_cons_iff]
        simp [HoldsClosing]
    · obtain ⟨body, ⟨hbody, rfl⟩ | ⟨hbody, rest, rfl⟩⟩ := ih
      · exact ⟨c :: text, Or.inl ⟨by rw [holdsClosing_cons_iff]; simp [hc, hbody], rfl⟩⟩
      · refine ⟨c :: body, Or.inr ⟨?_, rest, rfl⟩⟩
        rw [List.cons_append, holdsClosing_cons_iff, not_or]
        refine ⟨fun h => hc ⟨h.1, ?_⟩, hbody⟩
        cases body with
        | nil => simp at h
        | cons d body => simpa using h.2

theorem isGap_splitGap (text : List Char) : IsGap (splitGap text).1 := by
  induction hn : text.length using Nat.strongRecOn generalizing text with
  | _ n ih =>
    subst hn
    match text with
    | [] => exact .closed .nil
    | c :: text =>
      by_cases hblank : isBlank c = true
      · rw [splitGap_blank hblank]
        exact .append_of_closedGap (.blank hblank .nil) (ih _ (by simp) text rfl)
      · by_cases hline : c = '/' ∧ text.head? = some '/'
        · obtain ⟨rfl, hhead⟩ := hline
          obtain ⟨text, rfl⟩ : ∃ rest, text = '/' :: rest := by
            cases text with
            | nil => simp at hhead
            | cons d rest => exact ⟨rest, by simpa using hhead⟩
          obtain ⟨body, hbody, rfl | ⟨rest, rfl⟩⟩ := exists_lineComment text
          · rw [splitGap_of_openComment (.lineComment hbody)]
            exact .openEnded .nil (.lineComment hbody)
          · have hclosed : ClosedGap ('/' :: '/' :: body ++ ['\n']) :=
              .lineComment hbody .nil
            have hsplit := splitGap_append_of_closedGap hclosed rest
            rw [show '/' :: '/' :: (body ++ '\n' :: rest) =
              '/' :: '/' :: body ++ ['\n'] ++ rest by simp, hsplit]
            exact .append_of_closedGap hclosed
              (ih _ (by simp only [List.length_cons, List.length_append]; omega) rest rfl)
        · by_cases hblock : c = '/' ∧ text.head? = some '*'
          · obtain ⟨rfl, hhead⟩ := hblock
            obtain ⟨text, rfl⟩ : ∃ rest, text = '*' :: rest := by
              cases text with
              | nil => simp at hhead
              | cons d rest => exact ⟨rest, by simpa using hhead⟩
            obtain ⟨body, ⟨hbody, rfl⟩ | ⟨hbody, rest, rfl⟩⟩ := exists_blockComment text
            · rw [splitGap_of_openComment (.blockComment hbody)]
              exact .openEnded .nil (.blockComment hbody)
            · have hclosed : ClosedGap ('/' :: '*' :: body ++ ['*', '/']) :=
                .blockComment hbody .nil
              have hsplit := splitGap_append_of_closedGap hclosed rest
              rw [show '/' :: '*' :: (body ++ '*' :: '/' :: rest) =
                '/' :: '*' :: body ++ ['*', '/'] ++ rest by simp, hsplit]
              exact .append_of_closedGap hclosed
                (ih _ (by simp only [List.length_cons, List.length_append]; omega) rest rfl)
          · rw [splitGap_eq_nil hblank hline hblock]
            exact .closed .nil

end DeclLang.Source
