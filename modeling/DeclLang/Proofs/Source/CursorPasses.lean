import DeclLang.Proofs.Source.Account
import DeclLang.Source.Cursor

/-!
# What a reader by position passes

Each loop of a reader that moves its position about passes the same characters as the split of the
text that is left to it. So it gets to the place which these characters lead to, and finds between
two of its positions what was split off there.
-/

set_option autoImplicit false

namespace DeclLang.Source

open Text

/-! ### Searching -/

section

variable {pattern text : List Char} {position : Nat}

theorem find_eq_none (h : ¬ pattern <:+: text.drop position) :
    find pattern text position = none := by
  fun_induction find pattern text position with
  | case1 position hstarts => exact absurd (List.isPrefixOf_iff_prefix.mp hstarts).isInfix h
  | case2 position hstarts hlt ih =>
    apply ih
    intro hoccurs
    rw [← List.tail_drop] at hoccurs
    exact h (hoccurs.trans (List.tail_suffix _).isInfix)
  | case3 position hstarts hend => rfl

/-- A pattern is found behind the characters in front of it, unless it occurs before that. -/
theorem find_eq_some {front rest : List Char} (h : text.drop position = front ++ (pattern ++ rest))
    (hfirst : ¬ pattern <:+: front ++ pattern.dropLast) :
    find pattern text position = some (position + front.length) := by
  induction front generalizing position with
  | nil =>
    have hstarts : pattern.isPrefixOf (text.drop position) = true := by
      rw [h, List.isPrefixOf_iff_prefix]
      exact List.prefix_append _ _
    rw [find, if_pos hstarts]
    rfl
  | cons c front ih =>
    have hstarts : ¬ pattern.isPrefixOf (text.drop position) = true := by
      rw [h, List.isPrefixOf_iff_prefix]
      intro hprefix
      -- The pattern would end before the last character of the one that is found.
      refine hfirst (List.prefix_of_prefix_length_le hprefix ?_ ?_).isInfix
      · rw [List.prefix_append_right_inj]
        exact (List.dropLast_prefix _).trans (List.prefix_append _ _)
      · simp only [List.length_append, List.length_cons, List.length_dropLast]
        omega
    have hlt : position < text.length := by
      rw [← Nat.not_le]
      intro hle
      rw [List.drop_eq_nil_iff.mpr hle] at h
      cases h
    have hrest : text.drop (position + 1) = front ++ (pattern ++ rest) := by
      rw [← List.tail_drop]
      exact congrArg List.tail h
    have hfound := ih hrest fun hoccurs => hfirst (hoccurs.trans (List.suffix_cons _ _).isInfix)
    rw [find, if_neg hstarts, if_pos hlt, hfound, List.length_cons]
    congr 1
    omega

end

namespace Cursor

variable {text : List Char}

/-- The text behind the cursor. -/
def left (c : Cursor text) : List Char :=
  text.drop c.position

def place (c : Cursor text) : Place :=
  ⟨c.line, c.position⟩

/-- A reader passes the item in front of the rest and notices nothing. -/
structure Passes (c d : Cursor text) (item rest : List Char) : Prop where
  left_eq : c.left = item ++ rest
  place_eq : d.place = c.place.advance item
  errors_eq : d.errors = c.errors
  failedLookUps_eq : d.failedLookUps = c.failedLookUps

variable {c d e : Cursor text} {item rest : List Char} {char : Char}

theorem peek_zero (c : Cursor text) : c.peek 0 = c.left.head? := by
  rw [left, List.head?_drop]
  rfl

theorem peek_one (h : c.left = char :: rest) : c.peek 1 = rest.head? := by
  have hrest : rest = text.drop (c.position + 1) := by
    rw [← List.tail_drop]
    exact (congrArg List.tail h).symm
  rw [hrest, List.head?_drop]
  rfl

theorem left_eq_nil_of_peek (h : c.peek 0 = none) : c.left = [] := by
  rwa [peek_zero, List.head?_eq_none_iff] at h

theorem exists_left_of_peek (h : c.peek 0 = some char) : ∃ rest, c.left = char :: rest := by
  rw [peek_zero, List.head?_eq_some_iff] at h
  exact h

/-- What is left behind the place that an item leads to. -/
theorem left_of_place (hleft : c.left = item ++ rest) (hplace : d.place = c.place.advance item) :
    d.left = rest := by
  have hposition : d.position = c.position + item.length := congrArg Place.offset hplace
  rw [left] at hleft
  rw [left, hposition, ← List.drop_drop, hleft, List.drop_left]

namespace Passes

theorem refl (c : Cursor text) : Passes c c [] c.left :=
  ⟨rfl, rfl, rfl, rfl⟩

theorem position_eq (h : Passes c d item rest) : d.position = c.position + item.length :=
  congrArg Place.offset h.place_eq

theorem left_behind (h : Passes c d item rest) : d.left = rest :=
  left_of_place h.left_eq h.place_eq

theorem since_eq (h : Passes c d item rest) : d.since c = item := by
  have hleft := h.left_eq
  rw [left] at hleft
  rw [since, List.extract_eq_take_drop, h.position_eq, Nat.add_sub_cancel_left, hleft,
    List.take_left]

theorem line_eq (h : Passes c d item rest) (hline : '\n' ∉ item) : d.line = c.line := by
  have hplace := congrArg Place.line h.place_eq
  simpa [place, Place.advance, List.count_eq_zero_of_not_mem hline] using hplace

theorem trans {behind more : List Char} (hcd : Passes c d item behind)
    (hde : Passes d e more rest) : Passes c e (item ++ more) rest where
  left_eq := by rw [hcd.left_eq, ← hcd.left_behind, hde.left_eq, List.append_assoc]
  place_eq := by rw [hde.place_eq, hcd.place_eq, Place.advance_append]
  errors_eq := hde.errors_eq.trans hcd.errors_eq
  failedLookUps_eq := hde.failedLookUps_eq.trans hcd.failedLookUps_eq

end Passes

theorem passes_forward (h : c.left = item ++ rest) (hline : '\n' ∉ item) :
    Passes c (c.forward item.length) item rest where
  left_eq := h
  place_eq := by
    simp [place, forward, moveTo, Place.advance, List.count_eq_zero_of_not_mem hline]
  errors_eq := rfl
  failedLookUps_eq := rfl

theorem passes_forward_one (h : c.left = char :: rest) (hline : char ≠ '\n') :
    Passes c (c.forward 1) [char] rest :=
  passes_forward h (by rwa [List.mem_singleton, eq_comm])

theorem passes_newline (h : c.left = '\n' :: rest) :
    Passes c ((c.addLines 1).forward 1) ['\n'] rest :=
  ⟨h, rfl, rfl, rfl⟩

/-! ### Gaps -/

theorem startsWith_iff {pattern : List Char} :
    c.startsWith pattern = true ↔ ∃ rest, c.left = pattern ++ rest := by
  rw [startsWith, List.isPrefixOf_iff_prefix]
  exact ⟨fun ⟨rest, h⟩ => ⟨rest, h.symm⟩, fun ⟨rest, h⟩ => ⟨rest, h.symm⟩⟩

theorem length_left (c : Cursor text) : c.left.length = text.length - c.position :=
  List.length_drop

/-- The end of the text is behind all that is left. -/
theorem passes_moveTo_length (h : c.left = item) (hne : item ≠ []) (hline : '\n' ∉ item) :
    Passes c (c.moveTo text.length) item [] := by
  have hposition : text.length = c.position + item.length := by
    have hlength := length_left c
    have hpos := List.length_pos_iff.mpr hne
    rw [h] at hlength
    omega
  rw [hposition]
  exact passes_forward (by rw [h, List.append_nil]) hline

theorem passes_lineComment {body : List Char} (hbody : '\n' ∉ body)
    (h : c.left = '/' :: '/' :: body) :
    Passes c c.passLineComment ('/' :: '/' :: body) [] := by
  have hnone : find ['\n'] text c.position = none := by
    apply find_eq_none
    intro hoccurs
    rw [← left, h] at hoccurs
    exact absurd (hoccurs.subset (List.mem_singleton_self _)) (by simp [hbody])
  rw [passLineComment, hnone]
  exact passes_moveTo_length h (by simp) (by simp [hbody])

theorem passes_lineComment_newline {body : List Char} (hbody : '\n' ∉ body)
    (h : c.left = '/' :: '/' :: (body ++ '\n' :: rest)) :
    Passes c c.passLineComment ('/' :: '/' :: body) ('\n' :: rest) := by
  have hfront : '\n' ∉ '/' :: '/' :: body := by simp [hbody]
  have hleft : c.left = '/' :: '/' :: body ++ (['\n'] ++ rest) := h
  have hfound : find ['\n'] text c.position = some (c.position + ('/' :: '/' :: body).length) := by
    apply find_eq_some hleft
    intro hoccurs
    have hmem := hoccurs.subset (List.mem_singleton_self _)
    rw [List.dropLast_singleton, List.append_nil] at hmem
    exact hfront hmem
  rw [passLineComment, hfound, Option.getD_some]
  exact passes_forward hleft hfront

/-- A comment is passed together with its newlines. -/
theorem passes_stretch (h : c.left = item ++ rest) :
    Passes c ((c.addLines ((text.extract c.position (c.position + item.length)).count '\n')).moveTo
      (c.position + item.length)) item rest := by
  have hitem : text.extract c.position (c.position + item.length) = item := by
    rw [left] at h
    rw [List.extract_eq_take_drop, Nat.add_sub_cancel_left, h, List.take_left]
  rw [hitem]
  exact ⟨h, rfl, rfl, rfl⟩

theorem passes_blockComment {body : List Char} (hbody : ¬ HoldsClosing body)
    (h : c.left = '/' :: '*' :: body) :
    Passes c c.passBlockComment ('/' :: '*' :: body) [] := by
  have hdrop : text.drop (c.position + 2) = body := by
    rw [← List.drop_drop, ← left, h]
    rfl
  have hnone : find ['*', '/'] text (c.position + 2) = none := by
    apply find_eq_none
    rw [hdrop]
    exact hbody
  have hlength : text.length = c.position + ('/' :: '*' :: body).length := by
    have hleft := length_left c
    rw [h, List.length_cons] at hleft
    simp only [List.length_cons] at hleft ⊢
    omega
  rw [passBlockComment, hnone]
  simp only [Option.map_none, Option.getD_none]
  rw [hlength]
  exact passes_stretch (by rw [h, List.append_nil])

theorem passes_blockComment_closed {body : List Char} (hbody : ¬ HoldsClosing (body ++ ['*']))
    (h : c.left = '/' :: '*' :: (body ++ '*' :: '/' :: rest)) :
    Passes c c.passBlockComment ('/' :: '*' :: (body ++ ['*', '/'])) rest := by
  have hdrop : text.drop (c.position + 2) = body ++ (['*', '/'] ++ rest) := by
    rw [← List.drop_drop, ← left, h]
    rfl
  have hfound : find ['*', '/'] text (c.position + 2) =
      some (c.position + 2 + body.length) := find_eq_some hdrop hbody
  have hstop : c.position + 2 + body.length + 2 =
      c.position + ('/' :: '*' :: (body ++ ['*', '/'])).length := by
    simp only [List.length_cons, List.length_append, List.length_nil]
    omega
  rw [passBlockComment, hfound]
  simp only [Option.map_some, Option.getD_some]
  rw [hstop]
  exact passes_stretch (by simp [h])

/-- Behind a part of a gap, the rest of the gap is passed. -/
theorem Passes.gap (hpass : Passes c d item rest)
    (hgap : Passes d e (splitGap d.left).1 (splitGap d.left).2)
    (hsplit : splitGap c.left = (item ++ (splitGap rest).1, (splitGap rest).2)) :
    Passes c e (splitGap c.left).1 (splitGap c.left).2 := by
  rw [hpass.left_behind] at hgap
  rw [hsplit]
  exact hpass.trans hgap

/-- Blanks and comments are passed as they are split off. -/
theorem passes_skipGap (c : Cursor text) :
    Passes c c.skipGap (splitGap c.left).1 (splitGap c.left).2 := by
  fun_induction skipGap c with
  | case1 c hpeek =>
    have hrefl := Passes.refl c
    rw [left_eq_nil_of_peek hpeek] at hrefl ⊢
    exact hrefl
  | case2 c hpeek ih =>
    obtain ⟨rest, hleft⟩ := exists_left_of_peek hpeek
    refine (passes_newline hleft).gap ih ?_
    rw [hleft, splitGap_blank (by decide)]
    rfl
  | case3 c char hpeek hnewline hblank ih =>
    obtain ⟨rest, hleft⟩ := exists_left_of_peek hpeek
    refine (passes_forward_one hleft hnewline).gap ih ?_
    rw [hleft, splitGap_blank hblank]
    rfl
  | case4 c char hpeek hnewline hblank hline ih =>
    obtain ⟨more, hleft⟩ := startsWith_iff.mp hline
    obtain ⟨body, hbody, rfl | ⟨rest, rfl⟩⟩ := exists_lineComment more
    · refine (passes_lineComment hbody hleft).gap ih ?_
      rw [hleft, splitGap_nil, List.append_nil]
      exact splitGap_of_openComment (.lineComment hbody)
    · refine (passes_lineComment_newline hbody hleft).gap ih ?_
      have hsplit := splitGap_append_of_closedGap (.lineComment hbody .nil) rest
      rw [hleft, splitGap_blank (by decide)]
      simpa using hsplit
  | case5 c char hpeek hnewline hblank hline hblock ih =>
    obtain ⟨more, hleft⟩ := startsWith_iff.mp hblock
    obtain ⟨body, ⟨hbody, rfl⟩ | ⟨hbody, rest, rfl⟩⟩ := exists_blockComment more
    · refine (passes_blockComment hbody hleft).gap ih ?_
      rw [hleft, splitGap_nil, List.append_nil]
      exact splitGap_of_openComment (.blockComment hbody)
    · refine (passes_blockComment_closed hbody hleft).gap ih ?_
      have hsplit := splitGap_append_of_closedGap (.blockComment hbody .nil) rest
      rw [hleft]
      simpa using hsplit
  | case6 c char hpeek hnewline hblank hline hblock =>
    obtain ⟨rest, hleft⟩ := exists_left_of_peek hpeek
    have hcomment (next : Char) (hstarts : ¬ c.startsWith ['/', next] = true) :
        ¬ (char = '/' ∧ rest.head? = some next) := by
      rintro ⟨rfl, hnext⟩
      obtain ⟨more, rfl⟩ := List.head?_eq_some_iff.mp hnext
      exact hstarts (startsWith_iff.mpr ⟨more, hleft⟩)
    have hnil := splitGap_eq_nil hblank (hcomment '/' hline) (hcomment '*' hblock)
    have hrefl := Passes.refl c
    rw [hleft] at hrefl ⊢
    rw [hnil]
    exact hrefl

/-! ### Words, numbers and quoted texts -/

theorem passes_passWord (c : Cursor text) :
    Passes c c.passWord (c.left.takeWhile isWordChar) (c.left.dropWhile isWordChar) := by
  fun_induction passWord c with
  | case1 c hword ih =>
    obtain ⟨char, hpeek, hchar⟩ := (Option.any_eq_true _ _).mp hword
    obtain ⟨rest, hleft⟩ := exists_left_of_peek hpeek
    have hne : char ≠ '\n' := by
      rintro rfl
      exact absurd hchar (by decide)
    have hpass := passes_forward_one hleft hne
    rw [hpass.left_behind] at ih
    rw [hleft, List.takeWhile_cons_of_pos hchar, List.dropWhile_cons_of_pos hchar]
    exact hpass.trans ih
  | case2 c hword =>
    have hrefl := Passes.refl c
    rw [peek_zero] at hword
    cases hleft : c.left with
    | nil => rwa [hleft] at hrefl
    | cons char rest =>
      rw [hleft] at hrefl hword
      have hchar : ¬ isWordChar char = true := hword
      rwa [List.takeWhile_cons_of_neg hchar, List.dropWhile_cons_of_neg hchar]

/-- Splits off digits, with a point and more digits unless a point was seen before. -/
def splitDigits (seenPoint : Bool) (text : List Char) : List Char × List Char :=
  if seenPoint then (text.takeWhile Char.isDigit, text.dropWhile Char.isDigit)
  else splitUnsigned text

theorem splitDigits_digit (seenPoint : Bool) (h : char.isDigit = true) (rest : List Char) :
    splitDigits seenPoint (char :: rest) =
      (char :: (splitDigits seenPoint rest).1, (splitDigits seenPoint rest).2) := by
  cases seenPoint with
  | true => simp [splitDigits, h]
  | false =>
    simp only [splitDigits, splitUnsigned, Bool.false_eq_true, if_false,
      List.takeWhile_cons_of_pos h, List.dropWhile_cons_of_pos h]
    split <;> rfl

theorem splitDigits_point (rest : List Char) :
    splitDigits false ('.' :: rest) =
      ('.' :: (splitDigits true rest).1, (splitDigits true rest).2) :=
  rfl

theorem splitDigits_other {seenPoint : Bool} (hdigit : ¬ char.isDigit = true)
    (hpoint : ¬ (char = '.' ∧ seenPoint = false)) (rest : List Char) :
    splitDigits seenPoint (char :: rest) = ([], char :: rest) := by
  cases seenPoint with
  | true => simp [splitDigits, hdigit]
  | false =>
    have hne : char ≠ '.' := fun h => hpoint ⟨h, rfl⟩
    simp only [splitDigits, splitUnsigned, Bool.false_eq_true, if_false,
      List.takeWhile_cons_of_neg hdigit, List.dropWhile_cons_of_neg hdigit]
    split
    next heq => exact absurd (List.cons.inj heq).1 hne
    next => rfl

/-- The digits of a number are passed as they are split off, and a point among them is seen. -/
theorem passes_passNumber (seenPoint : Bool) (c : Cursor text) :
    (c.passNumber seenPoint).1 = (seenPoint || decide ('.' ∈ (splitDigits seenPoint c.left).1)) ∧
      Passes c (c.passNumber seenPoint).2 (splitDigits seenPoint c.left).1
        (splitDigits seenPoint c.left).2 := by
  fun_induction passNumber seenPoint c with
  | case1 seenPoint c hpeek =>
    have hrefl := Passes.refl c
    have hnil : splitDigits seenPoint [] = ([], []) := by cases seenPoint <;> rfl
    rw [left_eq_nil_of_peek hpeek] at hrefl ⊢
    rw [hnil]
    exact ⟨by simp, hrefl⟩
  | case2 seenPoint c char hpeek hdigit ih =>
    obtain ⟨rest, hleft⟩ := exists_left_of_peek hpeek
    have hne : char ≠ '\n' := by
      rintro rfl
      exact absurd hdigit (by decide)
    have hpass := passes_forward_one hleft hne
    rw [hpass.left_behind] at ih
    rw [hleft, splitDigits_digit seenPoint hdigit]
    refine ⟨?_, hpass.trans ih.2⟩
    simp [ih.1, Ne.symm (isDigit_ne_point hdigit)]
  | case3 seenPoint c char hpeek hdigit hpoint ih =>
    obtain ⟨rfl, rfl⟩ := hpoint
    obtain ⟨rest, hleft⟩ := exists_left_of_peek hpeek
    have hpass := passes_forward_one hleft (by decide)
    rw [hpass.left_behind] at ih
    rw [hleft, splitDigits_point]
    exact ⟨by simp [ih.1], hpass.trans ih.2⟩
  | case4 seenPoint c char hpeek hdigit hpoint =>
    obtain ⟨rest, hleft⟩ := exists_left_of_peek hpeek
    have hrefl := Passes.refl c
    rw [hleft] at hrefl ⊢
    rw [splitDigits_other hdigit hpoint]
    exact ⟨by simp, hrefl⟩

theorem passes_sign_passNumber (c : Cursor text) :
    (c.passSign.passNumber false).1 = decide ('.' ∈ (splitNumber c.left).1) ∧
      Passes c (c.passSign.passNumber false).2 (splitNumber c.left).1 (splitNumber c.left).2 := by
  unfold passSign
  split
  next hsign =>
    obtain ⟨rest, hleft⟩ := exists_left_of_peek hsign
    have hpass := passes_forward_one hleft (by decide)
    have hnumber := passes_passNumber false (c.forward 1)
    rw [hpass.left_behind] at hnumber
    rw [hleft]
    exact ⟨by simpa [splitDigits, splitNumber] using hnumber.1, hpass.trans hnumber.2⟩
  next hsign =>
    have hnumber := passes_passNumber false c
    have hsplit : splitNumber c.left = splitDigits false c.left := by
      rw [peek_zero] at hsign
      unfold splitNumber
      split
      next rest hleft => exact absurd (congrArg List.head? hleft) hsign
      next => rfl
    rw [hsplit]
    simpa using hnumber

/-- What the reading of a quoted text gives to a reader that passes it. -/
def Quotes (mark : Char) (c : Cursor text) (out : Ending × Cursor text) (q : Quotation) : Prop :=
  out.1 = q.ending ∧ Passes c out.2 (q.body ++ q.closing mark) q.rest

theorem Quotes.prepend {mark : Char} {out : Ending × Cursor text} {q : Quotation}
    (hpass : Passes c d item rest) (h : Quotes mark d out q) :
    Quotes mark c out (q.prepend item) := by
  refine ⟨h.1, ?_⟩
  have htrans := hpass.trans h.2
  rwa [← List.append_assoc] at htrans

/-- A backslash at the end of its line takes nothing along. -/
theorem readQuotation_backslash {mark : Char} (hmark : mark ≠ '\n') (h : AtLineEnd rest) :
    readQuotation mark ('\\' :: rest) = (readQuotation mark rest).prepend ['\\'] := by
  have hopen := readQuotation_of_openBody hmark (openBody_backslash mark) h
  have hnil := readQuotation_of_openBody hmark (.inl .nil) h
  rw [List.nil_append] at hnil
  rw [hnil]
  exact hopen

theorem escapeLength_eq (h : c.left = char :: rest) :
    AtLineEnd rest ∧ c.escapeLength = 1 ∨
      ∃ next behind, rest = next :: behind ∧ next ≠ '\n' ∧ c.escapeLength = 2 := by
  rw [escapeLength, peek_one h]
  cases rest with
  | nil => exact .inl ⟨.inl rfl, rfl⟩
  | cons next behind =>
    by_cases hnext : next = '\n'
    · subst hnext
      exact .inl ⟨.inr ⟨behind, rfl⟩, rfl⟩
    · exact .inr ⟨next, behind, rfl, hnext, by simp [hnext]⟩

/-- A quoted text is passed to its end as it is read. -/
theorem quotes_passQuoted {mark : Char} (hmark : mark ≠ '\n') (c : Cursor text) :
    Quotes mark c (c.passQuoted mark) (readQuotation mark c.left) := by
  fun_induction passQuoted mark c with
  | case1 c hpeek =>
    have hrefl := Passes.refl c
    rw [left_eq_nil_of_peek hpeek] at hrefl ⊢
    exact ⟨rfl, hrefl⟩
  | case2 c hpeek ih =>
    obtain ⟨rest, hleft⟩ := exists_left_of_peek hpeek
    rcases escapeLength_eq hleft with ⟨hline, hlength⟩ | ⟨next, behind, rfl, hnext, hlength⟩
    · have hpass := passes_forward_one hleft (by decide)
      rw [hlength, hpass.left_behind] at ih
      rw [hlength, hleft, readQuotation_backslash hmark hline]
      exact ih.prepend hpass
    · have hnewline : '\n' ∉ ['\\', next] := by simp [Ne.symm hnext]
      have hpass : Passes c (c.forward 2) ['\\', next] behind := passes_forward hleft hnewline
      rw [hlength, hpass.left_behind] at ih
      rw [hlength, hleft, readQuotation, if_neg hnext]
      exact ih.prepend hpass
  | case3 c hpeek hescape =>
    obtain ⟨rest, hleft⟩ := exists_left_of_peek hpeek
    have hread : readQuotation mark (mark :: rest) = ⟨[], .closed, rest⟩ :=
      readQuotation_append_of_quotedBody hescape .nil
    rw [hleft, hread]
    exact ⟨rfl, passes_forward_one hleft hmark⟩
  | case4 c hpeek hescape =>
    obtain ⟨rest, hleft⟩ := exists_left_of_peek hpeek
    have hread := readQuotation_of_openBody hmark (.inl .nil) (.inr ⟨rest, rfl⟩)
    have hrefl := Passes.refl c
    rw [hleft] at hrefl ⊢
    rw [List.nil_append] at hread
    rw [hread]
    exact ⟨rfl, hrefl⟩
  | case5 c char hpeek hescape hquote hnewline ih =>
    obtain ⟨rest, hleft⟩ := exists_left_of_peek hpeek
    have hpass := passes_forward_one hleft hnewline
    have hread : readQuotation mark (char :: rest) = (readQuotation mark rest).prepend [char] :=
      readQuotation_append_eq_prepend (.plain hquote hescape hnewline .nil) rest
    rw [hpass.left_behind] at ih
    rw [hleft, hread]
    exact ih.prepend hpass

/-- A quoted text is passed together with the quote that opens it. -/
theorem passes_quotation {mark : Char} (hmark : mark ≠ '\n') (hleft : c.left = mark :: rest) :
    ((c.forward 1).passQuoted mark).1 = (readQuotation mark rest).ending ∧
      Passes c ((c.forward 1).passQuoted mark).2
        (mark :: ((readQuotation mark rest).body ++ (readQuotation mark rest).closing mark))
        (readQuotation mark rest).rest := by
  have hopen := passes_forward_one hleft hmark
  have hquotes := quotes_passQuoted hmark (c.forward 1)
  rw [hopen.left_behind] at hquotes
  exact ⟨hquotes.1, hopen.trans hquotes.2⟩

end Cursor

end DeclLang.Source
