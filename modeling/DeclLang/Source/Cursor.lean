import DeclLang.Source.Scan

/-!
A source text read by position. Such a reader keeps all of the text, the position that it is at and
the number of its line, and nothing but its own moves keeps the position within the text: it moves
by one character or two, to a place that it has searched for, or to where it takes up reading again
after a failed look-up. What it finds in the text, it finds by looking from its position on.

A reader writes down every position that it moves to. Its loops end because each round moves the
position on.
-/

set_option autoImplicit false

namespace DeclLang.Source

open Text

/-- Where a text first goes on with the given pattern, from a position on. -/
def find (pattern text : List Char) (position : Nat) : Option Nat :=
  if pattern.isPrefixOf (text.drop position) then some position
  else if position < text.length then find pattern text (position + 1)
  else none
termination_by text.length - position

theorem le_of_find {pattern text : List Char} {position found : Nat}
    (h : find pattern text position = some found) :
    position ≤ found ∧ pattern <+: text.drop found := by
  fun_induction find pattern text position with
  | case1 position hstarts =>
    obtain rfl := Option.some.inj h
    exact ⟨Nat.le_refl _, List.isPrefixOf_iff_prefix.mp hstarts⟩
  | case2 position hstarts hlt ih =>
    obtain ⟨hle, hprefix⟩ := ih h
    exact ⟨Nat.le_of_succ_le hle, hprefix⟩
  | case3 position hstarts hend => cases h

/-- A reader of a text: the position and the number of the line that it is at, the positions that it
was moved to, and what it has reported. -/
structure Cursor (text : List Char) where
  position : Nat
  line : Nat
  trail : List Nat
  errors : List Diagnostic
  /-- Where the words stand whose look-up among the type names failed. -/
  failedLookUps : List Nat
  deriving DecidableEq, Repr

namespace Cursor

variable {text : List Char}

def start (text : List Char) : Cursor text := ⟨0, 1, [], [], []⟩

/-- The character that stands some places ahead; there is none beyond the text. -/
def peek (c : Cursor text) (ahead : Nat) : Option Char :=
  text[c.position + ahead]?

def startsWith (c : Cursor text) (pattern : List Char) : Bool :=
  pattern.isPrefixOf (text.drop c.position)

/-- What was read since an earlier state. -/
def since (c : Cursor text) (earlier : Cursor text) : List Char :=
  text.extract earlier.position c.position

def moveTo (c : Cursor text) (position : Nat) : Cursor text :=
  { c with position, trail := c.trail ++ [position] }

def forward (c : Cursor text) (count : Nat) : Cursor text :=
  c.moveTo (c.position + count)

def addLines (c : Cursor text) (count : Nat) : Cursor text :=
  { c with line := c.line + count }

def report (c : Cursor text) (line : Nat) (fault : LexicalFault) : Cursor text :=
  { c with errors := c.errors ++ [⟨.lexical, line, fault.message⟩] }

/-- Writes down where a word stands whose look-up failed. -/
def noteFailure (c : Cursor text) (position : Nat) : Cursor text :=
  { c with failedLookUps := c.failedLookUps ++ [position] }

theorem lt_length_of_peek {c : Cursor text} {ahead : Nat} {char : Char}
    (h : c.peek ahead = some char) : c.position + ahead < text.length :=
  (List.getElem?_eq_some_iff.mp h).1

/-! ### Moving on -/

/-- Where a reader gets by moving on within its text, counting lines and noting what it finds. -/
inductive Moves : Cursor text → Cursor text → Prop
  | refl (c : Cursor text) : Moves c c
  | moveTo {c d : Cursor text} {position : Nat} (h : Moves c d) (hle : d.position ≤ position)
      (hlength : position ≤ text.length) : Moves c (d.moveTo position)
  | addLines {c d : Cursor text} (h : Moves c d) (count : Nat) : Moves c (d.addLines count)
  | report {c d : Cursor text} (h : Moves c d) (line : Nat) (fault : LexicalFault) :
      Moves c (d.report line fault)
  | noteFailure {c d : Cursor text} (h : Moves c d) (position : Nat) :
      Moves c (d.noteFailure position)

theorem Moves.trans {c d e : Cursor text} (hcd : Moves c d) (hde : Moves d e) : Moves c e := by
  induction hde with
  | refl => exact hcd
  | moveTo _ hle hlength ih => exact ih.moveTo hle hlength
  | addLines _ count ih => exact ih.addLines count
  | report _ line fault ih => exact ih.report line fault
  | noteFailure _ position ih => exact ih.noteFailure position

theorem Moves.le {c d : Cursor text} (h : Moves c d) : c.position ≤ d.position := by
  induction h with
  | refl => exact Nat.le_refl _
  | moveTo _ hle _ ih => exact Nat.le_trans ih hle
  | addLines _ _ ih => exact ih
  | report _ _ _ ih => exact ih
  | noteFailure _ _ ih => exact ih

theorem Moves.inside {c d : Cursor text} (h : Moves c d) (hc : c.position ≤ text.length) :
    d.position ≤ text.length := by
  induction h with
  | refl => exact hc
  | moveTo _ _ hlength _ => exact hlength
  | addLines _ _ ih => exact ih
  | report _ _ _ ih => exact ih
  | noteFailure _ _ ih => exact ih

theorem moves_forward {c : Cursor text} {count : Nat} (h : c.position + count ≤ text.length) :
    Moves c (c.forward count) :=
  (Moves.refl c).moveTo (Nat.le_add_right _ _) h

theorem moves_forward_one {c : Cursor text} {char : Char} (h : c.peek 0 = some char) :
    Moves c (c.forward 1) :=
  moves_forward (lt_length_of_peek h)

/-- A reader that has moved on, and not only to where it was. -/
def Advances (c d : Cursor text) : Prop :=
  Moves c d ∧ c.position < d.position

theorem Advances.trans {c d e : Cursor text} (hcd : Advances c d) (hde : Moves d e) :
    Advances c e :=
  ⟨hcd.1.trans hde, Nat.lt_of_lt_of_le hcd.2 hde.le⟩

theorem advances_forward_one {c : Cursor text} {char : Char} (h : c.peek 0 = some char) :
    Advances c (c.forward 1) :=
  ⟨moves_forward_one h, Nat.lt_succ_self _⟩

/-! ### Gaps -/

/-- Goes to the end of the line, in front of its newline. -/
def passLineComment (c : Cursor text) : Cursor text :=
  c.moveTo ((find ['\n'] text c.position).getD text.length)

/-- Goes behind the first closing mark that follows the opening one, or to the end of the text. -/
def passBlockComment (c : Cursor text) : Cursor text :=
  let stop := ((find ['*', '/'] text (c.position + 2)).map (· + 2)).getD text.length
  (c.addLines ((text.extract c.position stop).count '\n')).moveTo stop

theorem length_le_of_isPrefix_drop {pattern : List Char} {position : Nat}
    (h : pattern <+: text.drop position) : pattern.length ≤ text.length - position := by
  have hle := h.length_le
  rwa [List.length_drop] at hle

theorem lt_passLineComment {c : Cursor text} (h : c.startsWith ['/', '/'] = true) :
    c.position < c.passLineComment.position ∧ c.passLineComment.position ≤ text.length := by
  have hslash := List.isPrefixOf_iff_prefix.mp h
  have hlength := length_le_of_isPrefix_drop hslash
  simp only [List.length_cons, List.length_nil] at hlength
  simp only [passLineComment, moveTo]
  cases hfind : find ['\n'] text c.position with
  | none =>
    rw [Option.getD_none]
    omega
  | some found =>
    obtain ⟨hle, hnewline⟩ := le_of_find hfind
    have hbehind := length_le_of_isPrefix_drop hnewline
    have hne : c.position ≠ found := by
      rintro rfl
      obtain ⟨_, hslashes⟩ := hslash
      obtain ⟨_, hnewlines⟩ := hnewline
      rw [← hslashes] at hnewlines
      cases hnewlines
    simp only [List.length_cons, List.length_nil] at hbehind
    rw [Option.getD_some]
    omega

theorem lt_passBlockComment {c : Cursor text} (h : c.startsWith ['/', '*'] = true) :
    c.position < c.passBlockComment.position ∧ c.passBlockComment.position ≤ text.length := by
  have hlength := length_le_of_isPrefix_drop (List.isPrefixOf_iff_prefix.mp h)
  simp only [List.length_cons, List.length_nil] at hlength
  simp only [passBlockComment, moveTo]
  cases hfind : find ['*', '/'] text (c.position + 2) with
  | none =>
    rw [Option.map_none, Option.getD_none]
    omega
  | some found =>
    obtain ⟨hle, hclosing⟩ := le_of_find hfind
    have hbehind := length_le_of_isPrefix_drop hclosing
    simp only [List.length_cons, List.length_nil] at hbehind
    rw [Option.map_some, Option.getD_some]
    omega

/-- Goes behind blanks and comments. -/
def skipGap (c : Cursor text) : Cursor text :=
  match _hpeek : c.peek 0 with
  | none => c
  | some char =>
    if char = '\n' then ((c.addLines 1).forward 1).skipGap
    else if isBlank char then (c.forward 1).skipGap
    else if _hline : c.startsWith ['/', '/'] = true then c.passLineComment.skipGap
    else if _hblock : c.startsWith ['/', '*'] = true then c.passBlockComment.skipGap
    else c
termination_by text.length - c.position
decreasing_by
  · have hlt := lt_length_of_peek _hpeek
    simp only [forward, moveTo, addLines]
    omega
  · have hlt := lt_length_of_peek _hpeek
    simp only [forward, moveTo]
    omega
  · have hlt := lt_passLineComment _hline
    omega
  · have hlt := lt_passBlockComment _hblock
    omega

theorem moves_skipGap (c : Cursor text) : Moves c c.skipGap := by
  fun_induction skipGap c with
  | case1 c hpeek => exact .refl c
  | case2 c hpeek ih =>
    refine .trans ?_ ih
    exact ((Moves.refl c).addLines 1).moveTo (Nat.le_succ _) (lt_length_of_peek hpeek)
  | case3 c char hpeek hnewline hblank ih => exact (moves_forward_one hpeek).trans ih
  | case4 c char hpeek hnewline hblank hline ih =>
    obtain ⟨hlt, hlength⟩ := lt_passLineComment hline
    exact ((Moves.refl c).moveTo (Nat.le_of_lt hlt) hlength).trans ih
  | case5 c char hpeek hnewline hblank hline hblock ih =>
    obtain ⟨hlt, hlength⟩ := lt_passBlockComment hblock
    exact (((Moves.refl c).addLines _).moveTo (Nat.le_of_lt hlt) hlength).trans ih
  | case6 c char hpeek hnewline hblank hline hblock => exact .refl c

/-! ### Items -/

/-- Goes behind the word characters that stand at the cursor. -/
def passWord (c : Cursor text) : Cursor text :=
  if _hword : (c.peek 0).any isWordChar = true then (c.forward 1).passWord else c
termination_by text.length - c.position
decreasing_by
  obtain ⟨char, hpeek, _⟩ := (Option.any_eq_true _ _).mp _hword
  have hlt := lt_length_of_peek hpeek
  simp only [forward, moveTo]
  omega

def passSign (c : Cursor text) : Cursor text :=
  if c.peek 0 = some '-' then c.forward 1 else c

/-- Goes behind digits and one point at most, and tells whether it has seen a point. -/
def passNumber (seenPoint : Bool) (c : Cursor text) : Bool × Cursor text :=
  match _hpeek : c.peek 0 with
  | none => (seenPoint, c)
  | some char =>
    if char.isDigit then passNumber seenPoint (c.forward 1)
    else if char = '.' ∧ seenPoint = false then passNumber true (c.forward 1)
    else (seenPoint, c)
termination_by text.length - c.position
decreasing_by
  all_goals
    have hlt := lt_length_of_peek _hpeek
    simp only [forward, moveTo]
    omega

/-- How far a backslash takes the cursor: over the next character as well, unless the line or the
text ends there. -/
def escapeLength (c : Cursor text) : Nat :=
  if c.peek 1 = none ∨ c.peek 1 = some '\n' then 1 else 2

theorem escapeLength_le {c : Cursor text} {char : Char} (h : c.peek 0 = some char) :
    1 ≤ c.escapeLength ∧ c.position + c.escapeLength ≤ text.length := by
  have hlt := lt_length_of_peek h
  unfold escapeLength
  split
  · exact ⟨Nat.le_refl _, hlt⟩
  next hnext =>
    cases hpeek : c.peek 1 with
    | none => exact absurd (.inl hpeek) hnext
    | some next => exact ⟨by decide, lt_length_of_peek hpeek⟩

/-- Goes behind the closing quote, or to where the line or the text ends before it. -/
def passQuoted (mark : Char) (c : Cursor text) : Ending × Cursor text :=
  match _hpeek : c.peek 0 with
  | none => (.endOfText, c)
  | some char =>
    if char = '\\' then passQuoted mark (c.forward c.escapeLength)
    else if char = mark then (.closed, c.forward 1)
    else if char = '\n' then (.newline, c)
    else passQuoted mark (c.forward 1)
termination_by text.length - c.position
decreasing_by
  · have hle := escapeLength_le _hpeek
    simp only [forward, moveTo]
    omega
  · have hlt := lt_length_of_peek _hpeek
    simp only [forward, moveTo]
    omega

/-- The token of what was read since an earlier state. -/
def token (c earlier : Cursor text) (kind : Token.Kind) (line : Nat) : Token :=
  ⟨kind, String.ofList (c.since earlier), line⟩

/-- Reads a word, and looks it up once it has passed all of it. -/
def scanWord (settings : Settings) (c : Cursor text) : Except String Token × Cursor text :=
  let d := c.passWord
  let word := String.ofList (d.since c)
  match settings.lookUpType word with
  | .error reason => (.error reason, d)
  | .ok true => (.ok (d.token c .typeName d.line), d)
  | .ok false =>
    (.ok (d.token c (if word ∈ booleanWords then .literal .boolean else .identifier) d.line), d)

def scanNumber (c : Cursor text) : Option Token × Cursor text :=
  let n := c.passSign.passNumber false
  match (n.2.peek 0).bind suffixKind with
  | some kind =>
    let d := n.2.forward 1
    if kind = .long ∧ n.1 = true then (none, d.report d.line (.pointInLong (d.since c)))
    else (some (d.token c (.literal kind) d.line), d)
  | none =>
    if (n.2.peek 0).any isWordStart then
      let d := n.2.passWord
      (none, d.report d.line (.digitLedWord (d.since c)))
    else (some (n.2.token c (.literal (if n.1 then .double else .int)) n.2.line), n.2)

def scanString (c : Cursor text) : Option Token × Cursor text :=
  let q := (c.forward 1).passQuoted '"'
  match q.1 with
  | .closed => (some (q.2.token c (.literal .string) c.line), q.2)
  | _ => (none, q.2.report c.line .unterminatedString)

def scanCharacter (c : Cursor text) : Option Token × Cursor text :=
  let q := (c.forward 1).passQuoted '\''
  match q.1 with
  | .closed =>
    let content := ((q.2.since c).drop 1).dropLast
    if isCharContent content then (some (q.2.token c (.literal .char) c.line), q.2)
    else (none, q.2.report c.line (.badCharContent content))
  | .newline => (none, ((q.2.forward 1).addLines 1).report c.line .newlineInChar)
  | .endOfText => (none, q.2.report c.line .unterminatedChar)

/-- Reads a single character. -/
def scanMark (char : Char) (c : Cursor text) : Option Token × Cursor text :=
  let d := c.forward 1
  match punctuationKind char with
  | some kind => (some ⟨kind, String.singleton char, d.line⟩, d)
  | none => (none, d.report d.line (.unknownCharacter char))

/-- Reads the item that starts with the given character at the cursor. -/
def scanItem (settings : Settings) (char : Char) (c : Cursor text) :
    Except String (Option Token) × Cursor text :=
  if isWordStart char then
    let word := c.scanWord settings
    (word.1.map some, word.2)
  else
    let item :=
      if char.isDigit || (char == '-' && (c.peek 1).any Char.isDigit) then c.scanNumber
      else if char = '"' then c.scanString
      else if char = '\'' then c.scanCharacter
      else c.scanMark char
    (.ok item.1, item.2)

theorem moves_passWord (c : Cursor text) : Moves c c.passWord := by
  fun_induction passWord c with
  | case1 c hword ih =>
    obtain ⟨char, hpeek, _⟩ := (Option.any_eq_true _ _).mp hword
    exact (moves_forward_one hpeek).trans ih
  | case2 c hword => exact .refl c

theorem moves_passNumber (seenPoint : Bool) (c : Cursor text) :
    Moves c (c.passNumber seenPoint).2 := by
  fun_induction passNumber seenPoint c with
  | case1 seenPoint c hpeek => exact .refl c
  | case2 seenPoint c char hpeek hdigit ih => exact (moves_forward_one hpeek).trans ih
  | case3 seenPoint c char hpeek hdigit hpoint ih => exact (moves_forward_one hpeek).trans ih
  | case4 seenPoint c char hpeek hdigit hpoint => exact .refl c

theorem moves_passQuoted (mark : Char) (c : Cursor text) : Moves c (c.passQuoted mark).2 := by
  fun_induction passQuoted mark c with
  | case1 c hpeek => exact .refl c
  | case2 c hpeek ih => exact (moves_forward (escapeLength_le hpeek).2).trans ih
  | case3 c hpeek hmark => exact moves_forward_one hpeek
  | case4 c hpeek hmark => exact .refl c
  | case5 c char hpeek hescape hmark hnewline ih => exact (moves_forward_one hpeek).trans ih

section

variable {c : Cursor text} {char : Char} (hpeek : c.peek 0 = some char)
include hpeek

theorem advances_passWord (hword : isWordChar char = true) : Advances c c.passWord := by
  have hany : (c.peek 0).any isWordChar = true := by rw [hpeek, Option.any_some, hword]
  rw [passWord, dif_pos hany]
  exact (advances_forward_one hpeek).trans (moves_passWord _)

theorem passNumber_of_isDigit (hdigit : char.isDigit = true) (seenPoint : Bool) :
    c.passNumber seenPoint = (c.forward 1).passNumber seenPoint := by
  rw [passNumber]
  split
  next hnone => cases hnone.symm.trans hpeek
  next other hother =>
    obtain rfl := Option.some.inj (hother.symm.trans hpeek)
    rw [if_pos hdigit]

/-- Behind its sign, a number starts with a digit. -/
theorem advances_sign_passNumber
    (hnumber : (char.isDigit || (char == '-' && (c.peek 1).any Char.isDigit)) = true) :
    Advances c (c.passSign.passNumber false).2 := by
  unfold passSign
  split
  next _ => exact (advances_forward_one hpeek).trans (moves_passNumber _ _)
  next hsign =>
    have hdigit : char.isDigit = true := by
      rw [hpeek, Option.some.injEq] at hsign
      simpa [hsign] using hnumber
    rw [passNumber_of_isDigit hpeek hdigit]
    exact (advances_forward_one hpeek).trans (moves_passNumber _ _)

theorem advances_scanWord (settings : Settings) (hword : isWordStart char = true) :
    Advances c (c.scanWord settings).2 := by
  have hpass := advances_passWord hpeek (isWordChar_of_isWordStart hword)
  unfold scanWord
  dsimp only
  split <;> exact hpass

theorem advances_scanNumber
    (hnumber : (char.isDigit || (char == '-' && (c.peek 1).any Char.isDigit)) = true) :
    Advances c c.scanNumber.2 := by
  have hpass := advances_sign_passNumber hpeek hnumber
  unfold scanNumber
  dsimp only
  split
  next kind hkind =>
    obtain ⟨suffix, hsuffix, _⟩ := Option.bind_eq_some_iff.mp hkind
    have hforward := hpass.trans (moves_forward_one hsuffix)
    split
    · exact hforward.trans ((Moves.refl _).report _ _)
    · exact hforward
  next hnone =>
    split
    · exact (hpass.trans (moves_passWord _)).trans ((Moves.refl _).report _ _)
    · exact hpass

theorem advances_passQuoted (mark : Char) :
    Advances c ((c.forward 1).passQuoted mark).2 :=
  (advances_forward_one hpeek).trans (moves_passQuoted mark _)

theorem advances_scanString : Advances c c.scanString.2 := by
  have hpass := advances_passQuoted hpeek '"'
  unfold scanString
  dsimp only
  split
  · exact hpass
  · exact hpass.trans ((Moves.refl _).report _ _)

end

/-- Where a line ends a quoted text, a newline stands at the cursor. -/
theorem peek_of_passQuoted_newline {mark : Char} {c : Cursor text}
    (h : (c.passQuoted mark).1 = .newline) : (c.passQuoted mark).2.peek 0 = some '\n' := by
  fun_induction passQuoted mark c with
  | case1 c hpeek => cases h
  | case2 c hpeek ih => exact ih h
  | case3 c hpeek hmark => cases h
  | case4 c hpeek hmark => exact hpeek
  | case5 c char hpeek hescape hmark hnewline ih => exact ih h

section

variable {c : Cursor text} {char : Char} (hpeek : c.peek 0 = some char)
include hpeek

theorem advances_scanCharacter : Advances c c.scanCharacter.2 := by
  have hpass := advances_passQuoted hpeek '\''
  unfold scanCharacter
  dsimp only
  split
  · split
    · exact hpass
    · exact hpass.trans ((Moves.refl _).report _ _)
  next hending =>
    have hforward := moves_forward_one (peek_of_passQuoted_newline hending)
    exact hpass.trans ((hforward.addLines 1).report _ _)
  · exact hpass.trans ((Moves.refl _).report _ _)

theorem advances_scanMark : Advances c (c.scanMark char).2 := by
  have hforward := advances_forward_one hpeek
  unfold scanMark
  dsimp only
  split
  · exact hforward
  · exact hforward.trans ((Moves.refl _).report _ _)

theorem advances_scanItem (settings : Settings) : Advances c (c.scanItem settings char).2 := by
  unfold scanItem
  split
  next hword => exact advances_scanWord hpeek settings hword
  next hword =>
    dsimp only
    split
    next hnumber => exact advances_scanNumber hpeek hnumber
    · split
      · exact advances_scanString hpeek
      · split
        · exact advances_scanCharacter hpeek
        · exact advances_scanMark hpeek

end

/-! ### The loop over items -/

/-- Takes reading up again behind a failed look-up, at least one character behind its item. -/
def resume (c earlier : Cursor text) (reason : String) : Cursor text :=
  ((c.noteFailure earlier.position).report c.line (.lookUpFailed reason)).moveTo
    (max c.position (earlier.position + 1))

/-- Reads the item that starts with the given character: its token, if it is one, and where reading
goes on. -/
def takeItem (settings : Settings) (char : Char) (c : Cursor text) : Option Token × Cursor text :=
  let item := c.scanItem settings char
  match item.1 with
  | .ok token => (token, item.2)
  | .error reason => (none, item.2.resume c reason)

/-- One round of the loop, unless it finds the end of the text. -/
def round (settings : Settings) (c : Cursor text) : Option (Option Token × Cursor text) :=
  (c.skipGap.peek 0).map fun char => c.skipGap.takeItem settings char

def stops (settings : Settings) (c : Cursor text) : Bool :=
  settings.stopOnFirstError && !c.errors.isEmpty

theorem advances_takeItem (settings : Settings) {c : Cursor text} {char : Char}
    (hpeek : c.peek 0 = some char) : Advances c (c.takeItem settings char).2 := by
  have hitem := advances_scanItem hpeek settings
  unfold takeItem
  dsimp only
  split
  · exact hitem
  · have hinside := hitem.1.inside (Nat.le_of_lt (lt_length_of_peek hpeek))
    refine hitem.trans ?_
    exact (((Moves.refl _).noteFailure _).report _ _).moveTo (Nat.le_max_left _ _)
      (Nat.max_le.mpr ⟨hinside, lt_length_of_peek hpeek⟩)

/-- Every round moves the cursor on, whatever it finds. -/
theorem advances_round {settings : Settings} {c : Cursor text} {out : Option Token × Cursor text}
    (h : c.round settings = some out) : Advances c out.2 := by
  obtain ⟨char, hpeek, rfl⟩ := Option.map_eq_some_iff.mp h
  have hitem := advances_takeItem settings hpeek
  exact ⟨(moves_skipGap c).trans hitem.1, Nat.lt_of_le_of_lt (moves_skipGap c).le hitem.2⟩

/-- Reads up to the end of the text, or to the first problem where the settings ask for that. -/
def read (settings : Settings) (c : Cursor text) : List Token × Cursor text :=
  match _hround : c.round settings with
  | none => ([.endAt c.skipGap.line], c.skipGap)
  | some out =>
    if out.2.stops settings then (out.1.toList ++ [.endAt out.2.line], out.2)
    else
      let more := out.2.read settings
      (out.1.toList ++ more.1, more.2)
termination_by text.length - c.position
decreasing_by
  have hadvances := advances_round _hround
  obtain ⟨char, hpeek, _⟩ := Option.map_eq_some_iff.mp _hround
  have hlt := lt_length_of_peek hpeek
  have hle := (moves_skipGap c).le
  have hpast := hadvances.2
  omega

theorem moves_read (settings : Settings) (c : Cursor text) : Moves c (c.read settings).2 := by
  fun_induction read settings c with
  | case1 c hround => exact moves_skipGap c
  | case2 c out hround hstops => exact (advances_round hround).1
  | case3 c out hround hstops more ih => exact (advances_round hround).1.trans ih

end Cursor

/-- Scans a source by position. -/
def scanByCursor (settings : Settings) (source : String) : Scan :=
  let out := (Cursor.start source.toList).read settings
  ⟨out.1, out.2.errors, out.2.failedLookUps⟩

end DeclLang.Source
