/-!
Control sequences of terminals inside a text: an escape character, an opening bracket, parameter
characters, intermediate characters and one final character. The three classes are disjoint ranges
of printable ASCII, so a sequence ends in one way only. Output that does not go to a terminal is
written without control sequences; an escape character that starts no complete sequence is text
like any other.
-/

set_option autoImplicit false

namespace DeclLang.Text

def escapeMark : Char := '\x1b'

/-- Whether a character is part of the parameters of a control sequence: digits and `:;<=>?`. -/
def isParameter (c : Char) : Bool :=
  decide (0x30 ≤ c.toNat ∧ c.toNat ≤ 0x3F)

/-- Whether a character may stand between the parameters and the end of a control sequence: the
space and the marks before the digits. -/
def isIntermediate (c : Char) : Bool :=
  decide (0x20 ≤ c.toNat ∧ c.toNat ≤ 0x2F)

/-- Whether a character ends a control sequence: a letter or one of the marks around the letters. -/
def isFinal (c : Char) : Bool :=
  decide (0x40 ≤ c.toNat ∧ c.toNat ≤ 0x7E)

/-- The text behind a control sequence, given the text behind its escape character. -/
def afterSequence? : List Char → Option (List Char)
  | '[' :: rest =>
    match (rest.dropWhile isParameter).dropWhile isIntermediate with
    | c :: after => if isFinal c then some after else none
    | [] => none
  | _ => none

/-- What follows a control sequence is shorter than the text behind its escape character. -/
theorem length_lt_of_afterSequence? {text after : List Char}
    (h : afterSequence? text = some after) : after.length < text.length := by
  unfold afterSequence? at h
  split at h
  · rename_i rest
    have hle := ((List.dropWhile_sublist (p := isIntermediate)
      (l := rest.dropWhile isParameter)).trans (List.dropWhile_sublist isParameter)).length_le
    split at h
    · rename_i c tail hdrop
      split at h
      · cases h
        rw [hdrop, List.length_cons] at hle
        rw [List.length_cons]
        omega
      · simp at h
    · simp at h
  · simp at h

def withoutSequences (text : List Char) : List Char :=
  let front := text.takeWhile (· != escapeMark)
  match _hsplit : text.dropWhile (· != escapeMark) with
  | [] => front
  | mark :: rest =>
    match _hafter : afterSequence? rest with
    | some after => front ++ withoutSequences after
    | none => front ++ mark :: withoutSequences rest
termination_by text.length
decreasing_by
  · have hle := (List.dropWhile_sublist (p := (· != escapeMark)) (l := text)).length_le
    rw [_hsplit, List.length_cons] at hle
    have hlt := length_lt_of_afterSequence? _hafter
    omega
  · have hle := (List.dropWhile_sublist (p := (· != escapeMark)) (l := text)).length_le
    rw [_hsplit, List.length_cons] at hle
    omega

theorem withoutSequences_eq_self {text : List Char} (h : escapeMark ∉ text) :
    withoutSequences text = text := by
  have hsplit : text.takeWhile (· != escapeMark) = text ∧
      text.dropWhile (· != escapeMark) = [] := by
    induction text with
    | nil => simp
    | cons c rest ih =>
      simp only [List.mem_cons, not_or] at h
      simp [Ne.symm h.1, ih h.2]
  rw [withoutSequences]
  split
  · exact hsplit.1
  · rename_i hdrop
    rw [hsplit.2] at hdrop
    cases hdrop

end DeclLang.Text
