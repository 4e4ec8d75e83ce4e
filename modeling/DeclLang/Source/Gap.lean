import DeclLang.Text.Blank

/-!
The gaps of a source text: blanks, line comments and block comments. A line comment ends before
its newline, a block comment after the first `*/` that follows its opening, and either may run to
the end of the text. The module splits a text after its leading gap; it does not say which texts
are gaps, which is the business of the grammar beside it, and knows nothing about what stands
between gaps.
-/

set_option autoImplicit false

namespace DeclLang.Source

open Text

/-- What a reader of a gap is inside of. -/
inductive GapState where
  | between
  | lineComment
  | blockComment
  deriving DecidableEq, Repr

/-- Splits a text after the gap that it starts with, from inside the given part of a gap. -/
def splitGapFrom : GapState → List Char → List Char × List Char
  | _, [] => ([], [])
  | .between, '/' :: '/' :: rest =>
    let (gap, after) := splitGapFrom .lineComment rest
    ('/' :: '/' :: gap, after)
  | .between, '/' :: '*' :: rest =>
    let (gap, after) := splitGapFrom .blockComment rest
    ('/' :: '*' :: gap, after)
  | .between, c :: rest =>
    if isBlank c then
      let (gap, after) := splitGapFrom .between rest
      (c :: gap, after)
    else ([], c :: rest)
  | .lineComment, c :: rest =>
    let (gap, after) := splitGapFrom (if c = '\n' then .between else .lineComment) rest
    (c :: gap, after)
  | .blockComment, '*' :: '/' :: rest =>
    let (gap, after) := splitGapFrom .between rest
    ('*' :: '/' :: gap, after)
  | .blockComment, c :: rest =>
    let (gap, after) := splitGapFrom .blockComment rest
    (c :: gap, after)

/-- Splits a text after the gap that it starts with. -/
def splitGap (text : List Char) : List Char × List Char :=
  splitGapFrom .between text

theorem splitGapFrom_append (state : GapState) (text : List Char) :
    (splitGapFrom state text).1 ++ (splitGapFrom state text).2 = text := by
  fun_induction splitGapFrom state text <;> simp_all

@[simp] theorem splitGap_append (text : List Char) :
    (splitGap text).1 ++ (splitGap text).2 = text :=
  splitGapFrom_append .between text

theorem length_splitGap_snd_le (text : List Char) : (splitGap text).2.length ≤ text.length := by
  have h := congrArg List.length (splitGap_append text)
  simp only [List.length_append] at h
  omega

end DeclLang.Source
