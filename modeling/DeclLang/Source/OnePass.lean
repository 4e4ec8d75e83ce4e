import DeclLang.Source.Scan

/-!
A scan in one pass, by a reader that keeps the number of its line and never looks back at what it
has read. It moves the number on at each newline of a gap and behind a character literal that a
newline ends early; no other item moves it. An item is reported with the number that the reader has
at the item's first character.

That these numbers are those of the lines is nothing that the reader checks.
-/

set_option autoImplicit false

namespace DeclLang.Source

open Text

def lineBehindChar (line : Nat) (c : Char) : Nat :=
  if c = '\n' then line + 1 else line

/-- The line number behind the gap that a text starts with, from inside the given part of a gap. -/
def lineBehindGap : GapState → Nat → List Char → Nat
  | _, line, [] => line
  | .between, line, '/' :: '/' :: rest => lineBehindGap .lineComment line rest
  | .between, line, '/' :: '*' :: rest => lineBehindGap .blockComment line rest
  | .between, line, c :: rest =>
    if isBlank c then lineBehindGap .between (lineBehindChar line c) rest else line
  | .lineComment, line, c :: rest =>
    if c = '\n' then lineBehindGap .between (line + 1) rest
    else lineBehindGap .lineComment line rest
  | .blockComment, line, '*' :: '/' :: rest => lineBehindGap .between line rest
  | .blockComment, line, c :: rest => lineBehindGap .blockComment (lineBehindChar line c) rest

/-- The line number behind an item that starts on the given line. -/
def lineBehindItem (line : Nat) : Finding → Nat
  | .fault .newlineInChar => line + 1
  | _ => line

/-- What a reader has on its way: the number of its line and what it has reported. -/
structure Pass where
  line : Nat
  tokens : List Token
  errors : List Diagnostic
  deriving DecidableEq, Repr

namespace Pass

def start : Pass := ⟨1, [], []⟩

def skipGap (p : Pass) (text : List Char) : Pass :=
  { p with line := lineBehindGap .between p.line text }

/-- Reports an item at the line that the reader is on. -/
def report (p : Pass) (item : List Char) : Finding → Pass
  | .token kind => { p with tokens := p.tokens ++ [⟨kind, String.ofList item, p.line⟩] }
  | .fault fault => { p with errors := p.errors ++ [⟨.lexical, p.line, fault.message⟩] }

def takeItem (p : Pass) (scanned : Scanned) : Pass :=
  { p.report scanned.item scanned.finding with
    line := lineBehindItem p.line scanned.finding }

def close (p : Pass) : Pass :=
  { p with tokens := p.tokens ++ [.endAt p.line] }

def stops (settings : Settings) (p : Pass) : Bool :=
  settings.stopOnFirstError && !p.errors.isEmpty

/-- Reads a text to its end, or to the first problem where the settings ask for that. -/
def read (settings : Settings) (p : Pass) (text : List Char) : Pass :=
  match _hsplit : (splitGap text).2 with
  | [] => (p.skipGap text).close
  | first :: rest =>
    let scanned := scanItem settings first rest
    let next := (p.skipGap text).takeItem scanned
    if next.stops settings then next.close else next.read settings scanned.rest
termination_by text.length
decreasing_by
  have hgap := length_splitGap_snd_le text
  rw [_hsplit] at hgap
  exact Nat.lt_of_lt_of_le (length_scanItem_rest_lt settings first rest) hgap

theorem read_of_splitGap_nil {settings : Settings} {p : Pass} {text gap : List Char}
    (h : splitGap text = (gap, [])) : p.read settings text = (p.skipGap text).close := by
  rw [read]
  split
  · rfl
  · rename_i heq
    rw [h] at heq
    cases heq

theorem read_of_splitGap_cons {settings : Settings} {p : Pass} {text gap rest : List Char}
    {first : Char} (h : splitGap text = (gap, first :: rest)) :
    p.read settings text =
      if ((p.skipGap text).takeItem (scanItem settings first rest)).stops settings then
        ((p.skipGap text).takeItem (scanItem settings first rest)).close
      else ((p.skipGap text).takeItem (scanItem settings first rest)).read settings
        (scanItem settings first rest).rest := by
  rw [read]
  split
  · rename_i heq
    rw [h] at heq
    cases heq
  · rename_i heq
    rw [h] at heq
    cases heq
    rfl

end Pass

def scanOnePass (settings : Settings) (source : String) : Pass :=
  Pass.start.read settings source.toList

end DeclLang.Source
