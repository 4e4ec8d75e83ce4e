import DeclLang.Diagnostic.Basic
import DeclLang.Log.Basic
import DeclLang.Source.Segment

/-!
The tokens and lexical diagnostics of a source text. Segments are laid out one after the other, so
each item has the line and the offset of its first character; items that are tokens make the token
list, the others make the diagnostics, and the closing token stands where reading ended.
-/

set_option autoImplicit false

namespace DeclLang.Source

/-- A place in a text: its line, counted from one, and its offset, counted from zero. -/
structure Place where
  line : Nat
  offset : Nat
  deriving DecidableEq, Repr

namespace Place

def start : Place := ⟨1, 0⟩

/-- The place behind some more text; only newlines begin a new line. -/
def advance (p : Place) (text : List Char) : Place :=
  ⟨p.line + text.count '\n', p.offset + text.length⟩

@[simp] theorem advance_nil (p : Place) : p.advance [] = p := rfl

@[simp] theorem advance_append (p : Place) (front back : List Char) :
    p.advance (front ++ back) = (p.advance front).advance back := by
  simp [advance, List.count_append, Nat.add_assoc]

end Place

/-- An item with the place of its first character. -/
structure Located where
  place : Place
  item : List Char
  finding : Finding
  deriving DecidableEq, Repr

namespace Located

def token? (i : Located) : Option Token :=
  match i.finding with
  | .token kind => some ⟨kind, String.ofList i.item, i.place.line⟩
  | .fault _ => none

def diagnostic? (i : Located) : Option Diagnostic :=
  match i.finding with
  | .token _ => none
  | .fault fault => some ⟨.lexical, i.place.line, fault.message⟩

def failedLookUp? (i : Located) : Option Nat :=
  match i.finding with
  | .fault (.lookUpFailed _) => some i.place.offset
  | _ => none

end Located

/-- The items of segments that are laid out from the given place on. -/
def locate : Place → List Segment → List Located
  | _, [] => []
  | p, s :: rest =>
    ⟨p.advance s.gap, s.item, s.finding⟩ :: locate (p.advance s.text) rest

structure Scan where
  tokens : List Token
  errors : List Diagnostic
  /-- The offsets of the words whose look-up among the type names failed. -/
  failedLookUps : List Nat
  deriving DecidableEq, Repr

def Scan.ok (s : Scan) : Bool :=
  s.errors.isEmpty

def Segmentation.toScan (s : Segmentation) : Scan :=
  let items := locate .start s.segments
  { tokens := items.filterMap Located.token? ++ [.endAt (Place.start.advance s.text).line]
    errors := items.filterMap Located.diagnostic?
    failedLookUps := items.filterMap Located.failedLookUp? }

def scan (settings : Settings) (source : String) : Scan :=
  (segment settings source.toList).toScan

def Scan.log (s : Scan) : List Log.Record :=
  s.failedLookUps.map (fun offset =>
    ⟨.error, "Scanner failure at offset " ++ toString offset⟩) ++
  [⟨.debug, "Lexed " ++ toString s.tokens.length ++ " token(s) with " ++
    toString s.errors.length ++ " error(s)"⟩]

@[simp] theorem length_locate (p : Place) (segments : List Segment) :
    (locate p segments).length = segments.length := by
  induction segments generalizing p with
  | nil => rfl
  | cons s segments ih => simp [locate, ih]

theorem map_finding_locate (p : Place) (segments : List Segment) :
    (locate p segments).map Located.finding = segments.map Segment.finding := by
  induction segments generalizing p with
  | nil => rfl
  | cons s segments ih => rw [locate, List.map_cons, List.map_cons, ih]

/-- Laying segments out in two parts is laying them out at once. -/
theorem locate_append (p : Place) (front back : List Segment) :
    locate p (front ++ back) =
      locate p front ++ locate (p.advance (front.flatMap Segment.text)) back := by
  induction front generalizing p with
  | nil => rfl
  | cons s front ih => simp [locate, ih]

end DeclLang.Source
