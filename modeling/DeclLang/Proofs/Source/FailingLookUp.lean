import DeclLang.Proofs.Source.FindingMap
import DeclLang.Proofs.Source.Occurrence

/-!
# Failing look-ups stay with their words

A look-up among the type names that fails takes the token of its word away and puts one diagnostic
in its place. A word is split off before it is looked up, so the scans with and without failures go
through a text in step; digits, letters and quotes of other items are never looked up at all.

Scans that stop at the first error are not compared here, as a failure may be what stops them.
-/

set_option autoImplicit false

namespace DeclLang

/-- The settings under which the look-ups of the given words fail, each for its reason, and no
others. -/
def Settings.failing (settings : Settings) (words : List (String × String)) : Settings :=
  { settings with failingWords := words }

/-- Whether the tokens of a kind are words. -/
def Token.Kind.isWord : Token.Kind → Bool
  | .typeName | .identifier | .literal .boolean => true
  | _ => false

/-- The reason for which the look-up of a token fails, if it is a word and one of those given. -/
def Token.Kind.failure? (words : List (String × String)) (kind : Token.Kind) (lexeme : String) :
    Option String :=
  if kind.isWord then words.lookup lexeme else none

/-- The diagnostic that takes the place of a token whose look-up fails. -/
def Token.failure? (words : List (String × String)) (t : Token) : Option Diagnostic :=
  (t.kind.failure? words t.lexeme).map fun reason =>
    ⟨.lexical, t.line, "Lexical exception: " ++ reason⟩

namespace Source

variable {settings : Settings} {words : List (String × String)}

def Finding.isWord : Finding → Bool
  | .token kind => kind.isWord
  | .fault _ => false

/-- What an item is found to be when the look-ups of the given words fail. -/
def Finding.failing (words : List (String × String)) (item : List Char) : Finding → Finding
  | .fault cause => .fault cause
  | .token kind =>
    match kind.failure? words (String.ofList item) with
    | some reason => .fault (.lookUpFailed reason)
    | none => .token kind

def Scanned.failing (words : List (String × String)) (s : Scanned) : Scanned :=
  { s with finding := s.finding.failing words s.item }

def Segment.failing (words : List (String × String)) (s : Segment) : Segment :=
  { s with finding := s.finding.failing words s.item }

def Segmentation.failing (words : List (String × String)) (s : Segmentation) : Segmentation :=
  { s with segments := s.segments.map (Segment.failing words) }

def Located.failing (words : List (String × String)) (i : Located) : Located :=
  { i with finding := i.finding.failing words i.item }

/-! ### One item -/

theorem failing_of_isWord_eq_false {s : Scanned} (h : s.finding.isWord = false) :
    s.failing words = s := by
  obtain ⟨item, finding, rest⟩ := s
  cases finding with
  | fault fault => rfl
  | token kind =>
    have hnone : kind.failure? words (String.ofList item) = none := by
      rw [Token.Kind.failure?, show kind.isWord = false from h, if_neg (by decide)]
    simp only [Scanned.failing, Finding.failing, hnone]

theorem lookUpType_failing_of_some {word reason : String}
    (h : words.lookup word = some reason) :
    (settings.failing words).lookUpType word = .error reason := by
  simp only [Settings.lookUpType, Settings.failing, h]

theorem lookUpType_failing_of_none {word : String} (h : words.lookup word = none) :
    (settings.failing words).lookUpType word = (settings.failing []).lookUpType word := by
  have hplain : (settings.failing []).lookUpType word =
      .ok (decide (word ∈ (settings.failing []).typeNames)) :=
    Settings.lookUpType_of_failingWords_eq_nil rfl word
  rw [hplain, Settings.lookUpType, show (settings.failing words).failingWords = words from rfl, h]
  rfl

theorem exists_wordFinding (settings : Settings) (word : String) :
    ∃ kind, kind.isWord = true ∧ wordFinding (settings.failing []) word = .token kind := by
  rw [wordFinding, Settings.lookUpType_of_failingWords_eq_nil rfl]
  cases decide (word ∈ (settings.failing []).typeNames) with
  | true => exact ⟨.typeName, rfl, rfl⟩
  | false =>
    refine ⟨_, ?_, rfl⟩
    split <;> rfl

/-- A word is what it would be without failures, unless its own look-up fails. -/
theorem wordFinding_failing (settings : Settings) (word : List Char) :
    wordFinding (settings.failing words) (String.ofList word) =
      (wordFinding (settings.failing []) (String.ofList word)).failing words word := by
  obtain ⟨kind, hword, hkind⟩ := exists_wordFinding settings (String.ofList word)
  have hfailure : kind.failure? words (String.ofList word) = words.lookup (String.ofList word) :=
    if_pos hword
  cases hlookup : words.lookup (String.ofList word) with
  | some reason =>
    rw [wordFinding, lookUpType_failing_of_some hlookup, hkind]
    simp only [Finding.failing, hfailure, hlookup]
  | none =>
    rw [wordFinding, lookUpType_failing_of_none hlookup, ← wordFinding, hkind]
    simp only [Finding.failing, hfailure, hlookup]

theorem scanWord_failing (settings : Settings) (text : List Char) :
    scanWord (settings.failing words) text =
      (scanWord (settings.failing []) text).failing words := by
  rw [scanWord, wordFinding_failing]
  rfl

theorem isWord_plainKind (number : List Char) :
    (Finding.token (.literal (plainKind number))).isWord = false := by
  rw [plainKind]
  split <;> rfl

theorem isWord_suffixFinding {number : List Char} {c : Char} {kind : LiteralKind}
    (h : suffixKind c = some kind) : (suffixFinding number c kind).isWord = false := by
  rw [suffixFinding]
  split
  · rfl
  · rcases suffixKind_eq_some_iff.mp h with ⟨rfl, _⟩ | ⟨rfl, _⟩ | ⟨rfl, _⟩ <;> rfl

theorem isWord_scanNumber (text : List Char) : (scanNumber text).finding.isWord = false := by
  rw [scanNumber]
  cases hrest : (splitNumber text).2 with
  | nil => exact isWord_plainKind _
  | cons c rest =>
    cases hsuffix : suffixKind c with
    | some kind =>
      simp only [finishNumber, hsuffix]
      exact isWord_suffixFinding hsuffix
    | none =>
      simp only [finishNumber, hsuffix]
      split
      · rfl
      · exact isWord_plainKind _

theorem isWord_scanString (text : List Char) : (scanString text).finding.isWord = false := by
  unfold scanString
  dsimp only
  split <;> rfl

theorem isWord_scanCharacter (text : List Char) :
    (scanCharacter text).finding.isWord = false := by
  unfold scanCharacter
  dsimp only
  split
  · dsimp only
    split <;> rfl
  · rfl
  · rfl

theorem isWord_markFinding (c : Char) : (markFinding c).isWord = false := by
  unfold markFinding punctuationKind
  split
  · rename_i kind hkind
    split at hkind <;> cases hkind <;> rfl
  · rfl

/-- Failures change what an item is found to be, and never where it ends. -/
theorem scanItem_failing (settings : Settings) (first : Char) (rest : List Char) :
    scanItem (settings.failing words) first rest =
      (scanItem (settings.failing []) first rest).failing words := by
  simp only [scanItem]
  split
  · exact scanWord_failing settings _
  · split
    · exact (failing_of_isWord_eq_false (isWord_scanNumber _)).symm
    · split
      · exact (failing_of_isWord_eq_false (isWord_scanString rest)).symm
      · split
        · exact (failing_of_isWord_eq_false (isWord_scanCharacter rest)).symm
        · have hmark : (Scanned.mk [first] (markFinding first) rest).finding.isWord = false :=
            isWord_markFinding first
          exact (failing_of_isWord_eq_false hmark).symm

/-! ### Whole texts -/

theorem segment_failing (hstop : settings.stopOnFirstError = false) (text : List Char) :
    segment (settings.failing words) text =
      (segment (settings.failing []) text).failing words := by
  have hgo : ∀ words finding, endsReading (settings.failing words) finding = false := by
    intro words finding
    simp [endsReading, Settings.failing, hstop]
  apply segment_mapFinding (scanItem_failing settings)
  intro item finding
  rw [hgo, hgo]

/-! ### Tokens and diagnostics -/

/-- A failing look-up takes the token of its word away and reports in its place. -/
theorem reports_failing (i : Located) :
    (i.failing words).token? = i.token?.filter (fun t => (t.failure? words).isNone) ∧
      (i.failing words).diagnostic? = i.diagnostic?.or (i.token?.bind (Token.failure? words)) := by
  obtain ⟨place, item, finding⟩ := i
  cases finding with
  | fault fault => exact ⟨rfl, rfl⟩
  | token kind =>
    let i : Located := ⟨place, item, .token kind⟩
    let t : Token := ⟨kind, String.ofList item, place.line⟩
    have htoken : i.token? = some t := rfl
    have hfailure : t.failure? words = (kind.failure? words (String.ofList item)).map
        fun reason => ⟨.lexical, place.line, (LexicalFault.lookUpFailed reason).message⟩ := rfl
    change (i.failing words).token? = i.token?.filter _ ∧
      (i.failing words).diagnostic? = i.diagnostic?.or (i.token?.bind _)
    rw [htoken, Option.filter_some, Option.bind_some]
    cases hreason : kind.failure? words (String.ofList item) with
    | none =>
      rw [hreason] at hfailure
      have hkeep : i.failing words = i := by
        simp only [i, Located.failing, Finding.failing, hreason]
      rw [hfailure, hkeep]
      exact ⟨rfl, rfl⟩
    | some reason =>
      rw [hreason] at hfailure
      have hfail : i.failing words = ⟨place, item, .fault (.lookUpFailed reason)⟩ := by
        simp only [i, Located.failing, Finding.failing, hreason]
      rw [hfailure, hfail]
      exact ⟨rfl, rfl⟩

theorem tokens_toScan_failing (s : Segmentation) :
    (s.failing words).toScan.tokens =
      s.toScan.tokens.filter fun t => (t.failure? words).isNone := by
  have hlast : ∀ line, ((Token.endAt line).failure? words).isNone = true := fun line => rfl
  have htoken : ∀ i : Located, (i.mapFinding (Finding.failing words)).token? =
      i.token?.filter fun t => (t.failure? words).isNone := fun i => (reports_failing i).1
  have hmap := tokens_toScan_mapFinding (f := Finding.failing words) s
  simp only [htoken] at hmap
  refine hmap.trans ?_
  rw [Segmentation.toScan, List.filter_append, List.filter_filterMap, List.filter_singleton, hlast]
  rfl

theorem errors_toScan_failing {s : Segmentation} {items : List Occurrence}
    (hlocate : locate .start s.segments = items.map Occurrence.located) :
    (s.failing words).toScan.errors =
      items.filterMap fun o => o.diagnostic?.or (o.token?.bind (Token.failure? words)) := by
  have hmap := errors_toScan_mapFinding (f := Finding.failing words) s
  rw [hlocate, List.filterMap_map] at hmap
  refine hmap.trans ?_
  congr 1
  funext o
  have htoken : o.located.token? = o.token? := congrFun token?_comp_located o
  have hdiagnostic : o.located.diagnostic? = o.diagnostic? := congrFun diagnostic?_comp_located o
  rw [← htoken, ← hdiagnostic]
  exact (reports_failing o.located).2

/-- Failing look-ups stay with their words. Of the tokens of a scan without failures, those whose
look-ups fail are missing, and in the places of these items stand diagnostics with the reasons; all
other items are reported as they are without failures. -/
theorem scan_failing (settings : Settings) (words : List (String × String)) (source : String)
    (hstop : settings.stopOnFirstError = false) :
    let plain := scan (settings.failing []) source
    let failing := scan (settings.failing words) source
    failing.tokens = plain.tokens.filter (fun t => (t.failure? words).isNone) ∧
      ∃ items, ScansAs (settings.failing []) source items ∧
        plain.errors = items.filterMap Occurrence.diagnostic? ∧
        failing.errors = items.filterMap fun o =>
          o.diagnostic?.or (o.token?.bind (Token.failure? words)) := by
  intro plain failing
  obtain ⟨items, hscan, hlocate⟩ := exists_scansAs (settings.failing []) source
  have hfailing : failing = ((segment (settings.failing []) source.toList).failing words).toScan :=
    congrArg Segmentation.toScan (segment_failing hstop source.toList)
  rw [hfailing]
  exact ⟨tokens_toScan_failing _, items, hscan, hscan.errors_eq, errors_toScan_failing hlocate⟩

/-- Failing words next to the same letters behind digits, in a comment, in a string and in a
character literal that is left open. -/
theorem scan_failing_words :
    let settings : Settings := {}
    let words : List (String × String) :=
      [("a", "no entry"), ("int", "closed"), ("true", "no entry")]
    let source := "int a = 1a; // a\n short b = true, c = \"a\"; 'int"
    settings.stopOnFirstError = false ∧
      let plain := scan (settings.failing []) source
      let failing := scan (settings.failing words) source
      failing.tokens = plain.tokens.filter (fun t => (t.failure? words).isNone) ∧
        ∃ items, ScansAs (settings.failing []) source items ∧
          plain.errors = items.filterMap Occurrence.diagnostic? ∧
          failing.errors = items.filterMap fun o =>
            o.diagnostic?.or (o.token?.bind (Token.failure? words)) := by
  intro settings words source
  exact ⟨rfl, scan_failing settings words source rfl⟩

end Source

end DeclLang
