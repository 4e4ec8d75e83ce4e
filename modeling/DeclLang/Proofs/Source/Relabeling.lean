import DeclLang.Proofs.Source.FindingMap
import Mathlib.Data.List.Forall2

/-!
# Type names only label words

Words are split off before they are looked up, so which words are type names decides what kinds the
words have and nothing else: not where an item ends, nor what is reported, nor where reading stops.
The names that no variable may have are never looked up in a scan.

All of this is about look-ups that do not fail; a failing one takes the token of its word away.
-/

set_option autoImplicit false

namespace DeclLang

open Source

/-- Whether a text that is an item or a lexeme is a word, by its first character. -/
def Source.beginsWord (text : List Char) : Bool :=
  text.head?.any isWordStart

def Token.startsWord (t : Token) : Bool :=
  beginsWord t.lexeme.toList

/-- The kind that a word has: type names come before boolean literals. -/
def wordKind (settings : Settings) (word : String) : Token.Kind :=
  if word ∈ settings.typeNames then .typeName
  else if word = "true" ∨ word = "false" then .literal .boolean
  else .identifier

/-- The token that stands under other settings where the given one stands. -/
def Token.relabel (settings : Settings) (t : Token) : Token :=
  if t.startsWord then { t with kind := wordKind settings t.lexeme } else t

/-- Two tokens are the same except that words have the kinds that two settings give them. -/
structure Token.AlikeUnder (a b : Settings) (s t : Token) : Prop where
  lexeme_eq : s.lexeme = t.lexeme
  line_eq : s.line = t.line
  kind_of_word : s.startsWord = true →
    s.kind = wordKind a s.lexeme ∧ t.kind = wordKind b t.lexeme
  kind_eq : s.startsWord = false → s.kind = t.kind

theorem alikeUnder_relabel {a b : Settings} {t : Token} (h : t.relabel a = t) :
    t.AlikeUnder a b (t.relabel b) := by
  unfold Token.relabel at h ⊢
  cases hword : t.startsWord with
  | false => exact ⟨rfl, rfl, fun hyes => absurd (hword.symm.trans hyes) (by decide), fun _ => rfl⟩
  | true =>
    rw [if_pos hword] at h
    have hkind : t.kind = wordKind a t.lexeme := (congrArg Token.kind h).symm
    exact ⟨rfl, rfl, fun _ => ⟨hkind, rfl⟩, fun hno => absurd (hword.symm.trans hno) (by decide)⟩

namespace Source

variable {settings a b : Settings}

/-- What an item is found to be under other settings. -/
def Finding.relabel (settings : Settings) (item : List Char) : Finding → Finding
  | .token kind =>
    .token (if beginsWord item then wordKind settings (String.ofList item) else kind)
  | .fault cause => .fault cause

/-! ### One item -/

theorem wordFinding_eq (h : settings.failingWords = []) (word : String) :
    wordFinding settings word = .token (wordKind settings word) := by
  rw [wordFinding, Settings.lookUpType_of_failingWords_eq_nil h, wordKind]
  by_cases hword : word ∈ settings.typeNames
  · rw [if_pos hword, decide_eq_true hword]
  · rw [if_neg hword, decide_eq_false hword]
    simp [booleanWords]

theorem head?_item_scanItem (settings : Settings) (first : Char) (rest : List Char) :
    (scanItem settings first rest).item.head? = some first := by
  obtain ⟨c, item, hitem⟩ := List.exists_cons_of_ne_nil (scanItem_item_ne_nil settings first rest)
  have happ := scanItem_append settings first rest
  rw [hitem, List.cons_append] at happ
  rw [hitem, (List.cons.inj happ).1]
  rfl

theorem beginsWord_item_scanItem (settings : Settings) (first : Char) (rest : List Char) :
    beginsWord (scanItem settings first rest).item = isWordStart first := by
  rw [beginsWord, head?_item_scanItem]
  rfl

theorem scanItem_of_not_isWordStart {first : Char} (h : isWordStart first = false)
    (rest : List Char) : scanItem b first rest = scanItem a first rest := by
  unfold scanItem
  rw [h]
  rfl

/-- Type names change the kind of an item that is a word, and of no other. -/
theorem scanItem_relabel (ha : a.failingWords = []) (hb : b.failingWords = []) (first : Char)
    (rest : List Char) :
    scanItem b first rest = (scanItem a first rest).mapFinding (Finding.relabel b) := by
  have hbegins := beginsWord_item_scanItem a first rest
  cases hword : isWordStart first with
  | true =>
    rw [hword, scanItem, if_pos hword, scanWord, wordFinding_eq ha] at hbegins
    rw [scanItem, scanItem, if_pos hword, if_pos hword, scanWord, scanWord, wordFinding_eq ha,
      wordFinding_eq hb, Scanned.mapFinding, Finding.relabel, if_pos hbegins]
  | false =>
    rw [hword] at hbegins
    rw [scanItem_of_not_isWordStart (a := a) hword]
    generalize scanItem a first rest = s at hbegins
    obtain ⟨item, finding, after⟩ := s
    cases finding with
    | fault cause => rfl
    | token kind =>
      have hno : ¬ beginsWord item = true := by simpa using hbegins
      simp only [Scanned.mapFinding, Finding.relabel, if_neg hno]

/-! ### Whole texts -/

theorem segment_relabel (ha : a.failingWords = []) (hb : b.failingWords = [])
    (hstop : a.stopOnFirstError = b.stopOnFirstError) (text : List Char) :
    segment b text = (segment a text).mapFinding (Finding.relabel b) := by
  apply segment_mapFinding (scanItem_relabel ha hb)
  intro item finding
  rw [endsReading, endsReading, hstop]
  cases finding <;> rfl

theorem token?_relabel (i : Located) :
    (i.mapFinding (Finding.relabel settings)).token? = i.token?.map (Token.relabel settings) := by
  obtain ⟨place, item, finding⟩ := i
  cases finding with
  | fault cause => rfl
  | token kind =>
    simp only [Located.mapFinding, Located.token?, Finding.relabel, Option.map_some, Token.relabel,
      Token.startsWord, String.toList_ofList]
    split <;> rfl

theorem diagnostic?_relabel (i : Located) :
    (i.mapFinding (Finding.relabel settings)).diagnostic? = i.diagnostic? := by
  obtain ⟨place, item, finding⟩ := i
  cases finding <;> rfl

theorem tokens_toScan_relabel (s : Segmentation) :
    (s.mapFinding (Finding.relabel settings)).toScan.tokens =
      s.toScan.tokens.map (Token.relabel settings) := by
  have hlast : ∀ line, Token.relabel settings (.endAt line) = .endAt line := fun line => rfl
  rw [tokens_toScan_mapFinding]
  simp only [token?_relabel, Segmentation.toScan, List.map_append, List.map_singleton, hlast,
    List.map_filterMap]

theorem errors_toScan_relabel (s : Segmentation) :
    (s.mapFinding (Finding.relabel settings)).toScan.errors = s.toScan.errors := by
  rw [errors_toScan_mapFinding]
  simp only [diagnostic?_relabel]
  rfl

theorem tokens_scan_relabel (ha : a.failingWords = []) (hb : b.failingWords = [])
    (hstop : a.stopOnFirstError = b.stopOnFirstError) (source : String) :
    (scan b source).tokens = (scan a source).tokens.map (Token.relabel b) := by
  rw [scan, segment_relabel ha hb hstop, tokens_toScan_relabel]
  rfl

theorem relabel_of_mem_tokens (ha : a.failingWords = []) {source : String} {t : Token}
    (ht : t ∈ (scan a source).tokens) : t.relabel a = t := by
  have hself : (scan a source).tokens.map (Token.relabel a) = (scan a source).tokens.map id := by
    rw [List.map_id, ← tokens_scan_relabel ha ha rfl]
  exact List.map_inj_left.mp hself t ht

theorem scan_reservedWords (settings : Settings) (words : List String) (source : String) :
    scan { settings with reservedWords := words } source = scan settings source := by
  have hsegment : segment { settings with reservedWords := words } source.toList =
      segment settings source.toList := by
    apply segment_congr
    · rfl
    · rfl
  exact congrArg Segmentation.toScan hsegment

/-- Scans under two settings without failing look-ups, both of which stop at the first error or
neither, report the same errors and give the same tokens, except that each word has the kind that
its settings give it. Reserved words are without influence under any settings. -/
theorem scan_relabeled (a b : Settings) (source : String) (ha : a.failingWords = [])
    (hb : b.failingWords = []) (hstop : a.stopOnFirstError = b.stopOnFirstError) :
    (scan a source).errors = (scan b source).errors ∧
      List.Forall₂ (Token.AlikeUnder a b) (scan a source).tokens (scan b source).tokens ∧
      ∀ (settings : Settings) (words : List String),
        scan { settings with reservedWords := words } source = scan settings source := by
  refine ⟨?_, ?_, fun settings words => scan_reservedWords settings words source⟩
  · rw [scan, scan, segment_relabel ha hb hstop, errors_toScan_relabel]
  · rw [tokens_scan_relabel ha hb hstop, List.forall₂_map_right_iff, List.forall₂_same]
    intro t ht
    exact alikeUnder_relabel (relabel_of_mem_tokens ha ht)

/-- A boolean literal and an identifier that are type names on one side, beside faults, a comment
and a string that hold the same letters. -/
theorem scan_relabeled_words :
    let a : Settings := { typeNames := ["true", "x"], reservedWords := [] }
    let b : Settings := {}
    let source := "int x = true, 1x; // x\n \"true\" 'int"
    a.failingWords = [] ∧ b.failingWords = [] ∧ a.stopOnFirstError = b.stopOnFirstError ∧
      (scan a source).errors = (scan b source).errors ∧
      List.Forall₂ (Token.AlikeUnder a b) (scan a source).tokens (scan b source).tokens ∧
      ∀ (settings : Settings) (words : List String),
        scan { settings with reservedWords := words } source = scan settings source := by
  intro a b source
  exact ⟨rfl, rfl, rfl, scan_relabeled a b source rfl rfl rfl⟩

end Source

end DeclLang
