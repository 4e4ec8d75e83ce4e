import DeclLang.Proofs.Source.Account

/-!
# The items of a text in their places

A text is read from gap to item and from item to gap, to its end or to the first faulty item where
the settings ask for that. `Reads` says so of a text and the items in it, each with what stands
before and behind it, and mentions neither lines nor tokens. Every scan follows such a reading, so
where an item stands in the text is all that its tokens and diagnostics can depend on.
-/

set_option autoImplicit false

namespace DeclLang.Source

/-- What a scan reports of an item, a token or a diagnostic, with what it takes up for the item and
what it leaves. -/
structure Reported where
  item : List Char
  token? : Option Token
  diagnostic? : Option Diagnostic
  rest : List Char
  deriving DecidableEq, Repr

/-- A token on a line, whose text is the item. -/
def Reported.token (kind : Token.Kind) (line : Nat) (item rest : List Char) : Reported :=
  ⟨item, some ⟨kind, String.ofList item, line⟩, none, rest⟩

/-- A lexical diagnostic on a line in place of the item. -/
def Reported.error (message : String) (line : Nat) (item rest : List Char) : Reported :=
  ⟨item, none, some ⟨.lexical, line, message⟩, rest⟩

/-- What is reported of an item that was split off on a line. -/
def Scanned.reported (line : Nat) (s : Scanned) : Reported :=
  match s.finding with
  | .token kind => .token kind line s.item s.rest
  | .fault fault => .error fault.message line s.item s.rest

/-- An item in its place: what stands before it, what it is and what stands behind it. -/
structure Occurrence where
  before : List Char
  item : List Char
  finding : Finding
  after : List Char
  deriving DecidableEq, Repr

namespace Occurrence

/-- Whether an item is one of the given text, by the grammars. -/
structure InText (o : Occurrence) (settings : Settings) (text : List Char) : Prop where
  text_eq : o.before ++ o.item ++ o.after = text
  item_ne_nil : o.item ≠ []
  isItem : IsItem settings o.finding o.item o.after

/-- The line of an item's first character. -/
def line (o : Occurrence) : Nat :=
  1 + o.before.count '\n'

def token? (o : Occurrence) : Option Token :=
  match o.finding with
  | .token kind => some ⟨kind, String.ofList o.item, o.line⟩
  | .fault _ => none

def diagnostic? (o : Occurrence) : Option Diagnostic :=
  match o.finding with
  | .token _ => none
  | .fault fault => some ⟨.lexical, o.line, fault.message⟩

def located (o : Occurrence) : Located :=
  ⟨Place.start.advance o.before, o.item, o.finding⟩

/-- An item as it was split off the text that begins with it. -/
def scanned (o : Occurrence) : Scanned :=
  ⟨o.item, o.finding, o.after⟩

/-- Whether an item is the one that the text from its place on is scanned for. -/
def IsScanned (o : Occurrence) (settings : Settings) : Prop :=
  ∃ first rest, o.item ++ o.after = first :: rest ∧ scanItem settings first rest = o.scanned

/-- What is reported of an item, with the item and what stands behind it. -/
def reported (o : Occurrence) : Reported :=
  ⟨o.item, o.token?, o.diagnostic?, o.after⟩

theorem token?_eq_some_iff {o : Occurrence} {t : Token} :
    o.token? = some t ↔
      ∃ kind, o.finding = .token kind ∧ ⟨kind, String.ofList o.item, o.line⟩ = t := by
  unfold token?
  cases o.finding <;> simp

theorem diagnostic?_eq_some_iff {o : Occurrence} {d : Diagnostic} :
    o.diagnostic? = some d ↔
      ∃ fault, o.finding = .fault fault ∧ ⟨.lexical, o.line, fault.message⟩ = d := by
  unfold diagnostic?
  cases o.finding <;> simp

theorem reported_scanned (o : Occurrence) : o.scanned.reported o.line = o.reported := by
  simp only [Scanned.reported, reported, token?, diagnostic?, scanned]
  cases o.finding <;> rfl

end Occurrence

/-- In a text, behind the characters `before`, some items are read, one behind the other with closed
gaps between them, and reading ends behind the characters `consumed`. -/
inductive Reads (settings : Settings) (text : List Char) :
    List Char → List Occurrence → List Char → Prop where
  | done {before gap : List Char} : IsGap gap → before ++ gap = text →
      Reads settings text before [] text
  | stop {before gap : List Char} {o : Occurrence} : ClosedGap gap → o.before = before ++ gap →
      o.InText settings text → endsReading settings o.finding = true →
      Reads settings text before [o] (o.before ++ o.item)
  | more {before gap consumed : List Char} {o : Occurrence} {items : List Occurrence} :
      ClosedGap gap → o.before = before ++ gap → o.InText settings text →
      endsReading settings o.finding = false →
      Reads settings text (o.before ++ o.item) items consumed →
      Reads settings text before (o :: items) consumed

variable {settings : Settings} {text before consumed : List Char} {items : List Occurrence}

theorem Reads.inText (h : Reads settings text before items consumed) :
    ∀ o ∈ items, o.InText settings text := by
  induction h with
  | done _ _ => simp
  | stop _ _ ho _ =>
    intro o' ho'
    obtain rfl := List.mem_singleton.mp ho'
    exact ho
  | more _ _ ho _ _ ih =>
    intro o' ho'
    rcases List.mem_cons.mp ho' with rfl | ho'
    · exact ho
    · exact ih o' ho'

theorem endsReading_eq_true_iff {finding : Finding} :
    endsReading settings finding = true ↔
      settings.stopOnFirstError = true ∧ finding.isFault = true := by
  simp [endsReading]

/-- Reading leaves a part of the text over only behind a faulty item, and only if it may. -/
theorem Reads.exists_unread (h : Reads settings text before items consumed) :
    ∃ unread, consumed ++ unread = text ∧
      (unread ≠ [] → settings.stopOnFirstError = true ∧
        ∃ o ∈ items, o.finding.isFault = true) := by
  induction h with
  | done _ _ => exact ⟨[], List.append_nil _, fun h => absurd rfl h⟩
  | @stop _ _ o _ _ ho hend =>
    obtain ⟨hstop, hfault⟩ := endsReading_eq_true_iff.mp hend
    exact ⟨o.after, ho.text_eq, fun _ => ⟨hstop, o, List.mem_singleton_self o, hfault⟩⟩
  | more _ _ _ _ _ ih =>
    obtain ⟨unread, htext, hunread⟩ := ih
    refine ⟨unread, htext, ?_⟩
    intro hne
    obtain ⟨hstop, o, ho, hfault⟩ := hunread hne
    exact ⟨hstop, o, List.mem_cons_of_mem _ ho, hfault⟩

/-- The segments of what stands behind some characters are read there, each item in its place. -/
theorem exists_reads_scanned (settings : Settings) {text before rest : List Char}
    (h : before ++ rest = text) :
    ∃ items, Reads settings text before items (before ++ (segment settings rest).text) ∧
      locate (Place.start.advance before) (segment settings rest).segments =
        items.map Occurrence.located ∧
      ∀ o ∈ items, o.IsScanned settings := by
  induction rest using segment_induction settings generalizing before with
  | last rest gap hs =>
    have happ := append_of_splitGap hs
    rw [List.append_nil] at happ
    subst happ
    rw [segment_of_splitGap_nil hs]
    refine ⟨[], ?_, rfl, by simp⟩
    have hdone : Reads settings text before [] text := Reads.done (isGap_of_splitGap hs) h
    rw [← h] at hdone ⊢
    exact hdone
  | item rest gap first tail hs ih =>
    have happ := append_of_splitGap hs
    have hscan := scanItem_append settings first tail
    have hclosed : ClosedGap gap := closedGap_of_splitGap hs (by simp)
    let o : Occurrence :=
      ⟨before ++ gap, (scanItem settings first tail).item,
        (scanItem settings first tail).finding, (scanItem settings first tail).rest⟩
    have htext : o.before ++ o.item ++ o.after = text := by
      rw [← h, ← happ, ← hscan]
      simp only [o, List.append_assoc]
    have ho : o.InText settings text :=
      ⟨htext, scanItem_item_ne_nil settings first tail, isItem_scanItem settings hs⟩
    have hscanned : o.IsScanned settings := ⟨first, tail, hscan, rfl⟩
    rw [segment_of_splitGap_cons hs]
    cases hend : endsReading settings (scanItem settings first tail).finding with
    | true =>
      refine ⟨[o], ?_, ?_, ?_⟩
      · have hstop := Reads.stop hclosed rfl ho hend
        simpa [Segmentation.text, Segment.text, o] using hstop
      · simp [locate, Occurrence.located, o]
      · intro p hp
        obtain rfl := List.mem_singleton.mp hp
        exact hscanned
    | false =>
      obtain ⟨items, hreads, hlocate, hitems⟩ := ih htext
      refine ⟨o :: items, ?_, ?_, ?_⟩
      · have hmore := Reads.more hclosed rfl ho hend hreads
        simpa [Segment.text, o] using hmore
      · have hplace : Place.start.advance (o.before ++ o.item) =
            (Place.start.advance before).advance (gap ++ o.item) := by
          simp [o]
        rw [hplace] at hlocate
        simp only [Bool.false_eq_true, if_false, Segmentation.cons, locate, List.map_cons,
          Segment.text]
        rw [show (scanItem settings first tail).item = o.item from rfl,
          show (scanItem settings first tail).rest = o.after from rfl, hlocate]
        simp [Occurrence.located, o]
      · intro p hp
        rcases List.mem_cons.mp hp with rfl | hp
        · exact hscanned
        · exact hitems p hp

theorem exists_reads_segment (settings : Settings) {text before rest : List Char}
    (h : before ++ rest = text) :
    ∃ items, Reads settings text before items (before ++ (segment settings rest).text) ∧
      locate (Place.start.advance before) (segment settings rest).segments =
        items.map Occurrence.located := by
  obtain ⟨items, hreads, hlocate, _⟩ := exists_reads_scanned settings h
  exact ⟨items, hreads, hlocate⟩

theorem token?_comp_located : Located.token? ∘ Occurrence.located = Occurrence.token? := by
  funext o
  simp only [Function.comp, Located.token?, Occurrence.token?, Occurrence.located]
  rfl

theorem diagnostic?_comp_located :
    Located.diagnostic? ∘ Occurrence.located = Occurrence.diagnostic? := by
  funext o
  simp only [Function.comp, Located.diagnostic?, Occurrence.diagnostic?, Occurrence.located]
  rfl

/-- What is reported of segments, by the items that they are laid out as. -/
theorem toScan_of_locate {s : Segmentation}
    (hlocate : locate .start s.segments = items.map Occurrence.located) :
    s.toScan.tokens = items.filterMap Occurrence.token? ++
        [.endAt (Place.start.advance s.text).line] ∧
      s.toScan.errors = items.filterMap Occurrence.diagnostic? := by
  constructor
  · change (locate .start s.segments).filterMap Located.token? ++ _ = _
    rw [hlocate, List.filterMap_map, token?_comp_located]
  · change (locate .start s.segments).filterMap Located.diagnostic? = _
    rw [hlocate, List.filterMap_map, diagnostic?_comp_located]

/-- The items of a source, each in its place, that a scan takes up and reports one by one. -/
structure ScansAs (settings : Settings) (source : String) (items : List Occurrence) : Prop where
  reads : Reads settings source.toList [] items (segment settings source.toList).text
  tokens_eq : (scan settings source).tokens = items.filterMap Occurrence.token? ++
    [.endAt (1 + (segment settings source.toList).text.count '\n' : Nat)]
  errors_eq : (scan settings source).errors = items.filterMap Occurrence.diagnostic?
  isScanned : ∀ o ∈ items, o.IsScanned settings

/-- The items of a scan, which are those that its segments are laid out as. -/
theorem exists_scansAs (settings : Settings) (source : String) :
    ∃ items, ScansAs settings source items ∧
      locate .start (segment settings source.toList).segments =
        items.map Occurrence.located := by
  obtain ⟨items, hreads, hlocate, hscanned⟩ :=
    exists_reads_scanned settings (List.nil_append source.toList)
  obtain ⟨htokens, herrors⟩ := toScan_of_locate hlocate
  exact ⟨items, ⟨hreads, htokens, herrors, hscanned⟩, hlocate⟩

/-- A scan reports the items of a reading of its text, in their order, each with the line that it
starts on, and closes on the line where reading ends. -/
theorem exists_reads_scan (settings : Settings) (source : String) :
    ∃ items, Reads settings source.toList [] items (segment settings source.toList).text ∧
      (scan settings source).tokens = items.filterMap Occurrence.token? ++
        [.endAt (1 + (segment settings source.toList).text.count '\n' : Nat)] ∧
      (scan settings source).errors = items.filterMap Occurrence.diagnostic? := by
  obtain ⟨items, hscan, _⟩ := exists_scansAs settings source
  exact ⟨items, hscan.reads, hscan.tokens_eq, hscan.errors_eq⟩

theorem exists_diagnostic?_of_isFault {o : Occurrence} (h : o.finding.isFault = true) :
    ∃ d, o.diagnostic? = some d := by
  cases hf : o.finding with
  | token kind =>
    rw [hf] at h
    cases h
  | fault fault => exact ⟨_, Occurrence.diagnostic?_eq_some_iff.mpr ⟨fault, hf, rfl⟩⟩

end DeclLang.Source
