import DeclLang.Proofs.Analysis.FirstFailure
import DeclLang.Proofs.Declaration.Kept
import DeclLang.Proofs.Declaration.Mentions
import DeclLang.Proofs.Declaration.Statements
import DeclLang.Proofs.Source.Occurrence
import DeclLang.Proofs.Validity.Judgement

/-!
# Diagnostics in the order of the source

All three stages report lines that they have from the tokens or the items of one scan, and each goes
forward only. So the lines of an analysis never go back, and all of them are lines of its source.

Two diagnostics of one line may stand in either order.
-/

set_option autoImplicit false

namespace DeclLang

/-- Numbers of lines of a text that never go back. -/
structure LinesOf (text : List Char) (lines : List Int) : Prop where
  forward : lines.Pairwise (· ≤ ·)
  bounded : ∀ line ∈ lines, 1 ≤ line ∧ line ≤ 1 + text.count '\n'

theorem LinesOf.of_mentions {text : List Char} {lines more : List Int} (h : LinesOf text lines)
    (hm : Mentions lines more) : LinesOf text more where
  forward := hm.pairwise Int.le_refl h.forward
  bounded := fun line hline => h.bounded line (hm.mem line hline)

namespace Source

variable {settings : Settings} {text before consumed : List Char} {items : List Occurrence}

/-! ### Scans -/

/-- Items are read forward: each stands behind those before it, and in what is read. -/
theorem Reads.forward (h : Reads settings text before items consumed) :
    before <+: consumed ∧ (∀ o ∈ items, before <+: o.before ∧ o.before <+: consumed) ∧
      items.Pairwise (fun o p => o.before <+: p.before) := by
  induction h with
  | @done before gap _ htext =>
    refine ⟨?_, by simp, .nil⟩
    rw [← htext]
    exact List.prefix_append before gap
  | @stop before gap o _ hbefore _ _ =>
    have hfront : before <+: o.before := by
      rw [hbefore]
      exact List.prefix_append before gap
    have hend : o.before <+: o.before ++ o.item := List.prefix_append o.before o.item
    refine ⟨hfront.trans hend, ?_, List.pairwise_singleton _ o⟩
    intro p hp
    obtain rfl := List.mem_singleton.mp hp
    exact ⟨hfront, hend⟩
  | @more before gap consumed o items _ hbefore _ _ _ ih =>
    obtain ⟨hconsumed, hitems, hpairwise⟩ := ih
    have hfront : before <+: o.before := by
      rw [hbefore]
      exact List.prefix_append before gap
    have hitem : o.before <+: o.before ++ o.item := List.prefix_append o.before o.item
    refine ⟨(hfront.trans hitem).trans hconsumed, ?_, .cons ?_ hpairwise⟩
    · intro p hp
      rcases List.mem_cons.mp hp with rfl | hp
      · exact ⟨hfront, hitem.trans hconsumed⟩
      · exact ⟨(hfront.trans hitem).trans (hitems p hp).1, (hitems p hp).2⟩
    · intro p hp
      exact hitem.trans (hitems p hp).1

theorem count_newline_le {front back : List Char} (h : front <+: back) :
    front.count '\n' ≤ back.count '\n' :=
  h.sublist.count_le '\n'

theorem linesOf_reads (h : Reads settings text [] items consumed) :
    LinesOf text
      (items.map (fun o => (o.line : Int)) ++ [((1 + consumed.count '\n' : Nat) : Int)]) := by
  obtain ⟨_, hitems, hpairwise⟩ := h.forward
  obtain ⟨unread, htext, _⟩ := h.exists_unread
  have hconsumed : consumed.count '\n' ≤ text.count '\n' := by
    rw [← htext]
    exact count_newline_le (List.prefix_append consumed unread)
  constructor
  · apply List.pairwise_append.mpr
    refine ⟨?_, List.pairwise_singleton _ _, ?_⟩
    · rw [List.pairwise_map]
      apply hpairwise.imp
      intro o p hop
      have hle := count_newline_le hop
      simp only [Occurrence.line]
      omega
    · intro line hline last hlast
      obtain ⟨o, ho, rfl⟩ := List.mem_map.mp hline
      obtain rfl := List.mem_singleton.mp hlast
      have hle := count_newline_le (hitems o ho).2
      simp only [Occurrence.line]
      omega
  · intro line hline
    rcases List.mem_append.mp hline with hline | hline
    · obtain ⟨o, ho, rfl⟩ := List.mem_map.mp hline
      have hle := count_newline_le (hitems o ho).2
      simp only [Occurrence.line]
      omega
    · obtain rfl := List.mem_singleton.mp hline
      omega

/-- What is made of some of the items in their order has lines of the items in their order. -/
theorem map_filterMap_sublist {α : Type} {make : Occurrence → Option α} {line : α → Int}
    (h : ∀ o a, make o = some a → line a = o.line) (items : List Occurrence) :
    ((items.filterMap make).map line).Sublist (items.map fun o => (o.line : Int)) := by
  induction items with
  | nil => exact .slnil
  | cons o items ih =>
    cases hmake : make o with
    | none =>
      rw [List.filterMap_cons_none hmake]
      exact .cons _ ih
    | some a =>
      rw [List.filterMap_cons_some hmake, List.map_cons, List.map_cons, h o a hmake]
      exact .cons_cons _ ih

theorem line_of_token? {o : Occurrence} {t : Token} (h : o.token? = some t) : t.line = o.line := by
  obtain ⟨kind, _, rfl⟩ := Occurrence.token?_eq_some_iff.mp h
  rfl

theorem of_diagnostic? {o : Occurrence} {d : Diagnostic} (h : o.diagnostic? = some d) :
    d.line = o.line ∧ d.stage = .lexical := by
  obtain ⟨fault, _, rfl⟩ := Occurrence.diagnostic?_eq_some_iff.mp h
  exact ⟨rfl, rfl⟩

theorem isEnd_of_token? {o : Occurrence} {t : Token} (ho : o.InText settings text)
    (h : o.token? = some t) : t.isEnd = false := by
  obtain ⟨kind, hf, rfl⟩ := Occurrence.token?_eq_some_iff.mp h
  have hitem := ho.isItem
  rw [hf] at hitem
  simpa [Token.isEnd] using ne_endOfInput_of_isItem hitem

section Scan

variable (settings : Settings) (source : String)

theorem linesOf_scan_tokens :
    LinesOf source.toList ((scan settings source).tokens.map Token.line) := by
  obtain ⟨items, hreads, htokens, _⟩ := exists_reads_scan settings source
  have hsublist := map_filterMap_sublist (fun _ _ h => line_of_token? h) items
  rw [htokens, List.map_append]
  exact (linesOf_reads hreads).of_mentions (.of_sublist (hsublist.append (List.Sublist.refl _)))

theorem linesOf_scan_errors :
    LinesOf source.toList ((scan settings source).errors.map Diagnostic.line) := by
  obtain ⟨items, hreads, _, herrors⟩ := exists_reads_scan settings source
  have hsublist := map_filterMap_sublist (fun _ _ h => (of_diagnostic? h).1) items
  rw [herrors]
  exact (linesOf_reads hreads).of_mentions
    (.of_sublist (hsublist.trans (List.sublist_append_left _ _)))

theorem stage_of_mem_errors {d : Diagnostic} (h : d ∈ (scan settings source).errors) :
    d.stage = .lexical := by
  obtain ⟨items, _, _, herrors⟩ := exists_reads_scan settings source
  rw [herrors] at h
  obtain ⟨o, _, hd⟩ := List.mem_filterMap.mp h
  exact (of_diagnostic? hd).2

/-- The last token of a scan closes it, and no other does. -/
theorem exists_tokens_eq :
    ∃ front line, (scan settings source).tokens = front ++ [.endAt line] ∧
      ∀ t ∈ front, t.isEnd = false := by
  obtain ⟨items, hreads, htokens, _⟩ := exists_reads_scan settings source
  refine ⟨_, _, htokens, fun t ht => ?_⟩
  obtain ⟨o, ho, htoken⟩ := List.mem_filterMap.mp ht
  exact isEnd_of_token? (hreads.inText o ho) htoken

/-- All tokens of a scan are read, up to the closing one. -/
theorem beforeEnd_append_closing :
    Token.beforeEnd (scan settings source).tokens ++ [Token.closing (scan settings source).tokens] =
      (scan settings source).tokens := by
  obtain ⟨front, line, htokens, hfront⟩ := exists_tokens_eq settings source
  rw [htokens, Token.beforeEnd_append hfront (by simp),
    Token.closing_append hfront (by simp)]
  rfl

end Scan

end Source

/-! ### Readings -/

section Reading

variable (settings : Settings) (source : String)

open Session

theorem linesOf_reading_errors :
    LinesOf source.toList ((readingOf settings source).errors.map Diagnostic.line) := by
  have hmentions := Declaration.mentions_read (tokensOf settings source)
  rw [tokensOf, Source.beforeEnd_append_closing] at hmentions
  have hlines := (Source.linesOf_scan_tokens settings source).of_mentions
    (hmentions.map Token.line)
  rw [List.map_map] at hlines
  rw [Declaration.Reading.errors, List.map_map]
  exact hlines

theorem stage_of_mem_reading_errors {d : Diagnostic} (h : d ∈ (readingOf settings source).errors) :
    d.stage = .syntactic := by
  obtain ⟨fault, _, rfl⟩ := List.mem_map.mp h
  rfl

/-- Declarators stand on lines that never go back. -/
theorem linesOf_variables :
    LinesOf source.toList
      ((variablesOf (readingOf settings source).declarations).map (·.declarator.line)) := by
  have hkept := Declaration.kept_read (tokensOf settings source)
  have hnames := ((Declaration.flatMap_nameTokens_sublist _).trans hkept).trans
    (List.sublist_append_left _ [Token.closing (tokensOf settings source)])
  rw [tokensOf, Source.beforeEnd_append_closing] at hnames
  have hlines := (Source.linesOf_scan_tokens settings source).of_mentions
    ((Mentions.of_sublist hnames).map Token.line)
  simp only [variablesOf, Declaration.variables, List.map_flatMap, List.map_map] at hlines ⊢
  exact hlines

end Reading

/-! ### Validations -/

namespace Variable

theorem of_mem_reports {settings : Settings} {repeated : Prop} [Decidable repeated] {v : Variable}
    {d : Diagnostic} (h : d ∈ v.reports settings repeated) :
    d.line = v.declarator.line ∧ d.stage = .semantic := by
  have hreport : ∃ message, d = v.report message := by
    rcases List.mem_append.mp h with h | h
    · rcases List.mem_append.mp h with h | h
      · rw [reservedReports] at h
        split at h
        · exact ⟨_, List.mem_singleton.mp h⟩
        · cases h
      · split at h
        · exact ⟨_, List.mem_singleton.mp h⟩
        · cases h
    · rw [mismatchReports] at h
      split at h
      · cases h
      · split at h
        · exact ⟨_, List.mem_singleton.mp h⟩
        · cases h
  obtain ⟨message, rfl⟩ := hreport
  exact ⟨rfl, rfl⟩

/-- Variables are reported on in their order, some not at all and some several times. -/
theorem mentions_reportsFrom (settings : Settings) (earlier vs : List Variable) :
    Mentions (vs.map (·.declarator.line))
      ((reportsFrom settings earlier vs).map Diagnostic.line) := by
  induction vs generalizing earlier with
  | nil => exact .nil _
  | cons v vs ih =>
    rw [reportsFrom_cons, List.map_append, List.map_cons]
    apply Mentions.many _ (ih _)
    intro line hline
    obtain ⟨d, hd, rfl⟩ := List.mem_map.mp hline
    exact (of_mem_reports hd).1

theorem stage_of_mem_reportsFrom {settings : Settings} {earlier vs : List Variable}
    {d : Diagnostic} (h : d ∈ reportsFrom settings earlier vs) : d.stage = .semantic := by
  obtain ⟨i, _, hd⟩ := List.mem_flatMap.mp h
  exact (of_mem_reports hd).2

end Variable

/-! ### The whole analysis -/

namespace Analysis

open Session

theorem linesOf_firstErrors (settings : Settings) (last : Stage) (source : String) :
    (∃ stage, ∀ d ∈ firstErrors settings last source, d.stage = stage) ∧
      LinesOf source.toList ((firstErrors settings last source).map Diagnostic.line) := by
  have hnone : (∃ stage : Stage, ∀ d ∈ ([] : List Diagnostic), d.stage = stage) ∧
      LinesOf source.toList (([] : List Diagnostic).map Diagnostic.line) :=
    ⟨⟨.lexical, by simp⟩, ⟨.nil, by simp⟩⟩
  by_cases hscan : (Source.scan settings source).errors = []
  · by_cases hlast : last = .lexical
    · subst hlast
      rw [firstErrors_lexical, hscan]
      exact hnone
    · by_cases hread : (readingOf settings source).errors = []
      · rw [firstErrors_of_reading hlast hscan hread]
        split
        · rw [errorsOf, validate_eq_reportsFrom]
          exact ⟨⟨.semantic, fun d hd => Variable.stage_of_mem_reportsFrom hd⟩,
            (linesOf_variables settings source).of_mentions
              (Variable.mentions_reportsFrom settings [] _)⟩
        · exact hnone
      · rw [firstErrors_of_reading_errors hlast hscan hread]
        exact ⟨⟨.syntactic, fun d hd => stage_of_mem_reading_errors settings source hd⟩,
          linesOf_reading_errors settings source⟩
  · rw [firstErrors_of_scan_errors hscan]
    exact ⟨⟨.lexical, fun d hd => Source.stage_of_mem_errors settings source hd⟩,
      Source.linesOf_scan_errors settings source⟩

/-- The diagnostics of an analysis come from one stage and in the order of the source: their lines
never go back, and each is a line of the source. -/
theorem analyze_in_source_order (settings : Settings) (last : Stage) (source : String) :
    let diagnostics := (analyze settings last source).diagnostics.entries
    (∃ stage, ∀ d ∈ diagnostics, d.stage = stage) ∧
      diagnostics.Pairwise (fun d e => d.line ≤ e.line) ∧
      ∀ d ∈ diagnostics, 1 ≤ d.line ∧ d.line ≤ 1 + source.toList.count '\n' := by
  intro diagnostics
  obtain ⟨hstage, hlines⟩ := linesOf_firstErrors settings last source
  rw [← entries_analyze] at hstage hlines
  refine ⟨hstage, List.pairwise_map.mp hlines.forward, ?_⟩
  intro d hd
  exact hlines.bounded d.line (List.mem_map_of_mem hd)

end Analysis

end DeclLang
