import DeclLang.Diagnostic.ListingReader
import DeclLang.Proofs.Json.Reading
import DeclLang.Proofs.Json.Writing

/-!
# What a listing tells

A listing loses the order between the stages and nothing else: every stage's diagnostics, with their
lines and messages and in their order, can be read back from it. Messages may look like titles, like
numbered entries or like the summary. They are never read as one, since a message stands behind the
rank and the line of its entry; it is only when a message has a newline in it that the next line of
the listing could be taken for another entry.
-/

set_option autoImplicit false

namespace DeclLang.Diagnostics

open Text Json

/-! ### Decimal numbers in a line -/

theorem isNumeral_toString (n : Nat) : IsNumeral (toString n).toList n := by
  change IsNumeral n.repr.toList n
  rw [Nat.toList_repr]
  exact isNumeral_toDigits n

theorem newline_notMem_of_isNumeral {digits : List Char} {n : Nat} (h : IsNumeral digits n) :
    '\n' ∉ digits :=
  fun hmem => absurd (h.isDigit _ hmem) (by decide)

theorem newline_notMem_of_isInteger {text : List Char} {n : Int} (h : IsInteger text n) :
    '\n' ∉ text := by
  intro hmem
  rcases h.mem_cases hmem with hsign | hdigit
  · cases hsign
  · cases hdigit

/-! ### One line -/

section

variable {line : String} {c : Char}

theorem titled?_title (stage : Stage) : titled? (stage.title ++ " errors:") = some stage := by
  cases stage <;> rfl

/-- A title starts with the name of its stage. -/
theorem titled?_of_head? (hline : line.toList.head? = some c) (hc : c ≠ 'L' ∧ c ≠ 'S') :
    titled? line = none := by
  rw [titled?, List.find?_eq_none]
  intro stage _ heq
  obtain rfl := eq_of_beq heq
  cases stage with
  | lexical => exact hc.1 (Option.some.inj hline).symm
  | syntactic => exact hc.2 (Option.some.inj hline).symm
  | semantic => exact hc.2 (Option.some.inj hline).symm

/-- The row of a listing that shows a diagnostic at a rank. -/
theorem toList_entry (rank : Nat) (d : Diagnostic) :
    (toString rank ++ ". " ++ d.display).toList =
      (toString rank).toList ++ '.' :: ' ' :: 'L' :: 'i' :: 'n' :: 'e' :: ' ' ::
        ((toString d.line).toList ++ ':' :: ' ' :: d.message.toList) := by
  simp [Diagnostic.display]

theorem titled?_entry (rank : Nat) (d : Diagnostic) :
    titled? (toString rank ++ ". " ++ d.display) = none := by
  have hrank := isNumeral_toString rank
  cases hdigits : (toString rank).toList with
  | nil => exact absurd hdigits hrank.ne_nil
  | cons digit digits =>
    have hdigit : digit.isDigit = true :=
      hrank.isDigit _ (by rw [hdigits]; exact List.mem_cons_self)
    apply titled?_of_head? (c := digit)
    · rw [toList_entry, hdigits]
      rfl
    · constructor <;>
      · rintro rfl
        exact absurd hdigit (by decide)

/-- The message is the rest of the line, whatever stands in it. -/
theorem readRow?_entry (rank : Nat) (d : Diagnostic) :
    readRow? (toString rank ++ ". " ++ d.display) = some (d.line, d.message) := by
  have hdrop : (toString rank ++ ". " ++ d.display).toList.dropWhile Char.isDigit =
      '.' :: ' ' :: 'L' :: 'i' :: 'n' :: 'e' :: ' ' ::
        ((toString d.line).toList ++ ':' :: ' ' :: d.message.toList) := by
    rw [toList_entry]
    exact dropWhile_append_of_startsOutside (isNumeral_toString rank).isDigit
      (startsOutside_cons (by decide) _)
  have hread : readInteger ((toString d.line).toList ++ ':' :: ' ' :: d.message.toList) =
      some (d.line, ':' :: ' ' :: d.message.toList) := by
    apply readInteger_of_isInteger (isInteger_toString d.line)
    intro c hc
    obtain rfl := Option.some.inj hc
    decide
  rw [readRow?, hdrop]
  simp only [hread, String.ofList_toList]

end

/-! ### The lines of a listing -/

-- The definition is opened by unfold: simp and rw do not find the equation of it in time.
theorem toList_summary (ds : Diagnostics) :
    ds.summary.toList =
      "Analysis summary: ".toList ++ (toString (ds.count none)).toList ++ " error(s)".toList := by
  unfold summary
  rw [String.toList_append, String.toList_append]

theorem newline_notMem_summary (ds : Diagnostics) : '\n' ∉ ds.summary.toList := by
  have hcount := newline_notMem_of_isNumeral (isNumeral_toString (ds.count none))
  rw [toList_summary, List.mem_append, List.mem_append, not_or, not_or]
  exact ⟨⟨by decide, hcount⟩, by decide⟩

/-- The stages that have a part in the listing. -/
def reporting (ds : Diagnostics) : List Stage :=
  Stage.all.filter fun stage => !(ds.ofStage stage).isEmpty

theorem reporting_ne_nil {ds : Diagnostics} (h : ds.hasErrors = true) : ds.reporting ≠ [] := by
  intro hnil
  rw [reporting, List.filter_eq_nil_iff] at hnil
  cases hentries : ds.entries with
  | nil => simp [hasErrors, hentries] at h
  | cons d entries =>
    have hempty : ds.ofStage d.stage = [] := by
      simpa using hnil d.stage (LawfulNamed.mem_members d.stage)
    have hmem : d ∈ ds.ofStage d.stage :=
      mem_ofStage_iff.mpr ⟨by rw [hentries]; exact List.mem_cons_self, rfl⟩
    rw [hempty] at hmem
    cases hmem

/-- A listing is the lines of the stages that found something and the summary, one below the
other. -/
theorem listing_of_hasErrors {ds : Diagnostics} (h : ds.hasErrors = true) :
    ds.listing = "\n".intercalate (ds.reporting.flatMap ds.stageLines ++ [ds.summary]) := by
  have hlines : ∀ stage ∈ ds.reporting, ds.stageLines stage ≠ [] :=
    fun _ _ => List.cons_ne_nil _ _
  have hne : ds.reporting.flatMap ds.stageLines ≠ [] := by
    obtain ⟨stage, hstage⟩ := List.exists_mem_of_ne_nil _ (reporting_ne_nil h)
    exact List.ne_nil_of_mem (List.mem_flatMap_of_mem hstage List.mem_cons_self)
  rw [String.intercalate_append_of_ne_nil hne (List.cons_ne_nil _ _),
    String.intercalate_singleton, intercalate_flatMap hlines]
  exact if_pos h

section

variable {ds : Diagnostics} (hds : ∀ d ∈ ds.entries, '\n' ∉ d.message.toList)
include hds

theorem newline_notMem_of_mem_numbered {rank : Nat} {shown : List Diagnostic}
    (hshown : ∀ d ∈ shown, d ∈ ds.entries) : ∀ row ∈ numbered rank shown, '\n' ∉ row.toList := by
  induction shown generalizing rank with
  | nil =>
    intro row hrow
    cases hrow
  | cons d shown ih =>
    rw [List.forall_mem_cons] at hshown
    rw [numbered, List.forall_mem_cons]
    refine ⟨?_, ih hshown.2⟩
    have hrank := newline_notMem_of_isNumeral (isNumeral_toString rank)
    have hline := newline_notMem_of_isInteger (isInteger_toString d.line)
    have hmessage := hds d hshown.1
    rw [toList_entry, List.mem_append]
    simp only [List.mem_cons, List.mem_append, hrank, hline, hmessage]
    decide

theorem newline_notMem_of_mem_stageLines {stage : Stage} :
    ∀ row ∈ ds.stageLines stage, '\n' ∉ row.toList := by
  rw [stageLines, List.forall_mem_cons]
  constructor
  · cases stage <;> decide
  · apply newline_notMem_of_mem_numbered hds
    intro d hd
    exact (mem_ofStage_iff.mp hd).1

/-- Where no message has a newline, the rows of a listing are its lines. -/
theorem lines_listing (h : ds.hasErrors = true) :
    lines ds.listing = ds.reporting.flatMap ds.stageLines ++ [ds.summary] := by
  rw [listing_of_hasErrors h, lines_intercalate (List.concat_ne_nil _ _)]
  apply flatMap_lines_eq_self
  rw [List.forall_mem_append, List.forall_mem_singleton]
  refine ⟨?_, newline_notMem_summary ds⟩
  intro row hrow
  obtain ⟨stage, _, hrow⟩ := List.mem_flatMap.mp hrow
  exact newline_notMem_of_mem_stageLines hds row hrow

end

/-! ### Reading -/

section

variable {before : Option Stage} {line : String}

theorem readLines_of_titled? {stage : Stage} (h : titled? line = some stage)
    (rest : List String) : readLines before (line :: rest) = readLines (some stage) rest := by
  simp only [readLines, h]

theorem readLines_of_shown? {d : Diagnostic} (htitled : titled? line = none)
    (hshown : shown? before line = some d) (rest : List String) :
    readLines before (line :: rest) = d :: readLines before rest := by
  simp only [readLines, htitled, hshown]
  rfl

theorem shown?_entry (stage : Stage) (rank : Nat) (d : Diagnostic) :
    shown? (some stage) (toString rank ++ ". " ++ d.display) =
      some ⟨stage, d.line, d.message⟩ := by
  simp only [shown?, readRow?_entry]
  rfl

end

theorem readLines_numbered (stage : Stage) (rank : Nat) {shown : List Diagnostic}
    (hshown : ∀ d ∈ shown, d.stage = stage) (rest : List String) :
    readLines (some stage) (numbered rank shown ++ rest) =
      shown ++ readLines (some stage) rest := by
  induction shown generalizing rank with
  | nil => rfl
  | cons d shown ih =>
    rw [List.forall_mem_cons] at hshown
    obtain ⟨rfl, hshown⟩ := hshown
    have hentry := readLines_of_shown? (titled?_entry rank d) (shown?_entry d.stage rank d)
      (numbered (rank + 1) shown ++ rest)
    exact hentry.trans (congrArg (d :: ·) (ih _ hshown))

/-- The title says whose the entries below it are, whichever stage was listed before. -/
theorem readLines_stageLines (ds : Diagnostics) (before : Option Stage) (stage : Stage)
    (rest : List String) :
    readLines before (ds.stageLines stage ++ rest) =
      ds.ofStage stage ++ readLines (some stage) rest := by
  rw [stageLines, List.cons_append, readLines_of_titled? (titled?_title stage)]
  apply readLines_numbered
  intro d hd
  exact (mem_ofStage_iff.mp hd).2

theorem readLines_summary (ds : Diagnostics) (before : Option Stage) :
    readLines before [ds.summary] = [] := by
  have htitled : titled? ds.summary = none :=
    titled?_of_head? (c := 'A') (by rw [toList_summary]; rfl) (by decide)
  have hrow : readRow? ds.summary = none := by
    rw [readRow?, toList_summary]
    rfl
  have hshown : shown? before ds.summary = none := by
    cases before <;> simp [shown?, hrow]
  simp [readLines, htitled, hshown]

theorem readLines_stages (ds : Diagnostics) (before : Option Stage) (stages : List Stage) :
    readLines before (stages.flatMap ds.stageLines ++ [ds.summary]) =
      stages.flatMap ds.ofStage := by
  induction stages generalizing before with
  | nil => exact readLines_summary ds before
  | cons stage stages ih =>
    rw [List.flatMap_cons, List.append_assoc, readLines_stageLines, ih, List.flatMap_cons]

/-- A stage without a part in the listing has nothing to show. -/
theorem flatMap_reporting (ds : Diagnostics) :
    ds.reporting.flatMap ds.ofStage = Stage.all.flatMap ds.ofStage := by
  calc ds.reporting.flatMap ds.ofStage
      = ((Stage.all.map ds.ofStage).filter (!·.isEmpty)).flatten := by
        rw [List.filter_map]
        rfl
    _ = (Stage.all.map ds.ofStage).flatten := List.flatten_filter_not_isEmpty
    _ = Stage.all.flatMap ds.ofStage := List.flatMap_def.symm

/-- What is read from a listing is every stage's diagnostics, stage after stage. -/
theorem readListing_listing {ds : Diagnostics} (hds : ∀ d ∈ ds.entries, '\n' ∉ d.message.toList) :
    readListing ds.listing = Stage.all.flatMap ds.ofStage := by
  cases h : ds.hasErrors with
  | true => rw [readListing, lines_listing hds h, readLines_stages, flatMap_reporting]
  | false =>
    have hempty : ds.ofStage = fun _ => [] := by
      funext stage
      rw [ofStage, ds.hasErrors_eq_false_iff.mp h]
      rfl
    have hlisting : ds.listing = "No diagnostics." := by
      rw [listing, h]
      rfl
    rw [hlisting, hempty]
    decide

theorem filter_stage_ofStage (ds : Diagnostics) (stage other : Stage) :
    (ds.ofStage other).filter (·.stage == stage) =
      if other = stage then ds.ofStage stage else [] := by
  split
  next h =>
    subst h
    rw [ofStage, List.filter_filter]
    simp
  next h =>
    rw [List.filter_eq_nil_iff]
    intro d hd
    rw [(mem_ofStage_iff.mp hd).2]
    simpa using h

theorem filter_stage_flatMap (ds : Diagnostics) (stage : Stage) :
    (Stage.all.flatMap ds.ofStage).filter (·.stage == stage) = ds.ofStage stage := by
  cases stage <;> simp [Stage.all, filter_stage_ofStage]

/-! ### What the listing depends on -/

theorem count_ofStage (ds : Diagnostics) (stage : Stage) (d : Diagnostic) :
    (ds.ofStage stage).count d = if d.stage = stage then ds.entries.count d else 0 := by
  split
  next h =>
    rw [ofStage, List.count_filter]
    simpa using h
  next h =>
    rw [List.count_eq_zero]
    exact fun hd => h (mem_ofStage_iff.mp hd).2

/-- Sorting diagnostics by their stages keeps each of them as often as it is there. -/
theorem flatMap_ofStage_perm (ds : Diagnostics) :
    (Stage.all.flatMap ds.ofStage).Perm ds.entries := by
  rw [List.perm_iff_count]
  intro d
  simp only [Stage.all, List.flatMap_cons, List.flatMap_nil, List.append_nil, List.count_append,
    count_ofStage]
  cases d.stage <;> simp

/-- A listing is the same however the stages' diagnostics were found in between each other. -/
theorem listing_congr {ds es : Diagnostics} (h : ∀ stage, ds.ofStage stage = es.ofStage stage) :
    ds.listing = es.listing := by
  have hlength : ds.entries.length = es.entries.length := by
    rw [← (flatMap_ofStage_perm ds).length_eq, ← (flatMap_ofStage_perm es).length_eq, funext h]
  have hempty : ds.entries.isEmpty = es.entries.isEmpty := by
    rw [Bool.eq_iff_iff, List.isEmpty_iff_length_eq_zero, List.isEmpty_iff_length_eq_zero, hlength]
  have hstage : ds.stageListing = es.stageListing := by
    funext stage
    rw [stageListing, stageLines, h]
    rfl
  have hsummary : ds.summary = es.summary := by
    unfold summary count
    rw [hlength]
  rw [listing, listing, hasErrors, hasErrors, hempty, hstage, hsummary]
  simp only [h]

/-- Messages without newlines given, two listings are the same text exactly if every stage has the
same diagnostics in the same order, and a stage's diagnostics can be read from the listing. -/
theorem listing_eq_iff (ds es : Diagnostics)
    (hds : ∀ d ∈ ds.entries, '\n' ∉ d.message.toList)
    (hes : ∀ d ∈ es.entries, '\n' ∉ d.message.toList) :
    (ds.listing = es.listing ↔ ∀ stage, ds.ofStage stage = es.ofStage stage) ∧
      ∀ stage, (readListing ds.listing).filter (·.stage == stage) = ds.ofStage stage := by
  have hread : ∀ {cs : Diagnostics}, (∀ d ∈ cs.entries, '\n' ∉ d.message.toList) → ∀ stage,
      (readListing cs.listing).filter (·.stage == stage) = cs.ofStage stage := by
    intro cs hcs stage
    rw [readListing_listing hcs, filter_stage_flatMap]
  refine ⟨⟨?_, listing_congr⟩, hread hds⟩
  intro h stage
  rw [← hread hds, ← hread hes, h]

/-- Messages that look like a title, an entry and the summary, in two orders. -/
theorem listing_eq_lookalikes :
    let title : Diagnostic := ⟨.lexical, -3, "Semantic Analysis errors:"⟩
    let entry : Diagnostic := ⟨.semantic, 0, "1. Line 2: x"⟩
    let summary : Diagnostic := ⟨.lexical, 2, "Analysis summary: 1 error(s)"⟩
    let ds : Diagnostics := ⟨[title, entry, summary]⟩
    let es : Diagnostics := ⟨[entry, title, summary]⟩
    (∀ d ∈ ds.entries, '\n' ∉ d.message.toList) ∧ (∀ d ∈ es.entries, '\n' ∉ d.message.toList) ∧
      ds ≠ es ∧ ds.listing = es.listing ∧
      (readListing ds.listing).filter (·.stage == .lexical) = [title, summary] ∧
      (readListing ds.listing).filter (·.stage == .semantic) = [entry] := by
  intro title entry summary ds es
  have hds : ∀ d ∈ ds.entries, '\n' ∉ d.message.toList := by decide
  have hes : ∀ d ∈ es.entries, '\n' ∉ d.message.toList := by decide
  obtain ⟨hiff, hread⟩ := listing_eq_iff ds es hds hes
  have hstages : ∀ stage, ds.ofStage stage = es.ofStage stage := by
    intro stage
    cases stage <;> rfl
  exact ⟨hds, hes, by decide, hiff.mpr hstages, hread .lexical, hread .semantic⟩

end DeclLang.Diagnostics
