import DeclLang.Proofs.Session.Coherence
import DeclLang.Report.Document

/-!
# The first stage that finds something decides

The stages of an analysis run in a session, which refuses a stage whose input is missing. What comes
of it can be said without sessions: the diagnostics are those of the first stage that finds any, and
from there on the analysis does not change, whichever stage it was to go on to. So an analysis that
fails early is the same, reports included, for every later last stage.

Reports of analyses that succeed are not compared: each names the last stage that passed.
-/

set_option autoImplicit false

namespace DeclLang

/-- Whether one stage runs before another. -/
def Stage.Before (a b : Stage) : Prop :=
  [a, b].Sublist Stage.all

instance (a b : Stage) : Decidable (Stage.Before a b) :=
  inferInstanceAs (Decidable ([a, b].Sublist Stage.all))

namespace Stage

theorem eq_semantic_of_before {later : Stage} (h : Before .syntactic later) : later = .semantic := by
  cases later with
  | lexical => exact absurd h (by decide)
  | syntactic => exact absurd h (by decide)
  | semantic => rfl

theorem not_before_of_semantic (later : Stage) : ¬ Before .semantic later := by
  cases later <;> decide

end Stage

namespace Analysis

open Session

/-- What is found in a source by the first stage that finds anything, up to a last stage. -/
def firstErrors (settings : Settings) (last : Stage) (source : String) : List Diagnostic :=
  let scan := Source.scan settings source
  let reading := Declaration.read scan.tokens
  if scan.errors ≠ [] then scan.errors
  else if last = .lexical then []
  else if reading.errors ≠ [] then reading.errors
  else if last = .semantic then validate settings reading.declarations
  else []

theorem success_eq_true_iff (a : Analysis) : a.success = true ↔ a.diagnostics.entries = [] := by
  rw [success, Bool.not_eq_true', Diagnostics.hasErrors_eq_false_iff]

/-! ### One stage more -/

section GoOn

variable {α : Type} {a : Analysis} {errors : α → List Diagnostic}
  {o : Outcome (Except Refusal α)}

theorem goOn_of_error {reason : Refusal} (h : o.answer = .error reason) :
    a.goOn errors o = a := by
  rw [goOn, h]

theorem goOn_of_ok {result : α} (h : o.answer = .ok result) :
    (a.goOn errors o).session = o.session ∧
      (a.goOn errors o).diagnostics.entries = a.diagnostics.entries ++ errors result := by
  rw [goOn, h]
  exact ⟨rfl, rfl⟩

end GoOn

variable {a : Analysis}

theorem continueSyntactic_of_not_canRun (h : a.session.canRun .syntactic = false) :
    a.continueSyntactic = a :=
  goOn_of_error (congrArg Outcome.answer (runSyntactic_of_not_canRun h))

theorem continueSemantic_of_not_canRun (h : a.session.canRun .semantic = false) :
    a.continueSemantic = a :=
  goOn_of_error (congrArg Outcome.answer (runSemantic_of_not_canRun h))

theorem continueSyntactic_of_canRun (hc : Coherent a.session)
    (h : a.session.canRun .syntactic = true) :
    a.continueSyntactic.session =
        a.session.keepReading (readingOf a.session.settings a.session.source) ∧
      a.continueSyntactic.diagnostics.entries =
        a.diagnostics.entries ++ (readingOf a.session.settings a.session.source).errors := by
  obtain ⟨hsession, hanswer⟩ := runSyntactic_of_canRun hc h
  rw [← hsession]
  exact goOn_of_ok hanswer

theorem continueSemantic_of_canRun (hc : Coherent a.session)
    (h : a.session.canRun .semantic = true) :
    a.continueSemantic.session =
        a.session.keepValidation (errorsOf a.session.settings a.session.source) ∧
      a.continueSemantic.diagnostics.entries =
        a.diagnostics.entries ++ errorsOf a.session.settings a.session.source := by
  obtain ⟨hsession, hanswer⟩ := runSemantic_of_canRun hc h
  rw [← hsession]
  exact goOn_of_ok hanswer

/-- The session is the one that the stage leaves, since a refused stage leaves it as it was. -/
theorem session_continueSyntactic (hc : Coherent a.session) :
    a.continueSyntactic.session = a.session.runSyntactic.session := by
  cases hrun : a.session.canRun .syntactic with
  | false => rw [continueSyntactic_of_not_canRun hrun, runSyntactic_of_not_canRun hrun]
  | true => rw [(continueSyntactic_of_canRun hc hrun).1, (runSyntactic_of_canRun hc hrun).1]

/-! ### Which stages may follow -/

theorem not_canRun_semantic {s : Session} (h : s.canRun .syntactic = false) :
    s.canRun .semantic = false := by
  rw [← Bool.not_eq_true]
  intro hrun
  rw [canRun_syntactic_of_semantic hrun] at h
  cases h

theorem canRun_keepScan (s : Session) (scan : Source.Scan) :
    (s.keepScan scan).canRun .syntactic = scan.ok := by
  rw [keepScan]
  cases scan.ok <;> rfl

theorem canRun_keepReading (s : Session) (reading : Declaration.Reading) :
    (s.keepReading reading).canRun .semantic = reading.ok := by
  rw [keepReading]
  cases reading.ok <;> rfl

section Source

variable (settings : Settings) (source : String)

theorem coherent_session_start : Coherent (start settings source).session :=
  coherent_runLexical

theorem frame_session_start :
    (start settings source).session.settings = settings ∧
      (start settings source).session.source = source :=
  frame_runLexical

/-- A scan that finds nothing, and no other, lets its tokens be read. -/
theorem success_start :
    (start settings source).success = (start settings source).session.canRun .syntactic := by
  have hrun : (start settings source).session.canRun .syntactic =
      (Source.scan settings source).ok := canRun_keepScan _ _
  rw [hrun, success, Diagnostics.hasErrors, Bool.not_not]
  rfl

theorem entries_start :
    (start settings source).diagnostics.entries = (Source.scan settings source).errors :=
  rfl

theorem entries_start_eq_nil (h : (start settings source).session.canRun .syntactic = true) :
    (Source.scan settings source).errors = [] := by
  rw [← success_start] at h
  exact (success_eq_true_iff _).mp h

theorem continueSyntactic_start (h : (start settings source).session.canRun .syntactic = true) :
    (start settings source).continueSyntactic.session =
        (start settings source).session.keepReading (readingOf settings source) ∧
      (start settings source).continueSyntactic.diagnostics.entries =
        (readingOf settings source).errors := by
  have hnext := continueSyntactic_of_canRun (coherent_session_start settings source) h
  rwa [(frame_session_start settings source).1, (frame_session_start settings source).2,
    entries_start, entries_start_eq_nil settings source h, List.nil_append] at hnext

theorem coherent_session_continueSyntactic :
    Coherent (start settings source).continueSyntactic.session := by
  have hstart := coherent_session_start settings source
  rw [session_continueSyntactic hstart]
  exact coherent_runSyntactic hstart

theorem frame_session_continueSyntactic :
    (start settings source).continueSyntactic.session.settings = settings ∧
      (start settings source).continueSyntactic.session.source = source := by
  rw [session_continueSyntactic (coherent_session_start settings source), frame_runSyntactic.1,
    frame_runSyntactic.2]
  exact frame_session_start settings source

/-- A reading without faults, and no other, lets its declarations be validated. -/
theorem success_continueSyntactic :
    (start settings source).continueSyntactic.success =
      (start settings source).continueSyntactic.session.canRun .semantic := by
  cases hrun : (start settings source).session.canRun .syntactic with
  | false =>
    rw [continueSyntactic_of_not_canRun hrun, success_start, hrun, not_canRun_semantic hrun]
  | true =>
    obtain ⟨hsession, hentries⟩ := continueSyntactic_start settings source hrun
    rw [hsession, canRun_keepReading, Bool.eq_iff_iff, success_eq_true_iff, hentries,
      Declaration.Reading.errors_eq_nil_iff, Declaration.Reading.ok_iff]

theorem continueSemantic_start
    (h : (start settings source).continueSyntactic.session.canRun .semantic = true) :
    (start settings source).continueSyntactic.continueSemantic.session =
        (start settings source).continueSyntactic.session.keepValidation
          (errorsOf settings source) ∧
      (start settings source).continueSyntactic.continueSemantic.diagnostics.entries =
        errorsOf settings source := by
  have hnext := continueSemantic_of_canRun (coherent_session_continueSyntactic settings source) h
  have hnil : (start settings source).continueSyntactic.diagnostics.entries = [] := by
    rw [← success_eq_true_iff, success_continueSyntactic]
    exact h
  rwa [(frame_session_continueSyntactic settings source).1,
    (frame_session_continueSyntactic settings source).2, hnil, List.nil_append] at hnext

/-! ### The analysis at each last stage -/

/-- After a scan with faults no later stage runs. -/
theorem analyze_of_not_canRun_syntactic (last : Stage)
    (h : (start settings source).session.canRun .syntactic = false) :
    analyze settings last source = start settings source := by
  have hsyntactic : (start settings source).continueSyntactic = start settings source :=
    continueSyntactic_of_not_canRun h
  cases last with
  | lexical => rfl
  | syntactic => exact hsyntactic
  | semantic =>
    calc analyze settings .semantic source
        = (start settings source).continueSyntactic.continueSemantic := rfl
      _ = (start settings source).continueSemantic := by rw [hsyntactic]
      _ = start settings source := continueSemantic_of_not_canRun (not_canRun_semantic h)

/-- After a reading with faults the declarations are not validated. -/
theorem analyze_of_not_canRun_semantic
    (h : (start settings source).continueSyntactic.session.canRun .semantic = false) :
    analyze settings .semantic source = analyze settings .syntactic source :=
  continueSemantic_of_not_canRun h

end Source

variable {settings : Settings} {source : String} {last : Stage}

theorem firstErrors_of_scan_errors (h : (Source.scan settings source).errors ≠ []) :
    firstErrors settings last source = (Source.scan settings source).errors :=
  if_pos h

theorem firstErrors_of_reading_errors (hlast : last ≠ .lexical)
    (hscan : (Source.scan settings source).errors = [])
    (h : (readingOf settings source).errors ≠ []) :
    firstErrors settings last source = (readingOf settings source).errors := by
  rw [firstErrors, if_neg (not_not_intro hscan), if_neg hlast]
  exact if_pos h

theorem firstErrors_of_reading (hlast : last ≠ .lexical)
    (hscan : (Source.scan settings source).errors = [])
    (h : (readingOf settings source).errors = []) :
    firstErrors settings last source =
      if last = .semantic then errorsOf settings source else [] := by
  rw [firstErrors, if_neg (not_not_intro hscan), if_neg hlast]
  exact if_neg (not_not_intro h)

theorem firstErrors_lexical :
    firstErrors settings .lexical source = (Source.scan settings source).errors := by
  by_cases hscan : (Source.scan settings source).errors = []
  · rw [firstErrors, if_neg (not_not_intro hscan), if_pos rfl, hscan]
  · exact firstErrors_of_scan_errors hscan

/-- Up to the reading nothing is found just if neither the scan nor the reading finds anything. -/
theorem firstErrors_syntactic_eq_nil (h : firstErrors settings .syntactic source = []) :
    (Source.scan settings source).errors = [] ∧ (readingOf settings source).errors = [] := by
  by_cases hscan : (Source.scan settings source).errors = []
  · by_cases hread : (readingOf settings source).errors = []
    · exact ⟨hscan, hread⟩
    · rw [firstErrors_of_reading_errors (by decide) hscan hread] at h
      exact absurd h hread
  · rw [firstErrors_of_scan_errors hscan] at h
    exact absurd h hscan

theorem firstErrors_semantic_of_syntactic (h : firstErrors settings .syntactic source ≠ []) :
    firstErrors settings .semantic source = firstErrors settings .syntactic source := by
  by_cases hscan : (Source.scan settings source).errors = []
  · have hread : (readingOf settings source).errors ≠ [] := by
      intro hread
      exact h (firstErrors_of_reading (by decide) hscan hread)
    rw [firstErrors_of_reading_errors (by decide) hscan hread,
      firstErrors_of_reading_errors (by decide) hscan hread]
  · rw [firstErrors_of_scan_errors hscan, firstErrors_of_scan_errors hscan]

theorem entries_analyze_syntactic :
    (analyze settings .syntactic source).diagnostics.entries =
      firstErrors settings .syntactic source := by
  cases hrun : (start settings source).session.canRun .syntactic with
  | false =>
    have hscan : (Source.scan settings source).errors ≠ [] := by
      rw [← entries_start, Ne, ← success_eq_true_iff, success_start, hrun]
      exact Bool.false_ne_true
    rw [analyze_of_not_canRun_syntactic settings source _ hrun, entries_start,
      firstErrors_of_scan_errors hscan]
  | true =>
    have hscan := entries_start_eq_nil settings source hrun
    have hentries := (continueSyntactic_start settings source hrun).2
    by_cases hread : (readingOf settings source).errors = []
    · rw [firstErrors_of_reading (by decide) hscan hread]
      exact hentries.trans hread
    · rw [firstErrors_of_reading_errors (by decide) hscan hread]
      exact hentries

theorem entries_analyze_semantic :
    (analyze settings .semantic source).diagnostics.entries =
      firstErrors settings .semantic source := by
  cases hrun : (start settings source).continueSyntactic.session.canRun .semantic with
  | false =>
    have hfirst : firstErrors settings .syntactic source ≠ [] := by
      rw [← entries_analyze_syntactic, Ne, ← success_eq_true_iff, analyze,
        success_continueSyntactic, hrun]
      exact Bool.false_ne_true
    rw [analyze_of_not_canRun_semantic settings source hrun, entries_analyze_syntactic,
      firstErrors_semantic_of_syntactic hfirst]
  | true =>
    have hfirst : firstErrors settings .syntactic source = [] := by
      rw [← entries_analyze_syntactic, ← success_eq_true_iff, analyze,
        success_continueSyntactic]
      exact hrun
    obtain ⟨hscan, hread⟩ := firstErrors_syntactic_eq_nil hfirst
    rw [firstErrors_of_reading (by decide) hscan hread]
    exact (continueSemantic_start settings source hrun).2

/-! ### The whole analysis -/

/-- The diagnostics are those of the first stage that finds any. -/
theorem entries_analyze (settings : Settings) (last : Stage) (source : String) :
    (analyze settings last source).diagnostics.entries = firstErrors settings last source := by
  cases last with
  | lexical =>
    rw [firstErrors_lexical]
    rfl
  | syntactic => exact entries_analyze_syntactic
  | semantic => exact entries_analyze_semantic

/-- An analysis that finds something is the same for every later last stage. -/
theorem analyze_eq_of_before {earlier later : Stage} (hbefore : earlier.Before later)
    (h : (analyze settings earlier source).success = false) :
    analyze settings later source = analyze settings earlier source := by
  cases earlier with
  | lexical =>
    have hrun : (start settings source).session.canRun .syntactic = false := by
      rw [← success_start]
      exact h
    exact analyze_of_not_canRun_syntactic settings source later hrun
  | syntactic =>
    obtain rfl := Stage.eq_semantic_of_before hbefore
    have hrun : (start settings source).continueSyntactic.session.canRun .semantic = false := by
      rw [← success_continueSyntactic]
      exact h
    exact analyze_of_not_canRun_semantic settings source hrun
  | semantic => exact absurd hbefore (Stage.not_before_of_semantic later)

theorem success_of_before {earlier later : Stage} (hbefore : earlier.Before later)
    (h : (analyze settings later source).success = true) :
    (analyze settings earlier source).success = true := by
  cases hearlier : (analyze settings earlier source).success with
  | true => rfl
  | false =>
    rw [analyze_eq_of_before hbefore hearlier, hearlier] at h
    cases h

/-! ### Where an analysis ends that finds nothing -/

/-- The state in which a stage ends that finds nothing. -/
def passedState : Stage → State
  | .lexical => .lexedOk
  | .syntactic => .parsedOk
  | .semantic => .validatedOk

theorem exists_passedMessage (last : Stage) :
    ∃ message, Report.passedMessage (passedState last) = some message := by
  cases last <;> exact ⟨_, rfl⟩

/-- The state is that of the last stage; the stages before it passed as well, so none was refused. -/
theorem state_of_success (h : (analyze settings last source).success = true) :
    (analyze settings last source).session.state = passedState last := by
  cases last with
  | lexical =>
    have hok : (Source.scan settings source).ok = true := by
      rw [← canRun_keepScan]
      exact (success_start settings source).symm.trans h
    exact congrArg Session.state (if_pos hok)
  | syntactic =>
    have hbefore : Stage.Before .lexical .syntactic := by decide
    have hstart : (start settings source).session.canRun .syntactic = true := by
      rw [← success_start]
      exact success_of_before hbefore h
    have hsession := (continueSyntactic_start settings source hstart).1
    have hok : (readingOf settings source).ok = true := by
      rw [← canRun_keepReading, ← hsession, ← success_continueSyntactic]
      exact h
    rw [keepReading, if_pos hok] at hsession
    exact congrArg Session.state hsession
  | semantic =>
    have hbefore : Stage.Before .syntactic .semantic := by decide
    have hrun : (start settings source).continueSyntactic.session.canRun .semantic = true := by
      rw [← success_continueSyntactic]
      exact success_of_before hbefore h
    obtain ⟨hsession, hentries⟩ := continueSemantic_start settings source hrun
    have herrors : errorsOf settings source = [] := by
      rw [← hentries]
      exact (success_eq_true_iff _).mp h
    rw [herrors] at hsession
    exact congrArg Session.state hsession

/-- An analysis up to a last stage finds what the first stage finds that finds anything. It succeeds
just if that is nothing, and then there is a message for its state. If it fails, every later last
stage gives the same diagnostics and the same reports. -/
theorem analyze_firstErrors (settings : Settings) (source : String) :
    (∀ last,
      (analyze settings last source).diagnostics.entries = firstErrors settings last source ∧
      ((analyze settings last source).success = true ↔ firstErrors settings last source = []) ∧
      ((analyze settings last source).success = true → ∃ message,
        Report.passedMessage (analyze settings last source).session.state = some message ∧
        Report.verdict (analyze settings last source) = message)) ∧
    ∀ earlier later, earlier.Before later →
      ((analyze settings earlier source).success = false →
        (analyze settings later source).diagnostics =
          (analyze settings earlier source).diagnostics ∧
        ∀ showTokens,
          Report.text showTokens (analyze settings later source) =
            Report.text showTokens (analyze settings earlier source) ∧
          Report.json showTokens (analyze settings later source) =
            Report.json showTokens (analyze settings earlier source)) ∧
      ((analyze settings later source).success = true →
        (analyze settings earlier source).success = true) := by
  constructor
  · intro last
    have hentries := entries_analyze settings last source
    refine ⟨hentries, ?_, ?_⟩
    · rw [← hentries]
      exact success_eq_true_iff _
    · intro hsuccess
      obtain ⟨message, hmessage⟩ := exists_passedMessage last
      rw [← state_of_success hsuccess] at hmessage
      refine ⟨message, hmessage, ?_⟩
      rw [Report.verdict, if_pos hsuccess, hmessage, Option.getD_some]
  · intro earlier later hbefore
    refine ⟨?_, success_of_before hbefore⟩
    intro hfailed
    have hsame := analyze_eq_of_before hbefore hfailed
    refine ⟨by rw [hsame], ?_⟩
    intro showTokens
    exact ⟨by rw [hsame], by rw [hsame]⟩

theorem analyze_firstErrors_two :
    let faulty := "int = 1; char c = 2.5;"
    let valid := "int a = 1, b; // two"
    Stage.Before .syntactic .semantic ∧
      (analyze {} .syntactic faulty).success = false ∧
      (analyze {} .semantic faulty).diagnostics = (analyze {} .syntactic faulty).diagnostics ∧
      (∀ showTokens,
        Report.text showTokens (analyze {} .semantic faulty) =
          Report.text showTokens (analyze {} .syntactic faulty) ∧
        Report.json showTokens (analyze {} .semantic faulty) =
          Report.json showTokens (analyze {} .syntactic faulty)) ∧
      (analyze {} .semantic valid).success = true ∧
      (analyze {} .syntactic valid).success = true ∧
      ∃ message,
        Report.passedMessage (analyze {} .semantic valid).session.state = some message ∧
        Report.verdict (analyze {} .semantic valid) = message := by
  intro faulty valid
  have hbefore : Stage.Before .syntactic .semantic := by decide
  have hfailed : (analyze {} .syntactic faulty).success = false := by decide +kernel
  have hpassed : (analyze {} .semantic valid).success = true := by decide +kernel
  obtain ⟨hsame, hreports⟩ := ((analyze_firstErrors {} faulty).2 _ _ hbefore).1 hfailed
  have hearlier := ((analyze_firstErrors {} valid).2 _ _ hbefore).2 hpassed
  have hmessage := ((analyze_firstErrors {} valid).1 .semantic).2.2 hpassed
  exact ⟨hbefore, hfailed, hsame, hreports, hpassed, hearlier, hmessage⟩

end Analysis

end DeclLang
