import DeclLang.Session.Basic

/-!
# What a session keeps belongs to its source

The state of a session, the tokens and declarations that it keeps and its source are separate data.
Every command, refused or not, leaves them in agreement: what is kept is what the source gives rise
to, and it is kept exactly in the states that let the next stage run. A stage that runs therefore
answers as if all stages before it had been run on the source at once.
-/

set_option autoImplicit false

namespace DeclLang.Session

/-- The tokens of a source text. -/
def tokensOf (settings : Settings) (source : String) : List Token :=
  (Source.scan settings source).tokens

/-- What is read from the tokens of a source text. -/
def readingOf (settings : Settings) (source : String) : Declaration.Reading :=
  Declaration.read (tokensOf settings source)

/-- The semantic diagnostics of a source text. -/
def errorsOf (settings : Settings) (source : String) : List Diagnostic :=
  validate settings (readingOf settings source).declarations

/-- What a stage answers when the stages before it are run on the source first. -/
def answerOf (settings : Settings) (source : String) : Stage → Answer
  | .lexical => .scan (Source.scan settings source)
  | .syntactic => .reading (readingOf settings source)
  | .semantic => .diagnostics (errorsOf settings source)

/-- The source after commands: the text that was loaded last. -/
def sourceAfter (source : String) : List Command → String
  | [] => source
  | .load text :: rest => sourceAfter text rest
  | .clear :: rest => sourceAfter "" rest
  | .run _ :: rest => sourceAfter source rest

/-- The agreement of state, kept results and source. -/
structure Coherent (s : Session) : Prop where
  tokens_kept : s.tokens.isSome = s.canRun .syntactic
  tokens_eq : ∀ ts ∈ s.tokens,
    (Source.scan s.settings s.source).ok = true ∧ ts = tokensOf s.settings s.source
  declarations_kept : s.declarations.isSome = s.canRun .semantic
  declarations_eq : ∀ ds ∈ s.declarations, ∃ ts ∈ s.tokens,
    (Declaration.read ts).ok = true ∧ ds = (Declaration.read ts).declarations
  lexedFail : s.state = .lexedFail → (Source.scan s.settings s.source).ok = false
  parsedFail : s.state = .parsedFail → (readingOf s.settings s.source).ok = false
  validatedFail : s.state = .validatedFail → errorsOf s.settings s.source ≠ []
  validatedOk : s.state = .validatedOk → errorsOf s.settings s.source = []

variable {s : Session}

/-! ### What the stages start from -/

theorem tokens_eq_some (h : Coherent s) (hrun : s.canRun .syntactic = true) :
    s.tokens = some (tokensOf s.settings s.source) ∧
      (Source.scan s.settings s.source).ok = true := by
  obtain ⟨ts, hts⟩ := Option.isSome_iff_exists.mp (h.tokens_kept.trans hrun)
  obtain ⟨hok, heq⟩ := h.tokens_eq ts hts
  exact ⟨by rw [hts, heq], hok⟩

theorem declarations_eq_some (h : Coherent s) (hrun : s.canRun .semantic = true) :
    s.declarations = some (readingOf s.settings s.source).declarations ∧
      (readingOf s.settings s.source).faults = [] := by
  obtain ⟨ds, hds⟩ := Option.isSome_iff_exists.mp (h.declarations_kept.trans hrun)
  obtain ⟨ts, hts, hok, hread⟩ := h.declarations_eq ds hds
  obtain rfl := (h.tokens_eq ts hts).2
  exact ⟨by rw [hds, hread]; rfl, (Declaration.Reading.ok_iff _).mp hok⟩

theorem runSyntactic_of_canRun (h : Coherent s) (hrun : s.canRun .syntactic = true) :
    s.runSyntactic.session = s.keepReading (readingOf s.settings s.source) ∧
      s.runSyntactic.answer = .ok (readingOf s.settings s.source) := by
  rw [runSyntactic, if_pos hrun, (tokens_eq_some h hrun).1]
  exact ⟨rfl, rfl⟩

theorem runSyntactic_of_not_canRun (hrun : s.canRun .syntactic = false) :
    s.runSyntactic = ⟨s, .error ⟨.syntactic, s.state⟩, []⟩ := by
  rw [runSyntactic, if_neg (by simp [hrun])]

theorem runSemantic_of_canRun (h : Coherent s) (hrun : s.canRun .semantic = true) :
    s.runSemantic.session = s.keepValidation (errorsOf s.settings s.source) ∧
      s.runSemantic.answer = .ok (errorsOf s.settings s.source) := by
  rw [runSemantic, if_pos hrun, (declarations_eq_some h hrun).1]
  exact ⟨rfl, rfl⟩

theorem runSemantic_of_not_canRun (hrun : s.canRun .semantic = false) :
    s.runSemantic = ⟨s, .error ⟨.semantic, s.state⟩, []⟩ := by
  rw [runSemantic, if_neg (by simp [hrun])]

/-! ### Every command keeps the agreement -/

theorem coherent_load (source : String) : Coherent (s.load source).session := by
  constructor <;> simp [load, canRun, State.ready]

theorem coherent_runLexical : Coherent s.runLexical.session := by
  rw [runLexical, keepScan]
  cases hok : (Source.scan s.settings s.source).ok with
  | true => constructor <;> simp [canRun, State.ready, hok, tokensOf]
  | false => constructor <;> simp [canRun, State.ready, hok]

theorem coherent_keepReading (h : Coherent s) (hrun : s.canRun .syntactic = true) :
    Coherent (s.keepReading (readingOf s.settings s.source)) := by
  -- The tokens stay as they are, so their part of the agreement is the one from before.
  obtain ⟨htokens, hscan⟩ := tokens_eq_some h hrun
  rw [keepReading]
  cases hok : (readingOf s.settings s.source).ok with
  | true =>
    have hfaults : (Declaration.read (tokensOf s.settings s.source)).faults = [] :=
      (Declaration.Reading.ok_iff _).mp hok
    constructor <;> simp [canRun, State.ready, htokens, hscan, readingOf, hfaults]
  | false => constructor <;> simp [canRun, State.ready, htokens, hscan, hok]

/-- The states that let the declarations be validated let the tokens be read again. -/
theorem canRun_syntactic_of_semantic (hrun : s.canRun .semantic = true) :
    s.canRun .syntactic = true := by
  have hready : ∀ state ∈ State.ready .semantic, state ∈ State.ready .syntactic := by decide
  exact decide_eq_true (hready s.state (of_decide_eq_true hrun))

theorem coherent_keepValidation (h : Coherent s) (hrun : s.canRun .semantic = true) :
    Coherent (s.keepValidation (errorsOf s.settings s.source)) := by
  obtain ⟨htokens, hscan⟩ := tokens_eq_some h (canRun_syntactic_of_semantic hrun)
  obtain ⟨hdeclarations, hfaults⟩ := declarations_eq_some h hrun
  rw [readingOf] at hdeclarations hfaults
  rw [keepValidation]
  cases herrors : errorsOf s.settings s.source <;> constructor <;>
    simp [canRun, State.ready, htokens, hdeclarations, hscan, herrors, hfaults]

theorem coherent_runSyntactic (h : Coherent s) : Coherent s.runSyntactic.session := by
  cases hrun : s.canRun .syntactic with
  | true =>
    rw [(runSyntactic_of_canRun h hrun).1]
    exact coherent_keepReading h hrun
  | false =>
    rw [runSyntactic_of_not_canRun hrun]
    exact h

theorem coherent_runSemantic (h : Coherent s) : Coherent s.runSemantic.session := by
  cases hrun : s.canRun .semantic with
  | true =>
    rw [(runSemantic_of_canRun h hrun).1]
    exact coherent_keepValidation h hrun
  | false =>
    rw [runSemantic_of_not_canRun hrun]
    exact h

theorem coherent_perform (h : Coherent s) (c : Command) : Coherent (s.perform c).session := by
  cases c with
  | load source => exact coherent_load source
  | clear => exact coherent_load ""
  | run stage =>
    cases stage with
    | lexical => exact coherent_runLexical
    | syntactic => exact coherent_runSyntactic h
    | semantic => exact coherent_runSemantic h

theorem coherent_start (settings : Settings) : Coherent (start settings) := by
  constructor <;> simp [start, canRun, State.ready]

theorem coherent_after (h : Coherent s) (commands : List Command) :
    Coherent (s.after commands) := by
  induction commands generalizing s with
  | nil => exact h
  | cons c commands ih => exact ih (coherent_perform h c)

/-! ### What commands do to settings and source -/

theorem frame_runLexical :
    s.runLexical.session.settings = s.settings ∧ s.runLexical.session.source = s.source := by
  rw [runLexical, keepScan]
  split <;> exact ⟨rfl, rfl⟩

theorem frame_runSyntactic :
    s.runSyntactic.session.settings = s.settings ∧ s.runSyntactic.session.source = s.source := by
  unfold runSyntactic
  split
  · dsimp only [keepReading]
    split <;> exact ⟨rfl, rfl⟩
  · exact ⟨rfl, rfl⟩

theorem frame_runSemantic :
    s.runSemantic.session.settings = s.settings ∧ s.runSemantic.session.source = s.source := by
  unfold runSemantic
  split <;> exact ⟨rfl, rfl⟩

theorem frame_perform (c : Command) :
    (s.perform c).session.settings = s.settings ∧
      (s.perform c).session.source = sourceAfter s.source [c] := by
  cases c with
  | load source => exact ⟨rfl, rfl⟩
  | clear => exact ⟨rfl, rfl⟩
  | run stage =>
    cases stage with
    | lexical => exact frame_runLexical
    | syntactic => exact frame_runSyntactic
    | semantic => exact frame_runSemantic

theorem sourceAfter_cons (source : String) (c : Command) (rest : List Command) :
    sourceAfter source (c :: rest) = sourceAfter (sourceAfter source [c]) rest := by
  cases c <;> rfl

theorem frame_after (commands : List Command) :
    (s.after commands).settings = s.settings ∧
      (s.after commands).source = sourceAfter s.source commands := by
  induction commands generalizing s with
  | nil => exact ⟨rfl, rfl⟩
  | cons c commands ih =>
    have hc := frame_perform (s := s) c
    have hrest := ih (s := (s.perform c).session)
    rw [hc.1, hc.2, ← sourceAfter_cons] at hrest
    exact hrest

/-! ### What a stage answers -/

theorem canRun_lexical : s.canRun .lexical = true := by
  have hall : ∀ state : State, state ∈ State.all := fun state => by cases state <;> decide
  exact decide_eq_true (hall s.state)

theorem answer_perform (h : Coherent s) (stage : Stage) :
    (s.perform (.run stage)).answer =
      if s.canRun stage = true then answerOf s.settings s.source stage
      else .refused ⟨stage, s.state⟩ := by
  cases hrun : s.canRun stage with
  | true =>
    cases stage with
    | lexical => rfl
    | syntactic =>
      have hanswer := (runSyntactic_of_canRun h hrun).2
      simp only [perform, Outcome.map, hanswer, if_true]
      rfl
    | semantic =>
      have hanswer := (runSemantic_of_canRun h hrun).2
      simp only [perform, Outcome.map, hanswer, if_true]
      rfl
  | false =>
    cases stage with
    | lexical =>
      rw [canRun_lexical] at hrun
      cases hrun
    | syntactic =>
      simp only [perform, Outcome.map, runSyntactic_of_not_canRun hrun]
      rfl
    | semantic =>
      simp only [perform, Outcome.map, runSemantic_of_not_canRun hrun]
      rfl

/-- After any commands, what a session keeps belongs to the text that was loaded last, and a stage
that the state allows answers as if the stages before it were run on that text first. -/
theorem after_start (settings : Settings) (commands : List Command) :
    Coherent ((start settings).after commands) ∧
      ((start settings).after commands).settings = settings ∧
      ((start settings).after commands).source = sourceAfter "" commands ∧
      ∀ stage, (((start settings).after commands).perform (.run stage)).answer =
        if ((start settings).after commands).canRun stage = true then
          answerOf settings (sourceAfter "" commands) stage
        else .refused ⟨stage, ((start settings).after commands).state⟩ := by
  have hcoherent := coherent_after (coherent_start settings) commands
  obtain ⟨hsettings, hsource⟩ := frame_after (s := start settings) commands
  refine ⟨hcoherent, hsettings, hsource, fun stage => ?_⟩
  rw [answer_perform hcoherent stage, hsettings, hsource]
  rfl

end DeclLang.Session
