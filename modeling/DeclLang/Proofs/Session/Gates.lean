import DeclLang.Proofs.Session.Coherence

/-!
# Refused commands

Whether a stage may run is decided by the state of a session, but after any commands this comes to
whether the results that the stage starts from are kept. A refused command leaves the session as it
was, so that no later answer shows it: without the commands that were refused, the others give the
same answers and leave the same session.
-/

set_option autoImplicit false

namespace DeclLang.Session

/-- Commands with their answers, each carried out on what the one before it left. -/
def transcript (s : Session) : List Command → List (Command × Answer)
  | [] => []
  | c :: rest => (c, (s.perform c).answer) :: (s.perform c).session.transcript rest

variable {s : Session}

/-! ### One command -/

theorem perform_of_not_canRun {stage : Stage} (hrun : s.canRun stage = false) :
    s.perform (.run stage) = ⟨s, .refused ⟨stage, s.state⟩, []⟩ := by
  cases stage with
  | lexical =>
    rw [canRun_lexical] at hrun
    cases hrun
  | syntactic =>
    rw [perform, runSyntactic_of_not_canRun hrun]
    rfl
  | semantic =>
    rw [perform, runSemantic_of_not_canRun hrun]
    rfl

theorem isRefusal_perform_run_iff (h : Coherent s) (stage : Stage) :
    (s.perform (.run stage)).answer.isRefusal = true ↔ s.canRun stage = false := by
  rw [answer_perform h stage]
  cases hrun : s.canRun stage with
  | true => cases stage <;> simp [answerOf, Answer.isRefusal]
  | false => simp [Answer.isRefusal]

/-- What is refused is a stage that the state does not allow, and nothing comes of it. -/
theorem perform_of_isRefusal (h : Coherent s) {c : Command}
    (hrefused : (s.perform c).answer.isRefusal = true) :
    ∃ stage, c = .run stage ∧ s.canRun stage = false ∧
      s.perform c = ⟨s, .refused ⟨stage, s.state⟩, []⟩ := by
  cases c with
  | load source => cases hrefused
  | clear => cases hrefused
  | run stage =>
    have hrun := (isRefusal_perform_run_iff h stage).mp hrefused
    exact ⟨stage, rfl, hrun, perform_of_not_canRun hrun⟩

/-! ### Many commands -/

/-- The commands that are not refused have the same transcript when they are given alone, and lead
to the same session. -/
theorem transcript_filter (h : Coherent s) (commands : List Command) :
    let kept := (s.transcript commands).filter fun entry => !entry.2.isRefusal
    s.transcript (kept.map Prod.fst) = kept ∧ s.after (kept.map Prod.fst) = s.after commands := by
  induction commands generalizing s with
  | nil => exact ⟨rfl, rfl⟩
  | cons c commands ih =>
    obtain ⟨htranscript, hafter⟩ := ih (coherent_perform h c)
    rw [transcript, after]
    cases hrefused : (s.perform c).answer.isRefusal with
    | true =>
      obtain ⟨stage, _, _, hperform⟩ := perform_of_isRefusal h hrefused
      have hsession : (s.perform c).session = s := congrArg Outcome.session hperform
      rw [hsession] at htranscript hafter
      rw [List.filter_cons_of_neg (by simp [hrefused]), hsession]
      exact ⟨htranscript, hafter⟩
    | false =>
      rw [List.filter_cons_of_pos (by simp [hrefused])]
      exact ⟨congrArg (List.cons _) htranscript, hafter⟩

/-- After any commands the syntactic stage is refused exactly when no tokens are kept, and the
semantic stage exactly when no declarations are. A refusal names the stage and the state, which does
not allow the stage, and changes nothing. Of any further commands, those that are not refused give
the same answers without the refused ones and leave the same session. -/
theorem refusals_after_start (settings : Settings) (history : List Command) :
    let s := (start settings).after history
    ((s.perform (.run .syntactic)).answer.isRefusal = true ↔ s.tokens = none) ∧
      ((s.perform (.run .semantic)).answer.isRefusal = true ↔ s.declarations = none) ∧
      (∀ c, (s.perform c).answer.isRefusal = true → ∃ stage, c = .run stage ∧
        s.canRun stage = false ∧ s.perform c = ⟨s, .refused ⟨stage, s.state⟩, []⟩) ∧
      ∀ commands,
        let kept := (s.transcript commands).filter fun entry => !entry.2.isRefusal
        s.transcript (kept.map Prod.fst) = kept ∧
          s.after (kept.map Prod.fst) = s.after commands := by
  intro s
  have h : Coherent s := coherent_after (coherent_start settings) history
  refine ⟨?_, ?_, fun c => perform_of_isRefusal h, transcript_filter h⟩
  · rw [isRefusal_perform_run_iff h, ← h.tokens_kept, Option.isSome_eq_false_iff,
      Option.isNone_iff_eq_none]
  · rw [isRefusal_perform_run_iff h, ← h.declarations_kept, Option.isSome_eq_false_iff,
      Option.isNone_iff_eq_none]

end DeclLang.Session
