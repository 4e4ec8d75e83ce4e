import DeclLang.Proofs.Json.Reading
import DeclLang.Proofs.Json.Writing
import DeclLang.Report.DocumentReader

/-!
# A report document loses nothing

What an analysis found can be read back from its document, and the document from its text. The
text is ASCII and in the grammar of JSON, so every reader that keeps to the grammar finds the same
document in it.

The stage of a diagnostic is not in its own fields; it is known from the list that it stands in.
-/

set_option autoImplicit false

namespace DeclLang

open Json (Value IsAscii IsText)

/-! ### Tokens of the scan -/

namespace Analysis

theorem tokens_goOn {α : Type} (a : Analysis) (errors : α → List Diagnostic)
    (o : Session.Outcome (Except Session.Refusal α)) : (a.goOn errors o).tokens = a.tokens := by
  unfold goOn
  split <;> rfl

theorem tokens_analyze (settings : Settings) (last : Stage) (source : String) :
    (analyze settings last source).tokens = (Source.scan settings source).tokens := by
  cases last with
  | lexical => rfl
  | syntactic => exact tokens_goOn _ _ _
  | semantic => exact (tokens_goOn _ _ _).trans (tokens_goOn _ _ _)

end Analysis

namespace Report

/-! ### The document -/

theorem listOfJson?_errorsDocument (ds : Diagnostics) (stage : Stage) :
    Diagnostic.listOfJson? stage (errorsDocument ds) = some (ds.ofStage stage) := by
  have hfield : (errorsDocument ds).field? stage.name =
      some (.array ((ds.ofStage stage).map Diagnostic.toJson)) := by
    cases stage <;> rfl
  have hread : ((ds.ofStage stage).map Diagnostic.toJson).mapM (Diagnostic.ofJson? stage) =
      some (ds.ofStage stage) := by
    apply mapM_map_of_inverse
    intro d hd
    obtain rfl := (Diagnostics.mem_ofStage_iff.mp hd).2
    exact Diagnostic.ofJson?_toJson d
  simp [Diagnostic.listOfJson?, hfield, Value.items?, hread]

/-- The document of an analysis tells all that a report is about. -/
theorem ofJson?_document (showTokens : Bool) (a : Analysis) :
    Contents.ofJson? (document showTokens a) =
      some {
        success := a.success
        state := a.session.state
        declarations := a.declarations
        diagnostics := Stage.all.map fun stage => (stage, a.diagnostics.ofStage stage)
        tokens := if showTokens then some (a.tokens.filter (!·.isEnd)) else none } := by
  have hstate : Named.find? a.session.state.name = some a.session.state :=
    Named.find?_name a.session.state
  have hdeclarations : (a.declarations.map Declaration.toJson).mapM Declaration.ofJson? =
      some a.declarations :=
    mapM_map_of_inverse fun d _ => Declaration.ofJson?_toJson d
  have htokens : ((a.tokens.filter (!·.isEnd)).map Token.toJson).mapM Token.ofJson? =
      some (a.tokens.filter (!·.isEnd)) :=
    mapM_map_of_inverse fun t _ => Token.ofJson?_toJson t
  cases showTokens <;>
    simp [Contents.ofJson?, document, Value.field?, List.lookup_cons, Value.boolean?,
      Value.text?, Value.items?, hstate, hdeclarations, htokens, listOfJson?_errorsDocument,
      Stage.all]

/-- The report of an analysis is ASCII and a JSON text, and reading it gives back whether the
analysis succeeded, the state at its end, the declarations and the diagnostics of each stage in
their order and, if asked for, the tokens. -/
theorem read?_json (settings : Settings) (last : Stage) (showTokens : Bool) (source : String) :
    let a := analyze settings last source
    let report := json showTokens a
    IsAscii report.toList ∧ (∃! v, IsText report v) ∧
      Contents.read? report =
        some {
          success := a.success
          state := a.session.state
          declarations := a.session.declarations.getD []
          diagnostics := Stage.all.map fun stage =>
            (stage, a.diagnostics.entries.filter (·.stage == stage))
          tokens :=
            if showTokens then some ((Source.scan settings source).tokens.filter (!·.isEnd))
            else none } := by
  intro a report
  have htext : IsText report (document showTokens a) := Value.isText_render _
  refine ⟨Value.isAscii_render _, ⟨_, htext, fun w hw => hw.unique htext⟩, ?_⟩
  have htokens : a.tokens = (Source.scan settings source).tokens :=
    Analysis.tokens_analyze settings last source
  rw [Contents.read?, htext.read?, ← htokens]
  exact ofJson?_document showTokens a

end Report

end DeclLang
