import DeclLang.Validity.Checker

/-!
# A checker that is used again

An analysis drops the names and diagnostics of earlier calls but leaves the type alone that the
checker is inside of. Between calls it is inside of none, so that an analysis starts like that of a
new checker, and what was collected depends on the calls from the last analysis on. Visiting further
nodes one by one continues this analysis. A declarator that is visited by itself has no type, and no
literal fits it.
-/

set_option autoImplicit false

namespace DeclLang.Checker

variable (settings : Settings)

/-- The state after calls, each made on what the one before it left. -/
def afterAll (c : Checker) (calls : List Call) : Checker :=
  calls.foldl (after settings) c

def Call.isAnalysis : Call → Bool
  | .analyze _ => true
  | .visit _ => false

/-- The calls from the last analysis on, or all of them if there is none. -/
def fromLastAnalysis : List Call → List Call
  | [] => []
  | call :: rest =>
    if rest.any Call.isAnalysis then fromLastAnalysis rest else call :: rest

/-- The report on the initializer of a declarator that is in no declaration, if it has one. -/
def looseMismatchReports (d : Declarator) : List Diagnostic :=
  match d.initializer with
  | none => []
  | some i =>
    [⟨.semantic, d.line, "Type mismatch: cannot assign " ++ i.kind.name ++ "(" ++ i.lexeme ++
      ") to None variable '" ++ d.name ++ "'"⟩]

/-- The reports on a declarator that is in no declaration, given the names seen before it. -/
def looseReports (seen : List String) (d : Declarator) : List Diagnostic :=
  (if d.name ∈ settings.reservedWords then
    [⟨.semantic, d.line, "Invalid identifier (reserved): " ++ d.name⟩] else []) ++
  (if d.name ∈ seen then [⟨.semantic, d.line, "Duplicate variable name: " ++ d.name⟩] else []) ++
  looseMismatchReports d

/-! ### Calls in a row -/

theorem any_isAnalysis_visits (nodes : List Node) :
    (nodes.map Call.visit).any Call.isAnalysis = false := by
  induction nodes with
  | nil => rfl
  | cons node nodes ih => exact ih

/-- Either no call is an analysis, or all calls behind the last analysis are visits. -/
theorem fromLastAnalysis_cases (calls : List Call) :
    (∃ visited : List Node, calls = visited.map .visit ∧ fromLastAnalysis calls = calls) ∨
      ∃ (before : List Call) (nodes visited : List Node),
        calls = before ++ .analyze nodes :: visited.map .visit ∧
        fromLastAnalysis calls = .analyze nodes :: visited.map .visit := by
  induction calls with
  | nil => exact .inl ⟨[], rfl, rfl⟩
  | cons call rest ih =>
    rcases ih with ⟨visited, rfl, _⟩ | ⟨before, nodes, visited, rfl, hlast⟩
    · have hkeep : fromLastAnalysis (call :: visited.map .visit) = call :: visited.map .visit := by
        rw [fromLastAnalysis, any_isAnalysis_visits, if_neg (by decide)]
      cases call with
      | visit node => exact .inl ⟨node :: visited, rfl, hkeep⟩
      | analyze nodes => exact .inr ⟨[], nodes, visited, rfl, hkeep⟩
    · refine .inr ⟨call :: before, nodes, visited, rfl, ?_⟩
      have hany :
          (before ++ Call.analyze nodes :: visited.map .visit).any Call.isAnalysis = true := by
        rw [List.any_append, List.any_cons, Call.isAnalysis, Bool.true_or, Bool.or_true]
      rw [fromLastAnalysis, if_pos hany, hlast]

theorem afterAll_append (c : Checker) (front back : List Call) :
    afterAll settings c (front ++ back) = afterAll settings (afterAll settings c front) back :=
  List.foldl_append

theorem afterAll_visits (c : Checker) (nodes : List Node) :
    afterAll settings c (nodes.map .visit) = visitAll settings c nodes := by
  rw [afterAll, List.foldl_map, visitAll_eq_foldl]
  rfl

theorem visitAll_append (c : Checker) (front back : List Node) :
    visitAll settings c (front ++ back) = visitAll settings (visitAll settings c front) back := by
  rw [visitAll_eq_foldl, visitAll_eq_foldl, visitAll_eq_foldl, List.foldl_append]

/-- Visiting nodes behind an analysis is analysing them as well. -/
theorem afterAll_analyze_visits (c : Checker) (nodes more : List Node) :
    afterAll settings c (.analyze nodes :: more.map .visit) =
      after settings c (.analyze (nodes ++ more)) := by
  have hstart : afterAll settings c (.analyze nodes :: more.map .visit) =
      afterAll settings (visitAll settings c.restart nodes) (more.map .visit) := rfl
  rw [hstart, afterAll_visits, ← visitAll_append]
  rfl

/-! ### The type between calls -/

variable {settings : Settings} {c : Checker}

theorem typeName_visitAll (h : c.typeName = none) (nodes : List Node) :
    (visitAll settings c nodes).typeName = none := by
  induction nodes generalizing c with
  | nil => exact h
  | cons node nodes ih => exact ih (typeName_visit settings h node)

theorem typeName_after (h : c.typeName = none) (call : Call) :
    (after settings c call).typeName = none := by
  cases call with
  | analyze nodes => exact typeName_visitAll (c := c.restart) h nodes
  | visit node => exact typeName_visit settings h node

theorem typeName_afterAll (h : c.typeName = none) (calls : List Call) :
    (afterAll settings c calls).typeName = none := by
  induction calls generalizing c with
  | nil => exact h
  | cons call calls ih => exact ih (typeName_after h call)

theorem restart_eq_fresh (h : c.typeName = none) : c.restart = fresh := by
  rw [restart, h]
  rfl

theorem afterAll_fromLastAnalysis (calls : List Call) :
    afterAll settings fresh calls = afterAll settings fresh (fromLastAnalysis calls) := by
  rcases fromLastAnalysis_cases calls with ⟨_, _, hall⟩ | ⟨before, nodes, visited, rfl, hlast⟩
  · rw [hall]
  · -- Only the type is not reset by the analysis, and the calls before it have left none.
    have hrestart : (afterAll settings fresh before).restart = fresh :=
      restart_eq_fresh (typeName_afterAll rfl before)
    rw [hlast, afterAll_append, afterAll_analyze_visits, afterAll_analyze_visits, after, hrestart]
    rfl

/-! ### Declarators by themselves -/

theorem map_mismatchFault_none (d : Declarator) :
    (mismatchFault none d).map (·.toDiagnostic d) = looseMismatchReports d := by
  obtain ⟨name, line, initializer⟩ := d
  cases initializer with
  | none => rfl
  | some i =>
    have htext : ") to None variable '" = ") to " ++ "None" ++ " variable '" := rfl
    simp only [looseMismatchReports, htext, ← String.append_assoc]
    rfl

theorem map_faults_none (seen : List String) (d : Declarator) :
    (faults settings seen none d).map (·.toDiagnostic d) = looseReports settings seen d := by
  rw [faults, List.map_append, List.map_append, map_mismatchFault_none, apply_ite (List.map _),
    apply_ite (List.map _)]
  rfl

variable (settings)

/-- What a checker has collected after calls is what a new one collects from the last analysis on.
An analysis and visits behind it are one analysis of all their nodes. Between calls the checker is
inside of no declaration: a declarator visited there is checked for its name, every initializer that
it has is reported as one of no type, and visiting an initializer changes nothing. -/
theorem afterAll_fresh (calls : List Call) :
    let c := afterAll settings fresh calls
    c = afterAll settings fresh (fromLastAnalysis calls) ∧
      c.typeName = none ∧
      (∀ nodes more, afterAll settings c (.analyze nodes :: more.map .visit) =
        after settings c (.analyze (nodes ++ more))) ∧
      (∀ d, (after settings c (.visit (.declarator d))).errors =
          c.errors ++ looseReports settings c.seen d ∧
        ∀ name, name ∈ (after settings c (.visit (.declarator d))).seen ↔
          name = d.name ∨ name ∈ c.seen) ∧
      ∀ i, after settings c (.visit (.initializer i)) = c := by
  intro c
  have htype : c.typeName = none := typeName_afterAll rfl calls
  refine ⟨afterAll_fromLastAnalysis calls, htype, afterAll_analyze_visits settings c, ?_, ?_⟩
  · intro d
    constructor
    · rw [← map_faults_none, ← htype]
      rfl
    · intro name
      exact mem_seen_visitDeclarator_iff settings
  · intro i
    rfl

end DeclLang.Checker
