import DeclLang.Validity.Checker
import Mathlib.Data.List.FinRange

/-!
# Variables are judged by themselves and the names before them

A checker walks through declarations with the names that it has seen and the type that it is inside
of. What it reports can be said without a walk, of the variables of all declarations in a row: each
is judged by its name, its initializer and the names of the variables before it, whichever
declarations these belong to and whatever was found there.

Trees made by hand, in which declarations lie inside of others, are not treated here.
-/

set_option autoImplicit false

namespace DeclLang

/-- A declarator under the type name of its declaration. -/
structure Variable where
  typeName : String
  declarator : Declarator
  deriving DecidableEq, Repr

def Declaration.variables (d : Declaration) : List Variable :=
  d.declarators.map fun v => ⟨d.typeName, v⟩

/-- The variables of declarations, in the order in which they are declared. -/
def variablesOf (ds : List Declaration) : List Variable :=
  ds.flatMap Declaration.variables

theorem variablesOf_cons (d : Declaration) (ds : List Declaration) :
    variablesOf (d :: ds) = d.variables ++ variablesOf ds := rfl

namespace Variable

def name (v : Variable) : String :=
  v.declarator.name

def report (v : Variable) (message : String) : Diagnostic :=
  ⟨.semantic, v.declarator.line, message⟩

def reservedReports (settings : Settings) (v : Variable) : List Diagnostic :=
  if v.name ∈ settings.reservedWords then
    [v.report ("Invalid identifier (reserved): " ++ v.name)]
  else []

/-- The report on the initializer of a variable, if it has one that does not fit. -/
def mismatchReports (v : Variable) : List Diagnostic :=
  match v.declarator.initializer with
  | none => []
  | some i =>
    if isAssignable (some v.typeName) i.kind i.lexeme = false then
      [v.report ("Type mismatch: cannot assign " ++ i.kind.name ++ "(" ++ i.lexeme ++ ") to " ++
        v.typeName ++ " variable '" ++ v.name ++ "'")]
    else []

/-- The reports on a variable, given whether its name is a repeated one: on its name, first as such
and then as a repeated one, and on its initializer. -/
def reports (settings : Settings) (repeated : Prop) [Decidable repeated] (v : Variable) :
    List Diagnostic :=
  reservedReports settings v ++
  (if repeated then [v.report ("Duplicate variable name: " ++ v.name)] else []) ++
  mismatchReports v

/-- Whether the variable at a position has the name of one at an earlier position. -/
def IsRepeated (vs : List Variable) (i : Fin vs.length) : Prop :=
  ∃ j : Fin vs.length, j < i ∧ vs[j].name = vs[i].name

instance (vs : List Variable) (i : Fin vs.length) : Decidable (IsRepeated vs i) :=
  inferInstanceAs (Decidable (∃ j : Fin vs.length, j < i ∧ vs[j].name = vs[i].name))

/-- The reports on the variable at a position. -/
def judge (settings : Settings) (vs : List Variable) (i : Fin vs.length) : List Diagnostic :=
  vs[i].reports settings (IsRepeated vs i)

/-! ### Variables behind others -/

def namesOf (vs : List Variable) : List String :=
  vs.map name

theorem isRepeated_iff {vs : List Variable} {i : Fin vs.length} :
    IsRepeated vs i ↔ vs[i].name ∈ namesOf (vs.take i) := by
  constructor
  · rintro ⟨j, hlt, hname⟩
    rw [← hname]
    apply List.mem_map_of_mem
    rw [List.mem_take_iff_getElem]
    exact ⟨j, by omega, rfl⟩
  · intro h
    obtain ⟨w, hw, hname⟩ := List.mem_map.mp h
    obtain ⟨j, hj, rfl⟩ := List.mem_take_iff_getElem.mp hw
    exact ⟨⟨j, by omega⟩, Fin.mk_lt_of_lt_val (by omega), hname⟩

/-- The reports on a variable behind others. -/
def reportsBehind (settings : Settings) (earlier : List Variable) (v : Variable) :
    List Diagnostic :=
  v.reports settings (v.name ∈ namesOf earlier)

/-- The reports on variables in a row, all of them behind others. -/
def reportsFrom (settings : Settings) (earlier vs : List Variable) : List Diagnostic :=
  (List.finRange vs.length).flatMap fun i : Fin vs.length =>
    reportsBehind settings (earlier ++ vs.take i) vs[i]

theorem reportsFrom_nil_eq_judge (settings : Settings) (vs : List Variable) :
    reportsFrom settings [] vs = (List.finRange vs.length).flatMap (judge settings vs) := by
  unfold reportsFrom
  congr 1
  funext i
  simp only [reportsBehind, judge, reports, List.nil_append, isRepeated_iff]

@[simp] theorem reportsFrom_nil (settings : Settings) (earlier : List Variable) :
    reportsFrom settings earlier [] = [] := rfl

theorem reportsFrom_cons (settings : Settings) (earlier : List Variable) (v : Variable)
    (vs : List Variable) :
    reportsFrom settings earlier (v :: vs) =
      reportsBehind settings earlier v ++ reportsFrom settings (earlier ++ [v]) vs := by
  simp only [reportsFrom, List.length_cons, List.finRange_succ, List.flatMap_cons,
    List.flatMap_map]
  simp

theorem reportsFrom_append (settings : Settings) (earlier vs ws : List Variable) :
    reportsFrom settings earlier (vs ++ ws) =
      reportsFrom settings earlier vs ++ reportsFrom settings (earlier ++ vs) ws := by
  induction vs generalizing earlier with
  | nil => simp
  | cons v vs ih =>
    rw [List.cons_append, reportsFrom_cons, reportsFrom_cons, ih, List.append_assoc,
      List.append_assoc, List.singleton_append]

end Variable

namespace Checker

open Variable

variable (settings : Settings) {c : Checker} {earlier : List Variable}

/-- The seen names are those of the given variables. -/
def HasSeen (c : Checker) (vs : List Variable) : Prop :=
  ∀ name, name ∈ c.seen ↔ name ∈ namesOf vs

theorem hasSeen_fresh : fresh.HasSeen [] := by
  intro name
  rfl

/-! ### One declarator -/

theorem map_mismatchFault (typeName : String) (d : Declarator) :
    (mismatchFault (some typeName) d).map (·.toDiagnostic d) =
      mismatchReports ⟨typeName, d⟩ := by
  obtain ⟨name, line, init⟩ := d
  cases init with
  | none => rfl
  | some i =>
    simp only [mismatchFault, mismatchReports]
    cases isAssignable (some typeName) i.kind i.lexeme <;> rfl

theorem map_faults (hseen : c.HasSeen earlier) (typeName : String) (d : Declarator) :
    (faults settings c.seen (some typeName) d).map (·.toDiagnostic d) =
      reportsBehind settings earlier ⟨typeName, d⟩ := by
  have hreserved : (if d.name ∈ settings.reservedWords then [ValidityFault.reservedName d.name]
      else []).map (·.toDiagnostic d) = reservedReports settings ⟨typeName, d⟩ := by
    rw [apply_ite (List.map _)]
    rfl
  rw [faults, List.map_append, List.map_append, map_mismatchFault, hreserved,
    apply_ite (List.map _), if_congr (hseen d.name) rfl rfl]
  rfl

/-- A declarator adds its reports, which depend on no earlier one, and its name. -/
theorem visitDeclarator_step {typeName : String} (htype : c.typeName = some typeName)
    (hseen : c.HasSeen earlier) (d : Declarator) :
    (visitDeclarator settings c d).errors =
        c.errors ++ reportsBehind settings earlier ⟨typeName, d⟩ ∧
      (visitDeclarator settings c d).HasSeen (earlier ++ [⟨typeName, d⟩]) := by
  constructor
  · rw [← map_faults settings hseen, ← htype]
    rfl
  · intro name
    rw [mem_seen_visitDeclarator_iff, hseen name, namesOf, namesOf, List.map_append,
      List.mem_append, or_comm]
    simp [Variable.name]

/-! ### Declarations -/

theorem foldl_visitDeclarator {typeName : String} (htype : c.typeName = some typeName)
    (hseen : c.HasSeen earlier) (ds : List Declarator) :
    (ds.foldl (visitDeclarator settings) c).errors =
        c.errors ++ reportsFrom settings earlier (ds.map (⟨typeName, ·⟩)) ∧
      (ds.foldl (visitDeclarator settings) c).HasSeen (earlier ++ ds.map (⟨typeName, ·⟩)) := by
  induction ds generalizing c earlier with
  | nil =>
    rw [List.map_nil, List.append_nil, reportsFrom_nil, List.append_nil]
    exact ⟨rfl, hseen⟩
  | cons d ds ih =>
    obtain ⟨herrors, hnext⟩ := visitDeclarator_step settings htype hseen d
    obtain ⟨hrest, hall⟩ := ih (c := visitDeclarator settings c d) htype hnext
    rw [List.foldl_cons, List.map_cons, reportsFrom_cons]
    constructor
    · rw [hrest, herrors, List.append_assoc]
    · rwa [List.append_assoc, List.singleton_append] at hall

/-- The type is set for the declarators of a declaration; the names are kept beyond it. -/
theorem visit_toNode_step (hseen : c.HasSeen earlier) (d : Declaration) :
    (visit settings c d.toNode).errors =
        c.errors ++ reportsFrom settings earlier d.variables ∧
      (visit settings c d.toNode).HasSeen (earlier ++ d.variables) := by
  rw [visit_toNode]
  exact foldl_visitDeclarator settings (c := c.inType (some d.typeName)) rfl hseen d.declarators

theorem foldl_visit_toNode (hseen : c.HasSeen earlier) (ds : List Declaration) :
    ((ds.map Declaration.toNode).foldl (visit settings) c).errors =
      c.errors ++ reportsFrom settings earlier (variablesOf ds) := by
  induction ds generalizing c earlier with
  | nil => exact (List.append_nil _).symm
  | cons d ds ih =>
    obtain ⟨herrors, hnext⟩ := visit_toNode_step settings hseen d
    rw [List.map_cons, List.foldl_cons, ih hnext, herrors, variablesOf_cons, reportsFrom_append,
      List.append_assoc]

end Checker

theorem validate_eq_reportsFrom (settings : Settings) (ds : List Declaration) :
    validate settings ds = Variable.reportsFrom settings [] (variablesOf ds) := by
  rw [validate, Checker.analyze, Checker.visitAll_eq_foldl]
  exact Checker.foldl_visit_toNode settings Checker.hasSeen_fresh ds

/-- Validation reports on the variables of all declarations one after the other: on a reserved name,
on a name that an earlier variable has, and on an initializer that does not fit. -/
theorem validate_eq_judge (settings : Settings) (ds : List Declaration) :
    validate settings ds =
      (List.finRange (variablesOf ds).length).flatMap
        (Variable.judge settings (variablesOf ds)) := by
  rw [validate_eq_reportsFrom]
  exact Variable.reportsFrom_nil_eq_judge settings (variablesOf ds)

end DeclLang
