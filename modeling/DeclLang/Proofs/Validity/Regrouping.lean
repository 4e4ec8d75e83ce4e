import DeclLang.Proofs.Validity.Mismatch
import Mathlib.Data.Finset.Card

/-!
# Grouping and order of variables

Variables are judged in a row, so nothing changes when a declaration is split into several of the
same type. Of a variable in another place the reports on its name by itself and on its initializer
are the same; only whether its name is repeated depends on what stands before it. Still the number
of such reports is always the same, since of all variables with one name exactly the first is free
of them.

Diagnostics are told apart here by what their messages begin with.
-/

set_option autoImplicit false

namespace DeclLang

/-- What a report of a validation can be about. -/
inductive Concern where
  | reservedName
  | repeatedName
  | mismatch
  deriving DecidableEq, Repr

/-- What the messages about a concern begin with. -/
def Concern.opening : Concern → String
  | .reservedName => "Invalid identifier (reserved): "
  | .repeatedName => "Duplicate variable name: "
  | .mismatch => "Type mismatch: cannot assign "

def Diagnostic.isAbout (d : Diagnostic) (c : Concern) : Bool :=
  c.opening.toList.isPrefixOf d.message.toList

/-- Whether some declarations declare the same variables in the same order as a single one. -/
structure Declaration.SplitsInto (d : Declaration) (parts : List Declaration) : Prop where
  typeName_eq : ∀ part ∈ parts, part.typeName = d.typeName
  declarators_eq : parts.flatMap Declaration.declarators = d.declarators

/-- Whether two declarations declare the same variables, in whichever orders. -/
structure Declaration.Reorders (d e : Declaration) : Prop where
  typeName_eq : e.typeName = d.typeName
  declarators_perm : d.declarators.Perm e.declarators

/-- Whether declarations are others in another order, and the declarators of each as well. -/
def Reordering (ds es : List Declaration) : Prop :=
  ∃ mid, List.Forall₂ Declaration.Reorders ds mid ∧ mid.Perm es

/-! ### Concerns -/

theorem isAbout_of_message {d : Diagnostic} {c : Concern} {rest : List Char}
    (h : d.message.toList = c.opening.toList ++ rest) (c' : Concern) :
    d.isAbout c' = decide (c' = c) := by
  rw [Diagnostic.isAbout, h]
  cases c <;> cases c' <;> rfl

namespace Variable

variable {settings : Settings} {v : Variable} {d : Diagnostic}

/-- The report on a name that an earlier variable has. -/
def repetition (v : Variable) : Diagnostic :=
  v.report (Concern.repeatedName.opening ++ v.name)

theorem isAbout_report (v : Variable) (about c : Concern) (text : String) :
    (v.report (about.opening ++ text)).isAbout c = decide (c = about) := by
  have hmessage : (v.report (about.opening ++ text)).message = about.opening ++ text := rfl
  exact isAbout_of_message (by rw [hmessage, String.toList_append]) c

theorem isAbout_of_mem_reservedReports (h : d ∈ v.reservedReports settings) (c : Concern) :
    d.isAbout c = decide (c = .reservedName) := by
  unfold reservedReports at h
  split at h
  · obtain rfl := List.mem_singleton.mp h
    exact isAbout_report v .reservedName c v.name
  · cases h

theorem isAbout_repetition (v : Variable) (c : Concern) :
    v.repetition.isAbout c = decide (c = .repeatedName) :=
  isAbout_report v .repeatedName c v.name

theorem isAbout_of_mem_mismatchReports (h : d ∈ v.mismatchReports) (c : Concern) :
    d.isAbout c = decide (c = .mismatch) := by
  obtain ⟨i, _, _, rfl⟩ := mem_mismatchReports_iff.mp h
  have hmessage := toList_message_mismatch v i
  have hopening : Concern.mismatch.opening = "Type mismatch: cannot assign " := rfl
  rw [← hopening] at hmessage
  exact isAbout_of_message hmessage c

theorem reports_eq (v : Variable) (repeated : Prop) [Decidable repeated] :
    v.reports settings repeated =
      v.reservedReports settings ++ (if repeated then [v.repetition] else []) ++
        v.mismatchReports := rfl

theorem exists_isAbout_of_mem_reports {repeated : Prop} [Decidable repeated]
    (h : d ∈ v.reports settings repeated) : ∃ c, ∀ c', d.isAbout c' = decide (c' = c) := by
  rw [reports_eq] at h
  rcases List.mem_append.mp h with h | h
  · rcases List.mem_append.mp h with h | h
    · exact ⟨_, isAbout_of_mem_reservedReports h⟩
    · split at h
      · obtain rfl := List.mem_singleton.mp h
        exact ⟨_, isAbout_repetition v⟩
      · cases h
  · exact ⟨_, isAbout_of_mem_mismatchReports h⟩

/-- What is not about repeated names does not depend on earlier variables. -/
theorem filter_reports_of_ne {c : Concern} (hc : c ≠ .repeatedName) (v : Variable)
    (repeated : Prop) [Decidable repeated] :
    (v.reports settings repeated).filter (·.isAbout c) =
      (v.reservedReports settings ++ v.mismatchReports).filter (·.isAbout c) := by
  have hnone : (if repeated then [v.repetition] else []).filter (·.isAbout c) = [] := by
    split
    · rw [List.filter_singleton, isAbout_repetition, decide_eq_false hc]
      rfl
    · rfl
  rw [reports_eq, List.filter_append, List.filter_append, hnone, List.append_nil,
    List.filter_append]

theorem filter_reports_repeatedName (v : Variable) (repeated : Prop) [Decidable repeated] :
    (v.reports settings repeated).filter (·.isAbout .repeatedName) =
      if repeated then [v.repetition] else [] := by
  have hreserved : (v.reservedReports settings).filter (·.isAbout .repeatedName) = [] := by
    apply List.filter_eq_nil_iff.mpr
    intro d hd
    simp [isAbout_of_mem_reservedReports hd]
  have hmismatch : v.mismatchReports.filter (·.isAbout .repeatedName) = [] := by
    apply List.filter_eq_nil_iff.mpr
    intro d hd
    simp [isAbout_of_mem_mismatchReports hd]
  rw [reports_eq, List.filter_append, List.filter_append, hreserved, hmismatch, List.append_nil,
    List.nil_append]
  split
  · rw [List.filter_singleton, isAbout_repetition]
    rfl
  · rfl

/-! ### Names that are repeated -/

variable (settings)

/-- The reports on repeated names among variables that stand behind others. -/
def repetitionsFrom (earlier vs : List Variable) : List Diagnostic :=
  (reportsFrom settings earlier vs).filter (·.isAbout .repeatedName)

theorem repetitionsFrom_cons (earlier : List Variable) (v : Variable) (vs : List Variable) :
    repetitionsFrom settings earlier (v :: vs) =
      (if v.name ∈ namesOf earlier then [v.repetition] else []) ++
        repetitionsFrom settings (earlier ++ [v]) vs := by
  rw [repetitionsFrom, reportsFrom_cons, List.filter_append, reportsBehind,
    filter_reports_repeatedName]
  rfl

theorem mem_namesOf_append_singleton {earlier : List Variable} {v : Variable} {name : String} :
    name ∈ namesOf (earlier ++ [v]) ↔ name ∈ namesOf earlier ∨ name = v.name := by
  simp [namesOf]

theorem card_namesOf_append_singleton (earlier : List Variable) (v : Variable) :
    (namesOf (earlier ++ [v])).toFinset.card =
      (namesOf earlier).toFinset.card + if v.name ∈ namesOf earlier then 0 else 1 := by
  have hinsert : (namesOf (earlier ++ [v])).toFinset =
      insert v.name (namesOf earlier).toFinset := by
    ext name
    rw [List.mem_toFinset, mem_namesOf_append_singleton, Finset.mem_insert, List.mem_toFinset,
      or_comm]
  rw [hinsert]
  split
  · next hmem => exact congrArg _ (Finset.insert_eq_of_mem (List.mem_toFinset.mpr hmem))
  · next hnew => exact Finset.card_insert_of_notMem (mt List.mem_toFinset.mp hnew)

/-- Every variable brings a new name or a report on its name. -/
theorem length_repetitionsFrom (earlier vs : List Variable) :
    (repetitionsFrom settings earlier vs).length + (namesOf (earlier ++ vs)).toFinset.card =
      vs.length + (namesOf earlier).toFinset.card := by
  induction vs generalizing earlier with
  | nil => rw [List.append_nil]; rfl
  | cons v vs ih =>
    have hrest := ih (earlier ++ [v])
    rw [card_namesOf_append_singleton, List.append_assoc, List.singleton_append] at hrest
    rw [repetitionsFrom_cons, List.length_append, List.length_cons]
    split at hrest
    · next hmem =>
      rw [if_pos hmem, List.length_singleton]
      omega
    · next hnew =>
      rw [if_neg hnew, List.length_nil]
      omega

theorem message_repetition_eq_iff {v : Variable} {name : String} :
    v.repetition.message = Concern.repeatedName.opening ++ name ↔ v.name = name := by
  constructor
  · intro h
    have htext := congrArg String.toList h
    rw [repetition, report, String.toList_append, String.toList_append] at htext
    exact String.toList_inj.mp (List.append_cancel_left htext)
  · rintro rfl
    rfl

/-- Of the variables with one name, all but the first are reported, and that one too if it stands
behind another. -/
theorem countP_repetitionsFrom (earlier vs : List Variable) (name : String) :
    (repetitionsFrom settings earlier vs).countP
        (·.message = Concern.repeatedName.opening ++ name) =
      if name ∈ namesOf earlier then (namesOf vs).count name
      else (namesOf vs).count name - 1 := by
  induction vs generalizing earlier with
  | nil => split <;> rfl
  | cons v vs ih =>
    have hcount : (namesOf (v :: vs)).count name =
        (namesOf vs).count name + if v.name = name then 1 else 0 := by
      rw [namesOf, List.map_cons, List.count_cons]
      simp [namesOf]
    rw [repetitionsFrom_cons, List.countP_append, ih, hcount]
    by_cases hname : v.name = name
    · subst hname
      have hbehind : v.name ∈ namesOf (earlier ++ [v]) :=
        mem_namesOf_append_singleton.mpr (.inr rfl)
      rw [if_pos hbehind, if_pos rfl]
      split
      · rw [List.countP_singleton, if_pos (decide_eq_true (message_repetition_eq_iff.mpr rfl))]
        omega
      · rw [List.countP_nil]
        omega
    · have hother : name ∈ namesOf (earlier ++ [v]) ↔ name ∈ namesOf earlier := by
        rw [mem_namesOf_append_singleton, or_iff_left (Ne.symm hname)]
      have hzero : (if v.name ∈ namesOf earlier then [v.repetition] else []).countP
          (·.message = Concern.repeatedName.opening ++ name) = 0 := by
        split
        · rw [List.countP_singleton,
            if_neg (by simpa using mt message_repetition_eq_iff.mp hname)]
        · rfl
      rw [hzero, if_neg hname, Nat.zero_add, Nat.add_zero, if_congr hother rfl rfl]

/-! ### Other reports -/

theorem filter_reportsFrom_of_ne {c : Concern} (hc : c ≠ .repeatedName)
    (earlier vs : List Variable) :
    (reportsFrom settings earlier vs).filter (·.isAbout c) =
      vs.flatMap fun v =>
        (v.reservedReports settings ++ v.mismatchReports).filter (·.isAbout c) := by
  induction vs generalizing earlier with
  | nil => rfl
  | cons v vs ih =>
    rw [reportsFrom_cons, List.filter_append, reportsBehind, filter_reports_of_ne hc, ih,
      List.flatMap_cons]

theorem exists_isAbout_of_mem_reportsFrom {earlier vs : List Variable}
    (h : d ∈ reportsFrom settings earlier vs) : ∃ c, ∀ c', d.isAbout c' = decide (c' = c) := by
  obtain ⟨i, _, hi⟩ := List.mem_flatMap.mp h
  exact exists_isAbout_of_mem_reports hi

end Variable

open Variable

/-! ### Variables of declarations -/

theorem namesOf_variablesOf (ds : List Declaration) :
    namesOf (variablesOf ds) = ds.flatMap Declaration.names := by
  rw [namesOf, variablesOf, List.map_flatMap]
  congr 1
  funext d
  rw [Declaration.variables, List.map_map]
  rfl

theorem variablesOf_of_splitsInto {d : Declaration} {parts : List Declaration}
    (h : d.SplitsInto parts) : variablesOf parts = d.variables := by
  have hparts : parts.map Declaration.variables =
      parts.map fun part => part.declarators.map fun v => ⟨d.typeName, v⟩ := by
    apply List.map_congr_left
    intro part hpart
    rw [Declaration.variables, h.typeName_eq part hpart]
  rw [variablesOf, List.flatMap_def, hparts, ← List.flatMap_def, ← List.map_flatMap,
    h.declarators_eq]
  rfl

theorem variablesOf_flatten {ds : List Declaration} {parts : List (List Declaration)}
    (h : List.Forall₂ Declaration.SplitsInto ds parts) :
    variablesOf parts.flatten = variablesOf ds := by
  induction h with
  | nil => rfl
  | cons hd _ ih =>
    rw [List.flatten_cons, variablesOf, List.flatMap_append, ← variablesOf, ← variablesOf,
      variablesOf_of_splitsInto hd, ih, variablesOf_cons]

theorem variablesOf_perm {ds es : List Declaration} (h : Reordering ds es) :
    (variablesOf ds).Perm (variablesOf es) := by
  obtain ⟨mid, heach, hperm⟩ := h
  have hmid : (variablesOf ds).Perm (variablesOf mid) := by
    clear hperm
    induction heach with
    | nil => exact .refl _
    | @cons d e ds mid hd _ ih =>
      rw [variablesOf_cons, variablesOf_cons]
      apply List.Perm.append
      · rw [Declaration.variables, Declaration.variables, hd.typeName_eq]
        exact hd.declarators_perm.map _
      · exact ih
  exact hmid.trans (hperm.flatMap_right _)

/-! ### Reports of a validation -/

theorem countP_repeatedName_validate (settings : Settings) (ds : List Declaration) :
    (validate settings ds).countP (·.isAbout .repeatedName) +
        (ds.flatMap Declaration.names).toFinset.card =
      (ds.flatMap Declaration.names).length := by
  have hlength := length_repetitionsFrom settings [] (variablesOf ds)
  have hnames : (namesOf (variablesOf ds)).length = (variablesOf ds).length := List.length_map _
  rw [List.nil_append, ← hnames, namesOf_variablesOf] at hlength
  rw [validate_eq_reportsFrom, List.countP_eq_length_filter, ← repetitionsFrom, hlength]
  rfl

theorem countP_message_validate (settings : Settings) (ds : List Declaration) (name : String) :
    (validate settings ds).countP (·.message = Concern.repeatedName.opening ++ name) =
      (ds.flatMap Declaration.names).count name - 1 := by
  have hcount := countP_repetitionsFrom settings [] (variablesOf ds) name
  rw [if_neg (by simp [namesOf]), namesOf_variablesOf, repetitionsFrom, List.countP_filter]
    at hcount
  rw [validate_eq_reportsFrom, ← hcount]
  apply List.countP_congr
  intro d _
  simp only [Bool.and_eq_true, decide_eq_true_eq, iff_self_and]
  intro hmessage
  rw [isAbout_of_message (c := .repeatedName) (by rw [hmessage, String.toList_append])]
  rfl

theorem flatMap_names_perm {ds es : List Declaration} (h : Reordering ds es) :
    (ds.flatMap Declaration.names).Perm (es.flatMap Declaration.names) := by
  rw [← namesOf_variablesOf, ← namesOf_variablesOf]
  exact (variablesOf_perm h).map _

/-- Splitting declarations changes nothing in what is reported. In another order of declarations and
declarators the same reports are made, except for those on repeated names, of which there are as
many; every report is about one concern alone. A name is reported as repeated once less than there
are declarators with it, and all names together as often as there are more declarators than names.
-/
theorem validate_regrouped (settings : Settings) (ds : List Declaration) :
    let reports := validate settings ds
    let names := ds.flatMap Declaration.names
    (∀ parts, List.Forall₂ Declaration.SplitsInto ds parts →
      validate settings parts.flatten = reports) ∧
    (∀ es, Reordering ds es →
      (∀ c, c ≠ .repeatedName →
        (reports.filter (·.isAbout c)).Perm ((validate settings es).filter (·.isAbout c))) ∧
      (validate settings es).countP (·.isAbout .repeatedName) =
        reports.countP (·.isAbout .repeatedName)) ∧
    (∀ d ∈ reports, ∃ c, ∀ c', d.isAbout c' = decide (c' = c)) ∧
    (∀ name, reports.countP (·.message = Concern.repeatedName.opening ++ name) =
      names.count name - 1) ∧
    reports.countP (·.isAbout .repeatedName) + names.toFinset.card = names.length := by
  intro reports names
  refine ⟨?_, ?_, ?_, countP_message_validate settings ds, countP_repeatedName_validate settings ds⟩
  · intro parts hparts
    rw [validate_eq_reportsFrom, variablesOf_flatten hparts, ← validate_eq_reportsFrom]
  · intro es hes
    constructor
    · intro c hc
      simp only [reports]
      rw [validate_eq_reportsFrom, validate_eq_reportsFrom, filter_reportsFrom_of_ne settings hc,
        filter_reportsFrom_of_ne settings hc]
      exact (variablesOf_perm hes).flatMap_right _
    · have hds := countP_repeatedName_validate settings ds
      have hes' := countP_repeatedName_validate settings es
      have hperm := flatMap_names_perm hes
      rw [← hperm.length_eq, ← List.toFinset_eq_of_perm _ _ hperm] at hes'
      exact Nat.add_right_cancel (hes'.trans hds.symm)
  · intro d hd
    simp only [reports] at hd
    rw [validate_eq_reportsFrom] at hd
    exact exists_isAbout_of_mem_reportsFrom settings hd

/-- A name that occurs three times, under two types, once reserved and once with an initializer that
does not fit. -/
theorem validate_regrouped_threefold :
    let settings : Settings := { reservedWords := ["a"] }
    let first : Declarator := ⟨"a", 1, none⟩
    let second : Declarator := ⟨"a", 2, some ⟨.literal .char, "'c'", 2⟩⟩
    let other : Declarator := ⟨"b", 2, some ⟨.literal .int, "1", 2⟩⟩
    let third : Declarator := ⟨"a", 3, none⟩
    let ds : List Declaration := [⟨"int", [first, second, other], 1⟩, ⟨"char", [third], 3⟩]
    let parts : List (List Declaration) :=
      [[⟨"int", [first], 1⟩, ⟨"int", [second, other], 2⟩], [⟨"char", [third], 3⟩]]
    let es : List Declaration := [⟨"char", [third], 3⟩, ⟨"int", [other, second, first], 1⟩]
    List.Forall₂ Declaration.SplitsInto ds parts ∧ Reordering ds es ∧
      validate settings parts.flatten = validate settings ds ∧
      (validate settings es).countP (·.isAbout .repeatedName) =
        (validate settings ds).countP (·.isAbout .repeatedName) := by
  intro settings first second other third ds parts es
  have hsplit : List.Forall₂ Declaration.SplitsInto ds parts :=
    .cons ⟨by decide, by decide⟩ (.cons ⟨by decide, by decide⟩ .nil)
  have horder : Reordering ds es :=
    ⟨es.reverse, .cons ⟨rfl, by decide⟩ (.cons ⟨rfl, by decide⟩ .nil), es.reverse_perm⟩
  obtain ⟨hparts, hes, _⟩ := validate_regrouped settings ds
  exact ⟨hsplit, horder, hparts parts hsplit, (hes es horder).2⟩

end DeclLang
