import DeclLang.Diagnostic.Collectors
import DeclLang.Proofs.Diagnostic.Listing
import DeclLang.Report.Document
import Mathlib.Algebra.GroupWithZero.Nat

/-!
# Collections lose and double nothing

A step appends to one collection and leaves the others as they are, so a collection holds what the
steps addressed to it have appended, in their order. Merging a collection into itself is such a
step as well: it appends what the collection held before.

Counts, messages, shapes and listings are views of the same entries. Sorting the entries by stages
keeps each of them once, which is why the number in a summary is that of the numbered rows above it.
-/

set_option autoImplicit false

namespace DeclLang

namespace Diagnostics

/-! ### Views of a collection -/

/-- The rows of a stage's diagnostics, numbered from one. -/
def entryRows (ds : Diagnostics) (stage : Stage) : List String :=
  (ds.ofStage stage).mapIdx fun i d => toString (1 + i) ++ ". " ++ d.display

/-- The rows of a stage that has diagnostics: its title, then its entries. -/
def sectionRows (ds : Diagnostics) (stage : Stage) : List String :=
  (stage.title ++ " errors:") :: ds.entryRows stage

/-- The views of a collection show its entries, none of them left out and none of them twice. -/
structure ViewsAgree (ds : Diagnostics) : Prop where
  inOrder : ∀ stage, (ds.ofStage stage).Sublist ds.entries
  disjoint : ∀ stage other, stage ≠ other → ∀ d ∈ ds.ofStage stage, d ∉ ds.ofStage other
  exhaustive : (Stage.all.flatMap ds.ofStage).Perm ds.entries
  count : ds.count none = (Stage.all.map fun stage => ds.count (some stage)).sum
  messages : ds.messages.length = ds.count none
  shapes : ds.toJson.length = ds.count none
  /-- The number in the summary is that of the numbered rows. -/
  listing : ds.listing =
    if ds.count none = 0 then "No diagnostics."
    else "\n".intercalate
      ((Stage.all.filter fun stage => !(ds.entryRows stage).isEmpty).flatMap ds.sectionRows ++
        ["Analysis summary: " ++ toString (Stage.all.flatMap ds.entryRows).length ++ " error(s)"])
  /-- Where no message has a newline, the numbered rows are found in the text. -/
  read : (∀ d ∈ ds.entries, '\n' ∉ d.message.toList) →
    (readListing ds.listing).length = (Stage.all.flatMap ds.entryRows).length

theorem numbered_eq_mapIdx (start : Nat) (shown : List Diagnostic) :
    numbered start shown =
      shown.mapIdx fun i d => toString (start + i) ++ ". " ++ d.display := by
  induction shown generalizing start with
  | nil => rfl
  | cons d shown ih =>
    simp only [numbered, ih, List.mapIdx_cons, Nat.add_zero, Nat.add_assoc, Nat.add_comm 1]

theorem stageLines_eq (ds : Diagnostics) : ds.stageLines = ds.sectionRows := by
  funext stage
  rw [stageLines, numbered_eq_mapIdx]
  rfl

theorem length_entryRows (ds : Diagnostics) (stage : Stage) :
    (ds.entryRows stage).length = ds.count (some stage) :=
  List.length_mapIdx

theorem reporting_eq (ds : Diagnostics) :
    ds.reporting = Stage.all.filter fun stage => !(ds.entryRows stage).isEmpty := by
  rw [reporting]
  congr 1
  funext stage
  rw [entryRows]
  cases ds.ofStage stage with
  | nil => rfl
  | cons d shown =>
    rw [List.mapIdx_cons]
    rfl

theorem count_eq_sum (ds : Diagnostics) :
    ds.count none = (Stage.all.map fun stage => ds.count (some stage)).sum := by
  have hperm := (flatMap_ofStage_perm ds).length_eq
  rw [List.length_flatMap] at hperm
  exact hperm.symm

theorem length_flatMap_entryRows (ds : Diagnostics) :
    (Stage.all.flatMap ds.entryRows).length = ds.count none := by
  rw [List.length_flatMap, count_eq_sum]
  simp only [length_entryRows]

theorem viewsAgree (ds : Diagnostics) : ds.ViewsAgree where
  inOrder _ := List.filter_sublist
  disjoint stage other hne d hd hother :=
    hne ((mem_ofStage_iff.mp hd).2.symm.trans (mem_ofStage_iff.mp hother).2)
  exhaustive := flatMap_ofStage_perm ds
  count := count_eq_sum ds
  messages := List.length_map _
  shapes := List.length_map _
  listing := by
    rw [length_flatMap_entryRows, ← reporting_eq, ← stageLines_eq]
    split
    next h =>
      rw [listing, (hasErrors_eq_false_iff ds).mpr (List.eq_nil_of_length_eq_zero h)]
      rfl
    next h =>
      have herrors : ds.hasErrors = true := by
        rw [← Bool.not_eq_false, hasErrors_eq_false_iff]
        rintro hnil
        exact h (congrArg List.length hnil)
      exact listing_of_hasErrors herrors
  read h := by
    rw [readListing_listing h, length_flatMap_entryRows]
    exact (flatMap_ofStage_perm ds).length_eq

end Diagnostics

namespace Collectors

/-! ### Steps -/

/-- A change and the name of the collection that it is made to. -/
structure Step where
  name : String
  change : Change

variable {cs : Collectors} {name other : String}

def after (cs : Collectors) (steps : List Step) : Collectors :=
  steps.foldl (fun cs s => cs.apply s.name s.change) cs

/-- What steps append to the collection of a name, in their order. -/
def appendedTo (name : String) : Collectors → List Step → List Diagnostic
  | _, [] => []
  | cs, s :: steps =>
    (if s.name = name then s.change.appended cs else []) ++
      appendedTo name (cs.apply s.name s.change) steps

/-- A change appends to its own collection. -/
theorem entries_apply_self (cs : Collectors) (name : String) (change : Change) :
    ((cs.apply name change).get name).entries =
      (cs.get name).entries ++ change.appended cs := by
  cases change with
  | add d => rw [apply, get_set_self, Diagnostics.entries_add, Change.appended]
  | extend ds => rw [apply, get_set_self, Diagnostics.entries_extend, Change.appended]
  | merge other => rw [apply, get_set_self, Diagnostics.entries_merge, Change.appended]

/-- A change leaves the other collections alone. -/
theorem get_apply_of_ne (h : other ≠ name) (change : Change) :
    (cs.apply name change).get other = cs.get other := by
  cases change with
  | add d => exact get_set_of_ne h
  | extend ds => exact get_set_of_ne h
  | merge source => exact get_set_of_ne h

/-- What a collection holds after steps is what it held and what the steps append to it. -/
theorem entries_after (cs : Collectors) (steps : List Step) (name : String) :
    ((cs.after steps).get name).entries =
      (cs.get name).entries ++ appendedTo name cs steps := by
  induction steps generalizing cs with
  | nil => exact (List.append_nil _).symm
  | cons s steps ih =>
    have hrest : (cs.after (s :: steps)) = (cs.apply s.name s.change).after steps := rfl
    rw [hrest, ih, appendedTo, ← List.append_assoc]
    congr 1
    split
    next h => rw [← h, entries_apply_self]
    next h => rw [get_apply_of_ne (Ne.symm h), List.append_nil]

/-- Collections lose and double nothing. A step, in any state, appends to its own collection what it
adds, what it is given or what the merged collection holds, and changes no other; a collection
merged into itself holds everything twice. After any steps a collection holds what these have
appended to it, and all of its views agree on that. -/
theorem after_initial (steps : List Step) :
    (∀ (cs : Collectors) (s : Step),
      ((cs.apply s.name s.change).get s.name).entries =
          (cs.get s.name).entries ++ s.change.appended cs ∧
        ∀ other, other ≠ s.name → (cs.apply s.name s.change).get other = cs.get other) ∧
    (∀ (cs : Collectors) (name : String),
      ((cs.apply name (.merge name)).get name).entries =
        (cs.get name).entries ++ (cs.get name).entries) ∧
    ∀ name,
      ((initial.after steps).get name).entries = appendedTo name initial steps ∧
      ((initial.after steps).get name).ViewsAgree := by
  refine ⟨?_, ?_, ?_⟩
  · intro cs s
    exact ⟨entries_apply_self cs s.name s.change, fun _ h => get_apply_of_ne h s.change⟩
  · intro cs name
    exact entries_apply_self cs name (.merge name)
  · intro name
    exact ⟨entries_after initial steps name, Diagnostics.viewsAgree _⟩

end Collectors

end DeclLang
