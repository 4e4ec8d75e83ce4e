import DeclLang.Datum

/-!
Enumerations whose members have names, and the selection of a member by a value from outside. The
names are part of every report, so reading a name back must give the member it was written for;
`find?_eq_some_iff` says so for each enumeration with the laws of `LawfulNamed`.
-/

set_option autoImplicit false

namespace DeclLang

/-- An enumeration with a name for itself and for each of its members. -/
class Named (α : Type) where
  /-- The name of the enumeration. -/
  enumeration : String
  /-- All members, in their order of presentation. -/
  members : List α
  /-- The name of a member. -/
  name : α → String

/-- The list of members is complete and no two members share a name. -/
class LawfulNamed (α : Type) [Named α] : Prop where
  mem_members : ∀ a : α, a ∈ Named.members
  name_injective : ∀ a b : α, Named.name a = Named.name b → a = b

/-- A value that names no member of an enumeration. -/
structure UnknownMember where
  value : Datum
  enumeration : String
  deriving Repr

/-- The message shown for a value that names no member. -/
def UnknownMember.message (e : UnknownMember) : String :=
  e.value.display ++ " is not a valid " ++ e.enumeration

namespace Named

variable {α : Type} [Named α]

def find? (text : String) : Option α :=
  (members (α := α)).find? (name · == text)

/-- The member that a value from outside names; only texts are names. -/
def select (value : Datum) : Except UnknownMember α :=
  match value with
  | .text text =>
    match find? text with
    | some a => .ok a
    | none => .error ⟨value, enumeration α⟩
  | _ => .error ⟨value, enumeration α⟩

/-- A text selects exactly the member that bears it as its name. -/
theorem find?_eq_some_iff [LawfulNamed α] {text : String} {a : α} :
    find? text = some a ↔ name a = text := by
  constructor
  · intro h
    simpa using List.find?_some h
  · rintro rfl
    cases h : find? (α := α) (name a) with
    | none =>
      have := List.find?_eq_none.mp h a (LawfulNamed.mem_members a)
      simp at this
    | some b =>
      have hb := List.find?_some h
      simp only [beq_iff_eq] at hb
      rw [LawfulNamed.name_injective b a hb]

@[simp] theorem find?_name [LawfulNamed α] (a : α) : find? (name a) = some a :=
  find?_eq_some_iff.mpr rfl

@[simp] theorem select_name [LawfulNamed α] (a : α) :
    select (.text (name a)) = Except.ok (ε := UnknownMember) a := by
  simp [select]

end Named

end DeclLang
