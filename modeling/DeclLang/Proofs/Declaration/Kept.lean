import DeclLang.Proofs.Declaration.Places

/-!
# What a reading keeps of its tokens

A tree keeps the type names, the names and the literals that it was read from, and no marks. They
are tokens of the list in their order, each once, however many faults there are and whatever is
given up because of them.
-/

set_option autoImplicit false

namespace DeclLang

open Token

def Initializer.token (i : Initializer) : Token :=
  ⟨i.kind, i.lexeme, i.line⟩

/-- The token of the name that a declarator declares. -/
def Declarator.nameToken (d : Declarator) : Token :=
  ⟨.identifier, d.name, d.line⟩

def Declarator.kept (d : Declarator) : List Token :=
  d.nameToken :: d.initializer.toList.map Initializer.token

def Declaration.typeToken (d : Declaration) : Token :=
  ⟨.typeName, d.typeName, d.line⟩

/-- The tokens that a declaration was read from, without the marks among them. -/
def Declaration.kept (d : Declaration) : List Token :=
  d.typeToken :: d.declarators.flatMap Declarator.kept

variable {ts : List Token}

theorem IsDeclarator.kept_sublist {d : Declarator} (h : IsDeclarator ts d) : d.kept.Sublist ts := by
  cases h with
  | plain hname => simp [Declarator.kept, Declarator.nameToken, eq_of_kind_eq hname]
  | initialized hname _ _ =>
    simp [Declarator.kept, Declarator.nameToken, Initializer.token, eq_of_kind_eq hname]

namespace Declaration

theorem HoldsDeclarators.kept_sublist {ds : List Declarator} (h : HoldsDeclarators ts ds) :
    (ds.flatMap Declarator.kept).Sublist ts := by
  induction h with
  | nil => exact .slnil
  | skip _ ih => exact .cons _ ih
  | cons hd _ ih => exact hd.kept_sublist.append ih

theorem HoldsDeclarations.kept_sublist {ds : List Declaration} (h : HoldsDeclarations ts ds) :
    (ds.flatMap kept).Sublist ts := by
  induction h with
  | nil => exact .slnil
  | skip _ ih => exact .cons _ ih
  | cons htype hvs _ _ ih =>
    rw [List.flatMap_cons, kept, typeToken, eq_of_kind_eq htype]
    exact (hvs.kept_sublist.append ih).cons_cons _

/-- What is kept are tokens of the list in front of its end, each once and in their order. -/
theorem kept_read (ts : List Token) :
    ((read ts).declarations.flatMap kept).Sublist (beforeEnd ts) :=
  (holds_read ts).kept_sublist

/-- The names among what is kept are those of the declarators. -/
theorem nameTokens_sublist (d : Declaration) :
    (d.declarators.map Declarator.nameToken).Sublist d.kept := by
  apply List.Sublist.cons
  induction d.declarators with
  | nil => exact .slnil
  | cons v vs ih => exact ((List.nil_sublist _).append ih).cons_cons _

theorem flatMap_nameTokens_sublist (ds : List Declaration) :
    (ds.flatMap (·.declarators.map Declarator.nameToken)).Sublist (ds.flatMap kept) := by
  induction ds with
  | nil => exact .slnil
  | cons d ds ih => exact (nameTokens_sublist d).append ih

end Declaration

end DeclLang
