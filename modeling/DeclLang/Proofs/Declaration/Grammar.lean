import DeclLang.Declaration.Basic

/-!
# The grammar of declarations, with the tree of each sentence

A sentence determines its tree and a tree its sentence up to the text and the line of punctuation
marks, which trees do not keep. The grammar knows nothing about how tokens are read.
-/

set_option autoImplicit false

namespace DeclLang

/-- The text of a punctuation mark. -/
def Token.Kind.mark? : Token.Kind → Option String
  | .equals => some "="
  | .comma => some ","
  | .semicolon => some ";"
  | _ => none

namespace Token

/-- A token without what a tree does not keep of it: marks lose their own text and line. -/
def bare (t : Token) : Token :=
  match t.kind.mark? with
  | some text => ⟨t.kind, text, 0⟩
  | none => t

/-- The kind and the text of a token. -/
def spelling (t : Token) : Kind × String :=
  (t.kind, t.lexeme)

/-- Whether a mark has the text of its kind. -/
def IsSpelled (t : Token) : Prop :=
  ∀ text ∈ t.kind.mark?, t.lexeme = text

instance (t : Token) : Decidable t.IsSpelled :=
  inferInstanceAs (Decidable (∀ text ∈ t.kind.mark?, t.lexeme = text))

@[simp] theorem kind_bare (t : Token) : t.bare.kind = t.kind := by
  unfold bare
  split <;> rfl

theorem eq_of_kind_eq {t : Token} {kind : Kind} (h : t.kind = kind) :
    (⟨kind, t.lexeme, t.line⟩ : Token) = t := by
  subst h
  rfl

theorem bare_of_mark?_eq_none {t : Token} (h : t.kind.mark? = none) : t.bare = t := by
  simp [bare, h]

theorem kind_eq_of_bare_eq {t u : Token} (h : t.bare = u.bare) : t.kind = u.kind := by
  have hk := congrArg kind h
  rwa [kind_bare, kind_bare] at hk

/-- Tokens with a text of their own are determined by their bare form. -/
theorem eq_of_bare_eq {t u : Token} (h : t.bare = u.bare) (hu : u.kind.mark? = none) : t = u := by
  have ht : t.kind.mark? = none := by rw [kind_eq_of_bare_eq h, hu]
  rwa [bare_of_mark?_eq_none ht, bare_of_mark?_eq_none hu] at h

theorem bare_eq_of_kind_eq {t u : Token} {text : String} (h : t.kind = u.kind)
    (hu : u.kind.mark? = some text) : t.bare = u.bare := by
  simp only [bare, h, hu]

theorem isSpelled_of_mark?_eq_none {t : Token} (h : t.kind.mark? = none) : t.IsSpelled := by
  intro text htext
  rw [h] at htext
  cases htext

theorem spelling_bare {t : Token} (h : t.IsSpelled) : t.bare.spelling = t.spelling := by
  unfold bare
  split
  · rename_i text htext
    rw [spelling, spelling, h text htext]
  · rfl

theorem isSpelled_of_spelling_eq {t u : Token} (h : t.spelling = u.spelling) (hu : u.IsSpelled) :
    t.IsSpelled := by
  obtain ⟨hkind, hlexeme⟩ := Prod.mk.inj h
  intro text htext
  rw [hkind] at htext
  rw [hlexeme]
  exact hu text htext

/-- Where all marks have the text of their kind, the bare forms give the spellings. -/
theorem map_spelling_eq {ts us : List Token} (h : ts.map bare = us.map bare)
    (ht : ∀ t ∈ ts, t.IsSpelled) (hu : ∀ u ∈ us, u.IsSpelled) :
    ts.map spelling = us.map spelling := by
  have hbare : ∀ vs : List Token, (∀ v ∈ vs, v.IsSpelled) →
      (vs.map bare).map spelling = vs.map spelling := by
    intro vs hvs
    rw [List.map_map]
    exact List.map_congr_left fun v hv => spelling_bare (hvs v hv)
  rw [← hbare ts ht, ← hbare us hu, h]

theorem mark?_of_isLiteral {kind : Kind} (h : kind.isLiteral = true) : kind.mark? = none := by
  cases kind <;> first | rfl | exact absurd h (by decide)

end Token

open Token

/-! ### Sentences and their trees -/

/-- `Declarator := IDENTIFIER ('=' Literal)?` -/
inductive IsDeclarator : List Token → Declarator → Prop where
  | plain {name : Token} : name.kind = .identifier →
      IsDeclarator [name] ⟨name.lexeme, name.line, none⟩
  | initialized {name equals literal : Token} : name.kind = .identifier →
      equals.kind = .equals → literal.kind.isLiteral = true →
      IsDeclarator [name, equals, literal]
        ⟨name.lexeme, name.line, some ⟨literal.kind, literal.lexeme, literal.line⟩⟩

/-- `Declarator (',' Declarator)*` -/
inductive IsDeclaratorList : List Token → List Declarator → Prop where
  | single {front : List Token} {d : Declarator} : IsDeclarator front d →
      IsDeclaratorList front [d]
  | more {front back : List Token} {comma : Token} {d : Declarator} {ds : List Declarator} :
      IsDeclarator front d → comma.kind = .comma → IsDeclaratorList back ds →
      IsDeclaratorList (front ++ comma :: back) (d :: ds)

/-- `Declaration := TYPE Declarator (',' Declarator)* ';'` -/
inductive IsDeclaration : List Token → Declaration → Prop where
  | mk {type semicolon : Token} {items : List Token} {ds : List Declarator} :
      type.kind = .typeName → IsDeclaratorList items ds → semicolon.kind = .semicolon →
      IsDeclaration (type :: (items ++ [semicolon])) ⟨type.lexeme, ds, type.line⟩

/-- `Program := Declaration*` -/
inductive IsProgram : List Token → List Declaration → Prop where
  | nil : IsProgram [] []
  | cons {front back : List Token} {d : Declaration} {ds : List Declaration} :
      IsDeclaration front d → IsProgram back ds → IsProgram (front ++ back) (d :: ds)

/-- Trees that a sentence can have: something is declared, and every initializer is a literal. -/
def Declaration.WellFormed (d : Declaration) : Prop :=
  d.declarators ≠ [] ∧ ∀ v ∈ d.declarators, ∀ i ∈ v.initializer, i.kind.isLiteral = true

instance (d : Declaration) : Decidable d.WellFormed :=
  inferInstanceAs (Decidable (_ ∧ _))

/-! ### Sentences are token forms -/

theorem IsDeclarator.bare_toTokens {ts : List Token} {d : Declarator} (h : IsDeclarator ts d) :
    d.toTokens.map bare = ts.map bare := by
  cases h with
  | plain hname => simp [Declarator.toTokens, eq_of_kind_eq hname]
  | @initialized _ equals literal hname hequals _ =>
    have hmark : (⟨.equals, "=", literal.line⟩ : Token).bare = equals.bare :=
      bare_eq_of_kind_eq hequals.symm (congrArg Kind.mark? hequals)
    simp [Declarator.toTokens, Initializer.toTokens, eq_of_kind_eq hname, hmark]

theorem IsDeclaratorList.ne_nil {ts : List Token} {ds : List Declarator}
    (h : IsDeclaratorList ts ds) : ds ≠ [] := by
  cases h <;> simp

theorem listToTokens_cons {d : Declarator} {ds : List Declarator} (h : ds ≠ []) :
    Declarator.listToTokens (d :: ds) =
      d.toTokens ++ ⟨.comma, ",", d.line⟩ :: Declarator.listToTokens ds := by
  cases ds with
  | nil => exact absurd rfl h
  | cons e ds => rfl

theorem IsDeclaratorList.bare_listToTokens {ts : List Token} {ds : List Declarator}
    (h : IsDeclaratorList ts ds) : (Declarator.listToTokens ds).map bare = ts.map bare := by
  induction h with
  | single hd => exact hd.bare_toTokens
  | @more _ _ comma d _ hd hcomma hds ih =>
    have hmark : (⟨.comma, ",", d.line⟩ : Token).bare = comma.bare :=
      bare_eq_of_kind_eq hcomma.symm (congrArg Kind.mark? hcomma)
    rw [listToTokens_cons hds.ne_nil, List.map_append, List.map_cons, List.map_append,
      List.map_cons, hd.bare_toTokens, hmark, ih]

theorem IsDeclaration.bare_toTokens {ts : List Token} {d : Declaration}
    (h : IsDeclaration ts d) : d.toTokens.map bare = ts.map bare := by
  cases h with
  | @mk type semicolon _ _ htype hitems hsemicolon =>
    have hmark : (⟨.semicolon, ";", type.line⟩ : Token).bare = semicolon.bare :=
      bare_eq_of_kind_eq hsemicolon.symm (congrArg Kind.mark? hsemicolon)
    simp [Declaration.toTokens, eq_of_kind_eq htype, hitems.bare_listToTokens, hmark]

/-- A sentence is the token form of its tree, up to what a tree does not keep of marks. -/
theorem IsProgram.bare_toTokens {ts : List Token} {ds : List Declaration} (h : IsProgram ts ds) :
    (ds.flatMap Declaration.toTokens).map bare = ts.map bare := by
  induction h with
  | nil => rfl
  | cons hd _ ih =>
    rw [List.flatMap_cons, List.map_append, List.map_append, hd.bare_toTokens, ih]

theorem IsDeclarator.isSpelled_toTokens {ts : List Token} {d : Declarator}
    (h : IsDeclarator ts d) : ∀ t ∈ d.toTokens, t.IsSpelled := by
  have hname : ∀ name : String, (⟨.identifier, name, d.line⟩ : Token).IsSpelled :=
    fun _ => isSpelled_of_mark?_eq_none rfl
  cases h with
  | plain => simpa [Declarator.toTokens] using hname _
  | @initialized _ _ literal _ _ hliteral =>
    have hequals : (⟨.equals, "=", literal.line⟩ : Token).IsSpelled :=
      fun _ htext => Option.some.inj htext
    have hl : literal.IsSpelled := isSpelled_of_mark?_eq_none (mark?_of_isLiteral hliteral)
    simpa [Declarator.toTokens, Initializer.toTokens] using ⟨hname _, hequals, hl⟩

theorem IsDeclaratorList.isSpelled_listToTokens {ts : List Token} {ds : List Declarator}
    (h : IsDeclaratorList ts ds) : ∀ t ∈ Declarator.listToTokens ds, t.IsSpelled := by
  induction h with
  | single hd => exact hd.isSpelled_toTokens
  | @more _ _ _ d _ hd _ hds ih =>
    intro t ht
    rw [listToTokens_cons hds.ne_nil, List.mem_append, List.mem_cons] at ht
    rcases ht with ht | rfl | ht
    · exact hd.isSpelled_toTokens t ht
    · exact fun _ htext => Option.some.inj htext
    · exact ih t ht

theorem IsProgram.isSpelled_toTokens {ts : List Token} {ds : List Declaration}
    (h : IsProgram ts ds) : ∀ t ∈ ds.flatMap Declaration.toTokens, t.IsSpelled := by
  induction h with
  | nil => simp
  | cons hd _ ih =>
    intro t ht
    rcases List.mem_append.mp ht with ht | ht
    · cases hd with
      | mk _ hitems _ =>
        rcases List.mem_cons.mp ht with rfl | ht
        · exact isSpelled_of_mark?_eq_none rfl
        · rcases List.mem_append.mp ht with ht | ht
          · exact hitems.isSpelled_listToTokens t ht
          · obtain rfl := List.mem_singleton.mp ht
            exact fun _ htext => Option.some.inj htext
    · exact ih t ht

/-! ### Token forms are sentences -/

theorem isDeclarator_of_bare {ts : List Token} {d : Declarator}
    (hd : ∀ i ∈ d.initializer, i.kind.isLiteral = true)
    (h : ts.map bare = d.toTokens.map bare) : IsDeclarator ts d := by
  obtain ⟨name, line, initializer⟩ := d
  cases initializer with
  | none =>
    obtain ⟨t, rest, rfl, ht, hrest⟩ := List.map_eq_cons_iff.mp h
    obtain rfl := List.map_eq_nil_iff.mp hrest
    obtain rfl := eq_of_bare_eq ht rfl
    exact .plain rfl
  | some i =>
    have hliteral := hd i rfl
    obtain ⟨t, rest, rfl, ht, hrest⟩ := List.map_eq_cons_iff.mp h
    obtain ⟨equals, rest, rfl, hequals, hrest⟩ := List.map_eq_cons_iff.mp hrest
    obtain ⟨literal, rest, rfl, hl, hrest⟩ := List.map_eq_cons_iff.mp hrest
    obtain rfl := List.map_eq_nil_iff.mp hrest
    obtain rfl := eq_of_bare_eq ht rfl
    obtain rfl := eq_of_bare_eq hl (mark?_of_isLiteral hliteral)
    exact .initialized rfl (kind_eq_of_bare_eq hequals) hliteral

theorem isDeclaratorList_of_bare {ts : List Token} {ds : List Declarator} (hne : ds ≠ [])
    (hds : ∀ d ∈ ds, ∀ i ∈ d.initializer, i.kind.isLiteral = true)
    (h : ts.map bare = (Declarator.listToTokens ds).map bare) : IsDeclaratorList ts ds := by
  induction ds generalizing ts with
  | nil => exact absurd rfl hne
  | cons d ds ih =>
    have hd := hds d List.mem_cons_self
    by_cases hlast : ds = []
    · subst hlast
      exact .single (isDeclarator_of_bare hd h)
    · rw [listToTokens_cons hlast, List.map_append] at h
      obtain ⟨front, back, rfl, hfront, hback⟩ := List.map_eq_append_iff.mp h
      obtain ⟨comma, back, rfl, hcomma, hback⟩ := List.map_eq_cons_iff.mp hback
      have htail := ih hlast (fun e he => hds e (List.mem_cons_of_mem d he)) hback
      exact .more (isDeclarator_of_bare hd hfront) (kind_eq_of_bare_eq hcomma) htail

theorem isDeclaration_of_bare {ts : List Token} {d : Declaration} (hd : d.WellFormed)
    (h : ts.map bare = d.toTokens.map bare) : IsDeclaration ts d := by
  obtain ⟨type, rest, rfl, htype, hrest⟩ := List.map_eq_cons_iff.mp h
  rw [List.map_append] at hrest
  obtain ⟨items, back, rfl, hitems, hback⟩ := List.map_eq_append_iff.mp hrest
  obtain ⟨semicolon, back, rfl, hsemicolon, hback⟩ := List.map_eq_cons_iff.mp hback
  obtain rfl := List.map_eq_nil_iff.mp hback
  obtain rfl := eq_of_bare_eq htype rfl
  exact .mk rfl (isDeclaratorList_of_bare hd.1 hd.2 hitems) (kind_eq_of_bare_eq hsemicolon)

/-- The token form of well-formed trees is a sentence, whatever its marks look like. -/
theorem isProgram_of_bare {ts : List Token} {ds : List Declaration}
    (hds : ∀ d ∈ ds, d.WellFormed)
    (h : ts.map bare = (ds.flatMap Declaration.toTokens).map bare) : IsProgram ts ds := by
  induction ds generalizing ts with
  | nil =>
    obtain rfl := List.map_eq_nil_iff.mp h
    exact .nil
  | cons d ds ih =>
    rw [List.flatMap_cons, List.map_append] at h
    obtain ⟨front, back, rfl, hfront, hback⟩ := List.map_eq_append_iff.mp h
    exact .cons (isDeclaration_of_bare (hds d List.mem_cons_self) hfront)
      (ih (fun e he => hds e (List.mem_cons_of_mem d he)) hback)

end DeclLang
