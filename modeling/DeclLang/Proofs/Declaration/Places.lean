import DeclLang.Proofs.Declaration.FaultFree
import Mathlib.Data.List.Forall2

/-!
# Where declarations stand in their tokens

A declaration may be read although there are faults in it and around it, and then tokens are given
up in front of its parts and behind them. Each part is nevertheless read from tokens of its own: the
declarators of a reading are sentences of the grammar that stand in the list one behind the other,
each behind the type name of its declaration. The places of type names, names and initializers
therefore increase.

Which tokens are given up is no subject here.
-/

set_option autoImplicit false

namespace DeclLang

open Token

/-- The places in a token list at which the name and the initializer of a declarator stand. -/
inductive Declarator.StandsAt (ts : List Token) : Declarator → List Nat → Prop where
  | plain {name : String} {line : Int} {p : Nat} :
      ts[p]? = some ⟨.identifier, name, line⟩ → StandsAt ts ⟨name, line, none⟩ [p]
  | initialized {name lexeme : String} {line valueLine : Int} {kind : LiteralKind} {mark : Token}
      {p : Nat} :
      ts[p]? = some ⟨.identifier, name, line⟩ →
      ts[p + 1]? = some mark → mark.kind = .equals →
      ts[p + 2]? = some ⟨.literal kind, lexeme, valueLine⟩ →
      StandsAt ts ⟨name, line, some ⟨.literal kind, lexeme, valueLine⟩⟩ [p, p + 2]

/-- The places of a declaration: that of its type name and those of its declarators, of which there
is at least one. -/
inductive Declaration.StandsAt (ts : List Token) : Declaration → List Nat → Prop where
  | mk {typeName : String} {line : Int} {p : Nat} {declarators : List Declarator}
      {places : List (List Nat)} :
      ts[p]? = some ⟨.typeName, typeName, line⟩ → declarators ≠ [] →
      List.Forall₂ (Declarator.StandsAt ts) declarators places →
      StandsAt ts ⟨typeName, declarators, line⟩ (p :: places.flatten)

namespace Declaration

/-! ### Sentences with tokens between them -/

/-- Tokens among which the sentences of declarators stand one behind the other. -/
inductive HoldsDeclarators : List Token → List Declarator → Prop where
  | nil : HoldsDeclarators [] []
  | skip {t : Token} {ts : List Token} {ds : List Declarator} :
      HoldsDeclarators ts ds → HoldsDeclarators (t :: ts) ds
  | cons {front back : List Token} {d : Declarator} {ds : List Declarator} :
      IsDeclarator front d → HoldsDeclarators back ds → HoldsDeclarators (front ++ back) (d :: ds)

/-- Tokens among which declarations stand one behind the other, each with its type name in front. -/
inductive HoldsDeclarations : List Token → List Declaration → Prop where
  | nil : HoldsDeclarations [] []
  | skip {t : Token} {ts : List Token} {ds : List Declaration} :
      HoldsDeclarations ts ds → HoldsDeclarations (t :: ts) ds
  | cons {type : Token} {front back : List Token} {vs : List Declarator} {ds : List Declaration} :
      type.kind = .typeName → HoldsDeclarators front vs → vs ≠ [] → HoldsDeclarations back ds →
      HoldsDeclarations (type :: (front ++ back)) (⟨type.lexeme, vs, type.line⟩ :: ds)

namespace HoldsDeclarators

variable {front back ts : List Token} {ds es : List Declarator}

theorem append (hfront : HoldsDeclarators front ds) (hback : HoldsDeclarators back es) :
    HoldsDeclarators (front ++ back) (ds ++ es) := by
  induction hfront with
  | nil => exact hback
  | skip _ ih => exact .skip ih
  | cons hd _ ih =>
    rw [List.append_assoc]
    exact .cons hd ih

theorem empty (ts : List Token) : HoldsDeclarators ts [] := by
  induction ts with
  | nil => exact .nil
  | cons t ts ih => exact .skip ih

theorem append_right (h : HoldsDeclarators front ds) (back : List Token) :
    HoldsDeclarators (front ++ back) ds := by
  have happ := h.append (empty back)
  rwa [List.append_nil] at happ

theorem of_isDeclarator {d : Declarator} (h : IsDeclarator ts d) : HoldsDeclarators ts [d] := by
  have hcons := HoldsDeclarators.cons h .nil
  rwa [List.append_nil] at hcons

end HoldsDeclarators

theorem HoldsDeclarations.append_left {back : List Token} {ds : List Declaration}
    (front : List Token) (h : HoldsDeclarations back ds) : HoldsDeclarations (front ++ back) ds := by
  induction front with
  | nil => exact h
  | cons t front ih => exact .skip ih

/-! ### What is read stands among what was taken -/

section Reading

variable (closing : Token)

theorem exists_fromDelimiter (ts : List Token) : ∃ front, ts = front ++ fromDelimiter ts :=
  ⟨_, (List.takeWhile_append_dropWhile (p := fun t : Token => !t.isDelimiter)).symm⟩

/-- An initializer is an equals sign and a literal; without one, nothing but the sign is taken. -/
theorem readInitializer_cases (ts : List Token) :
    (∃ front, ts = front ++ (readInitializer closing ts).rest ∧
      (readInitializer closing ts).value = none) ∨
    ∃ equals literal, ts = equals :: literal :: (readInitializer closing ts).rest ∧
      equals.kind = .equals ∧ literal.kind.isLiteral = true ∧
      (readInitializer closing ts).value = some ⟨literal.kind, literal.lexeme, literal.line⟩ := by
  unfold readInitializer
  split
  · exact Or.inl ⟨[], rfl, rfl⟩
  · rename_i mark rest
    split
    · rename_i hmark
      split
      · exact Or.inl ⟨[mark], rfl, rfl⟩
      · rename_i literal after
        split
        · rename_i hliteral
          exact Or.inr ⟨mark, literal, rfl, hmark, hliteral, rfl⟩
        · exact Or.inl ⟨[mark], rfl, rfl⟩
    · exact Or.inl ⟨[], rfl, rfl⟩

theorem holds_readDeclarator (ts : List Token) :
    ∃ front, ts = front ++ (readDeclarator closing ts).rest ∧
      HoldsDeclarators front (readDeclarator closing ts).value.toList := by
  unfold readDeclarator
  split
  · exact ⟨[], rfl, .nil⟩
  · rename_i name rest
    split
    · rename_i hname
      rcases readInitializer_cases closing rest with
        ⟨front, hrest, hvalue⟩ | ⟨equals, literal, hrest, hequals, hliteral, hvalue⟩
      · refine ⟨name :: front, congrArg (name :: ·) hrest, ?_⟩
        dsimp only
        rw [hvalue]
        exact (HoldsDeclarators.of_isDeclarator (.plain hname)).append_right front
      · refine ⟨[name, equals, literal], congrArg (name :: ·) hrest, ?_⟩
        dsimp only
        rw [hvalue]
        exact .of_isDeclarator (.initialized hname hequals hliteral)
    · obtain ⟨front, hfront⟩ := exists_fromDelimiter (name :: rest)
      exact ⟨front, hfront, .empty front⟩

theorem holds_readItem (ts : List Token) :
    ∃ front, ts = front ++ (readItem closing ts).rest ∧
      HoldsDeclarators front (readItem closing ts).value.toList := by
  obtain ⟨front, hfront, hholds⟩ := holds_readDeclarator closing ts
  obtain ⟨skipped, hskipped⟩ := exists_fromDelimiter (readDeclarator closing ts).rest
  refine ⟨front ++ skipped, ?_, hholds.append_right skipped⟩
  rw [List.append_assoc]
  exact hfront.trans (congrArg (front ++ ·) hskipped)

theorem holds_readItems (ts : List Token) :
    ∃ front, ts = front ++ (readItems closing ts).rest ∧
      HoldsDeclarators front (readItems closing ts).value := by
  fun_induction readItems closing ts with
  | case1 ts item hrest =>
    obtain ⟨front, hfront, hholds⟩ := holds_readItem closing ts
    rw [show (readItem closing ts).rest = [] from hrest] at hfront
    exact ⟨front, hfront, hholds⟩
  | case2 ts item comma rest hrest hcomma more ih =>
    obtain ⟨front, hfront, hholds⟩ := holds_readItem closing ts
    obtain ⟨back, hback, hmore⟩ := ih
    rw [show (readItem closing ts).rest = comma :: rest from hrest] at hfront
    refine ⟨front ++ comma :: back, ?_, hholds.append (.skip hmore)⟩
    rw [List.append_assoc, List.cons_append]
    exact hfront.trans (congrArg (front ++ comma :: ·) hback)
  | case3 ts item t rest hrest _ =>
    obtain ⟨front, hfront, hholds⟩ := holds_readItem closing ts
    rw [show (readItem closing ts).rest = t :: rest from hrest] at hfront
    refine ⟨front ++ [t], ?_, hholds.append_right [t]⟩
    rw [List.append_assoc]
    exact hfront

theorem holds_readStatements (ts : List Token) :
    HoldsDeclarations ts (readStatements closing ts).declarations := by
  fun_induction readStatements closing ts with
  | case1 => exact .nil
  | case2 type rest htype items more ih =>
    obtain ⟨front, hfront, hholds⟩ := holds_readItems closing rest
    obtain ⟨skipped, hskipped, _⟩ := exists_isLeftover items.rest
    have hback : HoldsDeclarations items.rest more.declarations := by
      rw [hskipped]
      exact ih.append_left skipped
    rw [show rest = front ++ items.rest from hfront]
    by_cases hnil : items.value = []
    · have hnone : ofItems type items.value = [] := by simp [ofItems, hnil]
      rw [hnone]
      exact .skip (hback.append_left front)
    · rw [ofItems_of_ne_nil type hnil]
      exact .cons htype hholds hnil hback
  | case3 t rest _ more ih =>
    obtain ⟨skipped, hskipped, _⟩ := exists_isLeftover rest
    have hback : HoldsDeclarations rest more.declarations := by
      rw [hskipped]
      exact ih.append_left skipped
    exact .skip hback

/-- The declarations of a reading stand one behind the other among the tokens before the end. -/
theorem holds_read (ts : List Token) : HoldsDeclarations (beforeEnd ts) (read ts).declarations :=
  holds_readStatements (Token.closing ts) (beforeEnd ts)

end Reading

/-! ### Places -/

/-- Places that increase from one bound on and stay below another. -/
structure Within (low high : Nat) (places : List Nat) : Prop where
  increasing : places.Pairwise (· < ·)
  bounds : ∀ p ∈ places, low ≤ p ∧ p < high

namespace Within

variable {low middle high : Nat} {front back : List Nat}

theorem nil (low high : Nat) : Within low high [] :=
  ⟨.nil, by simp⟩

theorem append (hfront : Within low middle front) (hback : Within middle high back)
    (hlow : low ≤ middle) (hhigh : middle ≤ high) : Within low high (front ++ back) := by
  refine ⟨List.pairwise_append.mpr ⟨hfront.increasing, hback.increasing, ?_⟩, ?_⟩
  · intro p hp q hq
    exact Nat.lt_of_lt_of_le (hfront.bounds p hp).2 (hback.bounds q hq).1
  · intro p hp
    rcases List.mem_append.mp hp with hp | hp
    · have hbounds := hfront.bounds p hp
      omega
    · have hbounds := hback.bounds p hp
      omega

theorem cons (h : Within (low + 1) high back) (hlow : low < high) :
    Within low high (low :: back) := by
  refine ⟨List.pairwise_cons.mpr ⟨fun p hp => (h.bounds p hp).1, h.increasing⟩, ?_⟩
  intro p hp
  rcases List.mem_cons.mp hp with rfl | hp
  · exact ⟨Nat.le_refl _, hlow⟩
  · have hbounds := h.bounds p hp
    omega

theorem mono (h : Within middle high back) (hlow : low ≤ middle) : Within low high back :=
  ⟨h.increasing, fun p hp => ⟨Nat.le_trans hlow (h.bounds p hp).1, (h.bounds p hp).2⟩⟩

end Within

section Places

variable {ts us back : List Token} {k : Nat}

theorem getElem?_of_drop (h : ts.drop k = us ++ back) {i : Nat} (hi : i < us.length) :
    ts[k + i]? = us[i]? := by
  rw [← List.getElem?_drop, h, List.getElem?_append_left hi]

theorem drop_of_drop (us : List Token) (h : ts.drop k = us ++ back) : ts.drop (k + us.length) = back := by
  rw [← List.drop_drop, h, List.drop_left]

theorem exists_standsAt_declarator {d : Declarator} (hd : IsDeclarator us d)
    (h : ts.drop k = us ++ back) :
    ∃ places, d.StandsAt ts places ∧ Within k (k + us.length) places := by
  cases hd with
  | @plain name hname =>
    have hat : ts[k]? = some name := getElem?_of_drop h (i := 0) (by simp)
    rw [← eq_of_kind_eq hname] at hat
    exact ⟨[k], .plain hat, (Within.nil _ _).cons (by simp)⟩
  | @initialized name equals literal hname hequals hliteral =>
    have hat : ts[k]? = some name := getElem?_of_drop h (i := 0) (by simp)
    have hmark : ts[k + 1]? = some equals := getElem?_of_drop h (i := 1) (by simp)
    have hvalue : ts[k + 2]? = some literal := getElem?_of_drop h (i := 2) (by simp)
    obtain ⟨kind, hkind⟩ : ∃ kind, literal.kind = .literal kind := by
      cases hk : literal.kind with
      | literal kind => exact ⟨kind, rfl⟩
      | _ =>
        rw [hk] at hliteral
        cases hliteral
    rw [← eq_of_kind_eq hname] at hat
    rw [← eq_of_kind_eq hkind] at hvalue
    rw [hkind]
    refine ⟨[k, k + 2], .initialized hat hmark hequals hvalue, ?_⟩
    have hlast : Within (k + 2) (k + 3) [k + 2] := (Within.nil _ _).cons (by omega)
    exact (hlast.mono (by omega)).cons (by omega)

theorem exists_standsAt_declarators {ds : List Declarator} (hds : HoldsDeclarators us ds)
    (h : ts.drop k = us ++ back) :
    ∃ places, List.Forall₂ (Declarator.StandsAt ts) ds places ∧
      Within k (k + us.length) places.flatten := by
  induction hds generalizing k with
  | nil => exact ⟨[], .nil, .nil _ _⟩
  | @skip t us ds _ ih =>
    obtain ⟨places, hplaces, hwithin⟩ := ih (drop_of_drop [t] h)
    refine ⟨places, hplaces, ?_⟩
    rw [List.length_singleton, Nat.add_assoc, Nat.add_comm 1] at hwithin
    exact hwithin.mono (by omega)
  | @cons front us d ds hd _ ih =>
    rw [List.append_assoc] at h
    obtain ⟨first, hfirst, hbefore⟩ := exists_standsAt_declarator hd h
    obtain ⟨places, hplaces, hbehind⟩ := ih (drop_of_drop front h)
    refine ⟨first :: places, .cons hfirst hplaces, ?_⟩
    rw [List.length_append, ← Nat.add_assoc]
    exact hbefore.append hbehind (by omega) (by omega)

theorem exists_standsAt_declarations {ds : List Declaration} (hds : HoldsDeclarations us ds)
    (h : ts.drop k = us ++ back) :
    ∃ places, List.Forall₂ (Declaration.StandsAt ts) ds places ∧
      Within k (k + us.length) places.flatten := by
  induction hds generalizing k with
  | nil => exact ⟨[], .nil, .nil _ _⟩
  | @skip t us ds _ ih =>
    obtain ⟨places, hplaces, hwithin⟩ := ih (drop_of_drop [t] h)
    refine ⟨places, hplaces, ?_⟩
    rw [List.length_singleton, Nat.add_assoc, Nat.add_comm 1] at hwithin
    exact hwithin.mono (by omega)
  | @cons type front us vs ds htype hvs hne _ ih =>
    have hat : ts[k]? = some type := getElem?_of_drop h (i := 0) (by simp)
    have hbehind : ts.drop (k + 1) = front ++ (us ++ back) := by
      rw [← List.append_assoc]
      exact drop_of_drop [type] h
    obtain ⟨inner, hinner, hwithin⟩ := exists_standsAt_declarators hvs hbehind
    obtain ⟨places, hplaces, hrest⟩ := ih (drop_of_drop front hbehind)
    rw [← eq_of_kind_eq htype] at hat
    refine ⟨(k :: inner.flatten) :: places, .cons (.mk hat hne hinner) hplaces, ?_⟩
    have hlength : k + (type :: (front ++ us)).length = k + 1 + front.length + us.length := by
      simp only [List.length_cons, List.length_append]
      omega
    rw [hlength, List.flatten_cons, List.cons_append]
    exact (hwithin.append hrest (by omega) (by omega)).cons (by omega)

end Places

/-- What is read stands in the tokens, in order and without overlap: there are increasing places at
which the type names, the names and the initializers of the declarations stand, an initializer two
behind its name with an equals sign between, and no declaration is without a declarator. -/
theorem read_standsAt (ts : List Token) :
    ∃ places : List (List Nat),
      List.Forall₂ (Declaration.StandsAt ts) (read ts).declarations places ∧
        places.flatten.Pairwise (· < ·) := by
  have hsplit : ts.drop 0 = beforeEnd ts ++ ts.dropWhile (!·.isEnd) := by
    rw [List.drop_zero]
    exact List.takeWhile_append_dropWhile.symm
  obtain ⟨places, hplaces, hwithin⟩ := exists_standsAt_declarations (holds_read ts) hsplit
  exact ⟨places, hplaces, hwithin.increasing⟩

end Declaration

end DeclLang
