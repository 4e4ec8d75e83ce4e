import DeclLang.Proofs.Declaration.FaultFree

/-!
# Faults mention tokens in their order

A reader of tokens goes forward only. So the tokens that its faults refer to are tokens of the list,
in the order of the list, though one token may be referred to several times and others not at all;
the closing token comes last.
-/

set_option autoImplicit false

namespace DeclLang

/-- Elements of a list in their order, each of them any number of times. -/
inductive Mentions {α : Type} : List α → List α → Prop where
  | nil (as : List α) : Mentions as []
  | skip {a : α} {as bs : List α} : Mentions as bs → Mentions (a :: as) bs
  | again {a : α} {as bs : List α} : Mentions (a :: as) bs → Mentions (a :: as) (a :: bs)

namespace Mentions

variable {α β : Type} {as bs cs ds : List α}

theorem of_sublist (h : bs.Sublist as) : Mentions as bs := by
  induction h with
  | slnil => exact .nil []
  | cons a _ ih => exact .skip ih
  | cons_cons a _ ih => exact .again (.skip ih)

theorem refl (as : List α) : Mentions as as :=
  .of_sublist (List.Sublist.refl as)

theorem trans (hab : Mentions as bs) (hbc : Mentions bs cs) : Mentions as cs := by
  induction hab generalizing cs with
  | nil as =>
    cases hbc
    exact .nil as
  | skip _ ih => exact .skip (ih hbc)
  | again _ ih =>
    induction cs with
    | nil => exact .nil _
    | cons c cs ihc =>
      cases hbc with
      | skip h => exact ih h
      | again h => exact .again (ihc h)

theorem append_left (front : List α) (h : Mentions as bs) :
    Mentions (front ++ as) (front ++ bs) := by
  induction front with
  | nil => exact h
  | cons a front ih => exact .again (.skip ih)

/-- What is mentioned last may be replaced by what it mentions itself. -/
theorem andThen (h : Mentions as (bs ++ cs)) (hnext : Mentions cs ds) : Mentions as (bs ++ ds) :=
  h.trans (hnext.append_left bs)

theorem map (f : α → β) (h : Mentions as bs) : Mentions (as.map f) (bs.map f) := by
  induction h with
  | nil as => exact .nil _
  | skip _ ih => exact .skip ih
  | again _ ih => exact .again ih

theorem mem (h : Mentions as bs) : ∀ b ∈ bs, b ∈ as := by
  induction h with
  | nil as => simp
  | skip _ ih =>
    intro b hb
    exact List.mem_cons_of_mem _ (ih b hb)
  | again _ ih =>
    intro b hb
    rcases List.mem_cons.mp hb with rfl | hb
    · exact List.mem_cons_self
    · exact ih b hb

/-- Mentioned elements stand in order where the list does. -/
theorem pairwise {r : α → α → Prop} (hrefl : ∀ a, r a a) (h : Mentions as bs)
    (has : as.Pairwise r) : bs.Pairwise r := by
  induction h with
  | nil as => exact .nil
  | skip _ ih => exact ih has.of_cons
  | @again a as bs h ih =>
    refine .cons ?_ (ih has)
    intro b hb
    rcases List.mem_cons.mp (h.mem b hb) with rfl | hb
    · exact hrefl b
    · exact List.rel_of_pairwise_cons has hb

/-- An element may be mentioned many times before those behind it. -/
theorem many {a : α} (hbs : ∀ b ∈ bs, b = a) (h : Mentions as cs) :
    Mentions (a :: as) (bs ++ cs) := by
  induction bs with
  | nil => exact .skip h
  | cons b bs ih =>
    obtain rfl := hbs b List.mem_cons_self
    exact .again (ih fun c hc => hbs c (List.mem_cons_of_mem _ hc))

end Mentions

namespace Declaration

open Token

/-- The tokens that a step refers to or leaves, with the closing token behind them. -/
def Step.trace {α : Type} (s : Step α) (closing : Token) : List Token :=
  s.faults.map SyntaxFault.token ++ (s.rest ++ [closing])

theorem mentions_of_sublist {ts us : List Token} (closing : Token) (h : us.Sublist ts) :
    Mentions (ts ++ [closing]) (us ++ [closing]) :=
  .of_sublist (h.append (List.Sublist.refl _))

theorem fromDelimiter_sublist (ts : List Token) : (fromDelimiter ts).Sublist ts :=
  List.dropWhile_sublist _

theorem nextStatement_sublist (ts : List Token) : (nextStatement ts).Sublist ts := by
  obtain ⟨skipped, hts, _⟩ := exists_isLeftover ts
  have hsublist := List.sublist_append_right skipped (nextStatement ts)
  rwa [← hts] at hsublist

variable (closing : Token)

theorem mentions_readInitializer (ts : List Token) :
    Mentions (ts ++ [closing]) ((readInitializer closing ts).trace closing) := by
  unfold readInitializer
  split
  · exact .refl _
  · split
    · split
      · exact .skip (.again (.refl _))
      · split
        · exact .skip (.skip (.refl _))
        · exact .skip (.again (.refl _))
    · exact .refl _

theorem mentions_readDeclarator (ts : List Token) :
    Mentions (ts ++ [closing]) ((readDeclarator closing ts).trace closing) := by
  unfold readDeclarator
  split
  · exact .again (.refl _)
  · rename_i t rest
    split
    · exact .skip (mentions_readInitializer closing rest)
    · exact .again (mentions_of_sublist closing (fromDelimiter_sublist (t :: rest)))

theorem mentions_strayFault (ts : List Token) :
    Mentions (ts ++ [closing])
      ((strayFault ts).map SyntaxFault.token ++ (fromDelimiter ts ++ [closing])) := by
  have hskip := mentions_of_sublist closing (fromDelimiter_sublist ts)
  unfold strayFault
  split
  · exact hskip
  · split
    · exact hskip
    · exact .again hskip

theorem mentions_readItem (ts : List Token) :
    Mentions (ts ++ [closing]) ((readItem closing ts).trace closing) := by
  have hread := mentions_readDeclarator closing ts
  have hitem := hread.andThen (mentions_strayFault closing _)
  rwa [← List.append_assoc, ← List.map_append] at hitem

theorem mentions_readItems (ts : List Token) :
    Mentions (ts ++ [closing]) ((readItems closing ts).trace closing) := by
  fun_induction readItems closing ts with
  | case1 ts item hrest =>
    have hitem := mentions_readItem closing ts
    rw [Step.trace, show (readItem closing ts).rest = [] from hrest] at hitem
    have htwice : Mentions [closing] ([closing] ++ [closing]) := .again (.refl _)
    have hmissing := hitem.andThen htwice
    rw [← List.append_assoc] at hmissing
    simpa [Step.trace, SyntaxFault.token, item] using hmissing
  | case2 ts item t rest hrest hcomma more ih =>
    have hitem := mentions_readItem closing ts
    rw [Step.trace, show (readItem closing ts).rest = t :: rest from hrest] at hitem
    have hmore := hitem.andThen (.skip ih)
    rwa [Step.trace, ← List.append_assoc, ← List.map_append] at hmore
  | case3 ts item t rest hrest hcomma =>
    have hitem := mentions_readItem closing ts
    rw [Step.trace, show (readItem closing ts).rest = t :: rest from hrest] at hitem
    exact hitem.andThen (.skip (.refl _))

theorem mentions_readStatements (ts : List Token) :
    Mentions (ts ++ [closing]) ((readStatements closing ts).faults.map SyntaxFault.token) := by
  fun_induction readStatements closing ts with
  | case1 => exact .nil _
  | case2 t rest ht items more ih =>
    have hnext := mentions_of_sublist closing (nextStatement_sublist items.rest)
    have hitems := (mentions_readItems closing rest).andThen (hnext.trans ih)
    rw [← List.map_append] at hitems
    exact .skip hitems
  | case3 t rest ht more ih =>
    have hnext := mentions_of_sublist closing (nextStatement_sublist rest)
    exact .again (.skip (hnext.trans ih))

/-- The faults of a reading refer to the tokens in front of the closing one, and to it, in order. -/
theorem mentions_read (ts : List Token) :
    Mentions (beforeEnd ts ++ [Token.closing ts]) ((read ts).faults.map SyntaxFault.token) :=
  mentions_readStatements (Token.closing ts) (beforeEnd ts)

end Declaration

end DeclLang
