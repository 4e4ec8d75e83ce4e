/-!
Sets of code points as tables of ranges. A table is searched from its low end and the search stops
at the first range that lies above the point, so the common low points are found at once; this is
right for ordered tables only, which is what `contains_iff_of_ordered` says. The module holds no
table itself.
-/

set_option autoImplicit false

namespace DeclLang.Text

/-- A set of code points, as inclusive ranges in increasing order. -/
abbrev CodePoints := List (Nat × Nat)

namespace CodePoints

/-- Whether a code point lies in one of the ranges of an ordered table. -/
def contains : CodePoints → Nat → Bool
  | [], _ => false
  | (first, last) :: rest, n => if n < first then false else n ≤ last || contains rest n

/-- The ranges are nonempty and each one lies wholly above the one before it. -/
def Ordered : CodePoints → Prop
  | [] => True
  | [(first, last)] => first ≤ last
  | (first, last) :: (next, stop) :: rest =>
      first ≤ last ∧ last < next ∧ Ordered ((next, stop) :: rest)

instance Ordered.decidable : (table : CodePoints) → Decidable table.Ordered
  | [] => isTrue trivial
  | [(first, last)] => inferInstanceAs (Decidable (first ≤ last))
  | (first, last) :: (next, stop) :: rest =>
      have := Ordered.decidable ((next, stop) :: rest)
      inferInstanceAs (Decidable (first ≤ last ∧ last < next ∧ Ordered ((next, stop) :: rest)))

theorem Ordered.tail {range : Nat × Nat} {rest : CodePoints} (h : Ordered (range :: rest)) :
    Ordered rest := by
  cases rest with
  | nil => trivial
  | cons next rest => exact h.2.2

/-- Every later range of an ordered table begins above the end of the first one. -/
theorem Ordered.last_lt {range other : Nat × Nat} {rest : CodePoints}
    (h : Ordered (range :: rest)) (hm : other ∈ rest) : range.2 < other.1 := by
  induction rest generalizing range with
  | nil => simp at hm
  | cons next rest ih =>
    have hlt : range.2 < next.1 := h.2.1
    rcases List.mem_cons.mp hm with rfl | hr
    · exact hlt
    · have hn := h.tail
      have hself : next.1 ≤ next.2 := by
        cases rest with
        | nil => exact hn
        | cons => exact hn.1
      exact Nat.lt_of_lt_of_le hlt (Nat.le_trans hself (Nat.le_of_lt (ih hn hr)))

theorem contains_iff_of_ordered {table : CodePoints} (h : table.Ordered) (n : Nat) :
    table.contains n = true ↔ ∃ range ∈ table, range.1 ≤ n ∧ n ≤ range.2 := by
  induction table with
  | nil => simp [contains]
  | cons range rest ih =>
    obtain ⟨first, last⟩ := range
    have hself : first ≤ last := by
      cases rest with
      | nil => exact h
      | cons => exact h.1
    simp only [contains]
    split
    · rename_i hlt
      simp only [Bool.false_eq_true, List.mem_cons, false_iff]
      rintro ⟨other, rfl | hm, h1, h2⟩
      · exact absurd h1 (by simp; omega)
      · have := h.last_lt hm
        simp at this
        omega
    · rename_i hge
      simp only [Bool.or_eq_true, decide_eq_true_eq, ih h.tail, List.mem_cons]
      constructor
      · rintro (hle | ⟨other, hm, hb⟩)
        · exact ⟨_, Or.inl rfl, by simp; omega, by simpa using hle⟩
        · exact ⟨other, Or.inr hm, hb⟩
      · rintro ⟨other, rfl | hm, hb⟩
        · exact Or.inl (by simpa using hb.2)
        · exact Or.inr ⟨other, hm, hb⟩

/-- No range of one table meets a range of the other. -/
def Apart (table other : CodePoints) : Prop :=
  ∀ r ∈ table, ∀ s ∈ other, r.2 < s.1 ∨ s.2 < r.1

instance Apart.decidable (table other : CodePoints) : Decidable (table.Apart other) :=
  inferInstanceAs (Decidable (∀ r ∈ table, ∀ s ∈ other, r.2 < s.1 ∨ s.2 < r.1))

/-- Ordered tables whose ranges do not meet have no code point in common. -/
theorem contains_eq_false_of_apart {table other : CodePoints} (ht : table.Ordered)
    (ho : other.Ordered) (h : table.Apart other) {n : Nat} (hn : table.contains n = true) :
    other.contains n = false := by
  rw [← Bool.not_eq_true]
  intro hm
  obtain ⟨r, hr, hr1, hr2⟩ := (contains_iff_of_ordered ht n).mp hn
  obtain ⟨s, hs, hs1, hs2⟩ := (contains_iff_of_ordered ho n).mp hm
  rcases h r hr s hs with hlt | hlt <;> omega

end CodePoints

end DeclLang.Text
