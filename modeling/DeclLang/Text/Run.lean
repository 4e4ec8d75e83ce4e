import Mathlib.Data.List.TakeWhile

/-!
The run of characters of one class at the front of a text. A run is pinned down by two facts: all
of its characters are in the class, and the character behind it, if there is one, is not.
-/

set_option autoImplicit false

namespace DeclLang.Text

variable {p : Char → Bool} {run text : List Char}

/-- Whether a text starts with no character of a class. -/
def StartsOutside (p : Char → Bool) (text : List Char) : Prop :=
  ∀ c, text.head? = some c → p c = false

theorem startsOutside_nil (p : Char → Bool) : StartsOutside p [] := by
  intro c hc
  cases hc

theorem startsOutside_cons {c : Char} (h : p c = false) (text : List Char) :
    StartsOutside p (c :: text) := by
  intro d hd
  obtain rfl := Option.some.inj hd
  exact h

/-- The run that a text starts with is what was put in front of a text without one. -/
theorem takeWhile_append_of_startsOutside (hr : ∀ c ∈ run, p c = true)
    (ht : StartsOutside p text) : (run ++ text).takeWhile p = run := by
  rw [List.takeWhile_append_of_pos hr]
  cases text with
  | nil => simp
  | cons c text => simp [ht c rfl]

/-- What follows the run is what it was put in front of. -/
theorem dropWhile_append_of_startsOutside (hr : ∀ c ∈ run, p c = true)
    (ht : StartsOutside p text) : (run ++ text).dropWhile p = text := by
  rw [List.dropWhile_append_of_pos hr]
  cases text with
  | nil => simp
  | cons c text => simp [ht c rfl]

/-- A text is split in front of the first occurrence of a character, or behind its end. -/
theorem split_at_first {c : Char} {front back : List Char} (hfront : c ∉ front)
    (hback : StartsOutside (· != c) back) :
    (front ++ back).takeWhile (· != c) = front ∧ (front ++ back).dropWhile (· != c) = back := by
  have hne : ∀ d ∈ front, (d != c) = true := by
    intro d hd
    rw [bne_iff_ne]
    rintro rfl
    exact hfront hd
  exact ⟨takeWhile_append_of_startsOutside hne hback, dropWhile_append_of_startsOutside hne hback⟩

theorem startsOutside_mono {q : Char → Bool} (h : StartsOutside p text)
    (hpq : ∀ c, q c = true → p c = true) : StartsOutside q text := by
  intro c hc
  cases hq : q c with
  | false => rfl
  | true =>
    have := h c hc
    rw [hpq c hq] at this
    cases this

theorem startsOutside_dropWhile (p : Char → Bool) (text : List Char) :
    StartsOutside p (text.dropWhile p) := by
  induction text with
  | nil => exact startsOutside_nil p
  | cons c text ih =>
    by_cases hc : p c = true
    · simpa [hc] using ih
    · rw [List.dropWhile_cons_of_neg hc]
      exact startsOutside_cons (by simpa using hc) text

theorem startsOutside_append {back : List Char} (h : StartsOutside p text)
    (hb : StartsOutside p back) : StartsOutside p (text ++ back) := by
  cases text with
  | nil => exact hb
  | cons c text => exact h

/-- Text that starts outside of a class changes nothing in the run before it. -/
theorem takeWhile_append_back {back : List Char} (text : List Char) (hb : StartsOutside p back) :
    (text ++ back).takeWhile p = text.takeWhile p := by
  have hrun : ∀ c ∈ text.takeWhile p, p c = true := fun c => List.mem_takeWhile_imp
  have hout := startsOutside_append (startsOutside_dropWhile p text) hb
  have htake := takeWhile_append_of_startsOutside hrun hout
  rwa [← List.append_assoc, List.takeWhile_append_dropWhile] at htake

theorem dropWhile_append_back {back : List Char} (text : List Char) (hb : StartsOutside p back) :
    (text ++ back).dropWhile p = text.dropWhile p ++ back := by
  have hrun : ∀ c ∈ text.takeWhile p, p c = true := fun c => List.mem_takeWhile_imp
  have hout := startsOutside_append (startsOutside_dropWhile p text) hb
  have hdrop := dropWhile_append_of_startsOutside hrun hout
  rwa [← List.append_assoc, List.takeWhile_append_dropWhile] at hdrop

end DeclLang.Text
