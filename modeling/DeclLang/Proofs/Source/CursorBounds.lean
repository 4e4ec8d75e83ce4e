import DeclLang.Proofs.Analysis.SourceOrder
import DeclLang.Proofs.Source.CursorScan

/-!
# The bounds of reading by position

A reader is only ever moved forward and never beyond the end of its text, by whatever it passes: a
gap, an item, a character behind a backslash, the mark that closes a comment, or a word whose
look-up failed. Every round of its loop that finds an item takes at least one character away, so
the characters bound the rounds.
-/

set_option autoImplicit false

namespace DeclLang.Source

namespace Cursor

variable {text : List Char} {settings : Settings} {c d : Cursor text}

/-- A reader that was only moved forward, never beyond the end of its text, and is where it was
moved to last. -/
structure Within (c : Cursor text) : Prop where
  ordered : c.trail.Pairwise (· ≤ ·)
  le_position : ∀ p ∈ c.trail, p ≤ c.position
  position_le : c.position ≤ text.length
  position_eq : c.trail.getLast?.getD 0 = c.position

theorem within_start (text : List Char) : (start text).Within :=
  ⟨.nil, by simp [start], Nat.zero_le _, rfl⟩

theorem Moves.within (h : Moves c d) (hc : c.Within) : d.Within := by
  induction h with
  | refl => exact hc
  | @moveTo d position _ hle hlength ih =>
    have hbehind : ∀ p ∈ d.trail, p ≤ position :=
      fun p hp => Nat.le_trans (ih.le_position p hp) hle
    refine ⟨?_, ?_, hlength, ?_⟩
    · simpa [Cursor.moveTo, List.pairwise_append] using And.intro ih.ordered hbehind
    · intro p hp
      rcases List.mem_append.mp hp with hp | hp
      · exact hbehind p hp
      · exact Nat.le_of_eq (List.mem_singleton.mp hp)
    · simp [Cursor.moveTo]
  | addLines _ _ ih => exact ⟨ih.ordered, ih.le_position, ih.position_le, ih.position_eq⟩
  | report _ _ _ ih => exact ⟨ih.ordered, ih.le_position, ih.position_le, ih.position_eq⟩
  | noteFailure _ _ ih => exact ⟨ih.ordered, ih.le_position, ih.position_le, ih.position_eq⟩

theorem round_eq_none_iff : c.round settings = none ↔ text.length ≤ c.skipGap.position := by
  rw [round, Option.map_eq_none_iff, peek, List.getElem?_eq_none_iff, Nat.add_zero]

/-- A round starts its item at or behind where it starts, and ends it behind that, in the text. -/
theorem lt_round {out : Option Token × Cursor text} (h : c.round settings = some out) :
    c.position ≤ c.skipGap.position ∧ c.skipGap.position < out.2.position ∧
      out.2.position ≤ text.length := by
  obtain ⟨char, hpeek, rfl⟩ := Option.map_eq_some_iff.mp h
  have hitem := advances_takeItem settings hpeek
  exact ⟨(moves_skipGap c).le, hitem.2, hitem.1.inside (Nat.le_of_lt (lt_length_of_peek hpeek))⟩

/-- The loop over items, counting its scans: the last round finds the end of the text and scans
nothing, or it scans an item and stops at a problem. -/
inductive Loops (settings : Settings) : Cursor text → Nat → List Token × Cursor text → Prop
  | ends {c : Cursor text} (hround : c.round settings = none) :
      Loops settings c 0 ([.endAt c.skipGap.line], c.skipGap)
  | stops {c : Cursor text} {out : Option Token × Cursor text}
      (hround : c.round settings = some out) (hstops : out.2.stops settings = true) :
      Loops settings c 1 (out.1.toList ++ [.endAt out.2.line], out.2)
  | goesOn {c : Cursor text} {out : Option Token × Cursor text} {scans : Nat}
      {more : List Token × Cursor text} (hround : c.round settings = some out)
      (hgo : out.2.stops settings = false) (hmore : Loops settings out.2 scans more) :
      Loops settings c (scans + 1) (out.1.toList ++ more.1, more.2)

/-- Each scan takes at least one of the characters that are left. -/
theorem exists_loops (settings : Settings) (c : Cursor text) (h : c.position ≤ text.length) :
    ∃ scans, scans + c.position ≤ text.length ∧ Loops settings c scans (c.read settings) := by
  fun_induction read settings c with
  | case1 c hround => exact ⟨0, by omega, .ends hround⟩
  | case2 c out hround hstops =>
    obtain ⟨hgap, hitem, hinside⟩ := lt_round hround
    exact ⟨1, by omega, .stops hround hstops⟩
  | case3 c out hround hstops more ih =>
    obtain ⟨hgap, hitem, hinside⟩ := lt_round hround
    obtain ⟨scans, hscans, hmore⟩ := ih hinside
    exact ⟨scans + 1, by omega, .goesOn hround (by simpa using hstops) hmore⟩

end Cursor

/-- Scanning makes progress within its text, whatever the look-ups do. A reader by position scans
what a scan does; each of its rounds moves it on, unless it finds the end of the text, and none
moves it beyond that, so that it does no more scans than the text has characters. The closing token
is the last one, there is no other, and it has no text. -/
theorem scan_progress (settings : Settings) (source : String) :
    let text := source.toList
    let start := Cursor.start text
    scanByCursor settings source = scan settings source ∧
    -- Every round, from every state, also from those that no reading comes to.
    (∀ c : Cursor text, (c.round settings = none ↔ text.length ≤ c.skipGap.position) ∧
      ∀ out, c.round settings = some out →
        c.position ≤ c.skipGap.position ∧ c.skipGap.position < out.2.position ∧
          out.2.position ≤ text.length) ∧
    (start.read settings).2.Within ∧
    (∃ scans ≤ text.length, Cursor.Loops settings start scans (start.read settings)) ∧
    ∃ front line, (scan settings source).tokens = front ++ [⟨.endOfInput, "", line⟩] ∧
      ∀ t ∈ front, t.kind ≠ .endOfInput := by
  intro text start
  have hmoves := Cursor.moves_read settings start
  obtain ⟨scans, hscans, hloops⟩ := Cursor.exists_loops settings start (Nat.zero_le _)
  obtain ⟨front, line, htokens, hfront⟩ := exists_tokens_eq settings source
  refine ⟨scanByCursor_eq settings source,
    fun c => ⟨Cursor.round_eq_none_iff, fun out => Cursor.lt_round⟩,
    hmoves.within (Cursor.within_start text), ⟨scans, hscans, hloops⟩, front, line, htokens, ?_⟩
  intro t ht
  simpa [Token.isEnd] using hfront t ht

end DeclLang.Source
