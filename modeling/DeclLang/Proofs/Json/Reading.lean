import DeclLang.Json.Grammar
import DeclLang.Text.Run
import Mathlib.Data.List.TakeWhile

/-!
# Every JSON text is read as its value

Reading is complete for the grammar: whatever blanks stand around the parts of a text and however
its characters are escaped, the text is read as the value that it stands for. So a text stands for
one value at most.

That nothing else is read is not shown here.
-/

set_option autoImplicit false

namespace DeclLang.Json

open Text

/-! ### Blanks -/

theorem skipSpace_append {blanks : List Char} (h : IsBlanks blanks) (text : List Char) :
    skipSpace (blanks ++ text) = skipSpace text :=
  List.dropWhile_append_of_pos h

theorem skipSpace_cons {c : Char} (h : isSpace c = false) (text : List Char) :
    skipSpace (c :: text) = c :: text := by
  rw [skipSpace, List.dropWhile_cons_of_neg (by simp [h])]

theorem skipSpace_append_cons {blanks : List Char} {c : Char} (h : IsBlanks blanks)
    (hc : isSpace c = false) (text : List Char) :
    skipSpace (blanks ++ c :: text) = c :: text := by
  rw [skipSpace_append h, skipSpace_cons hc]

theorem skipSpace_skipSpace (text : List Char) : skipSpace (skipSpace text) = skipSpace text :=
  dropWhile_append_of_startsOutside (List.forall_mem_nil _)
    (startsOutside_dropWhile isSpace text)

theorem readValue_skipSpace (fuel : Nat) (text : List Char) :
    readValue fuel (skipSpace text) = readValue fuel text := by
  cases fuel with
  | zero => rw [readValue, readValue]
  | succ fuel => rw [readValue, readValue, skipSpace_skipSpace]

theorem readItems_skipSpace (fuel : Nat) (text : List Char) :
    readItems fuel (skipSpace text) = readItems fuel text := by
  cases fuel with
  | zero => rw [readItems, readItems]
  | succ fuel => rw [readItems, readItems, readValue_skipSpace]

theorem readFields_skipSpace (fuel : Nat) (text : List Char) :
    readFields fuel (skipSpace text) = readFields fuel text := by
  cases fuel with
  | zero => rw [readFields, readFields]
  | succ fuel => rw [readFields, readFields, skipSpace_skipSpace]

/-! ### Integers -/

/-- What may stand behind a number without going on with it. -/
def EndsNumber (text : List Char) : Prop :=
  ∀ c, text.head? = some c → c.isDigit = false ∧ c ≠ '.' ∧ c ≠ 'e' ∧ c ≠ 'E'

theorem endsNumber_of_isBlanks {blanks text : List Char} (h : IsBlanks blanks)
    (ht : EndsNumber text) : EndsNumber (blanks ++ text) := by
  cases blanks with
  | nil => exact ht
  | cons b blanks =>
    have hb := h b List.mem_cons_self
    intro c hc
    obtain rfl := Option.some.inj hc
    simp only [isSpace, Bool.or_eq_true, beq_iff_eq] at hb
    rcases hb with ((rfl | rfl) | rfl) | rfl <;> decide

theorem EndsNumber.startsOutside {text : List Char} (h : EndsNumber text) :
    StartsOutside Char.isDigit text :=
  fun c hc => (h c hc).1

theorem natOfDigits?_of_isNumeral {digits : List Char} {n : Nat} (h : IsNumeral digits n) :
    natOfDigits? digits = some n := by
  have hvalue := h.value
  cases digits with
  | nil => exact absurd rfl h.ne_nil
  | cons d rest =>
    by_cases hd : d = '0'
    · have hzero := h.head_zero (by rw [hd]; rfl)
      rw [hzero] at hvalue ⊢
      rw [← hvalue]
      rfl
    · unfold natOfDigits?
      split
      · contradiction
      · simp_all
      · simp_all
      · rw [hvalue]

theorem readInteger_of_isNumeral {digits rest : List Char} {n : Nat} (h : IsNumeral digits n)
    (hrest : EndsNumber rest) :
    natOfDigits? ((digits ++ rest).takeWhile Char.isDigit) = some n ∧
      (digits ++ rest).dropWhile Char.isDigit = rest := by
  rw [takeWhile_append_of_startsOutside h.isDigit hrest.startsOutside,
    dropWhile_append_of_startsOutside h.isDigit hrest.startsOutside]
  exact ⟨natOfDigits?_of_isNumeral h, rfl⟩

theorem readInteger_of_isInteger {text rest : List Char} {n : Int} (h : IsInteger text n)
    (hrest : EndsNumber rest) : readInteger (text ++ rest) = some (n, rest) := by
  cases h with
  | @natural _ n h =>
    obtain ⟨hn, hdrop⟩ := readInteger_of_isNumeral h hrest
    have hminus : ∀ back, text ++ rest ≠ '-' :: back := by
      intro back heq
      cases text with
      | nil => exact h.ne_nil rfl
      | cons d text =>
        obtain ⟨rfl, -⟩ := List.cons.inj heq
        exact absurd (h.isDigit _ List.mem_cons_self) (by decide)
    cases hhead : rest.head? with
    | none => simp [readInteger, hn, hdrop, hhead]
    | some c => simp [readInteger, hn, hdrop, hhead, hrest c hhead]
  | negative h =>
    obtain ⟨hn, hdrop⟩ := readInteger_of_isNumeral h hrest
    cases hhead : rest.head? with
    | none => simp [readInteger, hn, hdrop, hhead]
    | some c => simp [readInteger, hn, hdrop, hhead, hrest c hhead]

/-! ### Texts -/

theorem unescape?_of_mem {letter c : Char} (h : (letter, c) ∈ escapes) :
    unescape? letter = some c ∧ letter ≠ 'u' := by
  have hall : ∀ p ∈ escapes, unescape? p.1 = some p.2 ∧ p.1 ≠ 'u' := by decide
  exact hall _ h

theorem readUnits_of_isBody {body : List Char} {units : List Nat} (h : IsBody body units)
    (rest : List Char) : readUnits (body ++ '"' :: rest) = some (units, rest) := by
  induction h with
  | nil => rfl
  | plain hc hquote hslash _ ih =>
    simp [readUnits, ih, hslash]
    omega
  | escape hletter _ ih =>
    obtain ⟨hc, hu⟩ := unescape?_of_mem hletter
    simp [readUnits, ih, hc, hu]
  | unit hunit _ ih =>
    simp [readUnits, ih, hunit]

/-- A character is one code unit that is no half of a pair, or a pair. -/
theorem ofUnits?_single {unit : Nat} (h : unit < 0xD800 ∨ 0xE000 ≤ unit) (units : List Nat) :
    ofUnits? (unit :: units) = (ofUnits? units).map (Char.ofNat unit :: ·) := by
  cases units with
  | nil =>
    simp only [ofUnits?, Option.map_some]
    rw [if_neg (by omega)]
  | cons next rest => rw [ofUnits?, if_neg (by omega), if_neg (by omega)]

theorem ofUnits?_codeUnits (c : Char) (units : List Nat) :
    ofUnits? (codeUnits c ++ units) = (ofUnits? units).map (c :: ·) := by
  have hvalid : c.toNat < 0xD800 ∨ 0xDFFF < c.toNat ∧ c.toNat < 0x110000 := c.valid
  rw [codeUnits]
  split
  · rw [List.singleton_append, ofUnits?_single (by omega), Char.ofNat_toNat]
  · have hsum : 0x10000 + (0xD800 + (c.toNat - 0x10000) / 0x400 - 0xD800) * 0x400 +
        (0xDC00 + (c.toNat - 0x10000) % 0x400 - 0xDC00) = c.toNat := by omega
    rw [List.cons_append, List.singleton_append, ofUnits?, if_pos (by omega),
      if_pos (by omega), hsum, Char.ofNat_toNat]

theorem ofUnits?_flatMap (characters : List Char) :
    ofUnits? (characters.flatMap codeUnits) = some characters := by
  induction characters with
  | nil => rfl
  | cons c rest ih => rw [List.flatMap_cons, ofUnits?_codeUnits, ih]; rfl

theorem readText_of_isBody {body : List Char} {text : String}
    (h : IsBody body (text.toList.flatMap codeUnits)) (rest : List Char) :
    readText (body ++ '"' :: rest) = some (text, rest) := by
  simp [readText, readUnits_of_isBody h rest, ofUnits?_flatMap]

/-! ### Values -/

/-- Whether an integer may start with a character. -/
def StartsInteger (c : Char) : Prop :=
  c.isDigit = true ∨ c = '-'

theorem StartsInteger.ne {c d : Char} (h : StartsInteger c) (hdigit : d.isDigit = false)
    (hminus : d ≠ '-') : c ≠ d := by
  rintro rfl
  rcases h with h | h
  · rw [hdigit] at h
    cases h
  · exact hminus h

theorem StartsInteger.isSpace_eq_false {c : Char} (h : StartsInteger c) : isSpace c = false := by
  simp only [isSpace, Bool.or_eq_false_iff, beq_eq_false_iff_ne]
  exact ⟨⟨⟨h.ne rfl (by decide), h.ne rfl (by decide)⟩, h.ne rfl (by decide)⟩,
    h.ne rfl (by decide)⟩

theorem IsInteger.head {text : List Char} {n : Int} (h : IsInteger text n) :
    ∃ c back, text = c :: back ∧ StartsInteger c := by
  cases h with
  | natural h =>
    cases text with
    | nil => exact absurd rfl h.ne_nil
    | cons d back => exact ⟨d, back, rfl, .inl (h.isDigit d List.mem_cons_self)⟩
  | negative h => exact ⟨'-', _, rfl, .inr rfl⟩

theorem IsValue.head {text : List Char} {v : Value} (h : IsValue text v) :
    ∃ c back, text = c :: back ∧ isSpace c = false ∧ c ≠ ']' := by
  cases h with
  | integer h =>
    obtain ⟨c, back, rfl, hc⟩ := h.head
    exact ⟨c, back, rfl, hc.isSpace_eq_false, hc.ne rfl (by decide)⟩
  | quoted h => cases h with | mk _ => exact ⟨_, _, rfl, by decide⟩
  | _ => exact ⟨_, _, rfl, by decide⟩

theorem IsElement.ne_closing {text : List Char} {v : Value} (h : IsElement text v)
    (rest back : List Char) : skipSpace (text ++ rest) ≠ ']' :: back := by
  cases h with
  | mk hbefore hvalue _ =>
    obtain ⟨c, text, rfl, hc, hne⟩ := hvalue.head
    rw [List.append_assoc, skipSpace_append hbefore, List.append_assoc, List.cons_append,
      skipSpace_cons hc]
    exact fun heq => hne (List.cons.inj heq).1

theorem IsItems.ne_closing {text : List Char} {items : List Value} (h : IsItems text items)
    (rest back : List Char) : skipSpace (text ++ rest) ≠ ']' :: back := by
  cases h with
  | one h => exact h.ne_closing rest back
  | more h _ =>
    rw [List.append_assoc]
    exact h.ne_closing _ back

theorem IsFields.ne_closing {text : List Char} {fields : List (String × Value)}
    (h : IsFields text fields) (rest back : List Char) :
    skipSpace (text ++ rest) ≠ '}' :: back := by
  have hfield : ∀ {text field} rest, IsField text field →
      skipSpace (text ++ rest) ≠ '}' :: back := by
    rintro text field rest ⟨hbefore, ⟨hbody⟩, hbetween, _⟩
    rw [List.append_assoc, skipSpace_append hbefore, List.append_assoc, List.cons_append,
      skipSpace_cons rfl]
    exact fun heq => absurd (List.cons.inj heq).1 (by decide)
  cases h with
  | one h => exact hfield rest h
  | more h _ =>
    rw [List.append_assoc]
    exact hfield _ h

theorem readValue_of_isInteger {text rest : List Char} {n : Int} (h : IsInteger text n)
    (hrest : EndsNumber rest) (fuel : Nat) :
    readValue (fuel + 1) (text ++ rest) = some (.integer n, rest) := by
  obtain ⟨c, back, rfl, hc⟩ := h.head
  have hread := readInteger_of_isInteger h hrest
  rw [List.cons_append] at hread
  simp [readValue, skipSpace_cons hc.isSpace_eq_false, hc.ne, hread]

theorem readValue_brackets {blanks : List Char} (h : IsBlanks blanks) (fuel : Nat)
    (rest : List Char) :
    readValue (fuel + 1) ('[' :: (blanks ++ ']' :: rest)) = some (.array [], rest) := by
  have hend := skipSpace_append_cons h (c := ']') rfl rest
  rw [readValue, skipSpace_cons rfl]
  simp only [hend]

theorem readValue_braces {blanks : List Char} (h : IsBlanks blanks) (fuel : Nat)
    (rest : List Char) :
    readValue (fuel + 1) ('{' :: (blanks ++ '}' :: rest)) = some (.object [], rest) := by
  have hend := skipSpace_append_cons h (c := '}') rfl rest
  rw [readValue, skipSpace_cons rfl]
  simp only [hend]

theorem readValue_array {text : List Char} (h : ∀ back, skipSpace text ≠ ']' :: back)
    (fuel : Nat) : readValue (fuel + 1) ('[' :: text) =
      (readItems fuel text).map fun (items, rest) => (.array items, rest) := by
  rw [readValue, skipSpace_cons rfl]
  simp only [readItems_skipSpace]

theorem readValue_object {text : List Char} (h : ∀ back, skipSpace text ≠ '}' :: back)
    (fuel : Nat) : readValue (fuel + 1) ('{' :: text) =
      (readFields fuel text).map fun (fields, rest) => (.object fields, rest) := by
  rw [readValue, skipSpace_cons rfl]
  simp only [readFields_skipSpace]

/-! ### Items and fields -/

section Steps

variable {fuel : Nat} {text rest back : List Char} {v : Value}

theorem readItems_last (hread : readValue fuel text = some (v, rest))
    (hend : skipSpace rest = ']' :: back) : readItems (fuel + 1) text = some ([v], back) := by
  rw [readItems, hread]
  simp only [hend]

theorem readItems_more (hread : readValue fuel text = some (v, rest))
    (hend : skipSpace rest = ',' :: back) : readItems (fuel + 1) text =
      (readItems fuel back).map fun (items, rest) => (v :: items, rest) := by
  rw [readItems, hread]
  simp only [hend]

variable {before quoted between : List Char} {key : String}

theorem readFields_last (hbefore : IsBlanks before) (hquoted : IsQuoted quoted key)
    (hbetween : IsBlanks between) (hread : readValue fuel text = some (v, rest))
    (hend : skipSpace rest = '}' :: back) :
    readFields (fuel + 1) (before ++ (quoted ++ (between ++ ':' :: text))) =
      some ([(key, v)], back) := by
  cases hquoted with
  | mk hbody =>
    have hcolon := skipSpace_append_cons hbetween (c := ':') rfl text
    rw [readFields, List.cons_append, skipSpace_append_cons hbefore rfl, List.append_assoc]
    simp only [List.singleton_append, readText_of_isBody hbody, hcolon, hread, hend]

theorem readFields_more (hbefore : IsBlanks before) (hquoted : IsQuoted quoted key)
    (hbetween : IsBlanks between) (hread : readValue fuel text = some (v, rest))
    (hend : skipSpace rest = ',' :: back) :
    readFields (fuel + 1) (before ++ (quoted ++ (between ++ ':' :: text))) =
      (readFields fuel back).map fun (fields, rest) => ((key, v) :: fields, rest) := by
  cases hquoted with
  | mk hbody =>
    have hcolon := skipSpace_append_cons hbetween (c := ':') rfl text
    rw [readFields, List.cons_append, skipSpace_append_cons hbefore rfl, List.append_assoc]
    simp only [List.singleton_append, readText_of_isBody hbody, hcolon, hread, hend]

end Steps

/-! ### Nested values

The recursion is that of the derivation. The length of a text is fuel enough for its value; items
and fields need one more, for the step from a value to what stands behind it. -/

theorem endsNumber_nil : EndsNumber [] :=
  fun _ h => nomatch h

theorem endsNumber_cons {c : Char} (h : c = ',' ∨ c = ']' ∨ c = '}') (text : List Char) :
    EndsNumber (c :: text) := by
  intro d hd
  obtain rfl := Option.some.inj hd
  rcases h with rfl | rfl | rfl <;> decide

mutual

theorem readValue_of_isValue {text : List Char} {v : Value} (h : IsValue text v) (fuel : Nat)
    (hfuel : text.length ≤ fuel) (rest : List Char) (hrest : EndsNumber rest) :
    readValue fuel (text ++ rest) = some (v, rest) := by
  -- No value is an empty text, so there is fuel for a step.
  obtain ⟨fuel, rfl⟩ : ∃ n, fuel = n + 1 := by
    obtain ⟨c, back, rfl, -⟩ := h.head
    exact ⟨fuel - 1, by simp at hfuel; omega⟩
  cases h with
  | null | yes | no => rw [readValue]; rfl
  | integer h => exact readValue_of_isInteger h hrest fuel
  | quoted h =>
    cases h with
    | mk h =>
      rw [readValue, List.cons_append, skipSpace_cons rfl, List.append_assoc]
      simp only [List.singleton_append, readText_of_isBody h, Option.map_some]
  | noItems h =>
    rw [List.cons_append, List.append_assoc]
    exact readValue_brackets h fuel rest
  | noFields h =>
    rw [List.cons_append, List.append_assoc]
    exact readValue_braces h fuel rest
  | items h =>
    simp only [List.length_cons, List.length_append] at hfuel
    rw [List.cons_append, List.append_assoc, readValue_array (h.ne_closing _),
      List.singleton_append, readItems_of_isItems h fuel (by omega) rest, Option.map_some]
  | fields h =>
    simp only [List.length_cons, List.length_append] at hfuel
    rw [List.cons_append, List.append_assoc, readValue_object (h.ne_closing _),
      List.singleton_append, readFields_of_isFields h fuel (by omega) rest, Option.map_some]

theorem readValue_of_isElement {text : List Char} {v : Value} (h : IsElement text v)
    (fuel : Nat) (hfuel : text.length ≤ fuel) (rest : List Char) (hrest : EndsNumber rest) :
    ∃ after, IsBlanks after ∧ readValue fuel (text ++ rest) = some (v, after ++ rest) := by
  cases h with
  | @mk before text after _ hbefore h hafter =>
    simp only [List.length_append] at hfuel
    refine ⟨after, hafter, ?_⟩
    rw [List.append_assoc, ← readValue_skipSpace, skipSpace_append hbefore, readValue_skipSpace,
      List.append_assoc]
    exact readValue_of_isValue h fuel (by omega) _ (endsNumber_of_isBlanks hafter hrest)

theorem readItems_of_isItems {text : List Char} {items : List Value} (h : IsItems text items)
    (fuel : Nat) (hfuel : text.length < fuel) (rest : List Char) :
    readItems fuel (text ++ ']' :: rest) = some (items, rest) := by
  obtain ⟨fuel, rfl⟩ : ∃ n, fuel = n + 1 := ⟨fuel - 1, by omega⟩
  cases h with
  | one h =>
    obtain ⟨after, hafter, hread⟩ := readValue_of_isElement h fuel (by omega) (']' :: rest)
      (endsNumber_cons (by simp) rest)
    exact readItems_last hread (skipSpace_append_cons hafter rfl rest)
  | @more text back v items h hback =>
    simp only [List.length_append, List.length_cons] at hfuel
    obtain ⟨after, hafter, hread⟩ := readValue_of_isElement h fuel (by omega)
      (',' :: (back ++ ']' :: rest)) (endsNumber_cons (by simp) _)
    rw [List.append_assoc, List.cons_append,
      readItems_more hread (skipSpace_append_cons hafter rfl _),
      readItems_of_isItems hback fuel (by omega) rest, Option.map_some]

theorem readFields_of_isFields {text : List Char} {fields : List (String × Value)}
    (h : IsFields text fields) (fuel : Nat) (hfuel : text.length < fuel) (rest : List Char) :
    readFields fuel (text ++ '}' :: rest) = some (fields, rest) := by
  obtain ⟨fuel, rfl⟩ : ∃ n, fuel = n + 1 := ⟨fuel - 1, by omega⟩
  cases h with
  | one hfield =>
    cases hfield with
    | mk hbefore hquoted hbetween h =>
      simp only [List.length_append, List.length_cons] at hfuel
      obtain ⟨after, hafter, hread⟩ := readValue_of_isElement h fuel (by omega) ('}' :: rest)
        (endsNumber_cons (by simp) rest)
      simp only [List.append_assoc, List.cons_append]
      exact readFields_last hbefore hquoted hbetween hread (skipSpace_append_cons hafter rfl rest)
  | @more _ back _ fields hfield hback =>
    cases hfield with
    | mk hbefore hquoted hbetween h =>
      simp only [List.length_append, List.length_cons] at hfuel
      obtain ⟨after, hafter, hread⟩ := readValue_of_isElement h fuel (by omega)
        (',' :: (back ++ '}' :: rest)) (endsNumber_cons (by simp) _)
      simp only [List.append_assoc, List.cons_append]
      rw [readFields_more hbefore hquoted hbetween hread (skipSpace_append_cons hafter rfl _),
        readFields_of_isFields hback fuel (by omega) rest, Option.map_some]

end

theorem IsText.read? {text : String} {v : Value} (h : IsText text v) : Value.read? text = some v := by
  obtain ⟨after, hafter, hread⟩ := readValue_of_isElement h (text.length + 1)
    (by rw [String.length_toList]; omega) [] endsNumber_nil
  rw [List.append_nil] at hread
  have hblank : skipSpace after = [] := by
    simpa [skipSpace, IsBlanks] using hafter
  simp [Value.read?, hread, hblank]

/-- A JSON text stands for one value. -/
theorem IsText.unique {text : String} {v w : Value} (hv : IsText text v) (hw : IsText text w) :
    v = w :=
  Option.some.inj (hv.read?.symm.trans hw.read?)

end DeclLang.Json
