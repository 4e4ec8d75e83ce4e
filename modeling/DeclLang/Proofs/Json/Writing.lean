import DeclLang.Json.Grammar

/-!
# A written value is an ASCII text of the grammar

The layout is the writer's own choice; here it only matters that it is blanks where the grammar has
blanks. A character beyond ASCII is written by its code units, and these are what the grammar takes
an escape to stand for.
-/

set_option autoImplicit false

namespace DeclLang.Json

def IsAscii (text : List Char) : Prop :=
  ∀ c ∈ text, c.toNat < 0x80

@[simp] theorem isAscii_nil : IsAscii [] :=
  fun _ h => nomatch h

@[simp] theorem isAscii_cons {c : Char} {text : List Char} :
    IsAscii (c :: text) ↔ c.toNat < 0x80 ∧ IsAscii text :=
  List.forall_mem_cons

@[simp] theorem isAscii_append {front back : List Char} :
    IsAscii (front ++ back) ↔ IsAscii front ∧ IsAscii back :=
  List.forall_mem_append

theorem isAscii_flatMap {α : Type} {f : α → List Char} {items : List α}
    (h : ∀ a ∈ items, IsAscii (f a)) : IsAscii (items.flatMap f) := by
  intro c hc
  obtain ⟨a, ha, hc⟩ := List.mem_flatMap.mp hc
  exact h a ha c hc

/-! ### Code units -/

theorem hexValue?_digitChar (n : Nat) (h : n < 16) :
    hexValue? n.digitChar = some n ∧ n.digitChar.toNat < 0x80 := by
  have hall : ∀ n < 16, hexValue? n.digitChar = some n ∧ n.digitChar.toNat < 0x80 := by decide
  exact hall n h

theorem escapeUnit_eq (unit : Nat) : escapeUnit unit =
    ['\\', 'u', (unit / 16 / 16 / 16 % 16).digitChar, (unit / 16 / 16 % 16).digitChar,
      (unit / 16 % 16).digitChar, (unit % 16).digitChar] :=
  rfl

theorem isAscii_escapeUnit (unit : Nat) : IsAscii (escapeUnit unit) := by
  have hdigit : ∀ n, (n % 16).digitChar.toNat < 0x80 := fun n =>
    (hexValue?_digitChar _ (Nat.mod_lt _ (by decide))).2
  simp [escapeUnit_eq, hdigit]

theorem isBody_escapeUnit {unit : Nat} (hunit : unit < 0x10000) {rest : List Char}
    {units : List Nat} (h : IsBody rest units) :
    IsBody (escapeUnit unit ++ rest) (unit :: units) := by
  have hdigit : ∀ n, hexValue? (n % 16).digitChar = some (n % 16) := fun n =>
    (hexValue?_digitChar _ (Nat.mod_lt _ (by decide))).1
  refine IsBody.unit ?_ h
  simp only [unit?, hdigit, Option.bind_eq_bind, Option.bind_some, Option.pure_def,
    Option.some.injEq]
  omega

theorem lt_of_mem_codeUnits {c : Char} {unit : Nat} (h : unit ∈ codeUnits c) :
    unit < 0x10000 := by
  have hvalid : c.toNat < 0xD800 ∨ 0xDFFF < c.toNat ∧ c.toNat < 0x110000 := c.valid
  rw [codeUnits] at h
  split at h
  · simp only [List.mem_singleton] at h
    omega
  · simp only [List.mem_cons, List.not_mem_nil, or_false] at h
    omega

theorem isBody_escapeUnits {escaped : List Nat} (hescaped : ∀ unit ∈ escaped, unit < 0x10000)
    {rest : List Char} {units : List Nat} (h : IsBody rest units) :
    IsBody (escaped.flatMap escapeUnit ++ rest) (escaped ++ units) := by
  induction escaped with
  | nil => exact h
  | cons unit escaped ih =>
    rw [List.forall_mem_cons] at hescaped
    rw [List.flatMap_cons, List.append_assoc]
    exact isBody_escapeUnit hescaped.1 (ih hescaped.2)

/-! ### Texts -/

theorem mem_escapes_of_shortEscape {c letter : Char} (h : shortEscape c = some letter) :
    (letter, c) ∈ escapes ∧ letter.toNat < 0x80 := by
  unfold shortEscape at h
  split at h <;> first | (obtain rfl := Option.some.inj h; decide) | cases h

theorem isBody_writeChar (c : Char) {rest : List Char} {units : List Nat}
    (h : IsBody rest units) : IsBody (writeChar c ++ rest) (codeUnits c ++ units) := by
  unfold writeChar
  split
  · next letter hletter => exact .escape (mem_escapes_of_shortEscape hletter).1 h
  · next hnone =>
    split
    · next hprintable =>
      refine .plain hprintable.1 ?_ ?_ h <;> rintro rfl <;> cases hnone
    · exact isBody_escapeUnits (fun _ => lt_of_mem_codeUnits) h

example : writeChar '😀' = "\\ud83d\\ude00".toList := by decide

theorem isAscii_writeChar (c : Char) : IsAscii (writeChar c) := by
  unfold writeChar
  split
  · next letter hletter => simp [(mem_escapes_of_shortEscape hletter).2]
  · split
    · simp; omega
    · exact isAscii_flatMap fun unit _ => isAscii_escapeUnit unit

theorem isQuoted_writeText (text : String) : IsQuoted (writeText text) text := by
  refine .mk ?_
  induction text.toList with
  | nil => exact .nil
  | cons c rest ih => exact isBody_writeChar c ih

theorem isAscii_writeText (text : String) : IsAscii (writeText text) := by
  simp [writeText, isAscii_flatMap fun c _ => isAscii_writeChar c]

/-! ### Integers -/

theorem eq_zero_of_head?_toDigits {n : Nat} (h : (Nat.toDigits 10 n).head? = some '0') :
    n = 0 := by
  induction n using Nat.strongRecOn with
  | ind n ih =>
    by_cases hn : n < 10
    · rw [Nat.toDigits_of_lt_base hn] at h
      exact Nat.digitChar_eq_zero.mp (Option.some.inj h)
    · rw [Nat.toDigits_of_base_le (by decide) (by omega),
        List.head?_append, List.head?_eq_some_head Nat.toDigits_ne_nil, Option.some_or,
        ← List.head?_eq_some_head] at h
      have := ih (n / 10) (by omega) h
      omega

theorem isNumeral_toDigits (n : Nat) : IsNumeral (Nat.toDigits 10 n) n where
  ne_nil := Nat.toDigits_ne_nil
  isDigit c hc := Nat.isDigit_of_mem_toDigits (by decide) (by decide) hc
  head_zero h := by rw [eq_zero_of_head?_toDigits h, Nat.toDigits_zero]
  value := Nat.ofDigitChars_ten_toDigits

theorem isInteger_toString (n : Int) : IsInteger (toString n).toList n := by
  cases n with
  | ofNat n =>
    change IsInteger n.repr.toList n
    rw [Nat.toList_repr]
    exact .natural (isNumeral_toDigits n)
  | negSucc n =>
    change IsInteger ("-" ++ (n + 1).repr).toList (-((n + 1 : Nat) : Int))
    rw [String.toList_append, Nat.toList_repr]
    exact .negative (isNumeral_toDigits (n + 1))

/-- An integer is written with digits and a sign. -/
theorem IsInteger.mem_cases {text : List Char} {n : Int} {c : Char} (h : IsInteger text n)
    (hc : c ∈ text) : c = '-' ∨ c.isDigit = true := by
  cases h with
  | natural h => exact .inr (h.isDigit c hc)
  | negative h => exact (List.mem_cons.mp hc).imp_right (h.isDigit c)

theorem isAscii_of_isNumeral {digits : List Char} {n : Nat} (h : IsNumeral digits n) :
    IsAscii digits := by
  intro c hc
  have hdigit := h.isDigit c hc
  simp only [Char.isDigit, Bool.and_eq_true, decide_eq_true_eq] at hdigit
  have hle : c.toNat ≤ 57 := hdigit.2
  omega

theorem isAscii_of_isInteger {text : List Char} {n : Int} (h : IsInteger text n) :
    IsAscii text := by
  cases h with
  | natural h => exact isAscii_of_isNumeral h
  | negative h => simp [isAscii_of_isNumeral h]

/-! ### Values -/

theorem isBlanks_newLine (depth : Nat) : IsBlanks (newLine depth) := by
  intro c hc
  rcases List.mem_cons.mp hc with rfl | hc
  · rfl
  · rw [List.eq_of_mem_replicate hc]
    rfl

theorem isAscii_newLine (depth : Nat) : IsAscii (newLine depth) := by
  intro c hc
  rcases List.mem_cons.mp hc with rfl | hc
  · decide
  · rw [List.eq_of_mem_replicate hc]
    decide

theorem isBlanks_nil : IsBlanks [] :=
  fun _ h => nomatch h

theorem isField_write {before quoted text after : List Char} {key : String} {v : Value}
    (hbefore : IsBlanks before) (hquoted : IsQuoted quoted key) (h : IsValue text v)
    (hafter : IsBlanks after) :
    IsField (before ++ quoted ++ ':' :: ' ' :: text ++ after) (key, v) := by
  have hspace : IsBlanks [' '] := by simp [IsBlanks, isSpace]
  simpa using IsField.mk hbefore hquoted isBlanks_nil (.mk hspace h hafter)

-- The line end behind the last item or field belongs to that item's blanks, hence `after`.
mutual

theorem isValue_write (depth : Nat) (v : Value) : IsValue (write depth v) v := by
  cases v with
  | null => exact .null
  | boolean b => cases b <;> constructor
  | integer n => exact .integer (isInteger_toString n)
  | text text => exact .quoted (isQuoted_writeText text)
  | array items =>
    cases items with
    | nil => exact .noItems isBlanks_nil
    | cons v rest =>
      have h := isItems_writeItems (depth + 1) (isValue_write (depth + 1) v) rest
        (isBlanks_newLine depth)
      simpa [write] using IsValue.items h
  | object fields =>
    cases fields with
    | nil => exact .noFields isBlanks_nil
    | cons field rest =>
      obtain ⟨key, v⟩ := field
      have h := isFields_writeFields (depth + 1) key (isValue_write (depth + 1) v) rest
        (isBlanks_newLine depth)
      simpa [write] using IsValue.fields h

theorem isItems_writeItems (depth : Nat) {text : List Char} {v : Value} (h : IsValue text v)
    (rest : List Value) {after : List Char} (hafter : IsBlanks after) :
    IsItems (newLine depth ++ text ++ writeItems depth rest ++ after) (v :: rest) := by
  cases rest with
  | nil =>
    have hone := IsItems.one (.mk (isBlanks_newLine depth) h hafter)
    simpa [writeItems] using hone
  | cons w rest =>
    have hback := isItems_writeItems depth (isValue_write depth w) rest hafter
    have hmore := IsItems.more (.mk (isBlanks_newLine depth) h isBlanks_nil) hback
    simpa [writeItems] using hmore

theorem isFields_writeFields (depth : Nat) (key : String) {text : List Char} {v : Value}
    (h : IsValue text v) (rest : List (String × Value)) {after : List Char}
    (hafter : IsBlanks after) :
    IsFields (newLine depth ++ writeText key ++ ':' :: ' ' :: text ++ writeFields depth rest ++
      after) ((key, v) :: rest) := by
  cases rest with
  | nil =>
    have hone := IsFields.one
      (isField_write (isBlanks_newLine depth) (isQuoted_writeText key) h hafter)
    simpa [writeFields] using hone
  | cons field rest =>
    obtain ⟨name, w⟩ := field
    have hback := isFields_writeFields depth name (isValue_write depth w) rest hafter
    have hmore := IsFields.more
      (isField_write (isBlanks_newLine depth) (isQuoted_writeText key) h isBlanks_nil) hback
    simpa [writeFields] using hmore

end

mutual

theorem isAscii_write (depth : Nat) (v : Value) : IsAscii (write depth v) := by
  cases v with
  | null => simp [write]
  | boolean b => cases b <;> simp [write]
  | integer n => exact isAscii_of_isInteger (isInteger_toString n)
  | text text => exact isAscii_writeText text
  | array items =>
    cases items with
    | nil => simp [write]
    | cons v rest =>
      simp [write, isAscii_newLine, isAscii_write (depth + 1) v, isAscii_writeItems (depth + 1) rest]
  | object fields =>
    cases fields with
    | nil => simp [write]
    | cons field rest =>
      obtain ⟨key, v⟩ := field
      simp [write, isAscii_newLine, isAscii_writeText, isAscii_write (depth + 1) v,
        isAscii_writeFields (depth + 1) rest]

theorem isAscii_writeItems (depth : Nat) (items : List Value) :
    IsAscii (writeItems depth items) := by
  cases items with
  | nil => simp [writeItems]
  | cons v rest =>
    simp [writeItems, isAscii_newLine, isAscii_write depth v, isAscii_writeItems depth rest]

theorem isAscii_writeFields (depth : Nat) (fields : List (String × Value)) :
    IsAscii (writeFields depth fields) := by
  cases fields with
  | nil => simp [writeFields]
  | cons field rest =>
    obtain ⟨key, v⟩ := field
    simp [writeFields, isAscii_newLine, isAscii_writeText, isAscii_write depth v,
      isAscii_writeFields depth rest]

end

theorem Value.isText_render (v : Value) : IsText v.render v := by
  have h := IsElement.mk isBlanks_nil (isValue_write 0 v) isBlanks_nil
  simpa [IsText, Value.render] using h

theorem Value.isAscii_render (v : Value) : IsAscii v.render.toList := by
  rw [Value.render, String.toList_ofList]
  exact isAscii_write 0 v

end DeclLang.Json
