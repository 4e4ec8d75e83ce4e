import DeclLang.Proofs.Validity.Judgement
import DeclLang.Text.Run

/-!
# Reports on initializers

A report on an initializer that does not fit is told from all other reports by its message, and the
message says which literal does not fit which type, as far as the literal holds no closing
parenthesis and the type name no space. So such a report on a variable is made just when its own
initializer does not fit, even where other variables on the same line have the same name.
-/

set_option autoImplicit false

namespace DeclLang

namespace Variable

/-- The report on an initializer of a variable that does not fit. -/
def mismatch (v : Variable) (i : Initializer) : Diagnostic :=
  v.report ("Type mismatch: cannot assign " ++ i.kind.name ++ "(" ++ i.lexeme ++ ") to " ++
    v.typeName ++ " variable '" ++ v.name ++ "'")

variable {v w : Variable} {i j : Initializer}

/-! ### Messages -/

/-- The texts before and behind the first occurrence of a character are unique. -/
theorem eq_of_split_eq {c : Char} {front front' back back' : List Char} (hfront : c ∉ front)
    (hfront' : c ∉ front') (h : front ++ c :: back = front' ++ c :: back') :
    front = front' ∧ back = back' := by
  have hout : ∀ back, Text.StartsOutside (· != c) (c :: back) :=
    fun back => Text.startsOutside_cons (by simp) back
  have heq := congrArg (List.takeWhile (· != c)) h
  rw [(Text.split_at_first hfront (hout back)).1,
    (Text.split_at_first hfront' (hout back')).1] at heq
  subst heq
  exact ⟨rfl, (List.cons.inj (List.append_cancel_left h)).2⟩

theorem parenthesis_notMem_name (kind : Token.Kind) : '(' ∉ kind.name.toList := by
  cases kind with
  | literal kind => cases kind <;> decide
  | _ => decide

/-- The message of a mismatch, taken apart at the places where it can be split again. -/
theorem toList_message_mismatch (v : Variable) (i : Initializer) :
    (v.mismatch i).message.toList =
      "Type mismatch: cannot assign ".toList ++ (i.kind.name.toList ++ '(' ::
        (i.lexeme.toList ++ ')' :: (" to ".toList ++ (v.typeName.toList ++ ' ' ::
          ("variable '".toList ++ (v.name.toList ++ ['\'']))))))  := by
  simp only [mismatch, report, String.toList_append, List.append_assoc]
  rfl

/-- A mismatch says the kind of its literal, and then the literal and the type as well. -/
theorem eq_of_mismatch_eq (h : v.mismatch i = w.mismatch j)
    (hi : ')' ∉ i.lexeme.toList) (hj : j.kind = i.kind → ')' ∉ j.lexeme.toList)
    (hv : ' ' ∉ v.typeName.toList) (hw : ' ' ∉ w.typeName.toList) :
    j.kind = i.kind ∧ j.lexeme = i.lexeme ∧ w.typeName = v.typeName := by
  have hmessage := congrArg (fun d => d.message.toList) h
  simp only [toList_message_mismatch] at hmessage
  -- From left to right: whether the literal holds a parenthesis is known only of its own kind.
  obtain ⟨hname, hrest⟩ := eq_of_split_eq (parenthesis_notMem_name i.kind)
    (parenthesis_notMem_name j.kind) (List.append_cancel_left hmessage)
  have hkind : j.kind = i.kind := LawfulNamed.name_injective _ _ (String.toList_inj.mp hname.symm)
  obtain ⟨hlexeme, hrest⟩ := eq_of_split_eq hi (hj hkind) hrest
  obtain ⟨htype, _⟩ := eq_of_split_eq hv hw (List.append_cancel_left hrest)
  exact ⟨hkind, String.toList_inj.mp hlexeme.symm, String.toList_inj.mp htype.symm⟩

theorem mem_mismatchReports_iff {d : Diagnostic} :
    d ∈ w.mismatchReports ↔ ∃ j ∈ w.declarator.initializer,
      isAssignable (some w.typeName) j.kind j.lexeme = false ∧ d = w.mismatch j := by
  unfold mismatchReports
  cases w.declarator.initializer with
  | none => simp
  | some j =>
    by_cases hfit : isAssignable (some w.typeName) j.kind j.lexeme = false
    · simp [hfit, mismatch]
    · simp [hfit]

/-- No report whose message begins otherwise is a mismatch. -/
theorem report_ne_mismatch {start : String} {c : Char} {rest : List Char}
    (hstart : start.toList = c :: rest) (hc : c ≠ 'T') (name : String) :
    w.report (start ++ name) ≠ v.mismatch i := by
  intro heq
  have hmessage := congrArg (fun d => d.message.toList.head?) heq
  rw [toList_message_mismatch, report, String.toList_append, hstart] at hmessage
  exact hc (Option.some.inj hmessage)

theorem mismatch_mem_reports_iff {settings : Settings} {repeated : Prop} [Decidable repeated] :
    v.mismatch i ∈ w.reports settings repeated ↔ v.mismatch i ∈ w.mismatchReports := by
  have hreserved : v.mismatch i ∉ w.reservedReports settings := by
    unfold reservedReports
    split
    · intro h
      exact report_ne_mismatch rfl (by decide) _ (List.mem_singleton.mp h).symm
    · simp
  have hrepeated : v.mismatch i ∉
      (if repeated then [w.report ("Duplicate variable name: " ++ w.name)] else []) := by
    split
    · intro h
      exact report_ne_mismatch rfl (by decide) _ (List.mem_singleton.mp h).symm
    · simp
  rw [reports, List.mem_append, List.mem_append]
  constructor
  · intro h
    exact h.resolve_left fun h => h.elim hreserved hrepeated
  · exact .inr

theorem mismatch_mem_reportsFrom_iff {settings : Settings} {earlier vs : List Variable} :
    v.mismatch i ∈ reportsFrom settings earlier vs ↔ ∃ w ∈ vs, v.mismatch i ∈ w.mismatchReports := by
  rw [reportsFrom, List.mem_flatMap]
  constructor
  · rintro ⟨k, _, h⟩
    exact ⟨vs[k], List.getElem_mem k.isLt, mismatch_mem_reports_iff.mp h⟩
  · rintro ⟨w, hw, h⟩
    obtain ⟨k, hk, rfl⟩ := List.getElem_of_mem hw
    exact ⟨⟨k, hk⟩, List.mem_finRange _, mismatch_mem_reports_iff.mpr h⟩

end Variable

open Variable

/-- An initializer is reported as a mismatch just when it does not fit. -/
theorem mismatch_mem_validate_iff {settings : Settings} {ds : List Declaration} {v : Variable}
    {i : Initializer} (hv : v ∈ variablesOf ds) (hi : i ∈ v.declarator.initializer)
    (hlexeme : ∀ w ∈ variablesOf ds, ∀ j ∈ w.declarator.initializer, j.kind = i.kind →
      ')' ∉ j.lexeme.toList)
    (htype : ∀ w ∈ variablesOf ds, ' ' ∉ w.typeName.toList) :
    v.mismatch i ∈ validate settings ds ↔
      isAssignable (some v.typeName) i.kind i.lexeme = false := by
  rw [validate_eq_reportsFrom, mismatch_mem_reportsFrom_iff]
  constructor
  · rintro ⟨w, hw, hreport⟩
    obtain ⟨j, hj, hfalse, heq⟩ := mem_mismatchReports_iff.mp hreport
    obtain ⟨hkind, hsame, htypes⟩ := eq_of_mismatch_eq heq (hlexeme v hv i hi rfl)
      (hlexeme w hw j hj) (htype v hv) (htype w hw)
    rwa [← hkind, ← hsame, ← htypes]
  · intro hfalse
    exact ⟨v, hv, mem_mismatchReports_iff.mpr ⟨i, hi, hfalse, rfl⟩⟩

end DeclLang
