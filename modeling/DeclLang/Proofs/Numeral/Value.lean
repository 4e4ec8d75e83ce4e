import DeclLang.Numeral.Basic
import Mathlib.Algebra.Field.Rat
import Mathlib.Data.Nat.Cast.Field
import Mathlib.Algebra.Order.Ring.Rat
import Mathlib.Tactic.FieldSimp
import Mathlib.Tactic.Ring
import Mathlib.Tactic.NormNum

/-!
# The value of a numeral

The digits of a numeral are a number without zeros at its end, times a power of ten. Unless they are
all zeros this number is no multiple of ten, so the value of the numeral is whole when the power of
ten, together with the one that the exponent and the point call for, does not divide.
-/

set_option autoImplicit false

namespace DeclLang.Numeral

/-- The exact value of a numeral. -/
def value (n : Numeral) : ℚ :=
  (if n.negative then -1 else 1) * ofDigits n.digits * 10 ^ n.scale

/-! ### Zeros at the end -/

theorem ofDigits_concat (ds : List Nat) (d : Nat) :
    ofDigits (ds ++ [d]) = 10 * ofDigits ds + d := by
  rw [ofDigits, List.foldl_append]
  rfl

theorem ofDigits_append_zeros (ds : List Nat) (k : Nat) :
    ofDigits (ds ++ List.replicate k 0) = ofDigits ds * 10 ^ k := by
  induction k with
  | zero => simp
  | succ k ih =>
    rw [List.replicate_succ', ← List.append_assoc, ofDigits_concat, ih, Nat.pow_succ]
    ring

theorem exists_append_zeros (ds : List Nat) :
    ∃ front, ds = front ++ List.replicate (trailingZeros ds) 0 ∧ front.getLast? ≠ some 0 := by
  have hzeros : ds.reverse.takeWhile (· == 0) = List.replicate (trailingZeros ds) 0 := by
    refine List.eq_replicate_iff.mpr ⟨rfl, fun d hd => ?_⟩
    simpa using List.all_eq_true.mp List.all_takeWhile d hd
  refine ⟨(ds.reverse.dropWhile (· == 0)).reverse, ?_, fun hlast => ?_⟩
  · calc
      ds = (ds.reverse.takeWhile (· == 0) ++ ds.reverse.dropWhile (· == 0)).reverse := by
        rw [List.takeWhile_append_dropWhile, List.reverse_reverse]
      _ = (ds.reverse.dropWhile (· == 0)).reverse ++ List.replicate (trailingZeros ds) 0 := by
        rw [List.reverse_append, hzeros, List.reverse_replicate]
  · rw [List.getLast?_reverse] at hlast
    have hhead := List.head?_dropWhile_not (· == 0) ds.reverse
    rw [hlast] at hhead
    simp at hhead

/-- Digits that are not all zeros make up a number that ten does not divide, times the power of ten
for the zeros at their end. -/
theorem exists_ofDigits_eq {ds : List Nat} (hds : ∀ d ∈ ds, d < 10) (h : ds.all (· == 0) = false) :
    ∃ m, ¬ 10 ∣ m ∧ ofDigits ds = m * 10 ^ trailingZeros ds := by
  obtain ⟨front, hfront, hlast⟩ := exists_append_zeros ds
  refine ⟨ofDigits front, ?_, ?_⟩
  · rcases List.eq_nil_or_concat front with rfl | ⟨init, d, rfl⟩
    · rw [hfront] at h
      simp at h
    · have hd : d < 10 := hds d (by rw [hfront]; simp)
      have hne : d ≠ 0 := by simpa using hlast
      rw [List.concat_eq_append, ofDigits_concat]
      omega
  · conv_lhs => rw [hfront]
    exact ofDigits_append_zeros front _

theorem ofDigits_eq_zero {ds : List Nat} (h : ds.all (· == 0) = true) : ofDigits ds = 0 := by
  have hds : ds = List.replicate ds.length 0 := by
    refine List.eq_replicate_iff.mpr ⟨rfl, fun d hd => ?_⟩
    simpa using List.all_eq_true.mp h d hd
  have hzeros := ofDigits_append_zeros [] ds.length
  rwa [List.nil_append, ← hds, show ofDigits [] = 0 from rfl, Nat.zero_mul] at hzeros

/-! ### Whole values -/

theorem exists_mul_pow_eq_iff {m : Nat} (hm : ¬ 10 ∣ m) (k : ℤ) :
    (∃ z : ℤ, (m : ℚ) * 10 ^ k = z) ↔ 0 ≤ k := by
  constructor
  · rintro ⟨z, hz⟩
    by_contra hk
    obtain ⟨j, rfl⟩ : ∃ j : Nat, k = -(j + 1 : Nat) := ⟨(-k - 1).toNat, by omega⟩
    have hmul : (m : ℚ) = z * 10 ^ (j + 1) := by
      rw [← hz, zpow_neg, zpow_natCast]
      field_simp
    have hint : (m : ℤ) = z * 10 ^ (j + 1) := by exact_mod_cast hmul
    apply hm
    rw [← Int.natCast_dvd_natCast, hint, pow_succ]
    exact Dvd.intro_left (z * 10 ^ j) (by push_cast; ring)
  · intro hk
    obtain ⟨j, rfl⟩ := Int.eq_ofNat_of_zero_le hk
    exact ⟨m * 10 ^ j, by push_cast; rw [zpow_natCast]⟩

/-- A sign does not make a number whole. -/
theorem exists_signed_eq_iff (negative : Bool) (q : ℚ) :
    (∃ z : ℤ, (if negative then -1 else 1) * q = z) ↔ ∃ z : ℤ, q = z := by
  cases negative with
  | false => simp
  | true =>
    constructor
    · rintro ⟨z, hz⟩
      exact ⟨-z, by push_cast; rw [← hz]; simp⟩
    · rintro ⟨z, rfl⟩
      exact ⟨-z, by simp⟩

theorem isWhole_iff_value {n : Numeral} (hn : ∀ d ∈ n.digits, d < 10) :
    n.isWhole = true ↔ ∃ z : ℤ, n.value = z := by
  simp only [value, mul_assoc, exists_signed_eq_iff]
  cases hzero : n.digits.all (· == 0) with
  | true =>
    rw [isWhole, hzero, ofDigits_eq_zero hzero]
    exact iff_of_true rfl ⟨0, by simp⟩
  | false =>
    obtain ⟨m, hm, hdigits⟩ := exists_ofDigits_eq hn hzero
    have hscaled : (ofDigits n.digits : ℚ) * 10 ^ n.scale =
        m * 10 ^ (n.scale + trailingZeros n.digits) := by
      rw [hdigits, zpow_add₀ (by norm_num), zpow_natCast]
      push_cast
      ring
    rw [hscaled, exists_mul_pow_eq_iff hm, isWhole, hzero, Bool.false_or, decide_eq_true_eq]

end DeclLang.Numeral
