import Mathlib
import Ledger.Number.Decimal
/-!
# The value of a decimal

A decimal `coef × 10 ^ exp` stands for a rational number. Sums, differences and
comparisons work at the smaller of the two exponents, where rescaling is exact, so they
agree with the arithmetic of the values: the engine's balances are exact.
-/

namespace Ledger.Decimal

/-- The rational number a decimal stands for. -/
def toRat (d : Decimal) : ℚ := (d.coef : ℚ) * (10 : ℚ) ^ d.exp

/-- The decimal code raises to powers by `Int.pow`, the monoid power on integers. -/
theorem intPow_eq_pow (a : Int) (n : Nat) : a.pow n = a ^ n := rfl

/-- Rescaling to a smaller exponent keeps the value. -/
theorem coefAt_mul_of_le {d : Decimal} {e : Int} (he : e ≤ d.exp) :
    (d.coefAt e : ℚ) * (10 : ℚ) ^ e = d.toRat := by
  have hpow : ((10 : ℚ) ^ (d.exp - e).toNat) = (10 : ℚ) ^ (d.exp - e) := by
    rw [← zpow_natCast, Int.toNat_of_nonneg (by omega)]
  have hsplit : (10 : ℚ) ^ d.exp = (10 : ℚ) ^ (d.exp - e) * (10 : ℚ) ^ e := by
    rw [← zpow_add₀ (by norm_num), Int.sub_add_cancel]
  simp only [coefAt, if_pos he, toRat, intPow_eq_pow, Int.cast_mul, Int.cast_pow, Int.cast_ofNat, hpow, hsplit]
  ring

@[simp]
theorem toRat_add (a b : Decimal) : (a.add b).toRat = a.toRat + b.toRat := by
  have ha := coefAt_mul_of_le (d := a) (min_le_left a.exp b.exp)
  have hb := coefAt_mul_of_le (d := b) (min_le_right a.exp b.exp)
  simp only [add, toRat, Int.cast_add, add_mul, ha, hb]

@[simp]
theorem toRat_sub (a b : Decimal) : (a.sub b).toRat = a.toRat - b.toRat := by
  have ha := coefAt_mul_of_le (d := a) (min_le_left a.exp b.exp)
  have hb := coefAt_mul_of_le (d := b) (min_le_right a.exp b.exp)
  simp only [sub, toRat, Int.cast_sub, sub_mul, ha, hb]

/-- Comparing at a common exponent compares the values. -/
theorem cmp_eq_compare (a b : Decimal) : a.cmp b = compare a.toRat b.toRat := by
  set e := min a.exp b.exp
  have ha := coefAt_mul_of_le (d := a) (min_le_left a.exp b.exp)
  have hb := coefAt_mul_of_le (d := b) (min_le_right a.exp b.exp)
  have hpos : (0 : ℚ) < (10 : ℚ) ^ e := zpow_pos (by norm_num) e
  rw [← ha, ← hb]
  simp only [cmp]
  rcases lt_trichotomy (a.coefAt e) (b.coefAt e) with hlt | heq | hgt
  · have hq : (a.coefAt e : ℚ) * 10 ^ e < (b.coefAt e : ℚ) * 10 ^ e :=
      mul_lt_mul_of_pos_right (by exact_mod_cast hlt) hpos
    rw [compare_lt_iff_lt.mpr hlt, compare_lt_iff_lt.mpr hq]
  · rw [heq, compare_eq_iff_eq.mpr rfl, compare_eq_iff_eq.mpr rfl]
  · have hq : (b.coefAt e : ℚ) * 10 ^ e < (a.coefAt e : ℚ) * 10 ^ e :=
      mul_lt_mul_of_pos_right (by exact_mod_cast hgt) hpos
    rw [compare_gt_iff_gt.mpr hgt, compare_gt_iff_gt.mpr hq]

@[simp]
theorem lt_eq_true_iff (a b : Decimal) : a.lt b = true ↔ a.toRat < b.toRat := by
  simp [lt, cmp_eq_compare, compare_lt_iff_lt]

@[simp]
theorem gt_eq_true_iff (a b : Decimal) : a.gt b = true ↔ b.toRat < a.toRat := by
  simp [gt, cmp_eq_compare, compare_gt_iff_gt]

@[simp]
theorem isPositive_eq_true_iff (d : Decimal) : d.isPositive = true ↔ 0 < d.toRat := by
  have hpos : (0 : ℚ) < (10 : ℚ) ^ d.exp := zpow_pos (by norm_num) d.exp
  simp only [isPositive, gt_iff_lt, decide_eq_true_eq, toRat]
  constructor
  · intro h
    exact mul_pos (by exact_mod_cast h) hpos
  · intro h
    exact_mod_cast (pos_of_mul_pos_left h hpos.le)

@[simp]
theorem isNegative_eq_false_iff (d : Decimal) : d.isNegative = false ↔ 0 ≤ d.toRat := by
  have hpos : (0 : ℚ) < (10 : ℚ) ^ d.exp := zpow_pos (by norm_num) d.exp
  simp only [isNegative, decide_eq_false_iff_not, not_lt, toRat]
  rw [mul_nonneg_iff_of_pos_right hpos]
  exact_mod_cast Iff.rfl

end Ledger.Decimal
