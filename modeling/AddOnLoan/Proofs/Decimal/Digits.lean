import AddOnLoan.Decimal.Context
import AddOnLoan.Decimal.Text
import Mathlib

namespace AddOnLoan

theorem countDigits_eq_log (n : Nat) : countDigits n = Nat.log 10 n + 1 := by
  induction n using Nat.strongRecOn with
  | ind n ih =>
    rcases Nat.lt_or_ge n 10 with h | h
    · rw [countDigits_of_lt h, Nat.log_of_lt h]
    · rw [countDigits_of_le h, ih (n / 10) (by omega), Nat.log_of_one_lt_of_le (by omega) h]

theorem digitCount_le_iff {n k : Nat} (hk : 0 < k) : digitCount n ≤ k ↔ n < 10 ^ k := by
  rw [digitCount_eq, countDigits_eq_log, Nat.succ_le_iff]
  rcases Nat.eq_zero_or_pos n with rfl | hn
  · simpa using hk
  · exact Nat.log_lt_iff_lt_pow (by omega) (by omega)

theorem lt_digitCount_iff {n k : Nat} (hk : 0 < k) : k < digitCount n ↔ 10 ^ k ≤ n := by
  simpa only [not_le, not_lt] using (digitCount_le_iff hk).not

theorem fitsNumeral_eq_false_iff {n : Int} :
    fitsNumeral n = false ↔ longestNumeral < digitCount n.natAbs := by
  rw [fitsNumeral, decide_eq_false_iff_not, not_le]

theorem digitCount_pos (n : Nat) : 0 < digitCount n := by
  rw [digitCount_eq, countDigits_eq_log]; omega

theorem lt_pow_digitCount (n : Nat) : n < 10 ^ digitCount n :=
  (digitCount_le_iff (digitCount_pos n)).1 le_rfl

theorem abs_lt_pow_digitCount (n : Int) : |n| < 10 ^ digitCount n.natAbs := by
  rw [Int.abs_eq_natAbs]
  exact_mod_cast lt_pow_digitCount n.natAbs

theorem pow_pred_digitCount_le {n : Nat} (hn : 0 < n) : 10 ^ (digitCount n - 1) ≤ n := by
  rcases Nat.lt_or_ge 1 (digitCount n) with h | h
  · exact (lt_digitCount_iff (by omega)).1 (by omega)
  · rwa [show digitCount n - 1 = 0 by omega]

theorem digitCount_eq_of_bounds {n k : Nat} (low : 10 ^ k ≤ n) (high : n < 10 ^ (k + 1)) :
    digitCount n = k + 1 := by
  have hle := (digitCount_le_iff (Nat.succ_pos k)).2 high
  rcases Nat.eq_zero_or_pos k with rfl | hk
  · have := digitCount_pos n; omega
  · have := (lt_digitCount_iff hk).2 low; omega

theorem digitCount_zero : digitCount 0 = 1 := by
  rw [digitCount_eq, countDigits_of_lt (by omega)]

theorem digitCount_pow (k : Nat) : digitCount (10 ^ k) = k + 1 :=
  digitCount_eq_of_bounds le_rfl (Nat.pow_lt_pow_right (by omega) (by omega))

theorem digitCount_mul_pow {n : Nat} (hn : 0 < n) (k : Nat) :
    digitCount (n * 10 ^ k) = digitCount n + k := by
  have hd := digitCount_pos n
  have hk : 0 < 10 ^ k := Nat.pow_pos (by omega)
  have low : 10 ^ (digitCount n - 1 + k) ≤ n * 10 ^ k := by
    rw [Nat.pow_add]
    exact Nat.mul_le_mul_right _ (pow_pred_digitCount_le hn)
  have high : n * 10 ^ k < 10 ^ (digitCount n - 1 + k + 1) := by
    rw [show digitCount n - 1 + k + 1 = digitCount n + k by omega, Nat.pow_add]
    exact Nat.mul_lt_mul_of_pos_right (lt_pow_digitCount n) hk
  rw [digitCount_eq_of_bounds low high]
  omega

namespace Rounding

theorem le_quotient (mode : Rounding) (negative : Bool) {n d k : Nat} (hd : 0 < d)
    (h : k * d ≤ n) : k ≤ mode.quotient negative n d := by
  have := (Nat.le_div_iff_mul_le hd).2 h
  unfold quotient
  split <;> omega

theorem quotient_le (mode : Rounding) (negative : Bool) {n d k : Nat} (h : n ≤ k * d) :
    mode.quotient negative n d ≤ k := by
  have hle : n / d ≤ k := Nat.div_le_of_le_mul (by rwa [Nat.mul_comm])
  rcases hle.lt_or_eq with hlt | heq
  · unfold quotient
    split <;> omega
  · -- the quotient is `k`, so nothing is left over that could be rounded
    have hr : n % d = 0 := by
      have := Nat.div_add_mod n d
      rw [heq, Nat.mul_comm] at this
      omega
    rw [quotient, hr, if_neg, heq]
    cases mode <;> simp [Tail.ofRemainder, away]

variable (mode : Rounding) (negative : Bool) {a b : Nat} {shift : Int}

theorem units_of_nonpos (h : shift ≤ 0) :
    mode.units negative a b shift = mode.quotient negative (a * 10 ^ shift.natAbs) b := by
  rw [units, if_pos h]

theorem units_le_one (h : digitCount a < shift) : mode.units negative a b shift ≤ 1 := by
  rw [units, if_neg (by omega), if_pos h, speck]
  split <;> omega

theorem units_of_le (hpos : 0 < shift) (h : shift ≤ digitCount a) :
    mode.units negative a b shift = mode.quotient negative a (b * 10 ^ shift.natAbs) := by
  rw [units, if_neg (by omega), if_neg (by omega)]

theorem zpow_of_nonpos (h : shift ≤ 0) : (10 : ℚ) ^ shift = 1 / 10 ^ shift.natAbs := by
  rw [show shift = -(shift.natAbs : Int) by omega, zpow_neg, zpow_natCast, Int.natAbs_neg,
    Int.natAbs_natCast, one_div]

theorem zpow_of_nonneg (h : 0 ≤ shift) : (10 : ℚ) ^ shift = 10 ^ shift.natAbs := by
  conv_lhs => rw [show shift = (shift.natAbs : Int) by omega]
  rw [zpow_natCast]

theorem le_units (hb : 0 < b) {k : Nat} (h : (k : ℚ) ≤ a / b / 10 ^ shift) :
    k ≤ mode.units negative a b shift := by
  have hb' : (0 : ℚ) < b := by exact_mod_cast hb
  rcases le_or_gt shift 0 with hs | hs
  · rw [units_of_nonpos _ _ hs]
    apply le_quotient _ _ hb
    rw [zpow_of_nonpos hs, div_div_eq_mul_div, div_one, div_mul_eq_mul_div, le_div_iff₀ hb'] at h
    exact_mod_cast h
  rw [zpow_of_nonneg hs.le, div_div, le_div_iff₀ (by positivity)] at h
  rcases lt_or_ge (digitCount a : Int) shift with hd | hd
  · -- a number with all of its digits cut off is less than one unit
    have hlt : a < 10 ^ shift.natAbs :=
      (lt_pow_digitCount a).trans_le (Nat.pow_le_pow_right (by omega) (by omega))
    have hk : k * (b * 10 ^ shift.natAbs) ≤ a := by exact_mod_cast h
    have hzero : k = 0 := by
      by_contra hne
      have hone : 0 < k * b := Nat.mul_pos (by omega) hb
      have := Nat.le_mul_of_pos_left (10 ^ shift.natAbs) hone
      rw [Nat.mul_assoc] at this
      omega
    omega
  · rw [units_of_le _ _ hs hd]
    exact le_quotient _ _ (Nat.mul_pos hb (Nat.pow_pos (by omega))) (by exact_mod_cast h)

theorem units_le (ha : 0 < a) (hb : 0 < b) {k : Nat} (h : (a : ℚ) / b / 10 ^ shift ≤ k) :
    mode.units negative a b shift ≤ k := by
  have hb' : (0 : ℚ) < b := by exact_mod_cast hb
  rcases le_or_gt shift 0 with hs | hs
  · rw [units_of_nonpos _ _ hs]
    apply quotient_le
    rw [zpow_of_nonpos hs, div_div_eq_mul_div, div_one, div_mul_eq_mul_div, div_le_iff₀ hb'] at h
    exact_mod_cast h
  rw [zpow_of_nonneg hs.le, div_div, div_le_iff₀ (by positivity)] at h
  have hk : a ≤ k * (b * 10 ^ shift.natAbs) := by exact_mod_cast h
  rcases lt_or_ge (digitCount a : Int) shift with hd | hd
  · have : 0 < k := Nat.pos_of_mul_pos_right (ha.trans_le hk)
    exact (units_le_one _ _ hd).trans this
  · rw [units_of_le _ _ hs hd]
    exact quotient_le _ _ hk

/-- A quotient has no more digits above the cut than its dividend, and at most one by a carry. -/
theorem digitCount_units_le (ha : 0 < a) (hb : 0 < b) (shift : Int) :
    (digitCount (mode.units negative a b shift) : Int) ≤ max 0 (digitCount a - shift) + 1 := by
  obtain ⟨k, hk⟩ : ∃ k : Nat, (k : Int) = max 0 (digitCount a - shift) :=
    ⟨_, Int.toNat_of_nonneg (le_max_left _ _)⟩
  have hone : (1 : ℚ) ≤ b := by exact_mod_cast hb
  have hle : mode.units negative a b shift ≤ 10 ^ k := by
    apply units_le _ _ ha hb
    rw [div_le_iff₀ (by positivity), Nat.cast_pow, Nat.cast_ofNat, ← zpow_natCast,
      ← zpow_add₀ (by norm_num)]
    calc (a : ℚ) / b ≤ a := div_le_self (by positivity) hone
      _ ≤ (10 : ℚ) ^ (digitCount a : Int) := by
          rw [zpow_natCast]; exact_mod_cast (lt_pow_digitCount a).le
      _ ≤ (10 : ℚ) ^ ((k : Int) + shift) := zpow_le_zpow_right₀ (by norm_num) (by omega)
  have hd : digitCount (mode.units negative a b shift) ≤ k + 1 :=
    (digitCount_le_iff (by omega)).2 (hle.trans_lt (Nat.pow_lt_pow_right (by omega) (by omega)))
  omega

@[simp]
theorem units_zero (c : Nat) : mode.units negative c 1 0 = c := by
  rw [units_of_nonpos _ _ le_rfl, Int.natAbs_zero, Nat.pow_zero, Nat.mul_one]
  exact le_antisymm (quotient_le _ _ (by omega)) (le_quotient _ _ one_pos (by omega))

end Rounding
end AddOnLoan
