import AddOnLoan.Proofs.Decimal.Rounded

namespace AddOnLoan

variable {x : ℚ} {digits : Nat}

/-- The place of the last of so many digits of a number. -/
def lastPlace (digits : Nat) (x : ℚ) : ℤ := Int.log 10 |x| + 1 - digits

/-- Numbers that are written with so many digits, and zeros behind or in front of them. -/
def HasDigits (digits : Nat) (x : ℚ) : Prop :=
  ∃ k e : ℤ, |k| < 10 ^ digits ∧ x = k * 10 ^ e

/-- Numbers whose digits come to an end. -/
def Ends (x : ℚ) : Prop := ∃ k e : ℤ, x = k * 10 ^ e

theorem log_le_abs (hx : x ≠ 0) : (10 : ℚ) ^ Int.log 10 |x| ≤ |x| := by
  have h := Int.zpow_log_le_self (b := 10) (by omega) (abs_pos.2 hx)
  rwa [Nat.cast_ofNat] at h

theorem abs_lt_log (x : ℚ) : |x| < (10 : ℚ) ^ (Int.log 10 |x| + 1) := by
  have h := Int.lt_zpow_succ_log_self (b := 10) (by omega) |x|
  rwa [Nat.cast_ofNat] at h

theorem pow_lastPlace_le (digits : Nat) (hx : x ≠ 0) :
    (10 : ℚ) ^ lastPlace digits x ≤ 10 ^ (1 - digits : ℤ) * |x| := by
  rw [lastPlace, add_sub_assoc, add_comm, zpow_add₀ (by norm_num)]
  exact mul_le_mul_of_nonneg_left (log_le_abs hx) (by positivity)

theorem abs_lt_pow_mul (digits : Nat) (x : ℚ) : |x / 10 ^ lastPlace digits x| < 10 ^ digits := by
  have hpos : (0 : ℚ) < 10 ^ lastPlace digits x := by positivity
  rw [abs_div, abs_of_pos hpos, div_lt_iff₀ hpos, ← zpow_natCast, ← zpow_add₀ (by norm_num),
    lastPlace, add_sub_cancel]
  exact abs_lt_log x

theorem lastPlace_le {k e : ℤ} (hk : |k| < 10 ^ digits) (hx : x ≠ 0) (h : x = k * 10 ^ e) :
    lastPlace digits x ≤ e := by
  have hpos : (0 : ℚ) < 10 ^ e := by positivity
  have hkq : |(k : ℚ)| < 10 ^ digits := by exact_mod_cast hk
  have hlt : |x| < (10 : ℚ) ^ ((digits : ℤ) + e) := by
    rw [h, abs_mul, abs_of_pos hpos, zpow_add₀ (by norm_num), zpow_natCast]
    exact mul_lt_mul_of_pos_right hkq hpos
  have hlog := (Int.lt_zpow_iff_log_lt (by omega) (abs_pos.2 hx)).1
    (show |x| < ((10 : ℕ) : ℚ) ^ ((digits : ℤ) + e) by exact_mod_cast hlt)
  rw [lastPlace]
  omega

namespace HasDigits

theorem ends (h : HasDigits digits x) : Ends x := by
  obtain ⟨k, e, -, h⟩ := h
  exact ⟨k, e, h⟩

/-- Where a carry leads through all digits, a one is left and zeros behind it. -/
theorem exists_of_abs_le (hdigits : 0 < digits) {k : ℤ} (hk : |k| ≤ 10 ^ digits) (e : ℤ) :
    ∃ j f : ℤ, |j| < 10 ^ digits ∧ e ≤ f ∧ (k : ℚ) * 10 ^ e = j * 10 ^ f := by
  rcases hk.lt_or_eq with hlt | heq
  · exact ⟨k, e, hlt, le_rfl, rfl⟩
  have hone : (1 : ℤ) < 10 ^ digits := one_lt_pow₀ (by norm_num) hdigits.ne'
  have hcarry : ((10 : ℤ) ^ digits : ℤ) * (10 : ℚ) ^ e = 10 ^ ((digits : ℤ) + e) := by
    rw [zpow_add₀ (by norm_num), zpow_natCast]
    push_cast
    rfl
  rcases eq_or_eq_neg_of_abs_eq heq with rfl | rfl
  · exact ⟨1, digits + e, hone, by omega, by rw [hcarry, Int.cast_one, one_mul]⟩
  · refine ⟨-1, digits + e, hone, by omega, ?_⟩
    rw [Int.cast_neg, neg_mul, hcarry]
    norm_num

theorem of_abs_le (hdigits : 0 < digits) {k : ℤ} (hk : |k| ≤ 10 ^ digits) (e : ℤ) :
    HasDigits digits (k * 10 ^ e) := by
  obtain ⟨j, f, hj, -, heq⟩ := exists_of_abs_le hdigits hk e
  exact ⟨j, f, hj, heq⟩

theorem div_hundred (h : HasDigits digits x) : HasDigits digits (x / 100) := by
  obtain ⟨k, e, hk, rfl⟩ := h
  refine ⟨k, e - 2, hk, ?_⟩
  rw [zpow_sub₀ (by norm_num), mul_div_assoc]
  norm_num

theorem mul {y : ℚ} {more : Nat} (h : HasDigits digits x) (h' : HasDigits more y) :
    HasDigits (digits + more) (x * y) := by
  obtain ⟨k, e, hk, rfl⟩ := h
  obtain ⟨l, f, hl, rfl⟩ := h'
  refine ⟨k * l, e + f, ?_, ?_⟩
  · rw [abs_mul, pow_add]
    exact mul_lt_mul'' hk hl (abs_nonneg k) (abs_nonneg l)
  · rw [zpow_add₀ (by norm_num)]
    push_cast
    ring

theorem mul_int (h : HasDigits digits x) {n : ℤ} {more : Nat} (hn : |n| < 10 ^ more) :
    HasDigits (digits + more) (x * n) :=
  h.mul ⟨n, 0, hn, by rw [zpow_zero, mul_one]⟩

theorem mono {more : Nat} (h : HasDigits digits x) (hle : digits ≤ more) : HasDigits more x := by
  obtain ⟨k, e, hk, rfl⟩ := h
  exact ⟨k, e, hk.trans_le (pow_le_pow_right₀ (by norm_num) hle), rfl⟩

end HasDigits

namespace Rounding

variable (mode : Rounding)

def toDigits (digits : Nat) (x : ℚ) : ℚ :=
  mode.toInt (x / 10 ^ lastPlace digits x) * 10 ^ lastPlace digits x

@[simp]
theorem toDigits_zero (digits : Nat) : mode.toDigits digits 0 = 0 := by
  rw [toDigits, zero_div, toInt_zero, Int.cast_zero, zero_mul]

theorem toDigits_sub (digits : Nat) (x : ℚ) : mode.toDigits digits x - x =
    (mode.toInt (x / 10 ^ lastPlace digits x) - x / 10 ^ lastPlace digits x) *
      10 ^ lastPlace digits x := by
  rw [toDigits, sub_mul, div_mul_cancel₀ _ (by positivity)]

theorem abs_toDigits_sub_lt (digits : Nat) (hx : x ≠ 0) :
    |mode.toDigits digits x - x| < 10 ^ (1 - digits : ℤ) * |x| := by
  have hpos : (0 : ℚ) < 10 ^ lastPlace digits x := by positivity
  rw [toDigits_sub, abs_mul, abs_of_pos hpos]
  calc _ < 1 * (10 : ℚ) ^ lastPlace digits x :=
        mul_lt_mul_of_pos_right (mode.abs_toInt_sub_lt _) hpos
    _ ≤ _ := by rw [one_mul]; exact pow_lastPlace_le digits hx

theorem abs_toDigits_sub_le_half (h : mode.isNearest) (digits : Nat) (x : ℚ) :
    |mode.toDigits digits x - x| ≤ 10 ^ (1 - digits : ℤ) / 2 * |x| := by
  rcases eq_or_ne x 0 with rfl | hx
  · simp
  have hpos : (0 : ℚ) < 10 ^ lastPlace digits x := by positivity
  rw [toDigits_sub, abs_mul, abs_of_pos hpos]
  calc _ ≤ 1 / 2 * (10 : ℚ) ^ lastPlace digits x :=
        mul_le_mul_of_nonneg_right (mode.abs_toInt_sub_le_half h _) hpos.le
    _ ≤ 1 / 2 * (10 ^ (1 - digits : ℤ) * |x|) :=
        mul_le_mul_of_nonneg_left (pow_lastPlace_le digits hx) (by norm_num)
    _ = _ := by ring

theorem abs_toInt_le {n : Nat} (h : |x| < n) : |mode.toInt x| ≤ n := by
  obtain ⟨hlow, hhigh⟩ := abs_lt.1 h
  have hfloor : (-n : ℤ) ≤ ⌊x⌋ := Int.le_floor.2 (by push_cast; exact hlow.le)
  have hceil : ⌈x⌉ ≤ (n : ℤ) := Int.ceil_le.2 (by push_cast; exact hhigh.le)
  exact abs_le.2 ⟨hfloor.trans (mode.floor_le_toInt x), (mode.toInt_le_ceil x).trans hceil⟩

theorem hasDigits_toDigits (hdigits : 0 < digits) (x : ℚ) :
    HasDigits digits (mode.toDigits digits x) := by
  have hle : |mode.toInt (x / 10 ^ lastPlace digits x)| ≤ (10 ^ digits : Nat) :=
    mode.abs_toInt_le (by push_cast; exact abs_lt_pow_mul digits x)
  push_cast at hle
  exact .of_abs_le hdigits hle _

theorem toDigits_of_hasDigits (h : HasDigits digits x) : mode.toDigits digits x = x := by
  rcases eq_or_ne x 0 with rfl | hx
  · exact mode.toDigits_zero digits
  obtain ⟨k, e, hk, heq⟩ := h
  obtain ⟨d, hd⟩ := Int.le.dest (lastPlace_le hk hx heq)
  have hwhole : x / 10 ^ lastPlace digits x = (k * 10 ^ d : ℤ) := by
    rw [div_eq_iff (by positivity)]
    conv_lhs => rw [heq, ← hd]
    rw [zpow_add₀ (by norm_num), zpow_natCast]
    push_cast
    ring
  rw [toDigits, hwhole, toInt_intCast, ← hwhole, div_mul_cancel₀ _ (by positivity)]

end Rounding

namespace Context

variable {ctx : Context}

/-- Numbers in the range of exponents: neither too large, nor too small to have all digits. -/
def InRange (x : ℚ) : Prop := x = 0 ∨ 10 ^ (-emax) ≤ |x| ∧ |x| < 10 ^ (emax + 1)

theorem InRange.log_bounds (h : InRange x) (hx : x ≠ 0) :
    -emax ≤ Int.log 10 |x| ∧ Int.log 10 |x| ≤ emax := by
  obtain ⟨hlow, hhigh⟩ := h.resolve_left hx
  have hle := (Int.zpow_le_iff_le_log (b := 10) (by omega) (abs_pos.2 hx)).1
    (by exact_mod_cast hlow)
  have hlt := (Int.lt_zpow_iff_log_lt (b := 10) (by omega) (abs_pos.2 hx)).1
    (by exact_mod_cast hhigh)
  omega

theorem InRange.lt (h : InRange x) : |x| < 10 ^ (emax + 1) := by
  rcases h with rfl | ⟨-, h⟩
  · rw [abs_zero]
    positivity
  · exact h

theorem inRange_of_bounds (hlow : 10 ^ (-20 : ℤ) ≤ |x|) (hhigh : |x| < 10 ^ (20 : ℤ)) :
    InRange x := by
  have hemax : emax = 999999 := rfl
  refine .inr ⟨(zpow_le_zpow_right₀ (by norm_num) ?_).trans hlow,
    hhigh.trans_le (zpow_le_zpow_right₀ (by norm_num) ?_)⟩ <;> omega

theorem InRange.rounded_eq (h : InRange x) :
    ctx.rounded x = ctx.rounding.toDigits ctx.precision x := by
  rcases eq_or_ne x 0 with rfl | hx
  · rw [rounded_zero, Rounding.toDigits_zero]
  have hgrid : ctx.grid x = lastPlace ctx.precision x := by
    have hlow := (h.log_bounds hx).1
    have hemax : emax = 999999 := rfl
    refine max_eq_left ?_
    rw [etiny]
    omega
  rw [rounded, hgrid, Rounding.toDigits]

theorem InRange.rounded_of_hasDigits (h : InRange x) (hdigits : HasDigits ctx.precision x) :
    ctx.rounded x = x := by
  rw [h.rounded_eq, Rounding.toDigits_of_hasDigits _ hdigits]

theorem Brings.exists_ok {result : Except Signal Decimal} (h : Brings result x)
    (hx : |x| < 10 ^ (emax + 1)) : ∃ r, result = .ok r ∧ r.toRat = x := by
  cases result with
  | ok r => exact ⟨r, rfl, h.result rfl⟩
  | error signal => exact absurd (h.cause rfl).2 (not_le.2 hx)

end Context
end AddOnLoan
