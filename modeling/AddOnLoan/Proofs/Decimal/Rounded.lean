import AddOnLoan.Proofs.Decimal.Results
import AddOnLoan.Proofs.Decimal.Rounding

namespace AddOnLoan

theorem Decimal.abs_signed (s : Bool) (c : Nat) : |(signed s c : ℚ)| = c := by
  cases s <;> simp [signed]

theorem intLog_eq {x : ℚ} {z : ℤ} (low : 10 ^ z ≤ x) (high : x < 10 ^ (z + 1)) :
    Int.log 10 x = z := by
  have hpos : 0 < x := lt_of_lt_of_le (by positivity) low
  have hle : z ≤ Int.log 10 x := (Int.zpow_le_iff_le_log (by omega) hpos).1 (by exact_mod_cast low)
  have hlt : Int.log 10 x < z + 1 :=
    (Int.lt_zpow_iff_log_lt (by omega) hpos).1 (by exact_mod_cast high)
  omega

theorem intLog_mul_zpow {x : ℚ} (hx : 0 < x) (e : ℤ) :
    Int.log 10 (x * 10 ^ e) = Int.log 10 x + e := by
  have low := Int.zpow_log_le_self (b := 10) (by omega) hx
  have high := Int.lt_zpow_succ_log_self (b := 10) (by omega) x
  rw [Nat.cast_ofNat] at low high
  have he : (0 : ℚ) < 10 ^ e := by positivity
  apply intLog_eq
  · rw [zpow_add₀ (by norm_num)]
    exact mul_le_mul_of_nonneg_right low he.le
  · rw [add_right_comm, zpow_add₀ (by norm_num)]
    exact mul_lt_mul_of_pos_right high he

theorem intLog_natCast (n : Nat) : Int.log 10 (n : ℚ) = digitCount n - 1 := by
  rw [Int.log_natCast, digitCount_eq, countDigits_eq_log]
  push_cast
  ring

theorem intLog_div {a b : Nat} (ha : 0 < a) (hb : 0 < b) :
    Int.log 10 ((a : ℚ) / b) = leadingDigit a b := by
  have ha' : (0 : ℚ) < a := by exact_mod_cast ha
  have hb' : (0 : ℚ) < b := by exact_mod_cast hb
  obtain ⟨k, hk⟩ : ∃ k : ℤ, (digitCount a : ℤ) - digitCount b = k := ⟨_, rfl⟩
  have hlow : ∀ n : Nat, 0 < n → (10 : ℚ) ^ ((digitCount n : ℤ) - 1) ≤ n := fun n hn => by
    have hd := digitCount_pos n
    rw [show (digitCount n : ℤ) - 1 = (digitCount n - 1 : Nat) by omega, zpow_natCast]
    exact_mod_cast pow_pred_digitCount_le hn
  have hhigh : ∀ n : Nat, (n : ℚ) < 10 ^ (digitCount n : ℤ) := fun n => by
    rw [zpow_natCast]
    exact_mod_cast lt_pow_digitCount n
  -- the digits alone leave two places for the first digit, and a comparison decides
  have hcompare : b * 10 ^ k.toNat ≤ a * 10 ^ (-k).toNat ↔ (10 : ℚ) ^ k ≤ a / b := by
    rw [le_div_iff₀ hb']
    rcases le_or_gt 0 k with h | h
    · rw [show (-k).toNat = 0 by omega, show k = (k.toNat : ℤ) by omega, zpow_natCast,
        Int.toNat_natCast, mul_comm ((10 : ℚ) ^ _)]
      norm_cast
      simp
    · rw [show k.toNat = 0 by omega, show k = -((-k).toNat : ℤ) by omega, zpow_neg, zpow_natCast,
        neg_neg, Int.toNat_natCast, inv_mul_le_iff₀ (by positivity), mul_comm ((10 : ℚ) ^ _)]
      norm_cast
      simp
  simp only [leadingDigit, hk]
  split_ifs with h
  · apply intLog_eq (hcompare.1 h)
    rw [div_lt_iff₀ hb', show k + 1 = digitCount a + -((digitCount b : ℤ) - 1) by omega,
      zpow_add₀ (by norm_num), zpow_neg, mul_assoc]
    have hle : 1 ≤ ((10 : ℚ) ^ ((digitCount b : ℤ) - 1))⁻¹ * b := by
      rw [le_inv_mul_iff₀ (by positivity), mul_one]
      exact hlow b hb
    exact (hhigh a).trans_le (le_mul_of_one_le_right (by positivity) hle)
  · apply intLog_eq
    · rw [le_div_iff₀ hb', show k - 1 = (digitCount a : ℤ) - 1 + -(digitCount b : ℤ) by omega,
        zpow_add₀ (by norm_num), zpow_neg, mul_assoc]
      have hle : ((10 : ℚ) ^ (digitCount b : ℤ))⁻¹ * b ≤ 1 := by
        rw [inv_mul_le_iff₀ (by positivity), mul_one]
        exact (hhigh b).le
      exact (mul_le_of_le_one_right (by positivity) hle).trans (hlow a ha)
    · rw [sub_add_cancel]
      exact not_le.1 (hcompare.not.1 h)

namespace Context

variable (ctx : Context) {x : ℚ} {negative : Bool} {c : Nat} {e : Int} {r : Decimal}

/-- The place of the last digit that is kept of a number. -/
def grid (x : ℚ) : ℤ := max (Int.log 10 |x| + 1 - ctx.precision) ctx.etiny

/-- A number rounded to the digits and the range of a context. -/
def rounded (x : ℚ) : ℚ := ctx.rounding.toInt (x / 10 ^ ctx.grid x) * 10 ^ ctx.grid x

@[simp]
theorem rounded_zero : ctx.rounded 0 = 0 := by
  rw [rounded, zero_div, Rounding.toInt_zero, Int.cast_zero, zero_mul]

theorem rounded_of_multiple {k : ℤ} {place : ℤ} (hplace : ctx.grid x ≤ place)
    (h : x = k * 10 ^ place) : ctx.rounded x = x := by
  obtain ⟨d, hd⟩ := Int.le.dest hplace
  have hx : x / 10 ^ ctx.grid x = (k * 10 ^ d : ℤ) := by
    rw [div_eq_iff (by positivity)]
    conv_lhs => rw [h]
    rw [← hd, zpow_add₀ (by norm_num), zpow_natCast]
    push_cast
    ring
  rw [rounded, hx, Rounding.toInt_intCast, ← hx, div_mul_cancel₀ _ (by positivity)]

theorem rounded_nonneg (h : 0 ≤ x) : 0 ≤ ctx.rounded x := by
  have hint : (0 : ℚ) ≤ ctx.rounding.toInt (x / 10 ^ ctx.grid x) := by
    exact_mod_cast ctx.rounding.toInt_nonneg (by positivity)
  rw [rounded]
  positivity

theorem abs_rounded_sub_le (h : ctx.rounding.isNearest) (x : ℚ) :
    |ctx.rounded x - x| ≤ 10 ^ ctx.grid x / 2 := by
  have hpos : (0 : ℚ) < 10 ^ ctx.grid x := by positivity
  have hle := ctx.rounding.abs_toInt_sub_le_half h (x / 10 ^ ctx.grid x)
  have hx : ctx.rounded x - x =
      (ctx.rounding.toInt (x / 10 ^ ctx.grid x) - x / 10 ^ ctx.grid x) * 10 ^ ctx.grid x := by
    rw [rounded, sub_mul, div_mul_cancel₀ _ hpos.ne']
  rw [hx, abs_mul, abs_of_pos hpos]
  linarith [mul_le_mul_of_nonneg_right hle hpos.le]

theorem pow_grid_le (hp : 0 < ctx.precision) (hx : x ≠ 0)
    (hrange : ctx.etiny ≤ Int.log 10 |x| + 1 - ctx.precision) :
    10 ^ (ctx.precision - 1) * 10 ^ ctx.grid x ≤ |x| := by
  have hlog := Int.zpow_log_le_self (b := 10) (by omega) (abs_pos.2 hx)
  rw [Nat.cast_ofNat] at hlog
  rw [grid, max_eq_left hrange, ← zpow_natCast, ← zpow_add₀ (by norm_num),
    show ((ctx.precision - 1 : Nat) : ℤ) + (Int.log 10 |x| + 1 - ctx.precision) = Int.log 10 |x| by
      omega]
  exact hlog

variable {ctx}

/-- A number as an operation brings it within precision and range, or the signal that it is too
large. -/
def Brings (result : Except Signal Decimal) (x : ℚ) : Prop :=
  Yields result (fun r => r.toRat = x) fun signal =>
    signal = .overflow ∧ 10 ^ (emax + 1) ≤ |x|

theorem settle_brings (negative : Bool) (hp : 0 < ctx.precision) (hle : c ≤ 10 ^ ctx.precision)
    (hzero : c = 0 → e ≤ emax) :
    Brings (ctx.settle negative c e) (Decimal.signed negative c * 10 ^ e) := by
  constructor
  · intro r h
    rcases settle_eq_ok h with ⟨-, rfl⟩ | ⟨hlong, rfl⟩
    · rfl
    have heq : c = 10 ^ ctx.precision := le_antisymm hle ((lt_digitCount_iff hp).1 hlong)
    have hten : c = c / 10 * 10 := by
      rw [heq, ← Nat.sub_add_cancel hp, Nat.pow_succ, Nat.mul_div_cancel _ (by omega)]
    have hsigned : Decimal.signed negative c = Decimal.signed negative (c / 10) * 10 := by
      conv_lhs => rw [hten]
      cases negative <;> simp [Decimal.signed]
    rw [Decimal.toRat_finite, hsigned, zpow_add_one₀ (by norm_num)]
    push_cast
    ring
  · intro signal h
    obtain ⟨hsignal, hlong⟩ := (settle_eq_error_iff hp).1 h
    have hdigits := digitCount_pos c
    have hpos : 0 < c := by
      rcases Nat.eq_zero_or_pos c with rfl | hpos
      · have := hzero rfl
        rw [digitCount_zero] at hlong
        omega
      · exact hpos
    refine ⟨hsignal, ?_⟩
    rw [abs_mul, Decimal.abs_signed, abs_of_pos (by positivity)]
    calc (10 : ℚ) ^ (emax + 1) ≤ 10 ^ (((digitCount c - 1 : Nat) : ℤ) + e) :=
          zpow_le_zpow_right₀ (by norm_num) (by omega)
      _ = 10 ^ (digitCount c - 1) * 10 ^ e := by rw [zpow_add₀ (by norm_num), zpow_natCast]
      _ ≤ c * 10 ^ e := by
        have hlow : (10 : ℚ) ^ (digitCount c - 1) ≤ c := by
          exact_mod_cast pow_pred_digitCount_le hpos
        exact mul_le_mul_of_nonneg_right hlow (by positivity)

theorem units_le_pow {a b : Nat} (ha : 0 < a) (hb : 0 < b) {ideal place : ℤ}
    (h : Int.log 10 ((a : ℚ) / b * 10 ^ ideal) + 1 - ctx.precision ≤ place) :
    ctx.rounding.units negative a b (place - ideal) ≤ 10 ^ ctx.precision := by
  apply Rounding.units_le _ _ ha hb
  have hlog := Int.lt_zpow_succ_log_self (b := 10) (by omega) ((a : ℚ) / b * 10 ^ ideal)
  rw [Nat.cast_ofNat] at hlog
  rw [zpow_sub₀ (by norm_num), div_div_eq_mul_div, div_le_iff₀ (by positivity)]
  push_cast
  rw [← zpow_natCast, ← zpow_add₀ (by norm_num)]
  exact hlog.le.trans (zpow_le_zpow_right₀ (by norm_num) (by omega))

theorem abs_signed_mul (negative : Bool) (a b : Nat) (e : ℤ) :
    |(Decimal.signed negative a : ℚ) / b * 10 ^ e| = a / b * 10 ^ e := by
  rw [abs_mul, abs_div, Decimal.abs_signed, Nat.abs_cast, abs_of_pos (by positivity)]

/-- Units of a place that all digits of a context reach up to are the exact number, rounded, or the
number itself where no digit is cut off. -/
theorem units_eq_rounded {a b : Nat} (ha : 0 < a) (hb : 0 < b) {ideal place : ℤ}
    (hplace : ctx.grid (Decimal.signed negative a / b * 10 ^ ideal) ≤ place)
    (hexact : place = ctx.grid (Decimal.signed negative a / b * 10 ^ ideal) ∨
      ∃ k : ℤ, (Decimal.signed negative a : ℚ) / b * 10 ^ ideal = k * 10 ^ place) :
    (Decimal.signed negative (ctx.rounding.units negative a b (place - ideal)) : ℚ) * 10 ^ place =
      ctx.rounded (Decimal.signed negative a / b * 10 ^ ideal) := by
  rw [Rounding.signed_units _ _ ha hb, zpow_sub₀ (by norm_num), div_div_eq_mul_div]
  rcases hexact with hgrid | ⟨k, hk⟩
  · rw [rounded, ← hgrid]
  · rw [rounded_of_multiple ctx hplace hk, hk, mul_div_cancel_right₀ _ (by positivity),
      Rounding.toInt_intCast]

theorem place_le_of_units_eq_zero (hp : 0 < ctx.precision) {a b : Nat} (ha : 0 < a) (hb : 0 < b)
    {ideal place : ℤ}
    (hexact : place = ctx.grid (Decimal.signed negative a / b * 10 ^ ideal) ∨
      ∃ k : ℤ, (Decimal.signed negative a : ℚ) / b * 10 ^ ideal = k * 10 ^ place)
    (h : ctx.rounding.units negative a b (place - ideal) = 0) : place ≤ emax := by
  have hquotient : (0 : ℚ) < a / b * 10 ^ ideal := by
    have : (0 : ℚ) < a := by exact_mod_cast ha
    have : (0 : ℚ) < b := by exact_mod_cast hb
    positivity
  -- one unit of that place would be left of the number
  have hbelow : ¬(10 : ℚ) ^ place ≤ a / b * 10 ^ ideal := by
    intro hle
    have hone : ((1 : Nat) : ℚ) ≤ a / b / 10 ^ (place - ideal) := by
      rwa [Nat.cast_one, zpow_sub₀ (by norm_num), div_div_eq_mul_div, one_le_div (by positivity)]
    have := ctx.rounding.le_units negative hb hone
    omega
  rcases hexact with hgrid | ⟨k, hk⟩
  · have hlog : ¬place ≤ Int.log 10 ((a : ℚ) / b * 10 ^ ideal) := by
      rw [← Int.zpow_le_iff_le_log (by omega) hquotient]
      exact_mod_cast hbelow
    rw [grid, abs_signed_mul] at hgrid
    have hetiny : ctx.etiny ≤ emax := by simp only [etiny, emax]; omega
    omega
  · have habs := congrArg abs hk
    rw [abs_signed_mul, abs_mul, abs_of_pos (show (0 : ℚ) < 10 ^ place by positivity)] at habs
    have hk0 : k ≠ 0 := by
      rintro rfl
      rw [Int.cast_zero, abs_zero, zero_mul] at habs
      exact hquotient.ne' habs
    have hone : (1 : ℚ) ≤ |(k : ℚ)| := by exact_mod_cast Int.one_le_abs hk0
    rw [habs] at hbelow
    exact absurd (le_mul_of_one_le_left (by positivity) hone) hbelow

theorem settle_units_brings (hp : 0 < ctx.precision) {a b : Nat} (ha : 0 < a) (hb : 0 < b)
    {ideal : ℤ} (place : ℤ) (hplace : ctx.grid (Decimal.signed negative a / b * 10 ^ ideal) ≤ place)
    (hexact : place = ctx.grid (Decimal.signed negative a / b * 10 ^ ideal) ∨
      ∃ k : ℤ, (Decimal.signed negative a : ℚ) / b * 10 ^ ideal = k * 10 ^ place) :
    Brings (ctx.settle negative (ctx.rounding.units negative a b (place - ideal)) place)
      (ctx.rounded (Decimal.signed negative a / b * 10 ^ ideal)) := by
  have hlog := hplace
  rw [grid, abs_signed_mul] at hlog
  rw [← units_eq_rounded ha hb hplace hexact]
  exact settle_brings negative hp (units_le_pow ha hb ((le_max_left _ _).trans hlog))
    (place_le_of_units_eq_zero hp ha hb hexact)

theorem round_brings (hp : 0 < ctx.precision) (negative : Bool) (c : Nat) (e : Int) :
    Brings (ctx.round negative c e) (ctx.rounded (Decimal.signed negative c * 10 ^ e)) := by
  rcases Nat.eq_zero_or_pos c with rfl | hpos
  · rw [round, if_pos rfl]
    refine .ok ?_
    cases negative <;> simp [Decimal.signed]
  obtain ⟨place, hplace⟩ :
      ∃ place, max (max e (e + digitCount c - ctx.precision)) ctx.etiny = place :=
    ⟨_, rfl⟩
  have hgrid : ctx.grid (Decimal.signed negative c / (1 : Nat) * 10 ^ e) =
      max (e + digitCount c - ctx.precision) ctx.etiny := by
    rw [grid, abs_signed_mul, Nat.cast_one, div_one, intLog_mul_zpow (by exact_mod_cast hpos),
      intLog_natCast]
    congr 1
    ring
  have hbrings := settle_units_brings hp hpos one_pos place
    (by rw [hgrid]; omega) ?_
  · rwa [round_of_ne_zero negative place hpos.ne' hplace, ← div_one (Decimal.signed negative c : ℚ),
      ← Nat.cast_one]
  · -- a number whose digits all fit is not cut, so its own last digit is the place
    rw [hgrid]
    rcases eq_or_ne place e with rfl | hne
    · exact .inr ⟨Decimal.signed negative c, by rw [Nat.cast_one, div_one]⟩
    · exact .inl (by omega)

theorem toRat_mul_toRat (s s' : Bool) (c c' : Nat) (e e' : Int) :
    (Decimal.signed (s != s') (c * c') : ℚ) * 10 ^ (e + e') =
      (Decimal.finite s c e).toRat * (Decimal.finite s' c' e').toRat := by
  rw [Decimal.toRat_finite, Decimal.toRat_finite, zpow_add₀ (by norm_num)]
  cases s <;> cases s' <;> simp [Decimal.signed] <;> ring

theorem mul_brings (hp : 0 < ctx.precision) (s s' : Bool) (c c' : Nat) (e e' : Int) :
    Brings (ctx.mul (.finite s c e) (.finite s' c' e'))
      (ctx.rounded ((Decimal.finite s c e).toRat * (Decimal.finite s' c' e').toRat)) := by
  rw [mul_finite, ← toRat_mul_toRat]
  exact round_brings hp _ _ _

theorem mul_toRat (hp : 0 < ctx.precision) {s s' : Bool} {c' : Nat} {e' : Int}
    (h : ctx.mul (.finite s c e) (.finite s' c' e') = .ok r) :
    r.toRat = ctx.rounded ((Decimal.finite s c e).toRat * (Decimal.finite s' c' e').toRat) :=
  (mul_brings hp s s' c c' e e').result h

theorem quotient_eq_units (negative : Bool) {a b units : Nat} (hb : 0 < b) {ideal near : ℤ}
    (hle : near ≤ ideal) (h : a * 10 ^ (ideal - near).toNat = units * b) :
    (Decimal.signed negative a : ℚ) / b * 10 ^ ideal =
      Decimal.signed negative units * 10 ^ near := by
  have hb' : (b : ℚ) ≠ 0 := by exact_mod_cast hb.ne'
  have hnat : (a : ℚ) * 10 ^ (ideal - near) = units * b := by
    rw [show ideal - near = ((ideal - near).toNat : ℤ) by omega, zpow_natCast]
    exact_mod_cast h
  have hideal : (10 : ℚ) ^ ideal = 10 ^ (ideal - near) * 10 ^ near := by
    rw [← zpow_add₀ (by norm_num), sub_add_cancel]
  rw [hideal, ← mul_assoc]
  congr 1
  rw [div_mul_eq_mul_div, div_eq_iff hb']
  cases negative <;> simp only [Decimal.signed] <;> push_cast <;> linarith

theorem signed_of_dropZeros {most units c' dropped : Nat}
    (h : dropZeros most units = (c', dropped)) (negative : Bool) (place : ℤ) :
    (Decimal.signed negative units : ℚ) * 10 ^ place =
      Decimal.signed negative c' * 10 ^ (place + dropped) := by
  rw [eq_of_dropZeros h, zpow_add₀ (by norm_num), zpow_natCast]
  cases negative <;> simp [Decimal.signed] <;> ring

theorem divPositive_brings (hp : 0 < ctx.precision) (negative : Bool) {a b : Nat} (ha : 0 < a)
    (hb : 0 < b) (ideal : ℤ) : Brings (ctx.divPositive negative a b ideal)
      (ctx.rounded (Decimal.signed negative a / b * 10 ^ ideal)) := by
  have hquotient : (0 : ℚ) < a / b :=
    div_pos (by exact_mod_cast ha) (by exact_mod_cast hb)
  have hlog : Int.log 10 ((a : ℚ) / b * 10 ^ ideal) = leadingDigit a b + ideal := by
    rw [intLog_mul_zpow hquotient, intLog_div ha hb]
  have hgrid : ctx.grid (Decimal.signed negative a / b * 10 ^ ideal) =
      max (ideal + leadingDigit a b + 1 - ctx.precision) ctx.etiny := by
    rw [grid, abs_signed_mul, hlog]
    congr 1
    ring
  simp only [divPositive]
  split
  · next hexact =>
    obtain ⟨near, hnear⟩ : ∃ near, max (ideal + leadingDigit a b + 1 -
      ((min ctx.precision (quotientDigits a b) : Nat) : Int)) ctx.etiny = near := ⟨_, rfl⟩
    rw [hnear] at hexact ⊢
    obtain ⟨hle, heq⟩ := hexact
    obtain ⟨units, hunits⟩ : ∃ units, ctx.rounding.units negative a b (near - ideal) = units :=
      ⟨_, rfl⟩
    rw [hunits] at heq ⊢
    rcases hdrop : dropZeros (ideal - near).toNat units with ⟨c', dropped⟩
    have hvalue := quotient_eq_units negative hb hle heq
    have hc := eq_of_dropZeros hdrop
    have hbound : c' ≤ 10 ^ ctx.precision := by
      have hunits_le : units ≤ 10 ^ ctx.precision :=
        hunits ▸ units_le_pow ha hb (by rw [hlog]; omega)
      exact (Nat.le_mul_of_pos_right c' (Nat.pow_pos (by omega))).trans (hc ▸ hunits_le)
    have hzero : c' ≠ 0 := by
      rintro rfl
      rw [hc, Nat.zero_mul, Nat.zero_mul] at heq
      exact (Nat.mul_pos ha (Nat.pow_pos (by omega))).ne' heq
    rw [rounded_of_multiple ctx (by rw [hgrid]; omega) hvalue, hvalue, signed_of_dropZeros hdrop]
    exact settle_brings negative hp hbound fun h0 => absurd h0 hzero
  · exact settle_units_brings hp ha hb _ hgrid.le (.inl hgrid.symm)

theorem toRat_div_toRat (s s' : Bool) (c c' : Nat) (e e' : Int) :
    (Decimal.signed (s != s') c : ℚ) / c' * 10 ^ (e - e') =
      (Decimal.finite s c e).toRat / (Decimal.finite s' c' e').toRat := by
  rw [Decimal.toRat_finite, Decimal.toRat_finite, zpow_sub₀ (by norm_num)]
  cases s <;> cases s' <;> simp [Decimal.signed] <;> ring

theorem div_brings (hp : 0 < ctx.precision) (s s' : Bool) (c : Nat) {c' : Nat} (e e' : Int)
    (hc' : c' ≠ 0) : Brings (ctx.div (.finite s c e) (.finite s' c' e'))
      (ctx.rounded ((Decimal.finite s c e).toRat / (Decimal.finite s' c' e').toRat)) := by
  rw [div_finite ctx s c e s' e' hc', ← toRat_div_toRat]
  split
  · next hc =>
    subst hc
    have hbrings := round_brings hp (s != s') 0 (e - e')
    have hzero : Decimal.signed (s != s') 0 = 0 := by cases s <;> cases s' <;> rfl
    rw [hzero] at hbrings ⊢
    simpa only [Int.cast_zero, zero_div, zero_mul] using hbrings
  · next hc =>
    exact divPositive_brings hp _ (Nat.pos_of_ne_zero hc) (Nat.pos_of_ne_zero hc') _

theorem div_toRat (hp : 0 < ctx.precision) {s s' : Bool} {c' : Nat} {e' : Int} (hc' : c' ≠ 0)
    (h : ctx.div (.finite s c e) (.finite s' c' e') = .ok r) :
    r.toRat = ctx.rounded ((Decimal.finite s c e).toRat / (Decimal.finite s' c' e').toRat) :=
  (div_brings hp s s' c e e' hc').result h

/-- Moving a number to a place rounds it to whole units of that place, and succeeds if they have
no more digits than the context. -/
theorem quantize_eq (hp : 0 < ctx.precision) (s : Bool) (c : Nat) (e place : ℤ) :
    ∃ n, Decimal.signed s n = ctx.rounding.toInt ((Decimal.finite s c e).toRat / 10 ^ place) ∧
      ctx.quantize (.finite s c e) place =
        if n < 10 ^ ctx.precision then .ok (.finite s n place) else .error .invalidOperation := by
  rcases Nat.eq_zero_or_pos c with rfl | hpos
  · refine ⟨0, ?_, ?_⟩
    · have h := ctx.rounding.toInt_intCast 0
      rw [Int.cast_zero] at h
      cases s <;> simp [Decimal.signed, h]
    · rw [if_pos (Nat.pow_pos (by omega))]
      rfl
  refine ⟨ctx.rounding.units s c 1 (place - e), ?_, ?_⟩
  · rw [Rounding.signed_units _ _ hpos one_pos, zpow_sub₀ (by norm_num), div_div_eq_mul_div,
      Nat.cast_one, div_one, Decimal.toRat_finite]
  rw [quantize_finite ctx s e place hpos.ne']
  by_cases hlong : digitCount c + e - place > ctx.precision
  · -- a number that is too long before it is cut is too long after it
    have hd := digitCount_pos c
    have hle : 10 ^ ctx.precision ≤ ctx.rounding.units s c 1 (place - e) := by
      apply Rounding.le_units _ _ one_pos
      rw [Nat.cast_one, div_one, le_div_iff₀ (by positivity)]
      push_cast
      rw [← zpow_natCast, ← zpow_add₀ (by norm_num)]
      calc (10 : ℚ) ^ ((ctx.precision : ℤ) + (place - e)) ≤ 10 ^ ((digitCount c - 1 : Nat) : ℤ) :=
            zpow_le_zpow_right₀ (by norm_num) (by omega)
        _ ≤ c := by
          rw [zpow_natCast]
          exact_mod_cast pow_pred_digitCount_le hpos
    rw [if_pos hlong, if_neg (by omega)]
  · rw [if_neg hlong]
    simp only [gt_iff_lt, lt_digitCount_iff hp, ← not_lt, ite_not]

end Context
end AddOnLoan
