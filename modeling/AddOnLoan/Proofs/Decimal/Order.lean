import AddOnLoan.Proofs.Decimal.Significant

namespace AddOnLoan

namespace Rounding

variable (mode : Rounding) {x y : ℚ}

theorem toInt_mono (h : x ≤ y) : mode.toInt x ≤ mode.toInt y := by
  by_cases hsign : x < 0 ∧ 0 ≤ y
  · have hceil : ⌈x⌉ ≤ 0 := Int.ceil_le.2 (by exact_mod_cast hsign.1.le)
    exact (mode.toInt_le_ceil x).trans (hceil.trans (mode.toInt_nonneg hsign.2))
  have hsame : 0 ≤ x ↔ 0 ≤ y := by
    constructor <;> intro h0 <;> by_contra hneg
    · linarith
    · exact hsign ⟨not_le.1 hneg, h0⟩
  -- on one side of zero inward is one way, and the neighbours are in order
  have hfloor : ⌊x⌋ ≤ ⌊y⌋ := Int.floor_le_floor h
  have hceil : ⌈x⌉ ≤ ⌈y⌉ := Int.ceil_le_ceil h
  have hup : ⌊x + 1 / 2⌋ ≤ ⌊y + 1 / 2⌋ := Int.floor_le_floor (by linarith)
  have hdown : ⌈x - 1 / 2⌉ ≤ ⌈y - 1 / 2⌉ := Int.ceil_le_ceil (by linarith)
  have hle := Int.floor_le_ceil x
  have hle' := Int.floor_le_ceil y
  have hnext := Int.ceil_le_floor_add_one x
  have hnext' := Int.ceil_le_floor_add_one y
  have hhalf := floor_add_half x
  have hhalf' := floor_add_half y
  by_cases hx : 0 ≤ x
  · cases mode <;> simp only [toInt, if_pos hx, if_pos (hsame.1 hx)] <;> grind
  · cases mode <;> simp only [toInt, if_neg hx, if_neg (hsame.not.1 hx)] <;> grind

theorem toInt_le {k : ℤ} (h : x ≤ k) : mode.toInt x ≤ k :=
  (mode.toInt_mono h).trans_eq (mode.toInt_intCast k)

theorem le_toInt {k : ℤ} (h : k ≤ x) : k ≤ mode.toInt x :=
  (mode.toInt_intCast k).symm.trans_le (mode.toInt_mono h)

end Rounding

namespace Context

variable {ctx : Context} {x y : ℚ} {place : ℤ}

theorem rounded_le_multiple {k : ℤ} (h : x ≤ k * 10 ^ ctx.grid x) :
    ctx.rounded x ≤ k * 10 ^ ctx.grid x := by
  have hpos : (0 : ℚ) < 10 ^ ctx.grid x := by positivity
  have hle := ctx.rounding.toInt_le ((div_le_iff₀ hpos).2 h)
  exact mul_le_mul_of_nonneg_right (by exact_mod_cast hle) hpos.le

theorem multiple_le_rounded {k : ℤ} (h : k * 10 ^ ctx.grid x ≤ x) :
    k * 10 ^ ctx.grid x ≤ ctx.rounded x := by
  have hpos : (0 : ℚ) < 10 ^ ctx.grid x := by positivity
  have hle := ctx.rounding.le_toInt ((le_div_iff₀ hpos).2 h)
  exact mul_le_mul_of_nonneg_right (by exact_mod_cast hle) hpos.le

theorem pow_eq_multiple (hplace : ctx.grid x ≤ place) :
    ∃ k : ℤ, (10 : ℚ) ^ place = k * 10 ^ ctx.grid x := by
  obtain ⟨d, rfl⟩ := Int.le.dest hplace
  refine ⟨10 ^ d, ?_⟩
  rw [zpow_add₀ (by norm_num), mul_comm, zpow_natCast, Int.cast_pow, Int.cast_ofNat]

theorem rounded_le_pow (hplace : ctx.grid x ≤ place) (h : x ≤ 10 ^ place) :
    ctx.rounded x ≤ 10 ^ place := by
  obtain ⟨k, hk⟩ := pow_eq_multiple hplace
  rw [hk] at h ⊢
  exact rounded_le_multiple h

theorem pow_le_rounded (hplace : ctx.grid x ≤ place) (h : 10 ^ place ≤ x) :
    10 ^ place ≤ ctx.rounded x := by
  obtain ⟨k, hk⟩ := pow_eq_multiple hplace
  rw [hk] at h ⊢
  exact multiple_le_rounded h

theorem rounded_mono (hp : 0 < ctx.precision) (hx : 0 ≤ x) (h : x ≤ y) :
    ctx.rounded x ≤ ctx.rounded y := by
  rcases hx.eq_or_lt with rfl | hpos
  · rw [rounded_zero]
    exact ctx.rounded_nonneg h
  have habs : |x| = x := abs_of_pos hpos
  have habs' : |y| = y := abs_of_pos (hpos.trans_le h)
  have hlog : Int.log 10 |x| ≤ Int.log 10 |y| := by
    rw [habs, habs']
    exact Int.log_mono_right hpos h
  by_cases hgrid : ctx.grid x = ctx.grid y
  · have hle := ctx.rounding.toInt_mono (div_le_div_of_nonneg_right h
      (show (0 : ℚ) ≤ 10 ^ ctx.grid y by positivity))
    rw [rounded, rounded, hgrid]
    exact mul_le_mul_of_nonneg_right (by exact_mod_cast hle) (by positivity)
  · -- the first digits are at different places, and rounding leaves the power of ten between them
    obtain ⟨place, hplace⟩ : ∃ place, Int.log 10 |y| = place := ⟨_, rfl⟩
    obtain ⟨hx', hy', hlt⟩ : ctx.grid x ≤ place ∧ ctx.grid y ≤ place ∧
        Int.log 10 |x| + 1 ≤ place := by
      simp only [grid] at hgrid ⊢
      omega
    have hhigh : x ≤ 10 ^ place :=
      habs ▸ (abs_lt_log x).le.trans (zpow_le_zpow_right₀ (by norm_num) hlt)
    have hlow : (10 : ℚ) ^ place ≤ y :=
      habs' ▸ hplace ▸ log_le_abs (hpos.trans_le h).ne'
    exact (rounded_le_pow hx' hhigh).trans (pow_le_rounded hy' hlow)

/-- A number that rounding does not leave on a half of a whole number was on the same side of all of
them before. -/
theorem alike_of_not_half {p : Nat} (h : ∀ k : ℤ, 2 * (ctx.rounded x * 10 ^ p) ≠ k) :
    Rounding.Alike (ctx.rounded x * 10 ^ p) (x * 10 ^ p) := by
  obtain ⟨grid, hgrid⟩ : ∃ grid, ctx.grid x = grid := ⟨_, rfl⟩
  have hfine : grid + p < 0 := by
    by_contra hge
    obtain ⟨d, hd⟩ := Int.le.dest (not_lt.1 hge)
    apply h (2 * ctx.rounding.toInt (x / 10 ^ grid) * 10 ^ d)
    rw [rounded, hgrid, mul_assoc, ← zpow_natCast, ← zpow_add₀ (by norm_num), ← hd, zero_add,
      zpow_natCast]
    push_cast
    ring
  obtain ⟨d, hd⟩ : ∃ d : Nat, grid + p + (d + 1 : Nat) = 0 := ⟨(-(grid + p) - 1).toNat, by omega⟩
  have hle : ∀ y z : ℚ, 2 * (y * 10 ^ p) ≤ 2 * (z * 10 ^ p) ↔ y ≤ z := fun y z => by
    rw [mul_le_mul_iff_right₀ two_pos, mul_le_mul_iff_left₀ (by positivity)]
  intro k
  -- every half lies on the grid
  obtain ⟨j, hj⟩ : ∃ j : ℤ, (k : ℚ) = 2 * (j * 10 ^ ctx.grid x * 10 ^ p) := by
    have hone : (10 : ℚ) ^ grid * 10 ^ p * 10 ^ (d + 1) = 1 := by
      rw [← zpow_natCast, ← zpow_natCast, ← zpow_add₀ (by norm_num), ← zpow_add₀ (by norm_num), hd,
        zpow_zero]
    refine ⟨k * 5 * 10 ^ d, ?_⟩
    rw [hgrid]
    push_cast
    rw [pow_succ] at hone
    linear_combination (-k : ℚ) * hone
  have hne := h k
  rw [hj] at hne ⊢
  rw [hle, hle, hle, hle]
  refine ⟨⟨fun hk => ?_, multiple_le_rounded⟩, ⟨fun hk => ?_, rounded_le_multiple⟩⟩
  · by_contra hlt
    exact hne (by rw [le_antisymm hk (rounded_le_multiple (not_le.1 hlt).le)])
  · by_contra hlt
    exact hne (by rw [le_antisymm hk (multiple_le_rounded (not_le.1 hlt).le)])

theorem abs_toRat_lt_of_settle (hp : 0 < ctx.precision) {negative : Bool} {c : Nat} {e : Int}
    {r : Decimal} (h : ctx.settle negative c e = .ok r) : |r.toRat| < 10 ^ (emax + 1) := by
  have hdigits : (digitCount c : ℤ) + e ≤ emax + 1 := by
    by_contra hlong
    cases h.symm.trans ((settle_eq_error_iff hp).2 ⟨rfl, by omega⟩)
  have hlt : (c : ℚ) * 10 ^ e < 10 ^ (emax + 1) :=
    calc (c : ℚ) * 10 ^ e < 10 ^ digitCount c * 10 ^ e :=
          mul_lt_mul_of_pos_right (by exact_mod_cast lt_pow_digitCount c) (by positivity)
      _ = 10 ^ ((digitCount c : ℤ) + e) := by rw [zpow_add₀ (by norm_num), zpow_natCast]
      _ ≤ 10 ^ (emax + 1) := zpow_le_zpow_right₀ (by norm_num) hdigits
  rcases settle_eq_ok h with ⟨-, rfl⟩ | ⟨-, rfl⟩
  · rwa [Decimal.toRat_finite, abs_mul, Decimal.abs_signed, abs_of_pos (by positivity)]
  · have hcut : ((c / 10 : Nat) : ℚ) * 10 ≤ c := by exact_mod_cast Nat.div_mul_le_self c 10
    rw [Decimal.toRat_finite, abs_mul, Decimal.abs_signed, abs_of_pos (by positivity),
      zpow_add_one₀ (by norm_num), mul_comm ((10 : ℚ) ^ e), ← mul_assoc]
    exact (mul_le_mul_of_nonneg_right hcut (by positivity)).trans_lt hlt

/-- A number that is out of range with its digits cut to those that are kept. -/
def Overflows (ctx : Context) (x : ℚ) : Prop := 10 ^ (emax + 1) ≤ |ctx.rounded x|

theorem overflows_pow (hp : 0 < ctx.precision) (h : emax < place) : ctx.Overflows (10 ^ place) := by
  have hmax : emax = 999999 := rfl
  have hpos : (0 : ℚ) < 10 ^ place := by positivity
  have hlog : Int.log 10 |(10 : ℚ) ^ place| = place := by
    rw [abs_of_pos hpos]
    exact intLog_eq le_rfl (zpow_lt_zpow_right₀ (by norm_num) (by omega))
  have hgrid : ctx.grid (10 ^ place) ≤ place := by
    rw [grid, hlog, etiny]
    omega
  calc (10 : ℚ) ^ (emax + 1) ≤ 10 ^ place := zpow_le_zpow_right₀ (by norm_num) (by omega)
    _ ≤ |ctx.rounded (10 ^ place)| := (pow_le_rounded hgrid le_rfl).trans (le_abs_self _)

theorem round_eq_error_iff (hp : 0 < ctx.precision) {negative : Bool} {c : Nat} {e : Int}
    {signal : Signal} : ctx.round negative c e = .error signal ↔
      signal = .overflow ∧ ctx.Overflows (Decimal.signed negative c * 10 ^ e) := by
  have hbrings := round_brings hp negative c e
  refine ⟨fun h => hbrings.cause h, ?_⟩
  rintro ⟨rfl, hlarge⟩
  cases h : ctx.round negative c e with
  | error signal => rw [(hbrings.cause h).1]
  | ok r =>
    have hlt : |r.toRat| < 10 ^ (emax + 1) := by
      by_cases hc : c = 0
      · rw [round, if_pos hc] at h
        cases h
        cases negative <;> simp [Decimal.signed] <;> positivity
      · rw [round_of_ne_zero negative _ hc rfl] at h
        exact abs_toRat_lt_of_settle hp h
    rw [hbrings.result h] at hlt
    exact absurd hlarge (not_le.2 hlt)

theorem mul_eq_error_iff (hp : 0 < ctx.precision) {s s' : Bool} {c c' : Nat} {e e' : Int}
    {signal : Signal} : ctx.mul (.finite s c e) (.finite s' c' e') = .error signal ↔
      signal = .overflow ∧
        ctx.Overflows ((Decimal.finite s c e).toRat * (Decimal.finite s' c' e').toRat) := by
  rw [mul_finite, round_eq_error_iff hp, toRat_mul_toRat]

/-- Numbers of no more digits than are kept, none of them below the least place. -/
def Holds (ctx : Context) (x : ℚ) : Prop :=
  ∃ k e : ℤ, |k| < 10 ^ ctx.precision ∧ ctx.etiny ≤ e ∧ x = k * 10 ^ e

theorem holds_rounded (hp : 0 < ctx.precision) (x : ℚ) : ctx.Holds (ctx.rounded x) := by
  obtain ⟨k, hk⟩ : ∃ k, ctx.rounding.toInt (x / 10 ^ ctx.grid x) = k := ⟨_, rfl⟩
  have hetiny : ctx.etiny ≤ ctx.grid x := le_max_right _ _
  have hle : |k| ≤ (10 ^ ctx.precision : Nat) := by
    have hlog : Int.log 10 |x| + 1 ≤ ctx.precision + ctx.grid x := by
      simp only [grid]
      omega
    rw [← hk]
    apply ctx.rounding.abs_toInt_le
    rw [abs_div, abs_of_pos (show (0 : ℚ) < 10 ^ ctx.grid x by positivity),
      div_lt_iff₀ (by positivity), Nat.cast_pow, Nat.cast_ofNat, ← zpow_natCast,
      ← zpow_add₀ (by norm_num)]
    exact (abs_lt_log x).trans_le (zpow_le_zpow_right₀ (by norm_num) hlog)
  push_cast at hle
  obtain ⟨j, e, hj, he, heq⟩ := HasDigits.exists_of_abs_le hp hle (ctx.grid x)
  exact ⟨j, e, hj, hetiny.trans he, by rw [rounded, hk, heq]⟩

theorem rounded_of_holds (h : ctx.Holds x) : ctx.rounded x = x := by
  obtain ⟨k, e, hk, he, rfl⟩ := h
  by_cases hzero : (k : ℚ) * 10 ^ e = 0
  · rw [hzero, rounded_zero]
  · exact rounded_of_multiple ctx (max_le (lastPlace_le hk hzero rfl) he) rfl

/-- A result is the exact number exactly if the context holds that, and it is not too large. -/
theorem kept_iff (hp : 0 < ctx.precision) :
    (¬ctx.Overflows x ∧ ctx.rounded x = x) ↔ ctx.Holds x ∧ |x| < 10 ^ (emax + 1) := by
  constructor
  · rintro ⟨hlarge, hx⟩
    have hholds := ctx.holds_rounded hp x
    rw [hx] at hholds
    rw [Overflows, hx, not_le] at hlarge
    exact ⟨hholds, hlarge⟩
  · rintro ⟨hholds, hlt⟩
    have hx := rounded_of_holds hholds
    exact ⟨by rw [Overflows, hx, not_le]; exact hlt, hx⟩

/-- As many digits as both factors have together are enough for their product, also where the digits
of one end at the least place. -/
theorem rounded_mul_int {wide : Context} {more : Nat} {n : ℤ} (hx : ctx.Holds x)
    (hn : |n| < 10 ^ more) (hwide : wide.precision = ctx.precision + more) :
    wide.rounded (x * n) = x * n := by
  obtain ⟨k, e, hk, he, rfl⟩ := hx
  refine rounded_of_holds ⟨k * n, e, ?_, ?_, by push_cast; ring⟩
  · rw [abs_mul, hwide, pow_add]
    exact mul_lt_mul'' hk hn (abs_nonneg k) (abs_nonneg n)
  · simp only [etiny] at he ⊢
    omega

end Context

namespace Decimal

/-- The order of numbers, with an infinity at either end; a not-a-number has no place in it. -/
def AtMost : Decimal → Decimal → Prop
  | .finite s c e, .finite s' c' e' => (finite s c e).toRat ≤ (finite s' c' e').toRat
  | .infinity s, .infinity s' => s = true ∨ s' = false
  | .infinity s, .finite .. => s = true
  | .finite .., .infinity s => s = false
  | .nan .., _ | _, .nan .. => False

theorem atMost_iff_toRat {x y : Decimal} (hx : x.isFinite) (hy : y.isFinite) :
    x.AtMost y ↔ x.toRat ≤ y.toRat := by
  obtain ⟨s, c, e, rfl⟩ := eq_finite hx
  obtain ⟨s', c', e', rfl⟩ := eq_finite hy
  rfl

end Decimal
end AddOnLoan
