import AddOnLoan.Proofs.Decimal.Order
import AddOnLoan.Proofs.Engine.Comparison

namespace AddOnLoan

/-- Digits of a quotient that end at all end within four for each digit of the divisor. -/
theorem dvd_mul_pow_of_lt {a b n k : Nat} (hb : b ≠ 0) (h : b ∣ a * 10 ^ n) (hlt : b < 2 ^ k) :
    b ∣ a * 10 ^ k := by
  rcases eq_or_ne a 0 with rfl | ha
  · simp
  have hten : ∀ m : Nat, (10 : Nat) ^ m ≠ 0 := fun m => by positivity
  rw [← Nat.factorization_le_iff_dvd hb (Nat.mul_ne_zero ha (hten _)),
    Nat.factorization_mul ha (hten _), Nat.factorization_pow] at h ⊢
  intro q
  have hq := h q
  simp only [Finsupp.coe_add, Finsupp.coe_smul, Pi.add_apply, Pi.smul_apply, smul_eq_mul] at hq ⊢
  rcases Nat.eq_zero_or_pos ((10 : Nat).factorization q) with hzero | hpos
  · rw [hzero] at hq ⊢
    omega
  · -- a power of a factor of ten that divides the divisor is less than the divisor
    have hprime : q.Prime := by
      by_contra hnot
      rw [Nat.factorization_eq_zero_of_not_prime _ hnot] at hpos
      omega
    have hpow : 2 ^ b.factorization q ≤ b :=
      (Nat.pow_le_pow_left hprime.two_le _).trans
        (Nat.le_of_dvd (Nat.pos_of_ne_zero hb) (Nat.ordProj_dvd b q))
    have hless : b.factorization q < k :=
      (Nat.pow_lt_pow_iff_right (by omega)).1 (hpow.trans_lt hlt)
    have := Nat.le_mul_of_pos_right k hpos
    omega

theorem dvd_of_ends {s : Bool} {a b : Nat} (hb : 0 < b) {e : ℤ}
    (h : Ends (Decimal.signed s a / b * 10 ^ e)) : b ∣ a * 10 ^ (4 * digitCount b) := by
  have hbq : (b : ℚ) ≠ 0 := by exact_mod_cast hb.ne'
  obtain ⟨k, f, h⟩ := h
  obtain ⟨n, hn⟩ : ∃ n : Nat, b ∣ a * 10 ^ n := by
    refine ⟨(e - f).toNat, Int.natCast_dvd_natCast.1 ?_⟩
    have hsplit : e - f + (f - e).toNat = (e - f).toNat := by omega
    have hscaled : (Decimal.signed s a : ℚ) * 10 ^ (e - f).toNat = k * 10 ^ (f - e).toNat * b := by
      have hpow : (10 : ℚ) ^ f ≠ 0 := by positivity
      have heq : (Decimal.signed s a : ℚ) * 10 ^ (e - f) = k * b := by
        rw [zpow_sub₀ (by norm_num), ← mul_div_assoc, div_eq_iff hpow]
        rw [div_mul_eq_mul_div, div_eq_iff hbq] at h
        linarith
      rw [← zpow_natCast, ← hsplit, zpow_add₀ (by norm_num), ← mul_assoc, heq, zpow_natCast]
      ring
    have hint : Decimal.signed s a * 10 ^ (e - f).toNat = k * 10 ^ (f - e).toNat * b := by
      exact_mod_cast hscaled
    have hdvd : (b : ℤ) ∣ Decimal.signed s a * 10 ^ (e - f).toNat := ⟨_, hint.trans (mul_comm _ _)⟩
    push_cast
    cases s with
    | false => exact hdvd
    | true => rwa [Decimal.signed, if_pos rfl, neg_mul, dvd_neg] at hdvd
  refine dvd_mul_pow_of_lt hb.ne' hn ((lt_pow_digitCount b).trans_le ?_)
  rw [pow_mul]
  exact Nat.pow_le_pow_left (by norm_num) _

theorem Decimal.toRat_ne_zero_iff {s : Bool} {c : Nat} {e : ℤ} :
    (Decimal.finite s c e).toRat ≠ 0 ↔ c ≠ 0 := by
  rw [Decimal.toRat_finite, mul_ne_zero_iff, ← abs_ne_zero, Decimal.abs_signed]
  simp [zpow_ne_zero]

theorem Context.mul_ofInt_brings {ctx : Context} (hp : 0 < ctx.precision) {x : Decimal}
    (hx : x.isFinite) (n : ℤ) : Brings (ctx.mul x (.ofInt n)) (ctx.rounded (x.toRat * n)) := by
  obtain ⟨s, c, e, rfl⟩ := Decimal.eq_finite hx
  rw [← Money.toRat_ofInt]
  exact mul_brings hp s _ c _ e 0

def Context.unitless (ctx : Context) (x : ℚ) : ℚ := ctx.rounded (ctx.rounded x / 100)

namespace Engine

open Context (InRange)

variable {engine : Engine} {x y annualRate perYear r : Decimal} {term : Int} {digits : Nat}
  {mode : Rounding} {room : Option Nat} {ctx : Context}

theorem isShort_of_ends (hx : x.isFinite) (hy : y.isFinite) (hx0 : x.toRat ≠ 0)
    (hy0 : y.toRat ≠ 0) (hends : Ends (x.toRat / y.toRat)) (hrange : InRange (x.toRat / y.toRat)) :
    isShort x y := by
  obtain ⟨s, a, e, rfl⟩ := Decimal.eq_finite hx
  obtain ⟨s', b, e', rfl⟩ := Decimal.eq_finite hy
  have ha := Nat.pos_of_ne_zero (Decimal.toRat_ne_zero_iff.1 hx0)
  have hb := Nat.pos_of_ne_zero (Decimal.toRat_ne_zero_iff.1 hy0)
  have hlog := hrange.log_bounds (div_ne_zero hx0 hy0)
  rw [← Context.toRat_div_toRat, Context.abs_signed_mul, intLog_mul_zpow
    (div_pos (by exact_mod_cast ha) (by exact_mod_cast hb)), intLog_div ha hb] at hlog
  rw [← Context.toRat_div_toRat] at hends
  have hzero := Nat.mod_eq_zero_of_dvd (dvd_of_ends hb hends)
  simp only [isShort, hzero, beq_self_eq_true, Bool.true_and, decide_eq_true_eq]
  omega

theorem quotient_returns (hp : 0 < ctx.precision) (hx : x.isFinite) (hy : y.isFinite)
    (hy0 : y.toRat ≠ 0) (hexact : InRange (x.toRat / y.toRat))
    (hrounded : InRange (ctx.rounding.toDigits ctx.precision (x.toRat / y.toRat))) :
    (∃ r, quotient room ctx x y = .ok r) ∨ (∃ most ∈ room, most < ctx.precision) ∧
      ¬Ends (x.toRat / y.toRat) ∧ quotient room ctx x y = .error .outOfMemory := by
  unfold quotient
  split
  · next hroom =>
    simp only [Bool.and_eq_true, Bool.not_eq_true', Option.any_eq_true,
      decide_eq_true_eq] at hroom
    obtain ⟨⟨⟨hroom, hx0⟩, -⟩, hlong⟩ := hroom
    refine .inr ⟨hroom, fun hends => ?_, rfl⟩
    obtain ⟨s, c, e, rfl⟩ := Decimal.eq_finite hx
    have hx0 : (Decimal.finite s c e).toRat ≠ 0 := by
      rw [Decimal.toRat_ne_zero_iff]
      rintro rfl
      cases hx0
    rw [isShort_of_ends hx hy hx0 hy0 hends hexact] at hlong
    cases hlong
  · left
    obtain ⟨s, c, e, rfl⟩ := Decimal.eq_finite hx
    obtain ⟨s', c', e', rfl⟩ := Decimal.eq_finite hy
    have hbrings := Context.div_brings hp s s' c e e' (Decimal.toRat_ne_zero_iff.1 hy0)
    rw [hexact.rounded_eq] at hbrings
    obtain ⟨r, hr, -⟩ := hbrings.exists_ok hrounded.lt
    exact ⟨r, mapError_eq_ok_iff.2 hr⟩

theorem context_eq_ok (hmode : engine.rounding = some mode) (h : digits ≤ mostDigits) :
    engine.context digits = .ok ⟨digits, mode⟩ := by
  have hmost : mostDigits < (2 : Nat) ^ (63 : Nat) := by decide
  rw [context, if_neg (by omega), if_neg (by omega), hmode]

theorem le_mostDigits_of_context (h : engine.context digits = .ok ctx) : digits ≤ mostDigits := by
  unfold context at h
  split at h
  · cases h
  · split at h
    · cases h
    · omega

theorem quotient_inRange (hp : 0 < ctx.precision) (hx : x.isFinite) (hy : y.isFinite)
    (hpos : 0 < y.toRat) (hexact : InRange (x.toRat / y.toRat))
    (h : quotient room ctx x y = .ok r) :
    r.isFinite ∧ r.toRat = ctx.rounding.toDigits ctx.precision (x.toRat / y.toRat) := by
  rw [← hexact.rounded_eq]
  exact quotient_toRat hp hx ((Decimal.isPositive_iff_toRat hy).2 hpos) h

/-- The product of the rate of one period with the length of the term is never rounded. -/
theorem rateForTerm_eq_mul (hx : annualRate.isFinite) (hy : perYear.IsPositive)
    (h : engine.rateForTerm annualRate perYear term = .ok r) :
    ∃ digits narrow, engine.ratePrecision = some digits ∧ engine.context digits = .ok narrow ∧
      r.toRat = narrow.unitless (annualRate.toRat / perYear.toRat) * term := by
  obtain ⟨digits, narrow, wide, hdigits, hnarrow, hwide, hrate⟩ := rateForTerm_toRat hx hy h
  have hprecision := context_precision hnarrow
  have hpos := engine.precision_pos digits hdigits
  refine ⟨digits, narrow, hdigits, hnarrow, hrate.trans (Context.rounded_mul_int
    (Context.holds_rounded (by omega) _) (abs_lt_pow_digitCount term) ?_)⟩
  rw [context_precision hwide, hprecision]

/-- The rate of one period in percent, rounded once. -/
def ratePerPeriod (mode : Rounding) (digits : Nat) (annualRate perYear : Decimal) : ℚ :=
  mode.toDigits digits (annualRate.toRat / perYear.toRat)

def exactRate (annualRate perYear : Decimal) (term : Int) : ℚ :=
  annualRate.toRat * term / (100 * perYear.toRat)

/-- No step towards the rate for the term leaves the range of exponents. -/
structure StaysInRange (mode : Rounding) (digits : Nat) (annualRate perYear : Decimal)
    (term : Int) : Prop where
  exact : InRange (annualRate.toRat / perYear.toRat)
  percent : InRange (ratePerPeriod mode digits annualRate perYear)
  unitless : InRange (ratePerPeriod mode digits annualRate perYear / 100)
  product : InRange (ratePerPeriod mode digits annualRate perYear / 100 * term)

/-- The rate for a term is that of one period, rounded once, times the length of the term. Given room
for the digits of the quotient, if they do not end, there is one exactly if the digits of both
together are no more than a computation can have. -/
structure RoundsOnce (engine : Engine) (mode : Rounding) (digits : Nat)
    (annualRate perYear : Decimal) (term : Int) : Prop where
  returned : (∀ most ∈ engine.room, digits ≤ most) ∨ Ends (annualRate.toRat / perYear.toRat) →
    digits + digitCount term.natAbs ≤ mostDigits →
      ∃ r, engine.rateForTerm annualRate perYear term = .ok r
  refused : mostDigits < digits + digitCount term.natAbs →
    ∃ e, engine.rateForTerm annualRate perYear term = .error e
  exact : ∀ {r}, engine.rateForTerm annualRate perYear term = .ok r →
    r.isFinite ∧ r.toRat = ratePerPeriod mode digits annualRate perYear * term / 100
  near : ∀ {r}, engine.rateForTerm annualRate perYear term = .ok r →
    exactRate annualRate perYear term ≠ 0 →
      |r.toRat - exactRate annualRate perYear term| <
        10 ^ (1 - digits : ℤ) * |exactRate annualRate perYear term|
  nearest : mode.isNearest → ∀ {r}, engine.rateForTerm annualRate perYear term = .ok r →
    |r.toRat - exactRate annualRate perYear term| ≤
      10 ^ (1 - digits : ℤ) / 2 * |exactRate annualRate perYear term|

section

variable (hdigits : engine.ratePrecision = some digits) (hmode : engine.rounding = some mode)
  (hannual : annualRate.isFinite) (hperYear : perYear.isFinite) (hpos : 0 < perYear.toRat)
  (hrange : StaysInRange mode digits annualRate perYear term)

theorem exactRate_eq (annualRate perYear : Decimal) (term : Int) :
    exactRate annualRate perYear term = annualRate.toRat / perYear.toRat * term / 100 := by
  rw [exactRate, div_mul_eq_mul_div, div_div, mul_comm (100 : ℚ)]

theorem rate_sub_exactRate (mode : Rounding) (digits : Nat) (annualRate perYear : Decimal)
    (term : Int) :
    ratePerPeriod mode digits annualRate perYear * term / 100 - exactRate annualRate perYear term =
      (ratePerPeriod mode digits annualRate perYear - annualRate.toRat / perYear.toRat) *
        (term / 100) := by
  rw [exactRate_eq]
  ring

include hdigits

theorem le_mostDigits_of_rateForTerm (h : engine.rateForTerm annualRate perYear term = .ok r) :
    digits + digitCount term.natAbs ≤ mostDigits := by
  obtain ⟨digits', _, _, _, wide, hdigits', -, -, -, hwide, -⟩ := rateForTerm_eq_ok h
  cases hdigits.symm.trans hdigits'
  exact le_mostDigits_of_context hwide

theorem hasDigits_ratePerPeriod :
    HasDigits digits (ratePerPeriod mode digits annualRate perYear) :=
  mode.hasDigits_toDigits (engine.precision_pos digits hdigits) _

theorem hasDigits_product : HasDigits (digits + digitCount term.natAbs)
    (ratePerPeriod mode digits annualRate perYear / 100 * term) :=
  (hasDigits_ratePerPeriod hdigits).div_hundred.mul_int (abs_lt_pow_digitCount term)

include hrange

theorem exists_unitless {percent : Decimal} (hfinite : percent.isFinite)
    (hpercent : percent.toRat = ratePerPeriod mode digits annualRate perYear) :
    ∃ r, quotient room ⟨digits, mode⟩ percent (.ofNat 100) = .ok r ∧ r.isFinite ∧
      r.toRat = ratePerPeriod mode digits annualRate perYear / 100 := by
  have hp : 0 < (⟨digits, mode⟩ : Context).precision := engine.precision_pos digits hdigits
  have hhas : HasDigits digits (ratePerPeriod mode digits annualRate perYear / 100) :=
    (hasDigits_ratePerPeriod hdigits).div_hundred
  have hkept := mode.toDigits_of_hasDigits hhas
  have hhundred : 0 < (Decimal.ofNat 100).toRat := by rw [toRat_hundred]; norm_num
  rw [← toRat_hundred, ← hpercent] at hhas hkept ⊢
  have hexact : InRange (percent.toRat / (Decimal.ofNat 100).toRat) := by
    rw [toRat_hundred, hpercent]
    exact hrange.unitless
  obtain ⟨r, hr⟩ | ⟨-, hends, -⟩ :=
    quotient_returns hp hfinite rfl hhundred.ne' hexact (by rwa [hkept])
  · obtain ⟨hfinite', hvalue⟩ := quotient_inRange hp hfinite rfl hhundred hexact hr
    exact ⟨r, hr, hfinite', hvalue.trans hkept⟩
  · exact absurd hhas.ends hends

include hmode hannual hperYear hpos

/-- The three steps, of which only the first one rounds or may want for room. -/
theorem rateForTerm_spec (hmost : digits + digitCount term.natAbs ≤ mostDigits) :
    (∃ r, engine.rateForTerm annualRate perYear term = .ok r ∧ r.isFinite ∧
      r.toRat = ratePerPeriod mode digits annualRate perYear * term / 100) ∨
      (∃ most ∈ engine.room, most < digits) ∧ ¬Ends (annualRate.toRat / perYear.toRat) ∧
        engine.rateForTerm annualRate perYear term = .error .outOfMemory := by
  have hp : 0 < (⟨digits, mode⟩ : Context).precision := engine.precision_pos digits hdigits
  have hwide : 0 < (⟨digits + digitCount term.natAbs, mode⟩ : Context).precision :=
    Nat.add_pos_left hp _
  simp only [rateForTerm, hdigits]
  rw [context_eq_ok hmode (show digits ≤ mostDigits by omega), ok_bind]
  obtain ⟨percent, hpercent⟩ | ⟨hroom, hends, hmemory⟩ :=
    quotient_returns hp hannual hperYear hpos.ne' hrange.exact hrange.percent
  · left
    obtain ⟨hfinite, hvalue⟩ := quotient_inRange hp hannual hperYear hpos hrange.exact hpercent
    obtain ⟨unitless, hunitless, hfinite', hvalue'⟩ :=
      exists_unitless hdigits hrange hfinite hvalue
    rw [hpercent, ok_bind, hunitless, ok_bind, context_eq_ok hmode hmost, ok_bind]
    have hbrings := Context.mul_ofInt_brings hwide hfinite' term
    rw [hvalue', hrange.product.rounded_of_hasDigits (hasDigits_product hdigits)] at hbrings
    obtain ⟨r, hr, hrat⟩ := hbrings.exists_ok hrange.product.lt
    obtain ⟨s, c, e, rfl⟩ := Decimal.eq_finite hfinite'
    have hmul := hr
    rw [Decimal.ofInt] at hmul
    obtain ⟨c', e', rfl, -⟩ := Context.mul_shape hmul
    exact ⟨_, mapError_eq_ok_iff.2 hr, rfl, hrat.trans (div_mul_eq_mul_div _ _ _)⟩
  · right
    rw [hmemory]
    exact ⟨hroom, hends, rfl⟩

theorem toRat_rateForTerm (h : engine.rateForTerm annualRate perYear term = .ok r) :
    r.isFinite ∧ r.toRat = ratePerPeriod mode digits annualRate perYear * term / 100 := by
  have hmost := le_mostDigits_of_rateForTerm hdigits h
  obtain ⟨r', hr', hvalue⟩ | ⟨-, -, hmemory⟩ :=
    rateForTerm_spec hdigits hmode hannual hperYear hpos hrange hmost
  · cases hr'.symm.trans h
    exact hvalue
  · cases hmemory.symm.trans h

/-- The rate for the term is rounded only once, whatever its length. -/
theorem rateForTerm_roundsOnce : RoundsOnce engine mode digits annualRate perYear term where
  returned hroom hmost := by
    obtain ⟨r, hr, -⟩ | ⟨⟨most, hmem, hshort⟩, hends, -⟩ :=
      rateForTerm_spec hdigits hmode hannual hperYear hpos hrange hmost
    · exact ⟨r, hr⟩
    · rcases hroom with hroom | hends'
      · exact absurd (hroom most hmem) (by omega)
      · exact absurd hends' hends
  refused hmost := by
    cases h : engine.rateForTerm annualRate perYear term with
    | error e => exact ⟨e, rfl⟩
    | ok r => exact absurd (le_mostDigits_of_rateForTerm hdigits h) (by omega)
  exact h := toRat_rateForTerm hdigits hmode hannual hperYear hpos hrange h
  near h hne := by
    have hrate : annualRate.toRat / perYear.toRat ≠ 0 := by
      rintro hzero
      rw [exactRate_eq, hzero, zero_mul, zero_div] at hne
      exact hne rfl
    have hterm : |(term : ℚ) / 100| ≠ 0 := by
      rw [exactRate_eq, mul_div_assoc] at hne
      exact abs_ne_zero.2 (right_ne_zero_of_mul hne)
    rw [(toRat_rateForTerm hdigits hmode hannual hperYear hpos hrange h).2, rate_sub_exactRate,
      exactRate_eq, mul_div_assoc, abs_mul, abs_mul, ← mul_assoc]
    exact mul_lt_mul_of_pos_right (mode.abs_toDigits_sub_lt digits hrate)
      (lt_of_le_of_ne (abs_nonneg _) hterm.symm)
  nearest hnearest _ h := by
    rw [(toRat_rateForTerm hdigits hmode hannual hperYear hpos hrange h).2, rate_sub_exactRate,
      exactRate_eq, mul_div_assoc, abs_mul, abs_mul, ← mul_assoc]
    exact mul_le_mul_of_nonneg_right (mode.abs_toDigits_sub_le_half hnearest digits _)
      (abs_nonneg _)

end

def ninePointFive : Decimal := .finite false 95 (-1)

theorem ratePerPeriod_ninePointFive :
    ratePerPeriod .halfEven 8 ninePointFive (.ofNat 12) = 79166667 / 10 ^ 8 := by
  have hrate : ninePointFive.toRat / (Decimal.ofNat 12).toRat = 19 / 24 := by decide +kernel
  have hlog : Int.log 10 |(19 / 24 : ℚ)| = -1 := intLog_eq (by norm_num) (by norm_num)
  rw [ratePerPeriod, hrate, Rounding.toDigits, lastPlace, hlog]
  decide +kernel

theorem rateForTerm_roundsOnce_ninePointFive : ∃ r,
    ({} : Engine).rateForTerm ninePointFive (.ofNat 12) 123456789012 = .ok r ∧
      r.toRat = 79166667 / 10 ^ 8 * 123456789012 / 100 := by
  have hdigits : ({} : Engine).ratePrecision = some 8 := rfl
  have hmode : ({} : Engine).rounding = some .halfEven := rfl
  have hannual : ninePointFive.isFinite := rfl
  have hperYear : (Decimal.ofNat 12).isFinite := rfl
  have hrange : StaysInRange .halfEven 8 ninePointFive (.ofNat 12) 123456789012 := by
    have hrate : ninePointFive.toRat / (Decimal.ofNat 12).toRat = 19 / 24 := by decide +kernel
    constructor <;> simp only [hrate, ratePerPeriod_ninePointFive] <;>
      exact Context.inRange_of_bounds (by norm_num) (by norm_num)
  have honce := rateForTerm_roundsOnce hdigits hmode hannual hperYear (by decide +kernel) hrange
  obtain ⟨r, hr⟩ := honce.returned (.inl nofun) (by decide +kernel)
  refine ⟨r, hr, ?_⟩
  rw [(honce.exact hr).2, ratePerPeriod_ninePointFive]
  norm_num

def tooFine : Engine where
  ratePrecision := some (10 ^ 18)

theorem rateForTerm_tooFine :
    StaysInRange .halfEven (10 ^ 18) (.ofNat 12) (.ofNat 12) 12 ∧
      ∀ r, tooFine.rateForTerm (.ofNat 12) (.ofNat 12) 12 ≠ .ok r := by
  have hrate : (Decimal.ofNat 12).toRat / (Decimal.ofNat 12).toRat = 1 := by decide +kernel
  have hone : HasDigits (10 ^ 18) 1 :=
    ⟨1, 0, one_lt_pow₀ (by norm_num) (by norm_num), by rw [zpow_zero, Int.cast_one, mul_one]⟩
  have hpercent : ratePerPeriod .halfEven (10 ^ 18) (.ofNat 12) (.ofNat 12) = 1 := by
    rw [ratePerPeriod, hrate, Rounding.toDigits_of_hasDigits _ hone]
  refine ⟨?_, fun r hr => ?_⟩
  · constructor <;> simp only [hrate, hpercent] <;>
      exact Context.inRange_of_bounds (by norm_num) (by norm_num)
  · exact absurd (le_mostDigits_of_rateForTerm rfl hr) (by decide +kernel)

end Engine
end AddOnLoan
