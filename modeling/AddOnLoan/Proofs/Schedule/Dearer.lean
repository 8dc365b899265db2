import AddOnLoan.Proofs.Engine.TermRate
import AddOnLoan.Proofs.Schedule.Cost

namespace AddOnLoan

/-- A loan that is no dearer than another: no more is lent, for no higher a rate and no longer a
term, and a year has no fewer periods. -/
structure LoanTerms.NoDearer (terms terms' : LoanTerms) (perYear perYear' : Decimal) : Prop where
  currency : terms.currency = terms'.currency
  principal : terms.principal.amount.AtMost terms'.principal.amount
  annualRate : terms.annualRate.AtMost terms'.annualRate
  term : terms.term ≤ terms'.term
  perYear : perYear'.AtMost perYear

namespace Decimal

variable {y : Decimal}

theorem IsPositive.isNumber (h : y.IsPositive) : y.IsNumber := by
  obtain ⟨_, hsign, -⟩ := h
  exact isNumber_of_order0 hsign

theorem not_isPositive_infinity : ¬(infinity true).IsPositive := by
  rintro ⟨_, hsign, hpos⟩
  cases hsign
  exact absurd hpos (by decide)

theorem IsPositive.toRat_nonneg (h : y.IsPositive) : 0 ≤ y.toRat := by
  cases y with
  | finite => exact ((isPositive_iff_toRat rfl).1 h).le
  | _ => exact le_rfl

end Decimal

namespace Context

variable {ctx : Context} {x y : ℚ}

theorem unitless_nonneg (ctx : Context) (h : 0 ≤ x) : 0 ≤ ctx.unitless x :=
  ctx.rounded_nonneg (div_nonneg (ctx.rounded_nonneg h) (by norm_num))

theorem unitless_mono (hp : 0 < ctx.precision) (hx : 0 ≤ x) (h : x ≤ y) :
    ctx.unitless x ≤ ctx.unitless y :=
  rounded_mono hp (div_nonneg (ctx.rounded_nonneg hx) (by norm_num))
    (div_le_div_of_nonneg_right (rounded_mono hp hx h) (by norm_num))

end Context

namespace Money

variable {c : Currency} {m n : Money} {x y : ℚ}

theorem product_mono (hm : m.HeldIn c) (hn : n.HeldIn c) (h0 : 0 ≤ m.amount.toRat * x)
    (h : m.amount.toRat * x ≤ n.amount.toRat * y) (mode : Rounding) :
    m.product x mode ≤ n.product y mode := by
  rw [product, product, hm.currency, hn.currency]
  apply mode.toInt_mono
  exact mul_le_mul_of_nonneg_right (moneyContext.rounded_mono (by decide) h0 h) (by positivity)

end Money

namespace Engine

variable {engine : Engine} {terms terms' : LoanTerms} {dueDates dueDates' : List Date}
  {perYear perYear' rate rate' x x' y y' : Decimal} {s s' : Shares}

/-- A smaller quotient has a smaller dividend and a greater divisor, which may be infinite. -/
theorem div_toRat_mono (hx : 0 ≤ x.toRat) (hxx' : x.toRat ≤ x'.toRat) (hy : y.IsPositive)
    (hy' : y'.IsPositive) (h : y'.AtMost y) : x.toRat / y.toRat ≤ x'.toRat / y'.toRat := by
  have hy0 := hy.toRat_nonneg
  have hy0' := hy'.toRat_nonneg
  cases y with
  | nan => exact (hy.isNumber).elim
  | infinity s =>
    -- nothing is left of a number beside an infinite one
    rw [show (Decimal.infinity s).toRat = 0 from rfl, div_zero]
    exact div_nonneg (hx.trans hxx') hy0'
  | finite s c e =>
    cases y' with
    | nan => exact (hy'.isNumber).elim
    | infinity s' =>
      obtain rfl : s' = true := h
      exact absurd hy' Decimal.not_isPositive_infinity
    | finite s' c' e' =>
      have hpos' := (Decimal.isPositive_iff_toRat (x := .finite s' c' e') rfl).1 hy'
      exact div_le_div₀ (hx.trans hxx') hxx' hpos' h

theorem Run.totals_eq {schedule : Schedule} (run : Run engine terms dueDates perYear)
    (hs : Engine.schedule terms run.shares run.full = .ok schedule) :
    schedule.totalInterest.toRat = run.shares.totalInterest.amount.toRat ∧
      schedule.totalRepayment.toRat =
        terms.principal.amount.toRat + run.shares.totalInterest.amount.toRat := by
  have htotals := run.totals_toRat hs rfl rfl
  simp only [Schedule.totals, List.map_cons, List.cons.injEq] at htotals
  obtain ⟨hinterest, -, -, -, -, -, hrepaid, -⟩ := htotals
  exact ⟨hinterest, hrepaid⟩

section

variable (hle : terms.NoDearer terms' perYear perYear') (hadmits : Admits terms dueDates perYear)
  (hadmits' : Admits terms' dueDates' perYear')
include hle hadmits hadmits'

theorem rateForTerm_mono (hx : terms.annualRate.isFinite) (hx' : terms'.annualRate.isFinite)
    (h : engine.rateForTerm terms.annualRate perYear terms.term = .ok rate)
    (h' : engine.rateForTerm terms'.annualRate perYear' terms'.term = .ok rate') :
    0 ≤ rate.toRat ∧ rate.toRat ≤ rate'.toRat := by
  have hperYear : perYear.IsPositive := hadmits.perYear_pos
  obtain ⟨digits, narrow, hdigits, hnarrow, hrate⟩ := rateForTerm_eq_mul hx hperYear h
  obtain ⟨digits', narrow', hdigits', hnarrow', hrate'⟩ :=
    rateForTerm_eq_mul hx' hadmits'.perYear_pos h'
  cases hdigits.symm.trans hdigits'
  cases hnarrow.symm.trans hnarrow'
  have hp : 0 < narrow.precision :=
    (engine.precision_pos digits hdigits).trans_eq (context_precision hnarrow).symm
  have hannual := (Decimal.atMost_iff_toRat hx hx').1 hle.annualRate
  have hannual_nonneg := (Decimal.isNonneg_iff_toRat hx).1 hadmits.rate_nonneg
  have hratio_nonneg := div_nonneg hannual_nonneg hperYear.toRat_nonneg
  have hratio := div_toRat_mono hannual_nonneg hannual hperYear hadmits'.perYear_pos hle.perYear
  have hterm : (0 : ℚ) ≤ terms.term := by exact_mod_cast zero_le_one.trans hadmits.term_pos
  have hterm' : (terms.term : ℚ) ≤ terms'.term := by exact_mod_cast hle.term
  rw [hrate, hrate']
  exact ⟨mul_nonneg (narrow.unitless_nonneg hratio_nonneg) hterm,
    mul_le_mul (Context.unitless_mono hp hratio_nonneg hratio) hterm' hterm
      (narrow.unitless_nonneg (hratio_nonneg.trans hratio))⟩

theorem principal_toRat_mono :
    0 ≤ terms.principal.amount.toRat ∧
      terms.principal.amount.toRat ≤ terms'.principal.amount.toRat :=
  ⟨(Money.toRat_nonneg hadmits.principal_held).2 hadmits.principal_minor_nonneg,
    (Decimal.atMost_iff_toRat hadmits.principal_held.finite
      hadmits'.principal_held.finite).1 hle.principal⟩

theorem totalInterest_mono (h : engine.shares terms perYear = .ok s)
    (h' : engine.shares terms' perYear' = .ok s') :
    s.totalInterest.minor ≤ s'.totalInterest.minor := by
  obtain ⟨hx, hfinite⟩ := isFinite_of_shares hadmits h
  obtain ⟨hx', hfinite'⟩ := isFinite_of_shares hadmits' h'
  obtain ⟨hrate, htotal, -⟩ := shares_eq_ok h
  obtain ⟨hrate', htotal', -⟩ := shares_eq_ok h'
  obtain ⟨mode, hmode⟩ := exists_rounding hrate
  obtain ⟨hrate_nonneg, hrate_le⟩ := rateForTerm_mono hle hadmits hadmits' hx hx' hrate hrate'
  obtain ⟨hlent_nonneg, hlent_le⟩ := principal_toRat_mono hle hadmits hadmits'
  have hheld : terms'.principal.HeldIn terms.currency :=
    ⟨hadmits'.principal_held.finite, hle.currency.symm⟩
  rw [hmode] at htotal htotal'
  rw [Money.minor_of_times hadmits.principal_held hfinite htotal,
    Money.minor_of_times hheld hfinite' htotal']
  exact Money.product_mono hadmits.principal_held hheld (mul_nonneg hlent_nonneg hrate_nonneg)
    (mul_le_mul hlent_le hrate_le hrate_nonneg (hlent_nonneg.trans hlent_le)) mode

end

/-- Of two schedules the one for a loan that is no dearer has no more interest, and no more is
repaid by it: rounding never makes a smaller, cheaper or shorter loan cost more. -/
theorem compute_costsNoMore {schedule schedule' : Schedule}
    (hle : terms.NoDearer terms' perYear perYear')
    (h : (engine.compute terms dueDates perYear).outcome = .ok schedule)
    (h' : (engine.compute terms' dueDates' perYear').outcome = .ok schedule') :
    schedule.totalInterest.AtMost schedule'.totalInterest ∧
      schedule.totalRepayment.AtMost schedule'.totalRepayment := by
  obtain ⟨htotals, -⟩ := isFinite_of_compute h
  obtain ⟨htotals', -⟩ := isFinite_of_compute h'
  obtain ⟨run, hs⟩ := exists_run h
  obtain ⟨run', hs'⟩ := exists_run h'
  obtain ⟨hinterest, hrepaid⟩ := run.totals_eq hs
  obtain ⟨hinterest', hrepaid'⟩ := run'.totals_eq hs'
  have hlent := (principal_toRat_mono hle run.admits run'.admits).2
  have hmono : run.shares.totalInterest.amount.toRat ≤ run'.shares.totalInterest.amount.toRat := by
    have hle' := totalInterest_mono hle run.admits run'.admits run.shares_eq run'.shares_eq
    rw [run.totalInterest_held.toRat, run'.totalInterest_held.toRat, hle.currency]
    exact div_le_div_of_nonneg_right (by exact_mod_cast hle') (by positivity)
  rw [Decimal.atMost_iff_toRat (htotals _ (by simp [Schedule.totals]))
      (htotals' _ (by simp [Schedule.totals])),
    Decimal.atMost_iff_toRat (htotals _ (by simp [Schedule.totals]))
      (htotals' _ (by simp [Schedule.totals])), hinterest, hinterest', hrepaid, hrepaid']
  exact ⟨hmono, add_le_add hlent hmono⟩

/-- An engine with one digit for the rate, which it rounds up only from zero and five. -/
def coarse : Engine := { upward with rounding := some .zeroFiveUp }

def cheaperDollar : LoanTerms := { dollar with annualRate := .finite false 999 (-2) }

def dearerDollar : LoanTerms :=
  { dollarAtOnce with
    principal := .ofMinor longLoan.currency false 101
    annualRate := .ofNat 10
    term := 2 }

theorem noDearer_cheaperDollar :
    cheaperDollar.NoDearer dearerDollar (.ofNat 12) (.ofNat 1) where
  currency := rfl
  principal := (Decimal.atMost_iff_toRat rfl rfl).2 (by decide +kernel)
  annualRate := (Decimal.atMost_iff_toRat rfl rfl).2 (by decide +kernel)
  term := by decide
  perYear := (Decimal.atMost_iff_toRat rfl rfl).2 (by decide +kernel)

theorem compute_costsNoMore_coarse : ∃ s s',
    cheaperDollar.NoDearer dearerDollar (.ofNat 12) (.ofNat 1) ∧
      (coarse.compute cheaperDollar penniesDates (.ofNat 12)).outcome = .ok s ∧
      (coarse.compute dearerDollar [longLoan.disbursed] (.ofNat 1)).outcome = .ok s' ∧
      s.totalInterest.AtMost s'.totalInterest ∧ s.totalRepayment.AtMost s'.totalRepayment := by
  have hruns : ∀ run ∈ [(cheaperDollar, penniesDates, Decimal.ofNat 12),
      (dearerDollar, [longLoan.disbursed], .ofNat 1)],
      (coarse.compute run.1 run.2.1 run.2.2).outcome.toOption.isSome := by
    decide +kernel
  simp only [List.forall_mem_cons] at hruns
  obtain ⟨s, h⟩ := exists_ok_of_isSome hruns.1
  obtain ⟨s', h'⟩ := exists_ok_of_isSome hruns.2.1
  exact ⟨s, s', noDearer_cheaperDollar, h, h', compute_costsNoMore noDearer_cheaperDollar h h'⟩

end Engine
end AddOnLoan
