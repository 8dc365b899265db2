import AddOnLoan.Proofs.Engine.TermRate
import AddOnLoan.Proofs.Schedule.Cost

namespace AddOnLoan

theorem Context.Holds.hasDigits {ctx : Context} {x : ℚ} (h : ctx.Holds x) :
    HasDigits ctx.precision x := by
  obtain ⟨k, e, hk, -, rfl⟩ := h
  exact ⟨k, e, hk, rfl⟩

theorem Money.hasDigits_toRat {m : Money} (hm : m.IsFinite) :
    HasDigits (digitCount m.minor.natAbs) m.amount.toRat := by
  refine ⟨m.minor, -(m.currency.places : ℤ), abs_lt_pow_digitCount m.minor, ?_⟩
  rw [toRat_amount hm, zpow_neg, zpow_natCast, div_eq_mul_inv]

namespace Engine

open Context (InRange)

variable {engine : Engine} {terms : LoanTerms} {dueDates : List Date}
  {annualRate perYear rate : Decimal} {term : Int} {digits : Nat} {schedule : Schedule}

theorem hasDigits_rateForTerm (hx : annualRate.isFinite) (hy : perYear.IsPositive)
    (h : engine.rateForTerm annualRate perYear term = .ok rate)
    (hdigits : engine.ratePrecision = some digits) :
    HasDigits (digits + digitCount term.natAbs) rate.toRat := by
  obtain ⟨digits', narrow, hdigits', hnarrow, hrate⟩ := rateForTerm_eq_mul hx hy h
  cases hdigits.symm.trans hdigits'
  have hprecision := context_precision hnarrow
  have hp : 0 < narrow.precision := hprecision ▸ engine.precision_pos digits hdigits
  rw [hrate, ← hprecision]
  exact (Context.holds_rounded hp _).hasDigits.mul_int (abs_lt_pow_digitCount term)

/-- The interest of a schedule is that of a rate, rounded once, unless it is led astray. -/
structure InterestOnce (engine : Engine) (terms : LoanTerms) (schedule : Schedule)
    (mode : Rounding) (rate : Decimal) : Prop where
  once_iff : schedule.totalInterest.toRat =
      mode.atPlaces terms.currency.places (terms.principal.amount.toRat * rate.toRat) ↔
    ¬Money.Strays mode terms.currency.places (terms.principal.amount.toRat * rate.toRat)
  once : ∀ digits, engine.ratePrecision = some digits →
    digitCount terms.principal.minor.natAbs + digits + digitCount terms.term.natAbs ≤ 50 →
    InRange (terms.principal.amount.toRat * rate.toRat) →
      ¬Money.Strays mode terms.currency.places (terms.principal.amount.toRat * rate.toRat)

theorem exists_interestOnce (h : (engine.compute terms dueDates perYear).outcome = .ok schedule) :
    ∃ mode rate, engine.rounding = some mode ∧
      engine.rateForTerm terms.annualRate perYear terms.term = .ok rate ∧
      InterestOnce engine terms schedule mode rate := by
  obtain ⟨run, hs⟩ := exists_run h
  obtain ⟨hannual, hfinite⟩ := isFinite_of_shares run.admits run.shares_eq
  obtain ⟨hrate, htotal, -⟩ := shares_eq_ok run.shares_eq
  obtain ⟨mode, hmode⟩ := exists_rounding hrate
  obtain ⟨_, -, rfl⟩ := schedule_eq_ok hs
  have hlent := run.admits.principal_held
  rw [hmode] at htotal
  refine ⟨mode, run.shares.rate, hmode, hrate, Money.toRat_of_times_iff hlent.finite hfinite htotal,
    fun digits hdigits hshort hrange => ?_⟩
  refine Money.not_strays_of_hasDigits (HasDigits.mono ?_ hshort) hrange
  rw [add_assoc]
  exact (Money.hasDigits_toRat hlent.finite).mul
    (hasDigits_rateForTerm hannual run.admits.perYear_pos hrate hdigits)

/-- Whatever is multiplied, the interest included, is the exact product, rounded once in the
direction asked for, unless the fifty digits it is found with lead it astray. -/
theorem multiplies_and_interestOnce {m : Money} {factor : Decimal} (hm : m.IsFinite)
    (hfactor : factor.isFinite) (mode : Rounding) :
    m.Multiplies factor mode ∧
    ∀ (engine : Engine) (terms : LoanTerms) (dueDates : List Date) (perYear : Decimal)
      (schedule : Schedule), (engine.compute terms dueDates perYear).outcome = .ok schedule →
      ∃ direction rate, engine.rounding = some direction ∧
        engine.rateForTerm terms.annualRate perYear terms.term = .ok rate ∧
        InterestOnce engine terms schedule direction rate :=
  ⟨Money.multiplies hm hfactor mode, fun _ _ _ _ _ h => exists_interestOnce h⟩

theorem multiplies_and_interestOnce_dollar :
    Money.oneYen.TimesOnce (.finite false 5 (-1)) .halfEven ∧ ∃ s rate,
      (({} : Engine).compute dollar penniesDates (.ofNat 1)).outcome = .ok s ∧
        ({} : Engine).rateForTerm dollar.annualRate (.ofNat 1) dollar.term = .ok rate ∧
        s.totalInterest.toRat = Rounding.halfEven.atPlaces dollar.currency.places
          (dollar.principal.amount.toRat * rate.toRat) := by
  have hyen : Money.oneYen.IsFinite := rfl
  have hhalf : (Decimal.finite false 5 (-1)).isFinite := rfl
  obtain ⟨hmultiplies, hinterest⟩ := multiplies_and_interestOnce hyen hhalf .halfEven
  constructor
  · have hproduct : Money.oneYen.amount.toRat * (Decimal.finite false 5 (-1)).toRat = 1 / 2 := by
      decide +kernel
    refine hmultiplies.once ?_ ?_ <;> rw [hproduct]
    · exact ⟨5, -1, by norm_num, by norm_num⟩
    · exact Context.inRange_of_bounds (by norm_num) (by norm_num)
  · have hnearest : Rounding.halfEven.isNearest := rfl
    obtain ⟨s, hs, -⟩ := exists_schedule_dollar hnearest
    obtain ⟨mode, rate, hmode, hrate, honce⟩ := hinterest _ _ _ _ _ hs
    cases hmode
    have hvalue : dollar.principal.amount.toRat * rate.toRat = 3 / 100 := by
      have hrate' : ({} : Engine).rateForTerm dollar.annualRate (.ofNat 1) dollar.term =
          .ok (.finite false 3 (-2)) := by decide +kernel
      cases hrate.symm.trans hrate'
      decide +kernel
    refine ⟨s, rate, hs, hrate, honce.once_iff.2 (honce.once 8 rfl (by decide +kernel) ?_)⟩
    rw [hvalue]
    exact Context.inRange_of_bounds (by norm_num) (by norm_num)

end Engine
end AddOnLoan
