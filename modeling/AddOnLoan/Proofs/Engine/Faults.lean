import AddOnLoan.Proofs.Engine.Refusals

namespace AddOnLoan

/-- Terms as they are read from a request: amounts of at most fifty digits, a finite rate, and a
length that is counted in a known unit. -/
structure LoanTerms.Plain (terms : LoanTerms) : Prop where
  principal : terms.principal.ShortIn terms.currency
  rate : terms.annualRate.isFinite
  unit : ∃ u, terms.termFrequency = .unit u

namespace Engine

variable {engine : Engine} {terms : LoanTerms} {dueDates : List Date} {perYear : Decimal}
  {s : Shares}

theorem isFinite_quotient {room : Option Nat} {ctx : Context} {x y r : Decimal} (hx : x.isFinite)
    (hy : y.isFinite) (hzero : y.isZero = false) (h : quotient room ctx x y = .ok r) :
    r.isFinite := by
  obtain ⟨s, c, e, rfl⟩ := Decimal.eq_finite hx
  obtain ⟨s', c', e', rfl⟩ := Decimal.eq_finite hy
  have hc' : c' ≠ 0 := by
    rintro rfl
    cases hzero
  obtain ⟨c'', e'', rfl, -⟩ := Context.div_shape hc' (div_of_quotient h)
  rfl

theorem isFinite_rateForTerm {annualRate r : Decimal} {term : Int} (hx : annualRate.isFinite)
    (hy : perYear.isFinite) (hzero : perYear.isZero = false)
    (h : engine.rateForTerm annualRate perYear term = .ok r) : r.isFinite := by
  obtain ⟨_, _, percent, unitless, _, -, -, hpercent, hunitless, -, hr⟩ := rateForTerm_eq_ok h
  obtain ⟨s, c, e, rfl⟩ := Decimal.eq_finite (isFinite_quotient (y := .ofNat 100)
    (isFinite_quotient hx hy hzero hpercent) rfl rfl hunitless)
  rw [Decimal.ofInt] at hr
  obtain ⟨c', e', rfl, -⟩ := Context.mul_shape hr
  rfl

theorem Unfit.eq_terms {r : Refusal} (hr : Unfit terms r) (h : terms.Plain) :
    (∃ e, r = .terms e) ∨
      longestNumeral < digitCount terms.term.natAbs ∧ r = .input .longNumeral := by
  cases hr with
  | term => exact .inl ⟨_, rfl⟩
  | longTerm hlong => exact .inr ⟨fitsNumeral_eq_false_iff.1 hlong, rfl⟩
  | negativePrincipal => exact .inl ⟨_, rfl⟩
  | negativeRate => exact .inl ⟨_, rfl⟩
  | principalSign hsign =>
    rw [Money.isNegative_eq h.principal.held.finite] at hsign
    cases hsign
  | rateSign hsign =>
    obtain ⟨s, c, e, hrate⟩ := Decimal.eq_finite h.rate
    rw [hrate] at hsign
    cases hsign

theorem context_cause {digits : Nat} {mode : Rounding} (hmode : engine.rounding = some mode)
    {r : Refusal} (h : engine.context digits = .error r) :
    mostDigits < digits ∧ (r = .outOfRange .digitCount ∨ r = .input .ratePrecisionPastLimit) := by
  have hmost : mostDigits < (2 : Nat) ^ (63 : Nat) := by decide
  unfold context at h
  split at h
  · cases h
    exact ⟨by omega, .inl rfl⟩
  · split at h
    · cases h
      exact ⟨by assumption, .inr rfl⟩
    · rw [hmode] at h
      cases h

theorem context_precision {digits : Nat} {ctx : Context} (h : engine.context digits = .ok ctx) :
    ctx.precision = digits := by
  unfold context at h
  split at h
  · cases h
  · split at h
    · cases h
    · split at h <;> cases h
      rfl

theorem context_rounding {digits : Nat} {ctx : Context} (h : engine.context digits = .ok ctx) :
    engine.rounding = some ctx.rounding := by
  unfold context at h
  split at h
  · cases h
  · split at h
    · cases h
    · split at h <;> cases h
      assumption

theorem quotient_cause {room : Option Nat} {ctx : Context} {x y : Decimal} {r : Refusal}
    (hp : 0 < ctx.precision) (hx : x.isFinite) (hy : y.isFinite) (hzero : y.isZero = false)
    (h : quotient room ctx x y = .error r) :
    r = .signal .overflow ∨ (∃ most ∈ room, most < ctx.precision) ∧ r = .outOfMemory := by
  unfold quotient at h
  split at h
  · next hroom =>
    cases h
    simp only [Bool.and_eq_true, Option.any_eq_true, decide_eq_true_eq] at hroom
    exact .inr ⟨hroom.1.1.1, rfl⟩
  · obtain ⟨signal, hsignal, rfl⟩ := mapError_eq_error_iff.1 h
    obtain ⟨s, c, e, rfl⟩ := Decimal.eq_finite hx
    obtain ⟨s', c', e', rfl⟩ := Decimal.eq_finite hy
    have hc' : c' ≠ 0 := by
      rintro rfl
      cases hzero
    rw [(Context.div_eq_error hp hc' hsignal).1]
    exact .inl rfl

theorem rateForTerm_cause {digits : Nat} {mode : Rounding} {annualRate : Decimal} {term : Int}
    {r : Refusal} (hdigits : engine.ratePrecision = some digits)
    (hmode : engine.rounding = some mode) (hx : annualRate.isFinite) (hy : perYear.isFinite)
    (hzero : perYear.isZero = false)
    (h : engine.rateForTerm annualRate perYear term = .error r) :
    r = .signal .overflow ∨
      ((∃ most ∈ engine.room, most < digits) ∨ mostDigits < digits + digitCount term.natAbs) ∧
        (r = .outOfRange .digitCount ∨ r = .outOfMemory ∨
          r = .input .ratePrecisionPastLimit) := by
  -- both divisions are done with the digits that are set, and only the product with more
  have hpos := engine.precision_pos digits hdigits
  simp only [rateForTerm, hdigits] at h
  rcases bind_eq_error_iff.1 h with h | ⟨narrow, hnarrow, h⟩
  · obtain ⟨hmost, hr⟩ := context_cause hmode h
    exact .inr ⟨.inr (by omega), by tauto⟩
  have hprecision := context_precision hnarrow
  rcases bind_eq_error_iff.1 h with h | ⟨percent, hpercent, h⟩
  · rcases quotient_cause (by omega) hx hy hzero h with rfl | ⟨hroom, rfl⟩
    · exact .inl rfl
    · exact .inr ⟨.inl (hprecision ▸ hroom), by tauto⟩
  have hfinite := isFinite_quotient hx hy hzero hpercent
  rcases bind_eq_error_iff.1 h with h | ⟨unitless, hunitless, h⟩
  · rcases quotient_cause (by omega) hfinite rfl rfl h with rfl | ⟨hroom, rfl⟩
    · exact .inl rfl
    · exact .inr ⟨.inl (hprecision ▸ hroom), by tauto⟩
  rcases bind_eq_error_iff.1 h with h | ⟨wide, hwide, h⟩
  · obtain ⟨hmost, hr⟩ := context_cause hmode h
    exact .inr ⟨.inr hmost, by tauto⟩
  · obtain ⟨signal, hsignal, rfl⟩ := mapError_eq_error_iff.1 h
    obtain ⟨s, c, e, rfl⟩ := Decimal.eq_finite (isFinite_quotient hfinite rfl rfl hunitless)
    have hprecision' := context_precision hwide
    rw [Decimal.ofInt, Context.mul_finite] at hsignal
    rw [(Context.round_eq_error (by omega) hsignal).1]
    exact .inl rfl

/-- Arithmetic that has no result, though the terms are admitted: the rate for the term or the
interest is out of range, or the rate is asked for with more digits than there is room for. -/
inductive Overflows (engine : Engine) (terms : LoanTerms) (perYear : Decimal) : Refusal → Prop
  | rate
    (h : engine.rateForTerm terms.annualRate perYear terms.term = .error (.signal .overflow)) :
    Overflows engine terms perYear (.signal .overflow)
  | digits {digits : Nat} {r : Refusal} (hdigits : engine.ratePrecision = some digits)
    (hmany : (∃ most ∈ engine.room, most < digits) ∨
      mostDigits < digits + digitCount terms.term.natAbs)
    (h : engine.rateForTerm terms.annualRate perYear terms.term = .error r)
    (hr : r = .outOfRange .digitCount ∨ r = .outOfMemory) : Overflows engine terms perYear r
  | interest {rate : Decimal}
    (hrate : engine.rateForTerm terms.annualRate perYear terms.term = .ok rate)
    (h : moneyContext.mul terms.principal.amount rate = .error .overflow) :
    Overflows engine terms perYear (.money (.signal .overflow))

theorem Overflows.not_isAboutInput {r : Refusal} (h : Overflows engine terms perYear r) :
    r.kind.isAboutInput = false := by
  cases h with
  | rate => rfl
  | digits _ _ _ hr => rcases hr with rfl | rfl <;> rfl
  | interest => rfl

theorem Overflows.shares_eq {r : Refusal} (h : Overflows engine terms perYear r) :
    engine.shares terms perYear = .error r := by
  cases h with
  | rate h => exact bind_eq_error_iff.2 (.inl h)
  | digits _ _ h => exact bind_eq_error_iff.2 (.inl h)
  | @interest rate hrate h =>
    have htimes : terms.principal.times rate engine.rounding = .error (.signal .overflow) := by
      rw [Money.times, h]
      rfl
    refine bind_eq_error_iff.2 (.inr ⟨rate, hrate, bind_eq_error_iff.2 (.inl ?_)⟩)
    exact mapError_eq_error_iff.2 ⟨_, htimes, rfl⟩

theorem shares_yields (hplain : terms.Plain) {digits : Nat} {mode : Rounding}
    (hdigits : engine.ratePrecision = some digits) (hmode : engine.rounding = some mode)
    (hn : terms.repayments ≠ 0) (hperYear : perYear.isFinite) (hzero : perYear.isZero = false) :
    Yields (engine.shares terms perYear)
      (Shares.All (Money.ShortIn terms.currency) terms.principal)
      (fun r => r.kind.isAboutLoan ∨ Overflows engine terms perYear r ∨
        r = .input .ratePrecisionPastLimit ∧
          engine.rateForTerm terms.annualRate perYear terms.term = .error r) := by
  have hheld : ∀ e : MoneyError, (∃ x, e = .cannotBeHeld x terms.currency.places) →
      (Refusal.money e).kind.isAboutLoan ∨ Overflows engine terms perYear (.money e) ∨
        Refusal.money e = .input .ratePrecisionPastLimit ∧
          engine.rateForTerm terms.annualRate perYear terms.term = .error (.money e) := by
    rintro _ ⟨x, rfl⟩
    exact .inl rfl
  rw [shares, hmode]
  refine Yields.bind (P := fun rate =>
    engine.rateForTerm terms.annualRate perYear terms.term = .ok rate)
    ⟨fun h => h, fun {r} h => ?_⟩ fun rate hrate => ?_
  · rcases rateForTerm_cause hdigits hmode hplain.rate hperYear hzero h with
      rfl | ⟨hmany, rfl | rfl | rfl⟩
    · exact .inr (.inl (.rate h))
    · exact .inr (.inl (.digits hdigits hmany h (.inl rfl)))
    · exact .inr (.inl (.digits hdigits hmany h (.inr rfl)))
    · exact .inr (.inr ⟨rfl, h⟩)
  obtain ⟨s, c, e, rfl⟩ :=
    Decimal.eq_finite (isFinite_rateForTerm hplain.rate hperYear hzero hrate)
  refine Yields.bind (Yields.mapError
    ((Money.times_yields hplain.principal.held mode).mono_cause ?_)) fun total htotal => ?_
  · rintro e' (h | ⟨h, rfl⟩)
    · exact hheld e' h
    · exact .inr (.inl (.interest hrate h))
  refine Yields.bind (Yields.mapError
    ((Money.dividedBy_yields htotal hn mode).mono_cause hheld)) fun interest hinterest => ?_
  refine Yields.bind (Yields.mapError
    ((Money.dividedBy_yields hplain.principal hn mode).mono_cause hheld))
    fun principal hprincipal => ?_
  exact .ok ⟨hplain.principal, htotal, hprincipal, hinterest⟩

inductive Fault (engine : Engine) (terms : LoanTerms) : Refusal → Prop
  | overflow {dates : List Date} {perYear : Decimal} {r : Refusal}
    (hdates : terms.dueDates.outcome = .ok dates)
    (hperYear : periodsPerYear terms.termFrequency = .ok perYear)
    (hadmits : Admits terms dates perYear) (h : Overflows engine terms perYear r) :
    Fault engine terms r

/-- The rate for admitted terms is asked for with more digits than any number can have. -/
inductive PastLimit (engine : Engine) (terms : LoanTerms) : Prop
  | rate {dates : List Date} {perYear : Decimal} (hdates : terms.dueDates.outcome = .ok dates)
    (hperYear : periodsPerYear terms.termFrequency = .ok perYear)
    (hadmits : Admits terms dates perYear)
    (h : engine.rateForTerm terms.annualRate perYear terms.term =
      .error (.input .ratePrecisionPastLimit)) : PastLimit engine terms

theorem periodsPerYear_unit {frequency : Frequency}
    (h : periodsPerYear frequency = .ok perYear) : perYear.isFinite ∧ perYear.isZero = false := by
  cases frequency with
  | unsupported name => cases h
  | unit u =>
    cases h
    cases u <;> exact ⟨rfl, rfl⟩

/-- A count that has to be written on the way to a schedule has too many digits for that: one that
terms are turned down for, or the length of a loan whose due dates are laid out. -/
inductive MeetsLongCount (terms : LoanTerms) : Prop
  | dates (h : terms.RefusesLongCount)
  | term {dates : List Date} (hdates : terms.dueDates.outcome = .ok dates)
    (h : longestNumeral < digitCount terms.term.natAbs)

theorem MeetsLongCount.generate (h : MeetsLongCount terms) (hplain : terms.Plain) :
    (engine.generate terms).outcome = .error (.input .longNumeral) := by
  cases h with
  | dates h => exact generate_eq_error_iff.2 (.inl h.dueDates)
  | term hdates hlong =>
    obtain ⟨u, hu⟩ := hplain.unit
    have hperYear : periodsPerYear terms.termFrequency = .ok (.ofNat u.perYear) := by
      rw [hu]
      rfl
    obtain ⟨sign, hsign, hpos⟩ := periodsPerYear_eq_ok hperYear
    refine generate_eq_error_iff.2 (.inr ⟨_, hdates, .inr ⟨_, hperYear, ?_⟩⟩)
    have hlaid := LoanTerms.laidOut_of_dueDates hdates
    exact compute_of_check_error
      (check_of_longTerm hlaid.repayments_fit hlaid.repayments_pos hlaid.count hsign hpos hlong)

theorem generate_eq_error_iff_uncaught (hplain : terms.Plain) {digits : Nat} {mode : Rounding}
    (hdigits : engine.ratePrecision = some digits) (hmode : engine.rounding = some mode)
    {r : Refusal} :
    (engine.generate terms).outcome = .error r ∧ r.kind.isAboutLoan = false ↔
      Fault engine terms r ∨ r = .input .ratePrecisionPastLimit ∧ PastLimit engine terms ∨
        r = .input .longNumeral ∧ MeetsLongCount terms := by
  constructor
  · rintro ⟨h, hkind⟩
    have hterms : ∀ e, r ≠ .terms e := by
      rintro e rfl
      cases hkind
    rcases generate_eq_error_iff.1 h with h | ⟨dates, hdates, h | ⟨perYear, hperYear, h⟩⟩
    · rcases LoanTerms.dueDates_eq_error h with ⟨-, e, he⟩ | ⟨hlong, rfl⟩
      · exact absurd he (hterms e)
      · exact .inr (.inr ⟨rfl, .dates hlong⟩)
    · obtain ⟨u, hu⟩ := hplain.unit
      rw [hu] at h
      cases h
    obtain ⟨sign, hsign, hpos⟩ := periodsPerYear_eq_ok hperYear
    obtain ⟨hfinite, hzero⟩ := periodsPerYear_unit hperYear
    rcases compute_eq_error (LoanTerms.laidOut_of_dueDates hdates) hsign hpos h with
      hunfit | ⟨hadmits, hshares⟩
    · rcases hunfit.eq_terms hplain with ⟨e, he⟩ | ⟨hlong, rfl⟩
      · exact absurd he (hterms e)
      · exact .inr (.inr ⟨rfl, .term hdates hlong⟩)
    -- sums of amounts with fifty digits are never out of range, so the shares are at fault if any
    have hn := hadmits.repayments_pos
    have hyields := shares_yields hplain hdigits hmode (by omega) hfinite hzero
    rcases hshares with hshares | ⟨s, hshares⟩
    · rcases hyields.cause hshares with hloan | hoverflow | ⟨rfl, hrate⟩
      · rw [hkind] at hloan
        cases hloan
      · exact .inl (.overflow hdates hperYear hadmits hoverflow)
      · exact .inr (.inl ⟨rfl, .rate hdates hperYear hadmits hrate⟩)
    · have hcompute := compute_yields (Money.closedUnderSums_shortIn terms.currency) hadmits
        hshares (hyields.result hshares)
      cases hcompute.cause h with
      | amount he =>
        obtain ⟨x, rfl⟩ := he
        cases hkind
      | tooSmall => cases hkind
  · rintro (⟨hdates, hperYear, hadmits, hoverflow⟩ | ⟨rfl, hdates, hperYear, hadmits, hrate⟩ |
      ⟨rfl, hlong⟩)
    · refine ⟨generate_eq_error_iff.2 (.inr ⟨_, hdates, .inr ⟨_, hperYear, ?_⟩⟩),
        (Bool.or_eq_false_iff.1 hoverflow.not_isAboutInput).1⟩
      exact compute_of_shares_error hadmits hoverflow.shares_eq
    · refine ⟨generate_eq_error_iff.2 (.inr ⟨_, hdates, .inr ⟨_, hperYear, ?_⟩⟩), rfl⟩
      exact compute_of_shares_error hadmits (bind_eq_error_iff.2 (.inl hrate))
    · exact ⟨hlong.generate hplain, rfl⟩

/-- The refusals without a message are exactly those of the arithmetic with admitted terms that are
not about the digits that are set. -/
theorem generate_eq_error_iff_fault (hplain : terms.Plain) {digits : Nat} {mode : Rounding}
    (hdigits : engine.ratePrecision = some digits) (hmode : engine.rounding = some mode)
    {r : Refusal} :
    (engine.generate terms).outcome = .error r ∧ r.kind.isAboutInput = false ↔
      Fault engine terms r := by
  constructor
  · rintro ⟨h, hkind⟩
    have hloan := (Bool.or_eq_false_iff.1 hkind).1
    rcases (generate_eq_error_iff_uncaught hplain hdigits hmode).1 ⟨h, hloan⟩ with
      hfault | ⟨rfl, -⟩ | ⟨rfl, -⟩
    · exact hfault
    · cases hkind
    · cases hkind
  · intro hfault
    obtain ⟨h, -⟩ := (generate_eq_error_iff_uncaught hplain hdigits hmode).2 (.inl hfault)
    obtain ⟨-, -, -, hoverflow⟩ := hfault
    exact ⟨h, hoverflow.not_isAboutInput⟩

end Engine
end AddOnLoan
