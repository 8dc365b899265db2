import AddOnLoan.Engine
import AddOnLoan.Proofs.Money.Shares

namespace AddOnLoan

theorem Decimal.isNumber_of_order0 {x : Decimal} {s : Int} (h : x.order0 = .ok s) :
    x.IsNumber := by
  cases x with
  | nan => cases h
  | _ => trivial

theorem Money.isFinite_of_isNumber {m : Money} (h : m.amount.IsNumber) : m.IsFinite := by
  obtain ⟨c, x, hx⟩ := m
  cases x with
  | finite => rfl
  | infinity => exact hx.elim
  | nan => exact h.elim

theorem Money.exists_isZero {m : Money} (hm : m.IsFinite) : ∃ b, m.isZero = .ok b := by
  obtain ⟨s, n, h⟩ := Money.eq_ofMinor hm
  exact ⟨_, by rw [h]; rfl⟩

/-- The row of a payout. The zeros that are due with it end where the principal does, or at the
nearest exponent in range. -/
theorem Installment.disbursement_finite (date : Date) (s : Bool) (c : Nat) (e : Int) :
    ∃ t zero, zero = .finite t 0 (max (⟨28, .halfEven⟩ : Context).etiny (min e Context.emax)) ∧
      Installment.disbursement date (.finite s c e) =
        .ok ⟨0, none, date, .finite s c e, zero, zero, zero, .finite s c e⟩ := by
  obtain ⟨t, -, hadd⟩ := (⟨28, .halfEven⟩ : Context).add_same s c (!s) c e
  rw [Decimal.signed_not, add_neg_cancel, Int.natAbs_zero, Context.round, if_pos rfl] at hadd
  have hsub : (⟨28, .halfEven⟩ : Context).sub (.finite s c e) (.finite s c e) = .ok _ := hadd
  exact ⟨t, _, rfl, by rw [Installment.disbursement, hsub]; rfl⟩

namespace Engine

variable {engine : Engine} {terms : LoanTerms} {dueDates : List Date} {perYear : Decimal}

/-- What terms and due dates satisfy when no check turns them down. -/
structure Admits (terms : LoanTerms) (dueDates : List Date) (perYear : Decimal) : Prop where
  repayments_fit : fitsNumeral terms.repayments = true
  repayments_pos : 1 ≤ terms.repayments
  count : (dueDates.length : Int) = terms.repayments
  perYear_pos : ∃ s, perYear.order0 = .ok s ∧ 0 < s
  term_fit : fitsNumeral terms.term = true
  term_pos : 1 ≤ terms.term
  principal_nonneg : ∃ s, terms.principal.amount.order0 = .ok s ∧ 0 ≤ s
  rate_nonneg : ∃ s, terms.annualRate.order0 = .ok s ∧ 0 ≤ s
  order : (terms.disbursed :: dueDates).IsChain fun earlier later => ¬later < earlier

theorem requireOrder_eq_ok_iff {previous : Date} {u : Unit} :
    (requireOrder previous dueDates).outcome = .ok u ↔
      (previous :: dueDates).IsChain fun earlier later => ¬later < earlier := by
  induction dueDates generalizing previous with
  | nil => exact ⟨fun _ => .singleton _, fun _ => rfl⟩
  | cons due rest ih =>
    simp only [requireOrder, Traced.outcome_bind, bind_eq_ok_iff,
      Traced.outcome_require_eq_ok_iff, ih, List.isChain_cons_cons, TermsError.isWritable]
    simp

theorem isNegative_eq_ok_iff {m : Money} {b : Bool} :
    m.isNegative = .ok b ↔ ∃ s, m.amount.order0 = .ok s ∧ decide (s < 0) = b := by
  rw [Money.isNegative]
  cases m.amount.order0 <;> simp [Except.map]

theorem check_eq_ok_iff :
    (check terms dueDates perYear).outcome = .ok () ↔ Admits terms dueDates perYear := by
  simp only [check, Traced.outcome_bind, Traced.outcome_liftM_signal, bind_eq_ok_iff,
    Traced.outcome_require_eq_ok_iff, requireOrder_eq_ok_iff, mapError_eq_ok_iff,
    isNegative_eq_ok_iff, TermsError.isWritable, true_and]
  constructor
  · rintro ⟨_, ⟨hfit, hn⟩, _, ⟨-, hcount⟩, s, hs, _, hpos, _, ⟨hfit', hterm⟩, _, ⟨s', hs', rfl⟩,
      _, hprincipal, s'', hs'', _, hrate, horder⟩
    simp only [decide_eq_true_eq, beq_iff_eq, Bool.not_eq_true', decide_eq_false_iff_not,
      not_lt] at hn hcount hpos hterm hprincipal hrate
    exact ⟨hfit, hn, hcount, ⟨s, hs, hpos⟩, hfit', hterm, ⟨s', hs', hprincipal⟩,
      ⟨s'', hs'', hrate⟩, horder⟩
  · rintro ⟨hfit, hn, hcount, ⟨s, hs, hpos⟩, hfit', hterm, ⟨s', hs', hprincipal⟩,
      ⟨s'', hs'', hrate⟩, horder⟩
    exact ⟨(), ⟨hfit, by simpa⟩, (), ⟨hfit, by simpa⟩, s, hs, (), by simpa, (),
      ⟨hfit', by simpa⟩, _, ⟨s', hs', rfl⟩, (), by simpa, s'', hs'', (), by simpa, horder⟩

theorem shares_eq_ok {s : Shares} (h : engine.shares terms perYear = .ok s) :
    engine.rateForTerm terms.annualRate perYear terms.term = .ok s.rate ∧
      terms.principal.times s.rate engine.rounding = .ok s.totalInterest ∧
      s.totalInterest.dividedBy (.ofInt terms.repayments) engine.rounding = .ok s.interest ∧
      terms.principal.dividedBy (.ofInt terms.repayments) engine.rounding = .ok s.principal := by
  obtain ⟨rate, hrate, h⟩ := bind_eq_ok_iff.1 h
  obtain ⟨total, htotal, h⟩ := bind_eq_ok_iff.1 h
  obtain ⟨interest, hinterest, h⟩ := bind_eq_ok_iff.1 h
  obtain ⟨principal, hprincipal, h⟩ := bind_eq_ok_iff.1 h
  cases h
  exact ⟨hrate, mapError_eq_ok_iff.1 htotal, mapError_eq_ok_iff.1 hinterest,
    mapError_eq_ok_iff.1 hprincipal⟩

theorem div_of_quotient {room : Option Nat} {ctx : Context} {x y r : Decimal}
    (h : quotient room ctx x y = .ok r) : ctx.div x y = .ok r := by
  unfold quotient at h
  split at h
  · cases h
  · exact mapError_eq_ok_iff.1 h

theorem isNumber_quotient {room : Option Nat} {ctx : Context} {x y r : Decimal}
    (hx : x.IsNumber) (hy : y.IsNumber) (h : quotient room ctx x y = .ok r) : r.IsNumber :=
  Context.isNumber_div hx hy (div_of_quotient h)

theorem rateForTerm_eq_ok {annualRate r : Decimal} {term : Int}
    (h : engine.rateForTerm annualRate perYear term = .ok r) :
    ∃ digits narrow percent unitless wide, engine.ratePrecision = some digits ∧
      engine.context digits = .ok narrow ∧
      quotient engine.room narrow annualRate perYear = .ok percent ∧
      quotient engine.room narrow percent (.ofNat 100) = .ok unitless ∧
      engine.context (digits + digitCount term.natAbs) = .ok wide ∧
      wide.mul unitless (.ofInt term) = .ok r := by
  unfold rateForTerm at h
  split at h
  · cases h
  · next digits hdigits =>
    obtain ⟨narrow, hnarrow, h⟩ := bind_eq_ok_iff.1 h
    obtain ⟨percent, hpercent, h⟩ := bind_eq_ok_iff.1 h
    obtain ⟨unitless, hunitless, h⟩ := bind_eq_ok_iff.1 h
    obtain ⟨wide, hwide, h⟩ := bind_eq_ok_iff.1 h
    exact ⟨digits, narrow, percent, unitless, wide, hdigits, hnarrow, hpercent, hunitless, hwide,
      mapError_eq_ok_iff.1 h⟩

theorem isNumber_rateForTerm {annualRate r : Decimal} {term : Int} (hx : annualRate.IsNumber)
    (hy : perYear.IsNumber) (h : engine.rateForTerm annualRate perYear term = .ok r) :
    r.IsNumber := by
  obtain ⟨_, _, percent, unitless, _, -, -, hpercent, hunitless, -, hr⟩ := rateForTerm_eq_ok h
  have hnum := isNumber_quotient hx hy hpercent
  exact Context.isNumber_mul (isNumber_quotient (y := .ofNat 100) hnum trivial hunitless)
    (y := .ofInt term) trivial hr

theorem Admits.principal_held (h : Admits terms dueDates perYear) :
    terms.principal.HeldIn terms.currency := by
  obtain ⟨_, hsign, -⟩ := h.principal_nonneg
  exact ⟨Money.isFinite_of_isNumber (Decimal.isNumber_of_order0 hsign), rfl⟩

theorem shares_held {s : Shares} (hadmits : Admits terms dueDates perYear)
    (h : engine.shares terms perYear = .ok s) : s.totalInterest.HeldIn terms.currency ∧
      s.interest.HeldIn terms.currency ∧ s.principal.HeldIn terms.currency := by
  obtain ⟨hrate, htotal, hinterest, hprincipal⟩ := shares_eq_ok h
  obtain ⟨_, hannual, -⟩ := hadmits.rate_nonneg
  obtain ⟨_, hperYear, -⟩ := hadmits.perYear_pos
  have hnumber := isNumber_rateForTerm (Decimal.isNumber_of_order0 hannual)
    (Decimal.isNumber_of_order0 hperYear) hrate
  have htotal_held := Money.heldIn_times hadmits.principal_held hnumber htotal
  exact ⟨htotal_held, (Money.dividedBy_eq_ok htotal_held hadmits.repayments_pos hinterest).1,
    (Money.dividedBy_eq_ok hadmits.principal_held hadmits.repayments_pos hprincipal).1⟩

theorem lastShares_eq_ok {s : Shares} {p : Progress} {l : LastShares}
    (h : lastShares terms s p = .ok l) :
    (∃ sum, p.principal.plus s.principal = .ok sum ∧
        sum.minus terms.principal = .ok l.principalDrift) ∧
      (∃ sum, p.interest.plus s.interest = .ok sum ∧
        sum.minus s.totalInterest = .ok l.interestDrift) ∧
      s.principal.minus l.principalDrift = .ok l.principal ∧
      s.interest.minus l.interestDrift = .ok l.interest := by
  obtain ⟨sum, hsum, h⟩ := bind_eq_ok_iff.1 h
  obtain ⟨drift, hdrift, h⟩ := bind_eq_ok_iff.1 h
  obtain ⟨sum', hsum', h⟩ := bind_eq_ok_iff.1 h
  obtain ⟨drift', hdrift', h⟩ := bind_eq_ok_iff.1 h
  obtain ⟨principal, hprincipal, h⟩ := bind_eq_ok_iff.1 h
  obtain ⟨interest, hinterest, h⟩ := bind_eq_ok_iff.1 h
  cases h
  exact ⟨⟨sum, hsum, hdrift⟩, ⟨sum', hsum', hdrift'⟩, hprincipal, hinterest⟩

theorem reportDrift_outcome {l : LastShares} (h : l.principalDrift.IsFinite)
    (h' : l.interestDrift.IsFinite) : (reportDrift l).outcome = .ok () := by
  obtain ⟨zero, hzero⟩ := Money.exists_isZero h
  obtain ⟨zero', hzero'⟩ := Money.exists_isZero h'
  simp only [reportDrift, Traced.outcome_bind, Traced.outcome_liftM_signal, hzero, hzero',
    mapError_ok, ok_bind]
  split <;> rfl

theorem collectLast_eq_ok {s : Shares} {p q : Progress} {due : Date}
    (h : (collectLast terms s p due).outcome = .ok q) :
    ∃ l, lastShares terms s p = .ok l ∧ l.principal.isNegative = .ok false ∧
      p.collect due l.principal l.interest = .ok q := by
  simp only [collectLast, Traced.outcome_bind, Traced.outcome_liftM_signal,
    Traced.outcome_liftM_money, bind_eq_ok_iff, mapError_eq_ok_iff,
    Traced.outcome_require_eq_ok_iff, Bool.not_eq_true'] at h
  obtain ⟨l, hl, _, -, _, hneg, _, ⟨-, rfl⟩, hq⟩ := h
  exact ⟨l, hl, hneg, hq⟩

/-- The stages of a computation up to the last row. -/
structure Run (engine : Engine) (terms : LoanTerms) (dueDates : List Date)
    (perYear : Decimal) where
  admits : Admits terms dueDates perYear
  shares : Shares
  payout : Installment
  first : List Date
  last : Date
  even : Progress
  full : Progress
  dueDates_eq : dueDates = first ++ [last]
  shares_eq : engine.shares terms perYear = .ok shares
  payout_eq : Installment.disbursement terms.disbursed terms.principal.amount = .ok payout
  even_eq : first.foldlM (fun p due => p.collect due shares.principal shares.interest)
    (Progress.start terms payout) = .ok even
  full_eq : (collectLast terms shares even last).outcome = .ok full

theorem exists_run {s : Schedule} (h : (engine.compute terms dueDates perYear).outcome = .ok s) :
    ∃ run : Run engine terms dueDates perYear, schedule terms run.shares run.full = .ok s := by
  simp only [compute, Traced.outcome_bind, Traced.outcome_liftM, Traced.outcome_liftM_signal,
    Traced.outcome_liftM_money, Traced.outcome_report, bind_eq_ok_iff, mapError_eq_ok_iff] at h
  obtain ⟨_, hcheck, shares, hshares, _, -, payout, hpayout, even, heven, h⟩ := h
  have hadmits := check_eq_ok_iff.1 hcheck
  -- at least one repayment is asked for, and there is a date for each
  have hne : dueDates ≠ [] := by
    rintro rfl
    have := hadmits.count
    have := hadmits.repayments_pos
    simp only [List.length_nil] at *
    omega
  rw [List.getLast?_eq_some_getLast hne] at h
  simp only [Traced.outcome_bind, Traced.outcome_liftM_money, bind_eq_ok_iff,
    mapError_eq_ok_iff] at h
  obtain ⟨full, hfull, hs⟩ := h
  exact ⟨⟨hadmits, shares, payout, dueDates.dropLast, dueDates.getLast hne, even, full,
    (List.dropLast_append_getLast hne).symm, hshares, hpayout, heven, hfull⟩, hs⟩

theorem schedule_eq_ok {shares : Shares} {p : Progress} {s : Schedule}
    (h : schedule terms shares p = .ok s) :
    ∃ rest, terms.principal.minus p.principal = .ok rest ∧
      s = {
        currency := terms.currency
        rows := p.rows.reverse
        totalInterest := shares.totalInterest.amount
        termInDays := p.days
        principalDisbursed := terms.principal.amount
        principalDue := p.principal.amount
        principalOutstanding := rest.amount
        interestExpected := p.interest.amount
        charges := (Money.zero terms.currency).amount
        totalRepayment := p.repaid.amount } := by
  obtain ⟨rest, hrest, h⟩ := bind_eq_ok_iff.1 h
  cases h
  exact ⟨rest, hrest, rfl⟩

def longLoan : LoanTerms where
  principal :=
    .ofMinor ⟨"USD", 2, by decide⟩ false 80000000000000000000000000000000000000000000000001
  annualRate := .ofNat 12
  repayments := 3
  every := 1
  frequency := .unit .months
  term := 1
  termFrequency := .unit .years
  disbursed := { year := 2024, month := 1, day := 31 }

def longLoanDates : List Date :=
  [{ year := 2024, month := 2, day := 29 }, { year := 2024, month := 3, day := 31 },
    { year := 2024, month := 4, day := 30 }]

def penniesDates : List Date :=
  longLoanDates ++
    [{ year := 2024, month := 5, day := 31 }, { year := 2024, month := 6, day := 30 }]

end Engine
end AddOnLoan
