import AddOnLoan.Proofs.DueDates
import AddOnLoan.Proofs.Engine.Stages

namespace AddOnLoan

def Refusal.IsArithmetic : Refusal → Prop
  | .money e => e.IsArithmetic
  | .signal _ | .unknownRounding | .unusableSetting | .outOfMemory | .outOfRange .digitCount
  | .input .ratePrecisionPastLimit => True
  | _ => False

theorem Installment.exists_disbursement {principal : Decimal} (date : Date)
    (hfinite : principal.isFinite) :
    ∃ payout, Installment.disbursement date principal = .ok payout := by
  obtain ⟨s, c, e, rfl⟩ := Decimal.eq_finite hfinite
  obtain ⟨_, _, -, hpayout⟩ := Installment.disbursement_finite date s c e
  exact ⟨_, hpayout⟩

structure Shares.All (P : Money → Prop) (lent : Money) (s : Shares) : Prop where
  lent : P lent
  totalInterest : P s.totalInterest
  principal : P s.principal
  interest : P s.interest

variable {c : Currency} {P : Money → Prop} {E : MoneyError → Prop}

namespace Progress

variable {p : Progress} {due : Date} {a b : Money}

def All (P : Money → Prop) (p : Progress) : Prop :=
  P p.outstanding ∧ P p.principal ∧ P p.interest ∧ P p.repaid

theorem collect_yields (hsums : Money.ClosedUnderSums c P E) (hp : p.All P) (ha : P a)
    (hb : P b) : Yields (p.collect due a b) (All P) E := by
  obtain ⟨houtstanding, hprincipal, hinterest, hrepaid⟩ := hp
  rw [collect]
  refine (hsums.plus _ _ ha hb).bind fun total htotal => ?_
  refine (hsums.minus _ _ houtstanding ha).bind fun outstanding houtstanding' => ?_
  refine (hsums.plus _ _ hprincipal ha).bind fun principal hprincipal' => ?_
  refine (hsums.plus _ _ hinterest hb).bind fun interest hinterest' => ?_
  refine (hsums.plus _ _ hrepaid htotal).bind fun repaid hrepaid' => ?_
  exact .ok ⟨houtstanding', hprincipal', hinterest', hrepaid'⟩

end Progress

namespace Engine

variable {engine : Engine} {terms : LoanTerms} {dueDates : List Date} {perYear : Decimal}
  {s : Shares} {p : Progress}

theorem lastShares_yields (hsums : Money.ClosedUnderSums c P E) (hs : s.All P terms.principal)
    (hp : p.All P) :
    Yields (lastShares terms s p) (fun l => P l.principalDrift ∧ P l.interestDrift ∧
      P l.principal ∧ P l.interest) E := by
  obtain ⟨-, hsofar, hsofar', -⟩ := hp
  rw [lastShares]
  refine (hsums.plus _ _ hsofar hs.principal).bind fun sum hsum => ?_
  refine (hsums.minus _ _ hsum hs.lent).bind fun drift hdrift => ?_
  refine (hsums.plus _ _ hsofar' hs.interest).bind fun sum' hsum' => ?_
  refine (hsums.minus _ _ hsum' hs.totalInterest).bind fun drift' hdrift' => ?_
  refine (hsums.minus _ _ hs.principal hdrift).bind fun last hlast => ?_
  refine (hsums.minus _ _ hs.interest hdrift').bind fun last' hlast' => ?_
  exact .ok ⟨hdrift, hdrift', hlast, hlast'⟩

/-- Why rows are not collected: a sum is refused, or the last share is negative. -/
inductive Unsplit (terms : LoanTerms) (E : MoneyError → Prop) : Refusal → Prop
  | amount {e : MoneyError} (h : E e) : Unsplit terms E (.money e)
  | tooSmall : Unsplit terms E (.terms (.tooSmallToSplit terms.principal terms.repayments))

theorem collectLast_yields (hsums : Money.ClosedUnderSums c P E) (hs : s.All P terms.principal)
    (hp : p.All P) (hfit : fitsNumeral terms.repayments = true) (due : Date) :
    Yields (collectLast terms s p due).outcome (Progress.All P) (Unsplit terms E) := by
  simp only [collectLast, Traced.outcome_bind, Traced.outcome_liftM_signal,
    Traced.outcome_liftM_money]
  have hyields := lastShares_yields hsums hs hp
  refine (hyields.mono_cause fun e he => Unsplit.amount he).mapError.bind ?_
  rintro l ⟨hdrift, hdrift', hlast, hlast'⟩
  refine .ok_bind (reportDrift_outcome (hsums.held _ hdrift).finite
    (hsums.held _ hdrift').finite) ?_
  refine .ok_bind (mapError_eq_ok_iff.2 (Money.isNegative_eq (hsums.held _ hlast).finite)) ?_
  refine ((Traced.require_yields_of_isWritable _ (.tooSmallToSplit _ _) hfit).mono_cause ?_).bind fun _ _ => ?_
  · rintro _ ⟨-, rfl⟩
    exact .tooSmall
  · exact ((Progress.collect_yields hsums hp hlast hlast').mono_cause
      fun e he => Unsplit.amount he).mapError

theorem compute_yields (hsums : Money.ClosedUnderSums terms.currency P E)
    (hadmits : Admits terms dueDates perYear) (hshares : engine.shares terms perYear = .ok s)
    (hs : s.All P terms.principal) :
    Yields (engine.compute terms dueDates perYear).outcome (fun _ => True)
      (Unsplit terms E) := by
  simp only [compute, Traced.outcome_bind, Traced.outcome_liftM, Traced.outcome_liftM_signal,
    Traced.outcome_liftM_money, Traced.outcome_report]
  rw [check_eq_ok_iff.2 hadmits, hshares]
  obtain ⟨payout, hpayout⟩ :=
    Installment.exists_disbursement terms.disbursed (hsums.held _ hs.lent).finite
  have hamount : ∀ e, E e → Unsplit terms E (.money e) := fun _ he => .amount he
  have heven : Yields (dueDates.dropLast.foldlM
      (fun p due => p.collect due s.principal s.interest) (Progress.start terms payout))
      (Progress.All P) E :=
    Yields.foldlM (fun p due hp => Progress.collect_yields hsums hp hs.principal hs.interest)
      ⟨hs.lent, hsums.zero, hsums.zero, hsums.zero⟩
  -- the checks, the shares, the report of them, and the payout
  refine .ok_bind rfl ?_
  refine .ok_bind rfl ?_
  refine .ok_bind rfl ?_
  refine .ok_bind (mapError_eq_ok_iff.2 hpayout) ?_
  refine (heven.mono_cause hamount).mapError.bind fun even heven => ?_
  have hschedule : ∀ full, Progress.All P full →
      Yields ((schedule terms s full).mapError .money) (fun _ => True) (Unsplit terms E) := by
    intro full hfull
    refine Yields.mapError (Yields.mono_cause ?_ hamount)
    rw [schedule]
    exact (hsums.minus _ _ hs.lent hfull.2.1).bind fun _ _ => .ok trivial
  split
  all_goals simp only [Traced.outcome_bind, Traced.outcome_liftM_money, Traced.outcome_pure]
  · exact (collectLast_yields hsums hs heven hadmits.repayments_fit _).bind hschedule
  · exact hschedule even heven

theorem context_eq_error {digits : Nat} {r : Refusal} (h : engine.context digits = .error r) :
    r.IsArithmetic := by
  unfold context at h
  split at h
  · cases h
    trivial
  · split at h
    · cases h
      trivial
    · split at h <;> cases h
      trivial

theorem quotient_eq_error {room : Option Nat} {ctx : Context} {x y : Decimal} {r : Refusal}
    (h : quotient room ctx x y = .error r) : r.IsArithmetic := by
  unfold quotient at h
  split at h
  · cases h
    trivial
  · obtain ⟨signal, -, rfl⟩ := mapError_eq_error_iff.1 h
    trivial

theorem rateForTerm_eq_error {annualRate : Decimal} {term : Int} {r : Refusal}
    (h : engine.rateForTerm annualRate perYear term = .error r) : r.IsArithmetic := by
  unfold rateForTerm at h
  split at h
  · cases h
    trivial
  · rcases bind_eq_error_iff.1 h with h | ⟨narrow, -, h⟩
    · exact context_eq_error h
    rcases bind_eq_error_iff.1 h with h | ⟨percent, -, h⟩
    · exact quotient_eq_error h
    rcases bind_eq_error_iff.1 h with h | ⟨unitless, -, h⟩
    · exact quotient_eq_error h
    rcases bind_eq_error_iff.1 h with h | ⟨wide, -, h⟩
    · exact context_eq_error h
    obtain ⟨signal, -, rfl⟩ := mapError_eq_error_iff.1 h
    trivial

theorem shares_eq_error (hn : terms.repayments ≠ 0) {r : Refusal}
    (h : engine.shares terms perYear = .error r) : r.IsArithmetic := by
  rcases bind_eq_error_iff.1 h with h | ⟨rate, -, h⟩
  · exact rateForTerm_eq_error h
  rcases bind_eq_error_iff.1 h with h | ⟨total, -, h⟩
  · obtain ⟨e, he, rfl⟩ := mapError_eq_error_iff.1 h
    exact Money.times_eq_error he
  rcases bind_eq_error_iff.1 h with h | ⟨interest, -, h⟩
  · obtain ⟨e, he, rfl⟩ := mapError_eq_error_iff.1 h
    exact Money.dividedBy_eq_error hn he
  rcases bind_eq_error_iff.1 h with h | ⟨principal, -, h⟩
  · obtain ⟨e, he, rfl⟩ := mapError_eq_error_iff.1 h
    exact Money.dividedBy_eq_error hn he
  · cases h

inductive Unfit (terms : LoanTerms) : Refusal → Prop
  | term (h : terms.term < 1) : Unfit terms (.terms (.term terms.term))
  | longTerm (h : fitsNumeral terms.term = false) : Unfit terms (.input .longNumeral)
  | negativePrincipal (h : terms.principal.isNegative = .ok true) :
    Unfit terms (.terms (.negativePrincipal terms.principal))
  | negativeRate {s : Int} (h : terms.annualRate.order0 = .ok s) (hs : s < 0) :
    Unfit terms (.terms (.negativeRate terms.annualRate))
  | principalSign {signal : Signal} (h : terms.principal.isNegative = .error signal) :
    Unfit terms (.signal signal)
  | rateSign {signal : Signal} (h : terms.annualRate.order0 = .error signal) :
    Unfit terms (.signal signal)

theorem check_yields (hdates : terms.LaidOut dueDates) {sign : Int}
    (hsign : perYear.order0 = .ok sign) (hpos : 0 < sign) :
    Yields (check terms dueDates perYear).outcome (fun _ => True) (Unfit terms) := by
  simp only [check, Traced.outcome_bind, Traced.outcome_liftM_signal]
  -- the counts are good, and what is said about them can be written
  have hfit := hdates.repayments_fit
  have hrepayments := hdates.repayments_pos
  have hcount := hdates.count
  refine .ok_bind (a := ()) (Traced.outcome_require_eq_ok_iff.2 ⟨hfit, by simpa⟩) ?_
  refine .ok_bind (a := ()) (Traced.outcome_require_eq_ok_iff.2 ⟨hfit, by simpa⟩) ?_
  refine .ok_bind (mapError_eq_ok_iff.2 hsign) ?_
  refine .ok_bind (a := ()) (Traced.outcome_require_eq_ok_iff.2 ⟨rfl, by simpa⟩) ?_
  refine (Traced.require_yields _ _).mono_cause ?_ |>.bind fun _ _ => ?_
  · rintro _ ⟨hterm, rfl⟩
    rcases (TermsError.term terms.term).raised_cases with ⟨hfit, hraised⟩ | ⟨hlong, hraised⟩
    · rw [hraised]
      exact .term (by simpa [hfit] using hterm)
    · rw [hraised]
      exact .longTerm hlong
  refine Yields.bind (P := fun b => terms.principal.isNegative = .ok b)
    (Yields.mapError ⟨fun h => h, fun h => .principalSign h⟩) fun b hb => ?_
  refine (Traced.require_yields_of_isWritable _ _ rfl).mono_cause ?_ |>.bind fun _ _ => ?_
  · rintro _ ⟨hnegative, rfl⟩
    exact .negativePrincipal (by rw [hb]; simpa using hnegative)
  refine Yields.bind (P := fun s => terms.annualRate.order0 = .ok s)
    (Yields.mapError ⟨fun h => h, fun h => .rateSign h⟩) fun s hs => ?_
  refine (Traced.require_yields_of_isWritable _ _ rfl).mono_cause ?_ |>.bind fun _ _ => ?_
  · rintro _ ⟨hnegative, rfl⟩
    exact .negativeRate hs (by simpa using hnegative)
  · rw [(requireOrder_eq_ok_iff (u := ())).2 hdates.order]
    exact .ok trivial

/-- Past the checks of the repayments and of the periods, a length of the loan that has too many
digits to be written ends it. -/
theorem check_of_longTerm (hfit : fitsNumeral terms.repayments = true)
    (hn : 1 ≤ terms.repayments) (hcount : (dueDates.length : Int) = terms.repayments) {sign : Int}
    (hsign : perYear.order0 = .ok sign) (hpos : 0 < sign)
    (hlong : longestNumeral < digitCount terms.term.natAbs) :
    (check terms dueDates perYear).outcome = .error (.input .longNumeral) := by
  have hpassed {condition : Bool} (e : TermsError) (hwritable : e.isWritable = true)
      (h : condition = true) : (Traced.require condition e).outcome = .ok () :=
    Traced.outcome_require_eq_ok_iff.2 ⟨hwritable, h⟩
  have hunwritable : (TermsError.term terms.term).isWritable = false :=
    fitsNumeral_eq_false_iff.2 hlong
  have hterm : (Traced.require (1 ≤ terms.term) (.term terms.term)).outcome =
      .error (.input .longNumeral) :=
    Traced.outcome_require_eq_error_iff.2
      ⟨fun h => by simp [hunwritable] at h, by rw [TermsError.raised, hunwritable]; rfl⟩
  simp only [check, Traced.outcome_bind, Traced.outcome_liftM_signal, hsign, mapError_ok, ok_bind,
    hpassed (.repayments _) hfit (decide_eq_true hn),
    hpassed (.dueDateCount _ _) hfit (beq_iff_eq.2 hcount),
    hpassed (.periodsPerYear _) rfl (decide_eq_true hpos), hterm]
  rfl

theorem periodsPerYear_eq_ok {frequency : Frequency}
    (h : periodsPerYear frequency = .ok perYear) : ∃ s, perYear.order0 = .ok s ∧ 0 < s := by
  cases frequency with
  | unsupported name => cases h
  | unit u =>
    cases h
    cases u <;> exact ⟨1, rfl, one_pos⟩

theorem compute_of_check_error {r : Refusal}
    (h : (check terms dueDates perYear).outcome = .error r) :
    (engine.compute terms dueDates perYear).outcome = .error r := by
  rw [compute, Traced.outcome_bind, h]
  rfl

theorem compute_of_shares_error (hadmits : Admits terms dueDates perYear) {r : Refusal}
    (h : engine.shares terms perYear = .error r) :
    (engine.compute terms dueDates perYear).outcome = .error r := by
  simp only [compute, Traced.outcome_bind, Traced.outcome_liftM]
  rw [check_eq_ok_iff.2 hadmits, h]
  rfl

theorem compute_eq_error (hdates : terms.LaidOut dueDates) {sign : Int}
    (hsign : perYear.order0 = .ok sign) (hpos : 0 < sign) {r : Refusal}
    (h : (engine.compute terms dueDates perYear).outcome = .error r) :
    Unfit terms r ∨ Admits terms dueDates perYear ∧
      (engine.shares terms perYear = .error r ∨ ∃ s, engine.shares terms perYear = .ok s) := by
  cases hcheck : (check terms dueDates perYear).outcome with
  | error r' =>
    cases (compute_of_check_error hcheck).symm.trans h
    exact .inl ((check_yields hdates hsign hpos).cause hcheck)
  | ok u =>
    have hadmits := check_eq_ok_iff.1 hcheck
    refine .inr ⟨hadmits, ?_⟩
    cases hshares : engine.shares terms perYear with
    | error r' =>
      cases (compute_of_shares_error hadmits hshares).symm.trans h
      exact .inl rfl
    | ok s => exact .inr ⟨s, rfl⟩

/-- Why an engine turns down terms with due dates that the terms themselves lay out. -/
inductive Rejection (terms : LoanTerms) : Refusal → Prop
  | unfit {r : Refusal} (h : Unfit terms r) : Rejection terms r
  | tooSmall : Rejection terms (.terms (.tooSmallToSplit terms.principal terms.repayments))
  | arithmetic {r : Refusal} (h : r.IsArithmetic) : Rejection terms r

theorem compute_rejection (hdates : terms.LaidOut dueDates) {sign : Int}
    (hsign : perYear.order0 = .ok sign) (hpos : 0 < sign) {r : Refusal}
    (h : (engine.compute terms dueDates perYear).outcome = .error r) : Rejection terms r := by
  rcases compute_eq_error hdates hsign hpos h with hunfit | ⟨hadmits, hshares | ⟨s, hshares⟩⟩
  · exact .unfit hunfit
  · have := hadmits.repayments_pos
    exact .arithmetic (shares_eq_error (by omega) hshares)
  · obtain ⟨htotal, hinterest, hprincipal⟩ := shares_held hadmits hshares
    have hyields := compute_yields (Money.closedUnderSums_heldIn terms.currency) hadmits hshares
      ⟨hadmits.principal_held, htotal, hprincipal, hinterest⟩
    cases hyields.cause h with
    | amount he => exact .arithmetic he
    | tooSmall => exact .tooSmall

theorem generate_eq_error_iff {r : Refusal} : (engine.generate terms).outcome = .error r ↔
    terms.dueDates.outcome = .error r ∨ ∃ dates, terms.dueDates.outcome = .ok dates ∧
      (periodsPerYear terms.termFrequency = .error r ∨ ∃ perYear,
        periodsPerYear terms.termFrequency = .ok perYear ∧
          (engine.compute terms dates perYear).outcome = .error r) := by
  simp [generate, bind_eq_error_iff]

/-- Whatever the counts, units and dates, the due dates that terms lay out are as many as the
repayments, from the payout on and ever later; the engine then never turns them down for their
number or their order, and turns the terms down only for the causes listed. -/
theorem generate_rejection (engine : Engine) (h : terms.dueDates.outcome = .ok dueDates) :
    terms.LaidOut dueDates ∧ ∀ r, (engine.generate terms).outcome = .error r →
      (∃ name, terms.termFrequency = .unsupported name ∧ r = .unmappedUnit name) ∨
        Rejection terms r := by
  have hdates := LoanTerms.laidOut_of_dueDates h
  refine ⟨hdates, fun r hr => ?_⟩
  rcases generate_eq_error_iff.1 hr with hr | ⟨dates, hd, hr | ⟨perYear, hperYear, hr⟩⟩
  · cases h.symm.trans hr
  · cases hfrequency : terms.termFrequency with
    | unit u =>
      rw [hfrequency] at hr
      cases hr
    | unsupported name =>
      rw [hfrequency] at hr
      cases hr
      exact .inl ⟨name, rfl, rfl⟩
  · cases h.symm.trans hd
    obtain ⟨sign, hsign, hpos⟩ := periodsPerYear_eq_ok hperYear
    exact .inr (compute_rejection hdates hsign hpos hr)

def pennies : LoanTerms :=
  { longLoan with principal := .ofMinor longLoan.currency false 3, repayments := 5 }

theorem generate_rejection_pennies : ∃ dates,
    pennies.dueDates.outcome = .ok dates ∧ pennies.LaidOut dates ∧
      Rejection pennies (.terms (.tooSmallToSplit pennies.principal 5)) := by
  have hdates : pennies.dueDates.outcome = .ok
      [{ year := 2024, month := 2, day := 29 }, { year := 2024, month := 3, day := 31 },
        { year := 2024, month := 4, day := 30 }, { year := 2024, month := 5, day := 31 },
        { year := 2024, month := 6, day := 30 }] := rfl
  obtain ⟨hlaid, hcause⟩ := generate_rejection {} hdates
  refine ⟨_, hdates, hlaid, (hcause _ (by decide +kernel)).resolve_left ?_⟩
  rintro ⟨name, h, -⟩
  cases h

end Engine
end AddOnLoan
