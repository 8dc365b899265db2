import AddOnLoan.Proofs.Decimal.Values
import AddOnLoan.Proofs.Engine.Interest

namespace AddOnLoan

namespace Money

variable {c : Currency} {m n m' n' r r' : Money} {mode : Rounding}

/-- Two amounts of a currency that are worth the same. -/
structure Agree (c : Currency) (m n : Money) : Prop where
  left : m.HeldIn c
  right : n.HeldIn c
  minor_eq : m.minor = n.minor

theorem isFinite_of {x : Decimal} {rounding : Option Rounding} (hx : x.IsNumber)
    (h : of c x rounding = .ok r) : x.isFinite := by
  cases x with
  | finite => rfl
  | nan => exact hx.elim
  | infinity s =>
    cases rounding with
    | none => cases h
    | some mode =>
      rw [of_some] at h
      exact nomatch (quantize_eq_ok h).2

namespace Agree

theorem zero (c : Currency) : Agree c (.zero c) (.zero c) :=
  ⟨heldIn_zero c, heldIn_zero c, rfl⟩

theorem toRat_eq (h : Agree c m n) : m.amount.toRat = n.amount.toRat := by
  rw [h.left.toRat, h.right.toRat, h.minor_eq]

theorem of_toRat_eq (hm : m.HeldIn c) (hn : n.HeldIn c) (h : m.amount.toRat = n.amount.toRat) :
    Agree c m n := by
  rw [hm.toRat, hn.toRat, div_left_inj' (by positivity)] at h
  exact ⟨hm, hn, by exact_mod_cast h⟩

theorem plus (h : Agree c m n) (h' : Agree c m' n') (hr : m.plus m' = .ok r)
    (hr' : n.plus n' = .ok r') : Agree c r r' := by
  obtain ⟨left, hminor⟩ := plus_eq_ok h.left h'.left hr
  obtain ⟨right, hminor'⟩ := plus_eq_ok h.right h'.right hr'
  exact ⟨left, right, by rw [hminor, hminor', h.minor_eq, h'.minor_eq]⟩

theorem minus (h : Agree c m n) (h' : Agree c m' n') (hr : m.minus m' = .ok r)
    (hr' : n.minus n' = .ok r') : Agree c r r' := by
  obtain ⟨left, hminor⟩ := minus_eq_ok h.left h'.left hr
  obtain ⟨right, hminor'⟩ := minus_eq_ok h.right h'.right hr'
  exact ⟨left, right, by rw [hminor, hminor', h.minor_eq, h'.minor_eq]⟩

theorem times (h : Agree c m n) {x y : Decimal} (hx : x.isFinite) (hy : y.isFinite)
    (hxy : x.toRat = y.toRat) (hr : m.times x (some mode) = .ok r)
    (hr' : n.times y (some mode) = .ok r') : Agree c r r' := by
  refine ⟨heldIn_times h.left (Decimal.isNumber_of_isFinite hx) hr,
    heldIn_times h.right (Decimal.isNumber_of_isFinite hy) hr', ?_⟩
  rw [minor_of_times h.left hx hr, minor_of_times h.right hy hr', product, product, h.toRat_eq, hxy,
    h.left.currency, h.right.currency]

theorem dividedBy (h : Agree c m n) {k : ℤ} (hk : 0 < k)
    (hr : m.dividedBy (.ofInt k) (some mode) = .ok r)
    (hr' : n.dividedBy (.ofInt k) (some mode) = .ok r') : Agree c r r' := by
  refine ⟨(dividedBy_eq_ok h.left hk hr).1, (dividedBy_eq_ok h.right hk hr').1, ?_⟩
  rw [minor_of_dividedBy h.left hk hr, minor_of_dividedBy h.right hk hr', h.minor_eq]

end Agree
end Money

def Installment.values (row : Installment) : List ℚ := row.amounts.map (·.toRat)

namespace Progress

variable {c : Currency} {p p' q q' : Progress} {due due' : Date} {a a' b b' : Money}

/-- Two schedules in the making that have come to the same amounts. -/
structure Alike (c : Currency) (p p' : Progress) : Prop where
  outstanding : Money.Agree c p.outstanding p'.outstanding
  principal : Money.Agree c p.principal p'.principal
  interest : Money.Agree c p.interest p'.interest
  repaid : Money.Agree c p.repaid p'.repaid
  rows : p.rows.map (·.values) = p'.rows.map (·.values)

theorem Alike.collect (hp : p.Alike c p') (ha : Money.Agree c a a') (hb : Money.Agree c b b')
    (h : p.collect due a b = .ok q) (h' : p'.collect due' a' b' = .ok q') : q.Alike c q' := by
  obtain ⟨_, _, _, _, _, htotal, houtstanding, hprincipal, hinterest, hrepaid, rfl⟩ :=
    collect_eq_ok h
  obtain ⟨_, _, _, _, _, htotal', houtstanding', hprincipal', hinterest', hrepaid', rfl⟩ :=
    collect_eq_ok h'
  have total := ha.plus hb htotal htotal'
  have outstanding := hp.outstanding.minus ha houtstanding houtstanding'
  refine
    { outstanding
      principal := hp.principal.plus ha hprincipal hprincipal'
      interest := hp.interest.plus hb hinterest hinterest'
      repaid := hp.repaid.plus total hrepaid hrepaid'
      rows := ?_ }
  rw [List.map_cons, List.map_cons, hp.rows]
  simp only [Installment.values, Installment.amounts, List.map_cons, Money.toRat_zero,
    ha.toRat_eq, hb.toRat_eq, total.toRat_eq, outstanding.toRat_eq]

theorem Alike.start {terms terms' : LoanTerms} {payout payout' : Installment}
    (hlent : Money.Agree c terms.principal terms'.principal)
    (h : Installment.disbursement terms.disbursed terms.principal.amount = .ok payout)
    (h' : Installment.disbursement terms'.disbursed terms'.principal.amount = .ok payout') :
    (start terms payout).Alike c (start terms' payout') := by
  obtain ⟨zero, -, hzero, rfl⟩ := Installment.disbursement_eq_ok hlent.left.finite h
  obtain ⟨zero', -, hzero', rfl⟩ := Installment.disbursement_eq_ok hlent.right.finite h'
  have hcurrency : terms.currency = c := hlent.left.currency
  have hcurrency' : terms'.currency = c := hlent.right.currency
  have nothing : Money.Agree c (.zero terms.currency) (.zero terms'.currency) := by
    rw [hcurrency, hcurrency']
    exact .zero c
  refine ⟨hlent, nothing, nothing, nothing, ?_⟩
  simp only [Progress.start, Installment.values, Installment.amounts, List.map_cons, List.map_nil,
    hzero, hzero', hlent.toRat_eq]

end Progress

structure Shares.Agree (c : Currency) (s s' : Shares) : Prop where
  totalInterest : Money.Agree c s.totalInterest s'.totalInterest
  principal : Money.Agree c s.principal s'.principal
  interest : Money.Agree c s.interest s'.interest

/-- Two loans over one deal: what is lent, the yearly rate, the length that interest is charged for
and the periods that a year has are equal in value. -/
structure LoanTerms.SameDeal (terms terms' : LoanTerms) (perYear perYear' : Decimal) : Prop where
  principal : terms.principal.same terms'.principal
  annualRate : terms.annualRate.sameValue terms'.annualRate
  term : terms.term = terms'.term
  perYear : perYear.sameValue perYear'

namespace Engine

variable {engine : Engine} {terms terms' : LoanTerms} {dueDates dueDates' : List Date}
  {perYear perYear' annualRate annualRate' rate rate' : Decimal} {term : Int} {s s' : Shares}

theorem quotient_toRat {room : Option Nat} {ctx : Context} {x y r : Decimal}
    (hp : 0 < ctx.precision) (hx : x.isFinite) (hy : y.IsPositive)
    (h : quotient room ctx x y = .ok r) :
    r.isFinite ∧ r.toRat = ctx.rounded (x.toRat / y.toRat) := by
  have hdiv := div_of_quotient h
  obtain ⟨s, c, e, rfl⟩ := Decimal.eq_finite hx
  obtain ⟨sign, hsign, -⟩ := id hy
  cases y with
  | nan => cases hsign
  | infinity s' =>
    cases hdiv
    refine ⟨rfl, ?_⟩
    rw [show (Decimal.infinity s').toRat = 0 from rfl, div_zero, Context.rounded_zero,
      Decimal.toRat_finite]
    cases (Decimal.finite s c e).negative != s' <;> simp [Decimal.signed]
  | finite s' c' e' =>
    obtain ⟨-, hc'⟩ := Decimal.isPositive_finite_iff.1 hy
    obtain ⟨c'', e'', rfl, -⟩ := Context.div_shape hc' hdiv
    exact ⟨rfl, Context.div_toRat hp hc' hdiv⟩

theorem toRat_hundred : (Decimal.ofNat 100).toRat = 100 := by
  rw [Decimal.ofNat, Decimal.toRat_finite]
  norm_num [Decimal.signed]

theorem rateForTerm_toRat (hx : annualRate.isFinite) (hy : perYear.IsPositive)
    (h : engine.rateForTerm annualRate perYear term = .ok rate) :
    ∃ digits narrow wide, engine.ratePrecision = some digits ∧
      engine.context digits = .ok narrow ∧
      engine.context (digits + digitCount term.natAbs) = .ok wide ∧
      rate.toRat = wide.rounded
        (narrow.rounded (narrow.rounded (annualRate.toRat / perYear.toRat) / 100) * term) := by
  obtain ⟨digits, narrow, percent, unitless, wide, hdigits, hnarrow, hpercent, hunitless, hwide,
    hmul⟩ := rateForTerm_eq_ok h
  have hpos := engine.precision_pos digits hdigits
  have hprecision := context_precision hnarrow
  have hprecision' := context_precision hwide
  obtain ⟨hfinite, hpercent⟩ := quotient_toRat (by omega) hx hy hpercent
  obtain ⟨hfinite', hunitless⟩ :=
    quotient_toRat (y := .ofNat 100) (by omega) hfinite ⟨1, rfl, one_pos⟩ hunitless
  refine ⟨digits, narrow, wide, hdigits, hnarrow, hwide, ?_⟩
  rw [hpercent, toRat_hundred] at hunitless
  rw [← hunitless, ← Money.toRat_ofInt]
  obtain ⟨s, c, e, rfl⟩ := Decimal.eq_finite hfinite'
  exact Context.mul_toRat (by omega) hmul

theorem isFinite_of_quotient {room : Option Nat} {ctx : Context} {x y r : Decimal}
    (hx : x.IsNumber) (hy : y.IsNumber) (h : quotient room ctx x y = .ok r) (hr : r.isFinite) :
    x.isFinite :=
  Context.isFinite_of_div hx hy (div_of_quotient h) hr

/-- An infinite rate has no interest that could be held. -/
theorem isFinite_of_shares (hadmits : Admits terms dueDates perYear)
    (h : engine.shares terms perYear = .ok s) : terms.annualRate.isFinite ∧ s.rate.isFinite := by
  obtain ⟨hrate, htotal, -, -⟩ := shares_eq_ok h
  obtain ⟨_, hannual, -⟩ := hadmits.rate_nonneg
  obtain ⟨_, hyear, -⟩ := hadmits.perYear_pos
  have hannual := Decimal.isNumber_of_order0 hannual
  have hyear := Decimal.isNumber_of_order0 hyear
  have hlent := Money.isNumber_amount hadmits.principal_held.finite
  have hnumber := isNumber_rateForTerm hannual hyear hrate
  -- from the interest, which is finite, back to the rate that it was found with
  obtain ⟨x, hx, hof⟩ := bind_eq_ok_iff.1 htotal
  have hx := mapError_eq_ok_iff.1 hx
  have hfinite := (Context.isFinite_of_mul hlent hnumber hx
    (Money.isFinite_of (Context.isNumber_mul hlent hnumber hx) hof)).2
  refine ⟨?_, hfinite⟩
  obtain ⟨_, _, percent, unitless, _, -, -, hpercent, hunitless, -, hmul⟩ := rateForTerm_eq_ok hrate
  have hnumber' := isNumber_quotient hannual hyear hpercent
  have hunitless_finite := (Context.isFinite_of_mul
    (isNumber_quotient (y := .ofNat 100) hnumber' trivial hunitless) (y := .ofInt terms.term)
    trivial hmul hfinite).1
  exact isFinite_of_quotient hannual hyear hpercent
    (isFinite_of_quotient (y := .ofNat 100) hnumber' trivial hunitless hunitless_finite)

theorem exists_rounding (h : engine.rateForTerm annualRate perYear term = .ok rate) :
    ∃ mode, engine.rounding = some mode := by
  obtain ⟨_, narrow, _, _, _, -, hnarrow, -⟩ := rateForTerm_eq_ok h
  exact ⟨_, context_rounding hnarrow⟩

variable (hdeal : terms.SameDeal terms' perYear perYear')
include hdeal

theorem principal_agree (hadmits : Admits terms dueDates perYear)
    (hadmits' : Admits terms' dueDates' perYear') :
    Money.Agree terms.currency terms.principal terms'.principal := by
  have hsame := hdeal.principal
  rw [Money.same, Bool.and_eq_true, beq_iff_eq] at hsame
  exact .of_toRat_eq hadmits.principal_held ⟨hadmits'.principal_held.finite, hsame.1.symm⟩
    (Decimal.toRat_eq_of_sameValue hsame.2)

/-- One deal has one rate for its term. -/
theorem rateForTerm_agree (hadmits : Admits terms dueDates perYear)
    (hadmits' : Admits terms' dueDates' perYear') (hx : terms.annualRate.isFinite)
    (hx' : terms'.annualRate.isFinite)
    (h : engine.rateForTerm terms.annualRate perYear terms.term = .ok rate)
    (h' : engine.rateForTerm terms'.annualRate perYear' terms'.term = .ok rate') :
    rate.toRat = rate'.toRat := by
  obtain ⟨digits, narrow, wide, hdigits, hnarrow, hwide, hrate⟩ :=
    rateForTerm_toRat hx hadmits.perYear_pos h
  obtain ⟨digits', narrow', wide', hdigits', hnarrow', hwide', hrate'⟩ :=
    rateForTerm_toRat hx' hadmits'.perYear_pos h'
  -- the engine and the length of the loan fix the digits of both contexts
  cases hdigits.symm.trans hdigits'
  rw [← hdeal.term] at hwide'
  cases hnarrow.symm.trans hnarrow'
  cases hwide.symm.trans hwide'
  rw [hrate, hrate', Decimal.toRat_eq_of_sameValue hdeal.annualRate,
    Decimal.toRat_eq_of_sameValue hdeal.perYear, hdeal.term]

theorem totalInterest_agree (hadmits : Admits terms dueDates perYear)
    (hadmits' : Admits terms' dueDates' perYear') (h : engine.shares terms perYear = .ok s)
    (h' : engine.shares terms' perYear' = .ok s') :
    Money.Agree terms.currency s.totalInterest s'.totalInterest := by
  obtain ⟨hx, hfinite⟩ := isFinite_of_shares hadmits h
  obtain ⟨hx', hfinite'⟩ := isFinite_of_shares hadmits' h'
  obtain ⟨hrate, htotal, -⟩ := shares_eq_ok h
  obtain ⟨hrate', htotal', -⟩ := shares_eq_ok h'
  obtain ⟨mode, hmode⟩ := exists_rounding hrate
  rw [hmode] at htotal htotal'
  exact (principal_agree hdeal hadmits hadmits').times hfinite hfinite'
    (rateForTerm_agree hdeal hadmits hadmits' hx hx' hrate hrate') htotal htotal'

theorem shares_agree (hadmits : Admits terms dueDates perYear)
    (hadmits' : Admits terms' dueDates' perYear') (hn : terms.repayments = terms'.repayments)
    (h : engine.shares terms perYear = .ok s) (h' : engine.shares terms' perYear' = .ok s') :
    s.Agree terms.currency s' := by
  have totalInterest := totalInterest_agree hdeal hadmits hadmits' h h'
  obtain ⟨hrate, -, hinterest, hprincipal⟩ := shares_eq_ok h
  obtain ⟨-, -, hinterest', hprincipal'⟩ := shares_eq_ok h'
  obtain ⟨mode, hmode⟩ := exists_rounding hrate
  rw [← hn] at hinterest' hprincipal'
  rw [hmode] at hinterest hinterest' hprincipal hprincipal'
  have hpos : 0 < terms.repayments := hadmits.repayments_pos
  exact ⟨totalInterest,
    (principal_agree hdeal hadmits hadmits').dividedBy hpos hprincipal hprincipal',
    totalInterest.dividedBy hpos hinterest hinterest'⟩

omit hdeal in
theorem lastShares_agree {c : Currency} {p p' : Progress} {l l' : LastShares}
    (hlent : Money.Agree c terms.principal terms'.principal) (hs : s.Agree c s')
    (hp : p.Alike c p') (h : lastShares terms s p = .ok l) (h' : lastShares terms' s' p' = .ok l') :
    Money.Agree c l.principal l'.principal ∧ Money.Agree c l.interest l'.interest := by
  obtain ⟨⟨_, hsum, hdrift⟩, ⟨_, hrest, hslip⟩, hprincipal, hinterest⟩ := lastShares_eq_ok h
  obtain ⟨⟨_, hsum', hdrift'⟩, ⟨_, hrest', hslip'⟩, hprincipal', hinterest'⟩ :=
    lastShares_eq_ok h'
  have drift := (hp.principal.plus hs.principal hsum hsum').minus hlent hdrift hdrift'
  have slip := (hp.interest.plus hs.interest hrest hrest').minus hs.totalInterest hslip hslip'
  exact ⟨hs.principal.minus drift hprincipal hprincipal',
    hs.interest.minus slip hinterest hinterest'⟩

theorem Run.full_alike (run : Run engine terms dueDates perYear)
    (run' : Run engine terms' dueDates' perYear') (hn : terms.repayments = terms'.repayments) :
    run.full.Alike terms.currency run'.full := by
  have hlent := principal_agree hdeal run.admits run'.admits
  have hshares := shares_agree hdeal run.admits run'.admits hn run.shares_eq run'.shares_eq
  have hlength : run.first.length = run'.first.length := by
    have hcount := run.admits.count
    have hcount' := run'.admits.count
    have hdates := congrArg List.length run.dueDates_eq
    have hdates' := congrArg List.length run'.dueDates_eq
    simp only [List.length_append, List.length_singleton] at hdates hdates'
    omega
  have heven := related_of_foldlM (R := Progress.Alike terms.currency)
    (fun _ _ _ _ _ _ hp hq hq' => hp.collect hshares.principal hshares.interest hq hq') hlength
    run.even_eq run'.even_eq (.start hlent run.payout_eq run'.payout_eq)
  obtain ⟨l, hl, -, hcollect⟩ := collectLast_eq_ok run.full_eq
  obtain ⟨l', hl', -, hcollect'⟩ := collectLast_eq_ok run'.full_eq
  obtain ⟨hprincipal, hinterest⟩ := lastShares_agree hlent hshares heven hl hl'
  exact heven.collect hprincipal hinterest hcollect hcollect'

end Engine
end AddOnLoan
