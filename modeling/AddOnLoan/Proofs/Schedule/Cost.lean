import AddOnLoan.Proofs.Engine.Comparison
import AddOnLoan.Proofs.Schedule.ClosedForm
import AddOnLoan.Proofs.Schedule.Layout

namespace AddOnLoan

def SameValues (l l' : List Decimal) : Prop := List.Forall₂ (fun x y => x.sameValue y) l l'

/-- Two schedules that cost the same. -/
structure Schedule.CostsAlike (s s' : Schedule) : Prop where
  currency : s.currency = s'.currency
  totals : SameValues s.totals s'.totals

def Schedule.RowsAlike (s s' : Schedule) : Prop :=
  List.Forall₂ (fun row row' => SameValues row.amounts row'.amounts) s.rows s'.rows

namespace Engine

variable {engine : Engine} {terms terms' : LoanTerms} {dueDates dueDates' : List Date}
  {perYear perYear' : Decimal} {s s' : Schedule}

theorem Run.totals_toRat (run : Run engine terms dueDates perYear)
    (hs : schedule terms run.shares run.full = .ok s) {lent interest : ℚ}
    (hlent : terms.principal.amount.toRat = lent)
    (hinterest : run.shares.totalInterest.amount.toRat = interest) :
    s.totals.map (·.toRat) = [interest, lent, lent, 0, interest, 0, lent + interest] := by
  have hfull := run.full_balanced
  have hprincipal := run.full_principal
  have hinterest' := run.full_interest
  obtain ⟨rest, hrest, rfl⟩ := schedule_eq_ok hs
  have hrest' := Money.toRat_minus run.principal_held hfull.principal_held hrest
  rw [hprincipal, sub_self] at hrest'
  simp only [Schedule.totals, List.map_cons, List.map_nil, Money.toRat_zero, hfull.repaid_eq,
    hprincipal, hinterest', hrest', hlent, hinterest]

theorem isFinite_of_compute (h : (engine.compute terms dueDates perYear).outcome = .ok s) :
    (∀ x ∈ s.totals, x.isFinite) ∧ ∀ row ∈ s.rows, ∀ x ∈ row.amounts, x.isFinite :=
  Schedule.forall_mem_amounts.1 fun x hx => (hasPlaces_of_compute h x hx).1

/-- Two schedules over one deal cost the same, and are for the same amounts row by row if they have
equally many: neither the dates nor the spacing of the installments count, nor does the rounding,
since the last installment takes the drift out of every total. -/
theorem compute_costsAlike (h : (engine.compute terms dueDates perYear).outcome = .ok s)
    (h' : (engine.compute terms' dueDates' perYear').outcome = .ok s')
    (hdeal : terms.SameDeal terms' perYear perYear') :
    s.CostsAlike s' ∧ (terms.repayments = terms'.repayments → s.RowsAlike s') := by
  obtain ⟨htotals, hrows⟩ := isFinite_of_compute h
  obtain ⟨htotals', hrows'⟩ := isFinite_of_compute h'
  obtain ⟨run, hs⟩ := exists_run h
  obtain ⟨run', hs'⟩ := exists_run h'
  have hlent := principal_agree hdeal run.admits run'.admits
  have hinterest := totalInterest_agree hdeal run.admits run'.admits run.shares_eq run'.shares_eq
  refine ⟨⟨?_, Decimal.forall₂_sameValue htotals htotals' ?_⟩, fun hn => ?_⟩
  · obtain ⟨_, -, rfl⟩ := schedule_eq_ok hs
    obtain ⟨_, -, rfl⟩ := schedule_eq_ok hs'
    exact hlent.right.currency.symm
  · rw [run.totals_toRat hs hlent.toRat_eq hinterest.toRat_eq, run'.totals_toRat hs' rfl rfl]
  · have hfull := run.full_alike hdeal run' hn
    obtain ⟨_, -, rfl⟩ := schedule_eq_ok hs
    obtain ⟨_, -, rfl⟩ := schedule_eq_ok hs'
    refine forall₂_of_map_eq (fun row row' hrow hrow' => Decimal.forall₂_sameValue hrow hrow')
      hrows hrows' ?_
    rw [List.map_reverse, List.map_reverse]
    exact congrArg List.reverse hfull.rows

def dollarAtOnce : LoanTerms :=
  { dollar with
    repayments := 1
    annualRate := .finite false 300 (-2)
    interestFrom := some longLoan.disbursed }

def leapDay : Date := longLoanDates.headD longLoan.disbursed

def dollarInADay : LoanTerms :=
  { dollar with
    every := 7
    frequency := .unit .weeks
    disbursed := leapDay }

set_option maxRecDepth 10000 in
theorem compute_costsAlike_dollar : ∃ s s' s'',
    (({} : Engine).compute dollar penniesDates (.ofNat 1)).outcome = .ok s ∧
      (({} : Engine).compute dollarAtOnce [longLoan.disbursed] (.ofNat 1)).outcome = .ok s' ∧
      (({} : Engine).compute dollarInADay (.replicate 5 leapDay)
        (.finite false 10 (-1))).outcome = .ok s'' ∧
      s.CostsAlike s' ∧ s.RowsAlike s'' := by
  have hruns : ∀ run ∈ [(dollar, penniesDates, .ofNat 1),
      (dollarAtOnce, [longLoan.disbursed], .ofNat 1),
      (dollarInADay, .replicate 5 leapDay, .finite false 10 (-1))],
      (({} : Engine).compute run.1 run.2.1 run.2.2).outcome.toOption.isSome := by
    decide +kernel
  simp only [List.forall_mem_cons] at hruns
  obtain ⟨s, h⟩ := exists_ok_of_isSome hruns.1
  obtain ⟨s', h'⟩ := exists_ok_of_isSome hruns.2.1
  obtain ⟨s'', h''⟩ := exists_ok_of_isSome hruns.2.2.1
  exact ⟨s, s', s'', h, h', h'', (compute_costsAlike h h' ⟨rfl, rfl, rfl, rfl⟩).1,
    (compute_costsAlike h h'' ⟨rfl, rfl, rfl, rfl⟩).2 rfl⟩

end Engine
end AddOnLoan
