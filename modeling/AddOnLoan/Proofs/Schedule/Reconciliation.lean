import AddOnLoan.Proofs.Engine.Run

namespace AddOnLoan

def Schedule.totals (s : Schedule) : List Decimal :=
  [s.totalInterest, s.principalDisbursed, s.principalDue, s.principalOutstanding,
    s.interestExpected, s.charges, s.totalRepayment]

def Schedule.amounts (s : Schedule) : List Decimal := s.totals ++ s.rows.flatMap (·.amounts)

theorem Schedule.forall_mem_amounts {s : Schedule} {P : Decimal → Prop} :
    (∀ x ∈ s.amounts, P x) ↔
      (∀ x ∈ s.totals, P x) ∧ ∀ row ∈ s.rows, ∀ x ∈ row.amounts, P x := by
  rw [amounts, List.forall_mem_append]
  simp only [List.mem_flatMap, forall_exists_index, and_imp]
  exact and_congr_right fun _ =>
    ⟨fun h row hrow x hx => h x row hrow hx, fun h x row hrow hx => h row hrow x hx⟩

/-- A schedule for a principal adds up: all of its amounts are numbers, and rows and totals agree
to the last digit. -/
structure Schedule.Reconciles (s : Schedule) (principal : Decimal) : Prop where
  finite : ∀ x ∈ s.amounts, x.isFinite
  principal_sum : (s.repayments.map (·.principalDue.toRat)).sum = principal.toRat
  principalDue_eq : s.principalDue.toRat = principal.toRat
  principalDisbursed_eq : s.principalDisbursed.toRat = principal.toRat
  interest_sum : (s.repayments.map (·.interestDue.toRat)).sum = s.totalInterest.toRat
  interestExpected_eq : s.interestExpected.toRat = s.totalInterest.toRat
  row_total : ∀ row ∈ s.rows,
    row.totalDue.toRat = row.principalDue.toRat + row.interestDue.toRat
  total_sum : (s.repayments.map (·.totalDue.toRat)).sum = s.totalRepayment.toRat
  totalRepayment_eq : s.totalRepayment.toRat = principal.toRat + s.totalInterest.toRat
  principalOutstanding_eq : s.principalOutstanding.toRat = 0

namespace Engine

variable {engine : Engine} {terms : LoanTerms} {dueDates : List Date} {perYear : Decimal}
  {s : Schedule}

/-- A sum over the repayments is one over all rows if nothing is counted for the payout. -/
theorem Run.sum_repayments (run : Run engine terms dueDates perYear)
    (hs : schedule terms run.shares run.full = .ok s) (f : Installment → ℚ)
    (h : f run.payout = 0) : (s.repayments.map f).sum = (run.full.rows.map f).sum := by
  have hsum : (s.rows.map f).sum = (run.full.rows.map f).sum := by
    obtain ⟨_, -, rfl⟩ := schedule_eq_ok hs
    rw [List.map_reverse, List.sum_reverse]
  rw [← hsum, run.rows_eq hs, List.map_cons, List.sum_cons, h, zero_add]

/-- Whatever the rounding, the terms and the due dates, a schedule that comes about adds up. -/
theorem compute_reconciles (h : (engine.compute terms dueDates perYear).outcome = .ok s) :
    s.Reconciles terms.principal.amount := by
  obtain ⟨run, hs⟩ := exists_run h
  have hfull := run.full_balanced
  have hprincipal := run.full_principal
  have hinterest := run.full_interest
  obtain ⟨zero, -, hzero, hpayout⟩ :=
    Installment.disbursement_eq_ok run.principal_held.finite run.payout_eq
  have hprincipal_sum : (s.repayments.map (·.principalDue.toRat)).sum =
      terms.principal.amount.toRat := by
    rw [run.sum_repayments hs _ (by rw [hpayout]; exact hzero), hfull.principal_sum, hprincipal]
  have hinterest_sum : (s.repayments.map (·.interestDue.toRat)).sum =
      run.shares.totalInterest.amount.toRat := by
    rw [run.sum_repayments hs _ (by rw [hpayout]; exact hzero), hfull.interest_sum, hinterest]
  have htotal_sum : (s.repayments.map (·.totalDue.toRat)).sum =
      run.full.repaid.amount.toRat := by
    rw [run.sum_repayments hs _ (by rw [hpayout]; exact hzero),
      List.map_congr_left hfull.total_eq, List.sum_map_add, hfull.principal_sum,
      hfull.interest_sum, hfull.repaid_eq]
  obtain ⟨rest, hrest, rfl⟩ := schedule_eq_ok hs
  have rest_held := (Money.minus_eq_ok run.principal_held hfull.principal_held hrest).1
  exact
    { finite := by
        rw [Schedule.forall_mem_amounts]
        constructor
        · simp only [Schedule.totals, List.forall_mem_cons]
          exact ⟨run.totalInterest_held.finite, run.principal_held.finite,
            hfull.principal_held.finite, rest_held.finite, hfull.interest_held.finite, rfl,
            hfull.repaid_held.finite, List.forall_mem_nil _⟩
        · exact fun row hrow => hfull.finite row (List.mem_reverse.1 hrow)
      principal_sum := hprincipal_sum
      principalDue_eq := hprincipal
      principalDisbursed_eq := rfl
      interest_sum := hinterest_sum
      interestExpected_eq := hinterest
      row_total := fun row hrow => hfull.total_eq row (List.mem_reverse.1 hrow)
      total_sum := htotal_sum
      totalRepayment_eq := by rw [hfull.repaid_eq, hprincipal, hinterest]
      principalOutstanding_eq := by
        rw [Money.toRat_minus run.principal_held hfull.principal_held hrest, hprincipal, sub_self] }

def upward : Engine := { ratePrecision := some 1, rounding := some .up }

set_option maxRecDepth 10000 in
theorem exists_schedule_longLoan :
    ∃ s, (upward.compute longLoan longLoanDates (.ofNat 1)).outcome = .ok s := by
  exact exists_ok_of_isSome (by decide +kernel)

theorem compute_reconciles_longLoan : ∃ s,
    (upward.compute longLoan longLoanDates (.ofNat 1)).outcome = .ok s ∧
      s.Reconciles longLoan.principal.amount := by
  obtain ⟨s, h⟩ := exists_schedule_longLoan
  exact ⟨s, h, compute_reconciles h⟩

end Engine
end AddOnLoan
