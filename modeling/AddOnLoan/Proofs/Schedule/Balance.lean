import AddOnLoan.Proofs.Schedule.Reconciliation

namespace AddOnLoan

/-- A schedule pays a principal off: its rows are numbered from the payout on, and the balances run
down from the principal to zero. -/
structure Schedule.PaysOff (s : Schedule) (principal : Decimal) : Prop where
  finite : ∀ row ∈ s.rows, ∀ x ∈ row.amounts, x.isFinite
  numbered : ∀ k (h : k < s.rows.length), s.rows[k].number = k
  start : ∃ payout, s.rows.head? = some payout ∧ payout.outstanding = principal
  step : ∀ k (h : k + 1 < s.rows.length), 0 ≤ s.rows[k + 1].principalDue.toRat ∧
    s.rows[k + 1].outstanding.toRat =
      s.rows[k].outstanding.toRat - s.rows[k + 1].principalDue.toRat
  descending : (s.rows.map (·.outstanding.toRat)).Pairwise (· ≥ ·)
  nonneg : ∀ row ∈ s.rows, 0 ≤ row.outstanding.toRat
  settled : ∃ row, s.rows.getLast? = some row ∧ row.outstanding.toRat = 0

theorem Installment.descending_of_follows {rows : List Installment}
    (h : rows.IsChain fun previous row => row.Follows previous) :
    (rows.map (·.outstanding.toRat)).Pairwise (· ≥ ·) := by
  rw [← List.isChain_iff_pairwise, List.isChain_map]
  refine h.imp fun previous row hrow => ?_
  have := hrow.1
  have := hrow.2
  linarith

theorem List.le_of_pairwise_ge {l : List ℚ} {x : ℚ} (h : l.Pairwise (· ≥ ·))
    (hlast : l.getLast? = some x) : ∀ y ∈ l, x ≤ y := by
  intro y hy
  obtain ⟨init, rfl⟩ := List.getLast?_eq_some_iff.1 hlast
  rcases List.mem_append.1 hy with hinit | hx
  · exact (List.pairwise_append.1 h).2.2 y hinit x (List.mem_singleton_self x)
  · exact (List.mem_singleton.1 hx).ge

namespace Engine

variable {engine : Engine} {terms : LoanTerms} {dueDates : List Date} {perYear : Decimal}
  {s : Schedule}

theorem Run.outstanding_eq_zero (run : Run engine terms dueDates perYear) :
    run.full.outstanding.amount.toRat = 0 := by
  rw [run.full_balanced.outstanding_eq, run.full_principal, sub_self]

/-- Whatever the rounding, the terms and the due dates, a schedule that comes about pays its loan
off. Only the last share is checked for its sign; the balances before it are not negative since
each is what the rows behind it still repay. -/
theorem compute_paysOff (h : (engine.compute terms dueDates perYear).outcome = .ok s) :
    s.PaysOff terms.principal.amount := by
  obtain ⟨run, hs⟩ := exists_run h
  obtain ⟨zero, -, -, hpayout⟩ :=
    Installment.disbursement_eq_ok run.principal_held.finite run.payout_eq
  have hnumbers := run.numbers hs
  have hrows := run.rows_eq hs
  have hreverse : s.rows = run.full.rows.reverse := by
    obtain ⟨_, -, rfl⟩ := schedule_eq_ok hs
    rfl
  have hchain : s.rows.IsChain fun previous row => row.Follows previous := by
    rw [hreverse, List.isChain_reverse]
    exact run.full_descends.follow
  have hlast : ∃ row, s.rows.getLast? = some row ∧ row.outstanding.toRat = 0 := by
    obtain ⟨row, older, hnewest, hrow⟩ := run.full_descends.newest
    refine ⟨row, ?_, by rw [hrow, run.outstanding_eq_zero]⟩
    rw [hreverse, List.getLast?_reverse, hnewest]
    rfl
  have hdescending := Installment.descending_of_follows hchain
  refine
    { finite := ?_
      numbered := ?_
      start := ⟨run.payout, by rw [hrows]; rfl, by rw [hpayout]⟩
      step := fun k hk => List.isChain_iff_getElem.1 hchain k hk
      descending := hdescending
      nonneg := ?_
      settled := hlast }
  · intro row hrow
    rw [hreverse, List.mem_reverse] at hrow
    exact run.full_balanced.finite row hrow
  · intro k hk
    have hget : (s.rows.map (·.number))[k]? = some k := by
      have hlength := congrArg List.length hnumbers
      rw [List.length_map, List.length_range] at hlength
      rw [hnumbers, List.getElem?_range (by omega)]
    simpa [hk] using hget
  · -- no balance is below the last one, which is zero
    obtain ⟨row, hget, hzero⟩ := hlast
    intro earlier hearlier
    rw [← hzero]
    exact List.le_of_pairwise_ge hdescending (by rw [List.getLast?_map, hget]; rfl) _
      (List.mem_map_of_mem hearlier)

theorem compute_paysOff_longLoan : ∃ s,
    (upward.compute longLoan longLoanDates (.ofNat 1)).outcome = .ok s ∧
      s.PaysOff longLoan.principal.amount := by
  obtain ⟨s, h⟩ := exists_schedule_longLoan
  exact ⟨s, h, compute_paysOff h⟩

end Engine
end AddOnLoan
