import AddOnLoan.Proofs.Engine.Progress

namespace AddOnLoan

namespace Engine

variable {engine : Engine} {terms : LoanTerms} {dueDates : List Date} {perYear : Decimal}

theorem Admits.principal_minor_nonneg (h : Admits terms dueDates perYear) :
    0 ≤ terms.principal.minor := by
  obtain ⟨sign, hsign, hnonneg⟩ := h.principal_nonneg
  have hfalse : terms.principal.isNegative = .ok false :=
    isNegative_eq_ok_iff.2 ⟨sign, hsign, decide_eq_false (by omega)⟩
  rw [Money.isNegative_eq h.principal_held.finite, Except.ok.injEq,
    decide_eq_false_iff_not] at hfalse
  omega

namespace Run

variable (run : Run engine terms dueDates perYear)

theorem principal_held (run : Run engine terms dueDates perYear) :
    terms.principal.HeldIn terms.currency :=
  run.admits.principal_held

theorem totalInterest_held : run.shares.totalInterest.HeldIn terms.currency :=
  (shares_held run.admits run.shares_eq).1

theorem interest_held : run.shares.interest.HeldIn terms.currency :=
  (shares_held run.admits run.shares_eq).2.1

theorem share_held : run.shares.principal.HeldIn terms.currency :=
  (shares_held run.admits run.shares_eq).2.2

theorem share_nonneg : 0 ≤ run.shares.principal.amount.toRat := by
  rw [Money.toRat_nonneg run.share_held]
  exact (Money.dividedBy_eq_ok run.principal_held run.admits.repayments_pos
    (shares_eq_ok run.shares_eq).2.2.2).2 run.admits.principal_minor_nonneg

theorem even_balanced : run.even.Balanced terms.currency terms.principal.amount.toRat :=
  invariant_of_foldlM
    (fun _ _ _ hp h => hp.collect run.share_held run.interest_held h) run.even_eq
    (.start run.principal_held.finite run.payout_eq)

theorem even_descends : run.even.Descends run.payout := by
  have hstart := Progress.Descends.start run.principal_held.finite run.payout_eq
  -- that a row follows another needs a balance in the currency, so both are kept together
  have hinv := invariant_of_foldlM
    (P := fun p => p.Balanced terms.currency terms.principal.amount.toRat ∧
      p.Descends run.payout)
    (fun _ _ _ hp h => ⟨hp.1.collect run.share_held run.interest_held h,
      hp.2.collect hp.1.outstanding_held run.share_held run.share_nonneg h⟩) run.even_eq
    ⟨.start run.principal_held.finite run.payout_eq, hstart⟩
  exact hinv.2

theorem exists_last : ∃ a b : Money, a.HeldIn terms.currency ∧ b.HeldIn terms.currency ∧
    0 ≤ a.amount.toRat ∧
    a.amount.toRat = terms.principal.amount.toRat - run.even.principal.amount.toRat ∧
    b.amount.toRat = run.shares.totalInterest.amount.toRat - run.even.interest.amount.toRat ∧
    run.even.collect run.last a b = .ok run.full := by
  obtain ⟨l, hl, hsign, hcollect⟩ := collectLast_eq_ok run.full_eq
  obtain ⟨⟨sum, hsum, hdrift⟩, ⟨sum', hsum', hdrift'⟩, hprincipal, hinterest⟩ := lastShares_eq_ok hl
  -- each sum on the way to the last shares is exact, so together they cancel the even shares
  have heven := run.even_balanced
  have sum_held := (Money.plus_eq_ok heven.principal_held run.share_held hsum).1
  have sum_held' := (Money.plus_eq_ok heven.interest_held run.interest_held hsum').1
  have drift_held := (Money.minus_eq_ok sum_held run.principal_held hdrift).1
  have drift_held' := (Money.minus_eq_ok sum_held' run.totalInterest_held hdrift').1
  have principal_held := (Money.minus_eq_ok run.share_held drift_held hprincipal).1
  have interest_held := (Money.minus_eq_ok run.interest_held drift_held' hinterest).1
  refine ⟨l.principal, l.interest, principal_held, interest_held, ?_, ?_, ?_, hcollect⟩
  · rw [Money.isNegative_eq principal_held.finite, Except.ok.injEq, decide_eq_false_iff_not,
      not_lt] at hsign
    exact (Money.toRat_nonneg principal_held).2 hsign
  · rw [Money.toRat_minus run.share_held drift_held hprincipal,
      Money.toRat_minus sum_held run.principal_held hdrift,
      Money.toRat_plus heven.principal_held run.share_held hsum]
    ring
  · rw [Money.toRat_minus run.interest_held drift_held' hinterest,
      Money.toRat_minus sum_held' run.totalInterest_held hdrift',
      Money.toRat_plus heven.interest_held run.interest_held hsum']
    ring

theorem full_balanced : run.full.Balanced terms.currency terms.principal.amount.toRat := by
  obtain ⟨a, b, ha, hb, -, -, -, hcollect⟩ := run.exists_last
  exact run.even_balanced.collect ha hb hcollect

theorem full_descends : run.full.Descends run.payout := by
  obtain ⟨a, b, ha, -, hnonneg, -, -, hcollect⟩ := run.exists_last
  exact run.even_descends.collect run.even_balanced.outstanding_held ha hnonneg hcollect

theorem full_principal : run.full.principal.amount.toRat = terms.principal.amount.toRat := by
  obtain ⟨a, b, ha, -, -, hrest, -, hcollect⟩ := run.exists_last
  obtain ⟨_, _, principal, _, _, -, -, hprincipal, -, -, hfull⟩ :=
    Progress.collect_eq_ok hcollect
  rw [hfull, Money.toRat_plus run.even_balanced.principal_held ha hprincipal, hrest]
  ring

theorem full_interest :
    run.full.interest.amount.toRat = run.shares.totalInterest.amount.toRat := by
  obtain ⟨a, b, -, hb, -, -, hrest, hcollect⟩ := run.exists_last
  obtain ⟨_, _, _, interest, _, -, -, -, hinterest, -, hfull⟩ :=
    Progress.collect_eq_ok hcollect
  rw [hfull, Money.toRat_plus run.even_balanced.interest_held hb hinterest, hrest]
  ring

/-- What every row carries on, as one more due date is done, holds at the end for all due dates:
the even rows and the last one are collected alike. -/
theorem traced {P : List Date → Progress → Prop}
    (start : P [] (.start terms run.payout))
    (step : ∀ done p due a b q, p.Balanced terms.currency terms.principal.amount.toRat →
      a.HeldIn terms.currency → b.HeldIn terms.currency → P done p →
      p.collect due a b = .ok q → P (done ++ [due]) q) : P dueDates run.full := by
  -- that amounts are held is known of balanced books only, so both are carried together
  have heven := traced_of_foldlM
    (P := fun done p =>
      p.Balanced terms.currency terms.principal.amount.toRat ∧ P done p)
    (fun done p due q hp hq => ⟨hp.1.collect run.share_held run.interest_held hq,
      step done p due _ _ q hp.1 run.share_held run.interest_held hp.2 hq⟩) run.even_eq
    ⟨.start run.principal_held.finite run.payout_eq, start⟩
  obtain ⟨a, b, ha, hb, -, -, -, hcollect⟩ := run.exists_last
  have hfull := step run.first run.even run.last a b run.full heven.1 ha hb heven.2 hcollect
  rwa [← run.dueDates_eq] at hfull

theorem numbers {s : Schedule} (hs : schedule terms run.shares run.full = .ok s) :
    s.rows.map (·.number) = List.range (run.full.number + 1) := by
  obtain ⟨_, -, rfl⟩ := schedule_eq_ok hs
  rw [List.map_reverse, run.full_balanced.numbers, List.reverse_reverse]

theorem rows_eq {s : Schedule} (hs : schedule terms run.shares run.full = .ok s) :
    s.rows = run.payout :: s.repayments := by
  obtain ⟨newer, hnewer⟩ := run.full_descends.oldest
  have hrows : s.rows = run.payout :: newer.reverse := by
    obtain ⟨_, -, rfl⟩ := schedule_eq_ok hs
    rw [hnewer, List.reverse_append]
    rfl
  have hnumbers := run.numbers hs
  rw [hrows, List.map_cons, List.range_succ_eq_map, List.cons.injEq] at hnumbers
  -- a row is told from the payout by its number alone
  have hkeep : ∀ row ∈ newer.reverse, (!row.isDisbursement) = true := by
    intro row hrow
    have hmem := List.mem_map_of_mem (f := (·.number)) hrow
    rw [hnumbers.2, List.mem_map] at hmem
    obtain ⟨k, -, hk⟩ := hmem
    simp [Installment.isDisbursement, ← hk]
  rw [Schedule.repayments, hrows, List.filter_cons_of_neg
    (by simp [Installment.isDisbursement, hnumbers.1]), List.filter_eq_self.2 hkeep]

end Run
end Engine
end AddOnLoan
