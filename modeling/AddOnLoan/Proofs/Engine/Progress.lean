import AddOnLoan.Proofs.Engine.Stages

namespace AddOnLoan

def Installment.amounts (row : Installment) : List Decimal :=
  [row.disbursed, row.principalDue, row.interestDue, row.totalDue, row.outstanding]

/-- A row that follows another: something not negative is repaid, and the balance falls by it. -/
def Installment.Follows (row previous : Installment) : Prop :=
  0 ≤ row.principalDue.toRat ∧
    row.outstanding.toRat = previous.outstanding.toRat - row.principalDue.toRat

theorem Installment.disbursement_eq_ok {date : Date} {principal : Decimal} {payout : Installment}
    (hfinite : principal.isFinite)
    (h : Installment.disbursement date principal = .ok payout) :
    ∃ zero : Decimal, zero.isFinite ∧ zero.toRat = 0 ∧
      payout = ⟨0, none, date, principal, zero, zero, zero, principal⟩ := by
  obtain ⟨s, c, e, rfl⟩ := Decimal.eq_finite hfinite
  obtain ⟨t, zero, rfl, hpayout⟩ := Installment.disbursement_finite date s c e
  cases h.symm.trans hpayout
  refine ⟨_, rfl, ?_, rfl⟩
  rw [Decimal.toRat_finite]
  cases t <;> simp [Decimal.signed]

namespace Progress

variable {c : Currency} {p q : Progress} {due : Date} {a b : Money}

theorem collect_eq_ok (h : p.collect due a b = .ok q) :
    ∃ total outstanding principal interest repaid, a.plus b = .ok total ∧
      p.outstanding.minus a = .ok outstanding ∧ p.principal.plus a = .ok principal ∧
      p.interest.plus b = .ok interest ∧ p.repaid.plus total = .ok repaid ∧
      q = ⟨p.number + 1, due, outstanding, principal, interest, repaid,
        p.days + p.date.daysUntil due,
        ⟨p.number + 1, some p.date, due, (Money.zero a.currency).amount, a.amount, b.amount,
          total.amount, outstanding.amount⟩ :: p.rows⟩ := by
  obtain ⟨total, htotal, h⟩ := bind_eq_ok_iff.1 h
  obtain ⟨outstanding, houtstanding, h⟩ := bind_eq_ok_iff.1 h
  obtain ⟨principal, hprincipal, h⟩ := bind_eq_ok_iff.1 h
  obtain ⟨interest, hinterest, h⟩ := bind_eq_ok_iff.1 h
  obtain ⟨repaid, hrepaid, h⟩ := bind_eq_ok_iff.1 h
  cases h
  exact ⟨total, outstanding, principal, interest, repaid, htotal, houtstanding, hprincipal,
    hinterest, hrepaid, rfl⟩

/-- The books of a loan of `lent` are in order: balance and totals agree with the rows. -/
structure Balanced (c : Currency) (lent : ℚ) (p : Progress) : Prop where
  outstanding_held : p.outstanding.HeldIn c
  principal_held : p.principal.HeldIn c
  interest_held : p.interest.HeldIn c
  repaid_held : p.repaid.HeldIn c
  outstanding_eq : p.outstanding.amount.toRat = lent - p.principal.amount.toRat
  repaid_eq : p.repaid.amount.toRat = p.principal.amount.toRat + p.interest.amount.toRat
  principal_sum : (p.rows.map (·.principalDue.toRat)).sum = p.principal.amount.toRat
  interest_sum : (p.rows.map (·.interestDue.toRat)).sum = p.interest.amount.toRat
  finite : ∀ row ∈ p.rows, ∀ x ∈ row.amounts, x.isFinite
  total_eq : ∀ row ∈ p.rows,
    row.totalDue.toRat = row.principalDue.toRat + row.interestDue.toRat
  numbers : p.rows.map (·.number) = (List.range (p.number + 1)).reverse

theorem Balanced.collect {lent : ℚ} (hp : p.Balanced c lent) (ha : a.HeldIn c) (hb : b.HeldIn c)
    (h : p.collect due a b = .ok q) : q.Balanced c lent := by
  obtain ⟨total, outstanding, principal, interest, repaid, htotal, houtstanding, hprincipal,
    hinterest, hrepaid, rfl⟩ := collect_eq_ok h
  have total_held := (Money.plus_eq_ok ha hb htotal).1
  have outstanding_held := (Money.minus_eq_ok hp.outstanding_held ha houtstanding).1
  have htotal' := Money.toRat_plus ha hb htotal
  have houtstanding' := Money.toRat_minus hp.outstanding_held ha houtstanding
  have hprincipal' := Money.toRat_plus hp.principal_held ha hprincipal
  have hinterest' := Money.toRat_plus hp.interest_held hb hinterest
  have hrepaid' := Money.toRat_plus hp.repaid_held total_held hrepaid
  refine
    { outstanding_held
      principal_held := (Money.plus_eq_ok hp.principal_held ha hprincipal).1
      interest_held := (Money.plus_eq_ok hp.interest_held hb hinterest).1
      repaid_held := (Money.plus_eq_ok hp.repaid_held total_held hrepaid).1
      outstanding_eq := by linarith [hp.outstanding_eq]
      repaid_eq := by linarith [hp.repaid_eq]
      principal_sum := ?_
      interest_sum := ?_
      finite := ?_
      total_eq := ?_
      numbers := ?_ }
  · rw [List.map_cons, List.sum_cons, hp.principal_sum]
    linarith
  · rw [List.map_cons, List.sum_cons, hp.interest_sum]
    linarith
  · rw [List.forall_mem_cons]
    refine ⟨?_, hp.finite⟩
    simp only [Installment.amounts, List.forall_mem_cons]
    exact ⟨rfl, ha.finite, hb.finite, total_held.finite, outstanding_held.finite, nofun⟩
  · rw [List.forall_mem_cons]
    exact ⟨htotal', hp.total_eq⟩
  · simp [hp.numbers, List.range_succ]

theorem Balanced.start {terms : LoanTerms} {payout : Installment}
    (hfinite : terms.principal.IsFinite)
    (h : Installment.disbursement terms.disbursed terms.principal.amount = .ok payout) :
    (start terms payout).Balanced terms.currency terms.principal.amount.toRat := by
  obtain ⟨zero, hz, hzero, rfl⟩ := Installment.disbursement_eq_ok hfinite h
  exact
    { outstanding_held := ⟨hfinite, rfl⟩
      principal_held := Money.heldIn_zero _
      interest_held := Money.heldIn_zero _
      repaid_held := Money.heldIn_zero _
      outstanding_eq := by simp [Progress.start]
      repaid_eq := by simp [Progress.start]
      principal_sum := by simp [Progress.start, hzero]
      interest_sum := by simp [Progress.start, hzero]
      finite := by simp [Progress.start, Installment.amounts, hz, show _ = true from hfinite]
      total_eq := by simp [Progress.start, hzero]
      numbers := rfl }

/-- The rows, the newest first, go down from the balance of the payout to the present one. -/
structure Descends (payout : Installment) (p : Progress) : Prop where
  follow : p.rows.IsChain Installment.Follows
  newest : ∃ row older, p.rows = row :: older ∧ row.outstanding = p.outstanding.amount
  oldest : ∃ newer, p.rows = newer ++ [payout]

theorem Descends.collect {payout : Installment} (hp : p.Descends payout)
    (houtstanding : p.outstanding.HeldIn c) (ha : a.HeldIn c) (hnonneg : 0 ≤ a.amount.toRat)
    (h : p.collect due a b = .ok q) : q.Descends payout := by
  obtain ⟨total, outstanding, principal, interest, repaid, -, hout, -, -, -, rfl⟩ :=
    collect_eq_ok h
  -- rows are put in front, so the one that the new row follows is the newest
  obtain ⟨row, older, hrows, hrow⟩ := hp.newest
  obtain ⟨newer, hnewer⟩ := hp.oldest
  refine ⟨?_, ⟨_, _, rfl, rfl⟩, ⟨_ :: newer, by rw [hnewer]; rfl⟩⟩
  have hchain := hp.follow
  rw [hrows] at hchain ⊢
  refine .cons_cons ⟨hnonneg, ?_⟩ hchain
  rw [hrow]
  exact Money.toRat_minus houtstanding ha hout

theorem Descends.start {terms : LoanTerms} {payout : Installment}
    (hfinite : terms.principal.IsFinite)
    (h : Installment.disbursement terms.disbursed terms.principal.amount = .ok payout) :
    (start terms payout).Descends payout := by
  obtain ⟨zero, -, -, rfl⟩ := Installment.disbursement_eq_ok hfinite h
  exact ⟨.singleton _, ⟨_, _, rfl, rfl⟩, ⟨[], rfl⟩⟩

end Progress
end AddOnLoan
