import AddOnLoan.Proofs.Calendar.DayNumber
import AddOnLoan.Proofs.Schedule.Reconciliation

namespace AddOnLoan

/-- A schedule is laid out for a loan and its due dates. -/
structure Schedule.LaidOut (s : Schedule) (terms : LoanTerms) (dueDates : List Date) : Prop where
  count : (dueDates.length : Int) = terms.repayments
  numbers : s.rows.map (·.number) = List.range (dueDates.length + 1)
  payout : ∃ payout, s.rows.head? = some payout ∧ payout.start = none ∧
    ∀ x ∈ [payout.principalDue, payout.interestDue, payout.totalDue], x.isZero
  dues : s.rows.map (·.due) = terms.disbursed :: dueDates
  starts : s.rows.IsChain fun previous row => row.start = some previous.due
  days : ∃ last, dueDates.getLast? = some last ∧ s.termInDays = terms.disbursed.daysUntil last
  order : (s.rows.map (·.due)).Pairwise fun earlier later => ¬later < earlier
  places : ∀ x ∈ s.amounts, x.HasPlaces terms.currency.places

/-- The zeros of a payout have the places of its principal, however many digits that has. -/
theorem Installment.disbursement_places {date : Date} {principal : Decimal} {payout : Installment}
    {places : Nat} (hprincipal : principal.HasPlaces places) (hplaces : places ≤ 10)
    (h : Installment.disbursement date principal = .ok payout) :
    ∃ zero : Decimal, zero.isZero ∧ zero.HasPlaces places ∧
      payout = ⟨0, none, date, principal, zero, zero, zero, principal⟩ := by
  obtain ⟨s, n, rfl⟩ := hprincipal.eq_finite
  obtain ⟨t, zero, rfl, hpayout⟩ :=
    Installment.disbursement_finite date s n (-(places : Int))
  cases h.symm.trans hpayout
  have hmin : (⟨28, .halfEven⟩ : Context).etiny = -1000026 := rfl
  have hmax : Context.emax = 999999 := rfl
  -- no currency has so many places that its zeros would be out of range
  have hrange : max (⟨28, .halfEven⟩ : Context).etiny (min (-(places : Int)) Context.emax) =
      -(places : Int) := by omega
  rw [hrange]
  exact ⟨.finite t 0 (-(places : Int)), rfl, ⟨rfl, rfl⟩, rfl⟩

namespace Progress

variable {c : Currency} {p q : Progress} {due : Date} {a b : Money}

/-- The rows, the newest first, lead from the day of the payout over the due dates that are done to
the present day. -/
structure Reaches (disbursed : Date) (done : List Date) (p : Progress) : Prop where
  dues : p.rows.map (·.due) = (disbursed :: done).reverse
  starts : p.rows.IsChain fun row previous => row.start = some previous.due
  today : (disbursed :: done).getLast? = some p.date
  days : p.days = disbursed.daysUntil p.date

theorem Reaches.collect {disbursed : Date} {done : List Date} (hp : p.Reaches disbursed done)
    (h : p.collect due a b = .ok q) : q.Reaches disbursed (done ++ [due]) := by
  obtain ⟨total, outstanding, principal, interest, repaid, -, -, -, -, -, rfl⟩ := collect_eq_ok h
  -- the newest row is the one that the new row begins after
  have hnewest : ∀ row ∈ p.rows.head?, row.due = p.date := by
    intro row hrow
    have hdue : (p.rows.map (·.due)).head? = some row.due := by
      rw [List.head?_map, hrow]
      rfl
    rw [hp.dues, List.head?_reverse, hp.today, Option.some.injEq] at hdue
    exact hdue.symm
  exact
    { dues := by
        rw [← List.cons_append, List.reverse_append, ← hp.dues]
        rfl
      starts := List.isChain_cons.2
        ⟨fun row hrow => congrArg some (hnewest row hrow).symm, hp.starts⟩
      today := by rw [← List.cons_append, List.getLast?_concat]
      days := by rw [hp.days, Date.daysUntil_add] }

theorem Reaches.start {terms : LoanTerms} {payout : Installment}
    (hfinite : terms.principal.IsFinite)
    (h : Installment.disbursement terms.disbursed terms.principal.amount = .ok payout) :
    (start terms payout).Reaches terms.disbursed [] := by
  obtain ⟨zero, -, -, rfl⟩ := Installment.disbursement_eq_ok hfinite h
  exact ⟨rfl, .singleton _, rfl, (Date.daysUntil_self _).symm⟩

def Scaled (c : Currency) (p : Progress) : Prop :=
  ∀ row ∈ p.rows, ∀ x ∈ row.amounts, x.HasPlaces c.places

theorem Scaled.collect (hp : p.Scaled c) (houtstanding : p.outstanding.HeldIn c)
    (ha : a.HeldIn c) (hb : b.HeldIn c) (h : p.collect due a b = .ok q) : q.Scaled c := by
  obtain ⟨total, outstanding, principal, interest, repaid, htotal, hout, -, -, -, rfl⟩ :=
    collect_eq_ok h
  have total_held := (Money.plus_eq_ok ha hb htotal).1
  have outstanding_held := (Money.minus_eq_ok houtstanding ha hout).1
  have hzero : (Money.zero a.currency).amount.HasPlaces c.places :=
    ha.currency ▸ (Money.heldIn_zero a.currency).hasPlaces
  refine List.forall_mem_cons.2 ⟨?_, hp⟩
  simp only [Installment.amounts, List.forall_mem_cons]
  exact ⟨hzero, ha.hasPlaces, hb.hasPlaces, total_held.hasPlaces,
    outstanding_held.hasPlaces, List.forall_mem_nil _⟩

theorem Scaled.start {terms : LoanTerms} {payout : Installment}
    (hheld : terms.principal.HeldIn terms.currency)
    (h : Installment.disbursement terms.disbursed terms.principal.amount = .ok payout) :
    (start terms payout).Scaled terms.currency := by
  have hprincipal := hheld.hasPlaces
  obtain ⟨zero, -, hzero, rfl⟩ :=
    Installment.disbursement_places hprincipal terms.currency.places_le h
  refine List.forall_mem_singleton.2 ?_
  simp only [Installment.amounts, List.forall_mem_cons]
  exact ⟨hprincipal, hzero, hzero, hzero, hprincipal, List.forall_mem_nil _⟩

end Progress

namespace Engine

variable {engine : Engine} {terms : LoanTerms} {dueDates : List Date} {perYear : Decimal}
  {s : Schedule}

namespace Run

variable (run : Run engine terms dueDates perYear)

theorem full_reaches : run.full.Reaches terms.disbursed dueDates :=
  run.traced (.start run.principal_held.finite run.payout_eq)
    fun _ _ _ _ _ _ _ _ _ hp h => hp.collect h

theorem full_scaled : run.full.Scaled terms.currency :=
  run.traced (P := fun _ p => p.Scaled terms.currency) (.start run.principal_held run.payout_eq)
    fun _ _ _ _ _ _ hbalanced ha hb hp h => hp.collect hbalanced.outstanding_held ha hb h

theorem getLast?_dueDates : dueDates.getLast? = some run.last :=
  (congrArg List.getLast? run.dueDates_eq).trans List.getLast?_concat

theorem number_eq : run.full.number = dueDates.length := by
  have hnumbers := congrArg List.length run.full_balanced.numbers
  have hdues := congrArg List.length run.full_reaches.dues
  simp only [List.length_map, List.length_reverse, List.length_range, List.length_cons] at *
  omega

end Run

theorem hasPlaces_of_compute (h : (engine.compute terms dueDates perYear).outcome = .ok s) :
    ∀ x ∈ s.amounts, x.HasPlaces terms.currency.places := by
  obtain ⟨run, hs⟩ := exists_run h
  have hfull := run.full_balanced
  obtain ⟨rest, hrest, rfl⟩ := schedule_eq_ok hs
  have rest_held := (Money.minus_eq_ok run.principal_held hfull.principal_held hrest).1
  rw [Schedule.forall_mem_amounts]
  constructor
  · simp only [Schedule.totals, List.forall_mem_cons]
    exact ⟨run.totalInterest_held.hasPlaces, run.principal_held.hasPlaces,
      hfull.principal_held.hasPlaces, rest_held.hasPlaces, hfull.interest_held.hasPlaces,
      (Money.heldIn_zero _).hasPlaces, hfull.repaid_held.hasPlaces, List.forall_mem_nil _⟩
  · intro row hrow
    exact run.full_scaled row (List.mem_reverse.1 hrow)

/-- Whatever the rounding, the terms and the due dates, a schedule that comes about is laid out for
them. -/
theorem compute_laidOut (h : (engine.compute terms dueDates perYear).outcome = .ok s) :
    s.LaidOut terms dueDates := by
  have hplaces := hasPlaces_of_compute h
  obtain ⟨run, hs⟩ := exists_run h
  have hreaches := run.full_reaches
  have hnumbers := run.numbers hs
  have hrows := run.rows_eq hs
  rw [run.number_eq] at hnumbers
  obtain ⟨zero, hzero, -, hpayout⟩ := Installment.disbursement_places
    run.principal_held.hasPlaces terms.currency.places_le run.payout_eq
  obtain ⟨rest, -, rfl⟩ := schedule_eq_ok hs
  have hdues : run.full.rows.reverse.map (·.due) = terms.disbursed :: dueDates := by
    rw [List.map_reverse, hreaches.dues, List.reverse_reverse]
  exact
    { count := run.admits.count
      numbers := hnumbers
      payout := ⟨run.payout, by rw [hrows]; rfl, by rw [hpayout], by simp [hpayout, hzero]⟩
      dues := hdues
      starts := List.isChain_reverse.2 hreaches.starts
      days := by
        -- there is a due date, so the last day reached is one
        have hlast := run.getLast?_dueDates
        have htoday := hreaches.today
        rw [List.getLast?_cons, hlast, Option.getD_some] at htoday
        exact ⟨run.last, hlast, Option.some.inj htoday ▸ hreaches.days⟩
      order := by
        rw [hdues]
        exact List.isChain_iff_pairwise.1 run.admits.order
      places := hplaces }

theorem compute_laidOut_longLoan : ∃ s,
    (upward.compute longLoan longLoanDates (.ofNat 1)).outcome = .ok s ∧
      s.LaidOut longLoan longLoanDates := by
  obtain ⟨s, h⟩ := exists_schedule_longLoan
  exact ⟨s, h, compute_laidOut h⟩

end Engine
end AddOnLoan
