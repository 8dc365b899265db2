import AddOnLoan.DueDates
import AddOnLoan.Proofs.Calendar.Months
import AddOnLoan.Proofs.Decimal.Digits
import AddOnLoan.Proofs.Outcome

namespace AddOnLoan

theorem collectFrom_eq_ok {f : Nat → Except ε α} {i count : Nat} {found l : List α}
    (h : collectFrom f i found count = .ok l) :
    ∃ values, l = found.reverse ++ values ∧ values.length = count ∧
      ∀ k (hk : k < values.length), f (i + k) = .ok values[k] := by
  -- the values found so far only ever stand in front of the others
  induction count generalizing i found with
  | zero =>
    cases h
    exact ⟨[], (List.append_nil _).symm, rfl, nofun⟩
  | succ count ih =>
    rw [collectFrom] at h
    split at h
    · next a ha =>
      obtain ⟨values, rfl, hlength, hvalues⟩ := ih h
      refine ⟨a :: values, by simp, by simp [hlength], ?_⟩
      rintro (_ | k) hk
      · exact ha
      · rw [← Nat.add_assoc, Nat.add_right_comm]
        exact hvalues k (Nat.lt_of_succ_lt_succ hk)
    · cases h

namespace Date

variable {d e : Date} {count : Int} {frequency : Frequency}

theorem addDays_zero (d : Date) : d.addDays 0 = .ok d :=
  addDays_eq_ok_iff.2 (Int.add_zero _).symm

theorem advance_zero (d : Date) (u : PeriodUnit) : d.advance 0 (.unit u) = .ok d := by
  cases u with
  | days | weeks => exact mapError_eq_ok_iff.2 d.addDays_zero
  | months | years => exact mapError_eq_ok_iff.2 d.addMonths_zero

theorem advance_lt {more : Int} {f : Date} (hlt : count < more)
    (h : d.advance count frequency = .ok e) (h' : d.advance more frequency = .ok f) : e < f := by
  cases frequency with
  | unsupported name => cases h
  | unit u =>
    cases u with
    | days | weeks =>
      have := addDays_eq_ok_iff.1 (mapError_eq_ok_iff.1 h)
      have := addDays_eq_ok_iff.1 (mapError_eq_ok_iff.1 h')
      exact dayNumber_lt_iff.1 (by omega)
    | months => exact addMonths_lt hlt (mapError_eq_ok_iff.1 h) (mapError_eq_ok_iff.1 h')
    | years => exact addMonths_lt (by omega) (mapError_eq_ok_iff.1 h) (mapError_eq_ok_iff.1 h')

theorem lt_of_advance (hpos : 0 < count) (h : d.advance count frequency = .ok e) : d < e := by
  cases frequency with
  | unsupported name => cases h
  | unit u => exact advance_lt hpos (d.advance_zero u) h

theorem length_le_of_increasing {dates : List Date} (h : dates.Pairwise (· < ·)) :
    dates.length ≤ 3652059 := by
  have hnodup : (dates.map dayNumber).Nodup :=
    List.Nodup.map dayNumber_injective (h.imp fun hlt => by rintro rfl; exact lt_irrefl _ hlt)
  have hsub : dates.map dayNumber ⊆ List.range' 1 3652059 := by
    intro n hn
    obtain ⟨d, -, rfl⟩ := List.mem_map.1 hn
    rw [List.mem_range'_1]
    have := d.dayNumber_bounds
    omega
  have hle := (hnodup.subperm hsub).length_le
  rwa [List.length_map, List.length_range'] at hle

end Date

namespace LoanTerms

variable {terms : LoanTerms} {dates : List Date}

/-- Dates as terms lay them out: one for each repayment, from the payout on and ever later. -/
structure LaidOut (terms : LoanTerms) (dates : List Date) : Prop where
  repayments_pos : 1 ≤ terms.repayments
  count : (dates.length : Int) = terms.repayments
  first : ∀ d, dates.head? = some d → ¬d < terms.disbursed
  increasing : dates.Pairwise (· < ·)

theorem checkDates_eq_ok (h : terms.checkDates = .ok ()) : 1 ≤ terms.repayments ∧
    1 ≤ terms.every ∧ ∀ first, terms.firstRepayment = some first → ¬first < terms.disbursed := by
  unfold checkDates at h
  split at h
  · cases h
  · split at h
    · cases h
    · refine ⟨by omega, by omega, fun first hfirst => ?_⟩
      simp only [hfirst] at h
      split at h
      · cases h
      · assumption

theorem checkDates_of_counts (hrepayments : 1 ≤ terms.repayments) (hevery : 1 ≤ terms.every)
    (hfirst : ∀ first, terms.firstRepayment = some first → ¬first < terms.disbursed) :
    terms.checkDates = .ok () := by
  rw [checkDates, if_neg (by omega), if_neg (by omega)]
  split
  · next first hsome => exact if_neg (hfirst first hsome)
  · rfl

theorem layOutDates_eq_ok (h : terms.layOutDates = .ok dates) : terms.checkDates = .ok () ∧
    dates.length = terms.repayments.toNat ∧ ∀ k (hk : k < dates.length),
      terms.anchor.1.advance (terms.every * ((k : Int) + terms.anchor.2)) terms.frequency =
        .ok dates[k] := by
  obtain ⟨_, hcheck, h⟩ := bind_eq_ok_iff.1 h
  obtain ⟨values, rfl, hlength, hvalues⟩ := collectFrom_eq_ok (mapError_eq_ok_iff.1 h)
  refine ⟨hcheck, hlength, fun k hk => ?_⟩
  have hvalue := hvalues k hk
  simp only [Nat.zero_add] at hvalue
  exact hvalue

theorem dueDates_outcome (terms : LoanTerms) :
    terms.dueDates.outcome = terms.layOutDates.mapError TermsError.raised := by
  simp only [dueDates, Traced.outcome_bind, Traced.outcome_liftM]
  cases terms.layOutDates.mapError TermsError.raised with
  | error r => rfl
  | ok dates =>
    simp only [bind, Except.bind]
    split <;> rfl

/-- The count that terms are turned down for has more digits than are written. -/
inductive RefusesLongCount (terms : LoanTerms) : Prop
  | repayments (h : terms.repayments < 1)
    (hlong : longestNumeral < digitCount terms.repayments.natAbs)
  | every (hrepayments : 1 ≤ terms.repayments) (h : terms.every < 1)
    (hlong : longestNumeral < digitCount terms.every.natAbs)

theorem isWritable_of_checkDates {e : TermsError} (h : terms.checkDates = .error e) :
    e.isWritable = false ↔ terms.RefusesLongCount := by
  unfold checkDates at h
  split at h
  · next hrepayments =>
    cases h
    rw [TermsError.isWritable, fitsNumeral_eq_false_iff]
    refine ⟨fun hlong => .repayments hrepayments hlong, fun hlong => ?_⟩
    cases hlong with
    | repayments _ hlong => exact hlong
    | every hpos => omega
  · split at h
    · next hrepayments hevery =>
      cases h
      rw [TermsError.isWritable, fitsNumeral_eq_false_iff]
      refine ⟨fun hlong => .every (by omega) hevery hlong, fun hlong => ?_⟩
      cases hlong with
      | repayments h => exact absurd h hrepayments
      | every _ _ hlong => exact hlong
    · next hrepayments hevery =>
      have hcounts : ¬terms.RefusesLongCount := by
        rintro (⟨h, -⟩ | ⟨-, h, -⟩) <;> contradiction
      split at h
      · split at h <;> cases h
        exact ⟨nofun, fun hlong => absurd hlong hcounts⟩
      · cases h

theorem isWritable_of_layOutDates {e : TermsError} (h : terms.layOutDates = .error e) :
    e.isWritable = false ↔ terms.RefusesLongCount := by
  rcases bind_eq_error_iff.1 h with hcheck | ⟨_, hcheck, h⟩
  · exact isWritable_of_checkDates hcheck
  · obtain ⟨hrepayments, hevery, -⟩ := checkDates_eq_ok hcheck
    obtain ⟨_, -, rfl⟩ := mapError_eq_error_iff.1 h
    refine ⟨nofun, ?_⟩
    rintro (⟨h, -⟩ | ⟨-, h, -⟩) <;> omega

theorem dueDates_of_checkDates {e : TermsError} (h : terms.checkDates = .error e) :
    terms.dueDates.outcome = .error e.raised := by
  have hlaid : terms.layOutDates = .error e := by
    rw [layOutDates, h]
    rfl
  rw [dueDates_outcome, hlaid]
  rfl

theorem RefusesLongCount.dueDates (h : terms.RefusesLongCount) :
    terms.dueDates.outcome = .error (.input .longNumeral) := by
  obtain ⟨e, he⟩ : ∃ e, terms.checkDates = .error e := by
    cases hcheck : terms.checkDates with
    | error e => exact ⟨e, rfl⟩
    | ok _ =>
      obtain ⟨hrepayments, hevery, -⟩ := checkDates_eq_ok hcheck
      rcases h with ⟨h, -⟩ | ⟨-, h, -⟩ <;> omega
  rw [dueDates_of_checkDates he, TermsError.raised, (isWritable_of_checkDates he).2 h]
  rfl

/-- Terms without due dates are turned down, unless it takes a count with too many digits to say
why. -/
theorem dueDates_eq_error {r : Refusal} (h : terms.dueDates.outcome = .error r) :
    ¬terms.RefusesLongCount ∧ (∃ e, r = .terms e) ∨
      terms.RefusesLongCount ∧ r = .input .longNumeral := by
  rw [dueDates_outcome] at h
  obtain ⟨e, he, rfl⟩ := mapError_eq_error_iff.1 h
  have hlong := isWritable_of_layOutDates he
  rcases e.raised_cases with ⟨hwritable, hraised⟩ | ⟨hunwritable, hraised⟩
  · exact .inl ⟨fun h => by simp [hlong.2 h] at hwritable, e, hraised⟩
  · exact .inr ⟨hlong.1 hunwritable, hraised⟩

theorem first_of_anchor (hevery : 1 ≤ terms.every)
    (hfirst : ∀ first, terms.firstRepayment = some first → ¬first < terms.disbursed) {d : Date}
    (h : terms.anchor.1.advance (terms.every * ((0 : Int) + terms.anchor.2)) terms.frequency =
      .ok d) : ¬d < terms.disbursed := by
  unfold anchor at h
  split at h
  · next first hsome =>
    -- no interval lies between the anchor and a first date that is given
    rw [Int.natCast_zero, Int.add_zero, Int.mul_zero] at h
    cases hfrequency : terms.frequency with
    | unsupported name =>
      rw [hfrequency] at h
      cases h
    | unit u =>
      rw [hfrequency, Date.advance_zero] at h
      cases h
      exact hfirst first hsome
  · intro hlt
    refine Date.lt_irrefl _ (Date.lt_trans (Date.lt_of_advance ?_ h) hlt)
    rw [Int.zero_add, Int.natCast_one, Int.mul_one]
    omega

theorem laidOut_of_layOutDates (h : terms.layOutDates = .ok dates) : terms.LaidOut dates := by
  obtain ⟨hcheck, hlength, hdates⟩ := layOutDates_eq_ok h
  obtain ⟨hrepayments, hevery, hfirst⟩ := checkDates_eq_ok hcheck
  -- a date is not reached from the one before it but from the anchor, so days that a short month
  -- cuts off are back in the next one
  refine ⟨hrepayments, by omega, ?_, List.pairwise_iff_getElem.2 ?_⟩
  · intro d hd
    have hpos : 0 < dates.length := List.length_pos_of_mem (List.mem_of_mem_head? hd)
    have hzero : dates[0] = d := by simpa [List.head?_eq_getElem?, hpos] using hd
    exact first_of_anchor hevery hfirst (hzero ▸ hdates 0 hpos)
  · intro i j hi hj hij
    refine Date.advance_lt ?_ (hdates i hi) (hdates j hj)
    exact Int.mul_lt_mul_of_pos_left (by omega) (by omega)

theorem laidOut_of_dueDates (h : terms.dueDates.outcome = .ok dates) : terms.LaidOut dates :=
  laidOut_of_layOutDates (mapError_eq_ok_iff.1 (terms.dueDates_outcome ▸ h))

/-- The number of repayments can be written, for the calendar ends before it has too many digits. -/
theorem LaidOut.repayments_fit (h : terms.LaidOut dates) : fitsNumeral terms.repayments = true := by
  have hlength := Date.length_le_of_increasing h.increasing
  have hcount := h.count
  have hdigits : digitCount terms.repayments.natAbs ≤ 7 :=
    (digitCount_le_iff (by omega)).2 (by omega)
  exact decide_eq_true (hdigits.trans (by decide))

theorem LaidOut.order (h : terms.LaidOut dates) :
    (terms.disbursed :: dates).IsChain fun earlier later => ¬later < earlier := by
  have hchain : dates.IsChain fun earlier later => ¬later < earlier :=
    h.increasing.isChain.imp fun _ _ hlt hlt' => Date.lt_irrefl _ (Date.lt_trans hlt hlt')
  cases dates with
  | nil => exact .singleton _
  | cons d rest => exact .cons_cons (h.first d rfl) hchain

end LoanTerms
end AddOnLoan
