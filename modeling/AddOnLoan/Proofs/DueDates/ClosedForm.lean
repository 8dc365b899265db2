import AddOnLoan.Proofs.DueDates
import AddOnLoan.Proofs.Engine.Stages

namespace AddOnLoan

theorem exists_collectFrom {f : Nat → Except ε α} {i count : Nat} (found : List α)
    (h : ∀ k < count, ∃ a, f (i + k) = .ok a) : ∃ l, collectFrom f i found count = .ok l := by
  induction count generalizing i found with
  | zero => exact ⟨_, rfl⟩
  | succ count ih =>
    obtain ⟨a, ha⟩ := h 0 (Nat.succ_pos _)
    rw [Nat.add_zero] at ha
    rw [collectFrom, ha]
    refine ih _ fun k hk => ?_
    rw [Nat.add_assoc, Nat.add_comm 1]
    exact h (k + 1) (Nat.succ_lt_succ hk)

namespace Date

variable {d e : Date} {count more : Int} {u : PeriodUnit}

/-- The calendar, from the first day of the year 1 to the last of the year 9999, has a day of this
number. -/
def HasDay (n : Int) : Prop := ∃ d : Date, (d.dayNumber : Int) = n

def HasMonth (n : Int) : Prop := ∃ d : Date, (d.monthCount : Int) = n

/-- One date lies so many months behind another, on the same day or on the last day of a month that
is too short for it. -/
structure MonthsBehind (d e : Date) (months : Int) : Prop where
  month : (e.monthCount : Int) = d.monthCount + months
  day : e.day = min d.day (monthLength e.year e.month)

def LiesBehind (d e : Date) (count : Int) : PeriodUnit → Prop
  | .days => d.daysUntil e = count
  | .weeks => d.daysUntil e = 7 * count
  | .months => d.MonthsBehind e count
  | .years => d.MonthsBehind e (12 * count)

def HasRoom (d : Date) (count : Int) : PeriodUnit → Prop
  | .days => HasDay (d.dayNumber + count)
  | .weeks => HasDay (d.dayNumber + 7 * count)
  | .months => HasMonth (d.monthCount + count)
  | .years => HasMonth (d.monthCount + 12 * count)

theorem hasDay_iff {n : Int} : HasDay n ↔ 1 ≤ n ∧ n ≤ 3652059 := by
  constructor
  · rintro ⟨d, rfl⟩
    have := d.dayNumber_bounds
    omega
  · rintro ⟨hlow, hhigh⟩
    obtain ⟨d, -, hd⟩ := exists_ofDayNumber hlow hhigh
    exact ⟨d, hd⟩

theorem hasMonth_iff {n : Int} : HasMonth n ↔ 13 ≤ n ∧ n ≤ 120000 := by
  constructor
  · rintro ⟨d, rfl⟩
    have := d.year_pos
    have := d.year_le
    have := d.month_pos
    have := d.month_le
    rw [monthCount]
    omega
  · rintro ⟨hlow, hhigh⟩
    refine ⟨⟨((n - 1) / 12).toNat, ((n - 1) % 12).toNat + 1, 1, by omega, by omega, by omega,
      by omega, le_rfl, monthLength_pos _ _⟩, ?_⟩
    simp only [monthCount]
    omega

theorem hasDay (d : Date) : HasDay d.dayNumber := ⟨d, rfl⟩

theorem hasMonth (d : Date) : HasMonth d.monthCount := ⟨d, rfl⟩

theorem exists_addDays_iff : (∃ e, d.addDays count = .ok e) ↔ HasDay (d.dayNumber + count) := by
  simp only [addDays_eq_ok_iff, HasDay]

theorem addMonths_eq_ok_iff_monthsBehind : d.addMonths count = .ok e ↔ d.MonthsBehind e count :=
  addMonths_eq_ok_iff.trans ⟨fun h => ⟨h.1, h.2⟩, fun h => ⟨h.month, h.day⟩⟩

theorem exists_addMonths_iff :
    (∃ e, d.addMonths count = .ok e) ↔ HasMonth (d.monthCount + count) := by
  constructor
  · rintro ⟨e, he⟩
    exact (addMonths_eq_ok_iff.1 he).1 ▸ e.hasMonth
  · rw [hasMonth_iff, monthCount]
    intro hcount
    have hyear : 1 ≤ d.year + (d.month - 1 + count) / 12 ∧
        d.year + (d.month - 1 + count) / 12 ≤ 9999 := by
      omega
    simp only [addMonths]
    rw [dif_pos hyear]
    exact ⟨_, rfl⟩

theorem advance_eq_ok_iff : d.advance count (.unit u) = .ok e ↔ d.LiesBehind e count u := by
  cases u with
  | days | weeks =>
    rw [advance, mapError_eq_ok_iff, addDays_eq_ok_iff, LiesBehind, daysUntil]
    omega
  | months | years =>
    rw [advance, mapError_eq_ok_iff]
    exact addMonths_eq_ok_iff_monthsBehind

theorem exists_advance_iff : (∃ e, d.advance count (.unit u) = .ok e) ↔ d.HasRoom count u := by
  cases u with
  | days | weeks =>
    simp only [advance, mapError_eq_ok_iff]
    exact exists_addDays_iff
  | months | years =>
    simp only [advance, mapError_eq_ok_iff]
    exact exists_addMonths_iff

/-- Room for a date leaves room for every earlier one from the start on. -/
theorem HasRoom.of_le (hpos : 0 ≤ count) (hle : count ≤ more) (h : d.HasRoom more u) :
    d.HasRoom count u := by
  have hday := d.hasDay
  have hmonth := d.hasMonth
  rw [hasDay_iff] at hday
  rw [hasMonth_iff] at hmonth
  cases u <;> simp only [HasRoom, hasDay_iff, hasMonth_iff] at * <;> omega

end Date

namespace LoanTerms

variable {terms : LoanTerms} {u : PeriodUnit} {dates : List Date}

def origin (terms : LoanTerms) : Date := terms.firstRepayment.getD terms.disbursed

/-- The number of units from there to the due date with `k` others before it. -/
def unitsTo (terms : LoanTerms) (k : Int) : Int :=
  match terms.firstRepayment with
  | some _ => terms.every * k
  | none => terms.every * (k + 1)

/-- Terms that have due dates in a unit of the calendar. -/
structure HaveDates (terms : LoanTerms) (u : PeriodUnit) : Prop where
  repayments_pos : 1 ≤ terms.repayments
  every_pos : 1 ≤ terms.every
  first : ∀ first, terms.firstRepayment = some first → ¬first < terms.disbursed
  room : terms.origin.HasRoom (terms.unitsTo (terms.repayments - 1)) u

/-- Dates counted from the origin alone. -/
structure CountedIn (terms : LoanTerms) (u : PeriodUnit) (dates : List Date) : Prop where
  length : (dates.length : Int) = terms.repayments
  date : ∀ k (hk : k < dates.length), terms.origin.LiesBehind dates[k] (terms.unitsTo k) u

theorem anchor_eq (terms : LoanTerms) : terms.anchor.1 = terms.origin ∧
    ∀ k : Int, terms.every * (k + terms.anchor.2) = terms.unitsTo k := by
  cases h : terms.firstRepayment <;> simp [anchor, origin, unitsTo, h]

theorem unitsTo_nonneg (hevery : 1 ≤ terms.every) {k : Int} (hk : 0 ≤ k) :
    0 ≤ terms.unitsTo k := by
  unfold unitsTo
  split <;> exact Int.mul_nonneg (by omega) (by omega)

theorem unitsTo_mono (hevery : 1 ≤ terms.every) {k l : Int} (h : k ≤ l) :
    terms.unitsTo k ≤ terms.unitsTo l := by
  unfold unitsTo
  split <;> exact Int.mul_le_mul_of_nonneg_left (by omega) (by omega)

theorem countedIn_of_layOutDates (hu : terms.frequency = .unit u)
    (h : terms.layOutDates = .ok dates) : terms.HaveDates u ∧ terms.CountedIn u dates := by
  obtain ⟨hcheck, hlength, hdates⟩ := layOutDates_eq_ok h
  obtain ⟨hrepayments, hevery, hfirst⟩ := checkDates_eq_ok hcheck
  obtain ⟨horigin, hunits⟩ := terms.anchor_eq
  simp only [horigin, hunits, hu] at hdates
  refine ⟨⟨hrepayments, hevery, hfirst, ?_⟩, by omega, ?_⟩
  · have hlast := hdates (terms.repayments.toNat - 1) (by omega)
    rw [show ((terms.repayments.toNat - 1 : Nat) : Int) = terms.repayments - 1 by omega] at hlast
    exact Date.exists_advance_iff.1 ⟨_, hlast⟩
  · intro k hk
    exact Date.advance_eq_ok_iff.1 (hdates k hk)

theorem exists_layOutDates (hu : terms.frequency = .unit u) (h : terms.HaveDates u) :
    ∃ dates, terms.layOutDates = .ok dates := by
  obtain ⟨horigin, hunits⟩ := terms.anchor_eq
  let dateAt (k : Nat) : Except StepError Date :=
    terms.anchor.1.advance (terms.every * (k + terms.anchor.2)) terms.frequency
  -- the last date is the only one that has to be looked at
  have hreached : ∀ k < terms.repayments.toNat, ∃ e, dateAt (0 + k) = .ok e := by
    intro k hk
    simp only [dateAt]
    rw [horigin, hunits, hu, Nat.zero_add]
    exact Date.exists_advance_iff.2 (h.room.of_le (unitsTo_nonneg h.every_pos (by omega))
      (unitsTo_mono h.every_pos (by omega)))
  obtain ⟨dates, hdates⟩ := exists_collectFrom [] hreached
  refine ⟨dates, bind_eq_ok_iff.2
    ⟨(), checkDates_of_counts h.repayments_pos h.every_pos h.first, ?_⟩⟩
  exact mapError_eq_ok_iff.2 hdates

/-- Terms in days, weeks, months or years have due dates exactly if there is at least one repayment,
they are at least one unit apart, the first is not before the payout and the last is still in the
calendar; the dates are all counted from the origin. Other terms are turned down, unless that takes
a count with more digits than are written. -/
theorem dueDates_closedForm (hu : terms.frequency = .unit u) :
    ((∃ dates, terms.dueDates.outcome = .ok dates) ↔ terms.HaveDates u) ∧
    (∀ dates, terms.dueDates.outcome = .ok dates → terms.CountedIn u dates) ∧
    ∀ r, terms.dueDates.outcome = .error r →
      ¬terms.RefusesLongCount ∧ r.kind = .terms ∨
        terms.RefusesLongCount ∧ r = .input .longNumeral := by
  simp only [dueDates_outcome, mapError_eq_ok_iff]
  refine ⟨⟨?_, exists_layOutDates hu⟩, ?_, fun r hr => ?_⟩
  · rintro ⟨dates, hdates⟩
    exact (countedIn_of_layOutDates hu hdates).1
  · intro dates hdates
    exact (countedIn_of_layOutDates hu hdates).2
  · rw [← dueDates_outcome] at hr
    rcases dueDates_eq_error hr with ⟨hshort, e, rfl⟩ | hlong
    · exact .inl ⟨hshort, rfl⟩
    · exact .inr hlong

theorem dueDates_closedForm_longLoan :
    Engine.longLoan.frequency = .unit .months ∧ Engine.longLoan.HaveDates .months ∧
      Engine.longLoan.CountedIn .months Engine.longLoanDates := by
  have hunit : Engine.longLoan.frequency = .unit .months := rfl
  have hclosed := dueDates_closedForm hunit
  have hdates : Engine.longLoan.dueDates.outcome = .ok Engine.longLoanDates := by decide +kernel
  exact ⟨hunit, hclosed.1.1 ⟨_, hdates⟩, hclosed.2.1 _ hdates⟩

def endlessLoan : LoanTerms :=
  { Engine.longLoan with repayments := -(10 ^ longestNumeral : Nat) }

theorem not_turnedDown_endlessLoan : endlessLoan.frequency = .unit .months ∧
    endlessLoan.repayments < 1 ∧
      ∃ r, endlessLoan.dueDates.outcome = .error r ∧ r.kind ≠ .terms := by
  have hfew : endlessLoan.repayments < 1 := by
    have : 0 < 10 ^ longestNumeral := Nat.pow_pos (by decide)
    simp only [endlessLoan]
    omega
  have hlong : longestNumeral < digitCount endlessLoan.repayments.natAbs := by
    simp only [endlessLoan, Int.natAbs_neg, Int.natAbs_natCast, digitCount_pow]
    exact Nat.lt_succ_self _
  refine ⟨rfl, hfew, _, (RefusesLongCount.repayments hfew hlong).dueDates, ?_⟩
  decide

end LoanTerms
end AddOnLoan
