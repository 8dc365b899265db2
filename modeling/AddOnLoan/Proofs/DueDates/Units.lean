import AddOnLoan.Proofs.DueDates.ClosedForm
import AddOnLoan.Proofs.Engine.Refusals

namespace AddOnLoan

open LoanTerms

namespace LoanTerms

variable {terms : LoanTerms} {u : PeriodUnit} {name : Text} {cause : StepError}

structure HaveCounts (terms : LoanTerms) : Prop where
  repayments_pos : 1 ≤ terms.repayments
  every_pos : 1 ≤ terms.every
  first : ∀ first, terms.firstRepayment = some first → ¬first < terms.disbursed

theorem HaveCounts.checkDates (h : terms.HaveCounts) : terms.checkDates = .ok () :=
  checkDates_of_counts h.repayments_pos h.every_pos h.first

/-- The first date that is looked for is the one at which such a unit is found. -/
theorem dueDates_of_unsupported (h : terms.HaveCounts)
    (hunit : terms.frequency = .unsupported name) :
    terms.dueDates.outcome = .error (.terms (.datesPastCalendar (.unsupportedUnit name))) := by
  have hrepayments := h.repayments_pos
  obtain ⟨count, hcount⟩ : ∃ count, terms.repayments.toNat = count + 1 :=
    ⟨terms.repayments.toNat - 1, by omega⟩
  have hlaid : terms.layOutDates = .error (.datesPastCalendar (.unsupportedUnit name)) := by
    rw [layOutDates, h.checkDates, ok_bind, hcount, hunit]
    rfl
  rw [dueDates_outcome, hlaid]
  rfl

def OutOfCalendar (terms : LoanTerms) : Prop :=
  ∃ u k, terms.frequency = .unit u ∧ 0 ≤ k ∧ k < terms.repayments ∧
    ¬terms.origin.HasRoom (terms.unitsTo k) u

theorem checkDates_ne_datesPastCalendar : terms.checkDates ≠ .error (.datesPastCalendar cause) := by
  intro h
  unfold LoanTerms.checkDates at h
  split at h
  · cases h
  · split at h
    · cases h
    · split at h
      · split at h <;> cases h
      · cases h

theorem outOfCalendar_of_unit (hunit : terms.frequency = .unit u)
    (h : terms.dueDates.outcome = .error (.terms (.datesPastCalendar cause))) :
    terms.OutOfCalendar := by
  rw [dueDates_outcome, mapError_eq_error_iff] at h
  obtain ⟨e, hlaid, he⟩ := h
  obtain ⟨-, rfl⟩ := TermsError.raised_eq_terms_iff.1 he
  have hcheck : terms.checkDates = .ok () := by
    cases hcheck : terms.checkDates with
    | ok _ => rfl
    | error e =>
      rw [layOutDates, hcheck] at hlaid
      cases hlaid
      exact absurd hcheck checkDates_ne_datesPastCalendar
  obtain ⟨hrepayments, hevery, hfirst⟩ := checkDates_eq_ok hcheck
  refine ⟨u, terms.repayments - 1, hunit, by omega, by omega, fun hroom => ?_⟩
  obtain ⟨dates, hdates⟩ := exists_layOutDates hunit ⟨hrepayments, hevery, hfirst, hroom⟩
  cases hdates.symm.trans hlaid

end LoanTerms

namespace Engine

variable {engine : Engine} {terms : LoanTerms} {u : PeriodUnit} {name : Text} {cause : StepError}

theorem dueDates_of_generate
    (h : (engine.generate terms).outcome = .error (.terms (.datesPastCalendar cause))) :
    terms.dueDates.outcome = .error (.terms (.datesPastCalendar cause)) := by
  cases hdates : terms.dueDates.outcome with
  | error r =>
    have hr : (engine.generate terms).outcome = .error r := generate_eq_error_iff.2 (.inl hdates)
    cases hr.symm.trans h
    rfl
  | ok dates =>
    rcases (generate_rejection engine hdates).2 _ h with ⟨_, -, h⟩ | h
    · cases h
    · cases h with
      | unfit h => cases h
      | arithmetic h => cases h

/-- Terms are turned down for a unit that is not supported as for what it is, whichever unit it is,
and for the calendar only if some due date is not in it. -/
structure ReportsUnits (engine : Engine) (terms : LoanTerms) : Prop where
  repayments : ∀ name, terms.frequency = .unsupported name →
    (∃ r, terms.dueDates.outcome = .error r ∧ r.kind = .unsupportedUnit) ∧
      ∃ r, (engine.generate terms).outcome = .error r ∧ r.kind = .unsupportedUnit
  term : ∀ u name, terms.frequency = .unit u → terms.HaveDates u →
    terms.termFrequency = .unsupported name →
      ∃ r, (engine.generate terms).outcome = .error r ∧ r.kind = .unsupportedUnit
  calendar : ∀ cause,
    terms.dueDates.outcome = .error (.terms (.datesPastCalendar cause)) ∨
        (engine.generate terms).outcome = .error (.terms (.datesPastCalendar cause)) →
      terms.OutOfCalendar

theorem generate_of_unmapped (hunit : terms.frequency = .unit u) (h : terms.HaveDates u)
    (hterm : terms.termFrequency = .unsupported name) :
    (engine.generate terms).outcome = .error (.unmappedUnit name) := by
  obtain ⟨dates, hdates⟩ := exists_layOutDates hunit h
  refine generate_eq_error_iff.2 (.inr ⟨dates, ?_, .inl ?_⟩)
  · rw [dueDates_outcome, hdates]
    rfl
  · rw [hterm]
    rfl

theorem reportsUnits_of_unit (hunit : terms.frequency = .unit u) :
    engine.ReportsUnits terms where
  repayments name hname := by
    cases hunit.symm.trans hname
  term v name hv hdates hterm := ⟨_, generate_of_unmapped hv hdates hterm, rfl⟩
  calendar cause h := outOfCalendar_of_unit hunit (h.elim id dueDates_of_generate)

/-- Units are reported as they should be exactly if that of the repayments is supported. Terms with
another are turned down as if their due dates were past the calendar. -/
theorem reportsUnits_iff (engine : Engine) (h : terms.HaveCounts) :
    (engine.ReportsUnits terms ↔ ∃ u, terms.frequency = .unit u) ∧
      ∀ name, terms.frequency = .unsupported name →
        terms.dueDates.outcome = .error (.terms (.datesPastCalendar (.unsupportedUnit name))) ∧
          (engine.generate terms).outcome =
            .error (.terms (.datesPastCalendar (.unsupportedUnit name))) := by
  have hpassed (name : Text) (hname : terms.frequency = .unsupported name) :
      terms.dueDates.outcome = .error (.terms (.datesPastCalendar (.unsupportedUnit name))) ∧
        (engine.generate terms).outcome =
          .error (.terms (.datesPastCalendar (.unsupportedUnit name))) := by
    have hdates := dueDates_of_unsupported h hname
    exact ⟨hdates, generate_eq_error_iff.2 (.inl hdates)⟩
  refine ⟨⟨fun hreports => ?_, fun ⟨_, hunit⟩ => reportsUnits_of_unit hunit⟩, hpassed⟩
  cases hunit : terms.frequency with
  | unit u => exact ⟨u, rfl⟩
  | unsupported name =>
    obtain ⟨r, hr, hkind⟩ := (hreports.repayments name hunit).1
    cases (hpassed name hunit).1.symm.trans hr
    cases hkind

def fortnightly : LoanTerms := { longLoan with frequency := .unsupported "fortnights" }

theorem haveCounts_fortnightly : fortnightly.HaveCounts :=
  ⟨by decide, by decide, nofun⟩

theorem reportsUnits_iff_fortnightly : fortnightly.HaveCounts ∧
    fortnightly.dueDates.outcome =
      .error (.terms (.datesPastCalendar (.unsupportedUnit "fortnights"))) :=
  ⟨haveCounts_fortnightly, ((reportsUnits_iff {} haveCounts_fortnightly).2 _ rfl).1⟩

theorem not_reportsUnits_fortnightly :
    fortnightly.HaveCounts ∧ ¬Engine.ReportsUnits {} fortnightly := by
  refine ⟨haveCounts_fortnightly, fun h => ?_⟩
  obtain ⟨⟨r, hr, hkind⟩, -⟩ := h.repayments _ rfl
  cases (dueDates_of_unsupported haveCounts_fortnightly rfl).symm.trans hr
  cases hkind

end Engine
end AddOnLoan
