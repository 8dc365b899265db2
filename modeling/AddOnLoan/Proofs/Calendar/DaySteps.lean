import AddOnLoan.Proofs.DueDates.ClosedForm

namespace AddOnLoan
namespace Date

variable {d : Date} {days : Int}

def first : Date := (of? 1 1 1).get rfl

def last : Date := (of? 9999 12 31).get rfl

/-- So many days behind a date is a day of the calendar. -/
def Reaches (d : Date) (days : Int) : Prop := d.daysUntil first ≤ days ∧ days ≤ d.daysUntil last

/-- Steps from one date and counts of days from it are inverse, and counts add up and have the sign
of the order. -/
structure DayLaws (d : Date) : Prop where
  days : ∀ k, d.Reaches k ↔ ∃ e, d.advance k (.unit .days) = .ok e ∧ d.daysUntil e = k
  weeks : ∀ k, d.Reaches (7 * k) ↔
    ∃ e, d.advance k (.unit .weeks) = .ok e ∧ d.daysUntil e = 7 * k
  back : ∀ e, d.advance (d.daysUntil e) (.unit .days) = .ok e
  additive : ∀ e f, d.daysUntil e + e.daysUntil f = d.daysUntil f
  positive : ∀ e, 0 < d.daysUntil e ↔ d < e

theorem reaches_iff_hasDay : d.Reaches days ↔ HasDay (d.dayNumber + days) := by
  have hfirst : first.dayNumber = 1 := rfl
  have hlast : last.dayNumber = 3652059 := by decide +kernel
  rw [hasDay_iff, Reaches, daysUntil, daysUntil, hfirst, hlast]
  omega

theorem daysUntil_eq_iff {e : Date} :
    d.daysUntil e = days ↔ (e.dayNumber : Int) = d.dayNumber + days := by
  rw [daysUntil]
  omega

theorem reaches_iff_exists : d.Reaches days ↔ ∃ e, d.daysUntil e = days := by
  simp only [reaches_iff_hasDay, HasDay, daysUntil_eq_iff]

theorem daysUntil_pos_iff {e : Date} : 0 < d.daysUntil e ↔ d < e := by
  rw [← dayNumber_lt_iff, daysUntil]
  omega

theorem exists_liesBehind_iff {count : Int} {u : PeriodUnit} : (∃ e, d.LiesBehind e count u) ↔
    ∃ e, d.advance count (.unit u) = .ok e ∧ d.LiesBehind e count u :=
  exists_congr fun _ => (and_iff_right_of_imp advance_eq_ok_iff.2).symm

/-- Days and weeks lead to the day that is counted so many days later, for every date from the first
of the calendar to the last. -/
theorem dayLaws (d : Date) : d.DayLaws where
  days _ := reaches_iff_exists.trans (exists_liesBehind_iff (u := .days))
  weeks _ := reaches_iff_exists.trans (exists_liesBehind_iff (u := .weeks))
  back _ := advance_eq_ok_iff.2 rfl
  additive := d.daysUntil_add
  positive _ := daysUntil_pos_iff

end Date
end AddOnLoan
