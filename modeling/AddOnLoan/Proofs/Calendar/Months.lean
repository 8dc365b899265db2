import AddOnLoan.Proofs.Calendar.DayNumber

namespace AddOnLoan
namespace Date

variable {d e : Date}

def monthCount (d : Date) : Nat := 12 * d.year + d.month

theorem lt_of_monthCount_lt (h : d.monthCount < e.monthCount) : d < e := by
  have := d.month_pos
  have := e.month_le
  simp only [monthCount] at h
  rw [lt_def]
  omega

theorem eq_of_parts (hyear : d.year = e.year) (hmonth : d.month = e.month) (hday : d.day = e.day) :
    d = e := by
  cases d
  cases e
  simp_all

theorem addMonths_eq_ok_iff {months : Int} : d.addMonths months = .ok e ↔
    (e.monthCount : Int) = d.monthCount + months ∧
      e.day = min d.day (monthLength e.year e.month) := by
  have := d.month_pos
  have := e.month_pos
  have := e.month_le
  have := e.year_pos
  have := e.year_le
  simp only [addMonths, monthCount]
  split
  · next hyear =>
    simp only [Except.ok.injEq]
    constructor
    · rintro rfl
      refine ⟨?_, rfl⟩
      simp only
      omega
    · rintro ⟨hcount, hday⟩
      have hyear' : ((d.year : Int) + (d.month - 1 + months) / 12).toNat = e.year := by omega
      have hmonth : (((d.month : Int) - 1 + months) % 12).toNat + 1 = e.month := by omega
      apply eq_of_parts hyear' hmonth
      rw [hday, ← hyear', ← hmonth]
  · next hyear =>
    simp only [reduceCtorEq, false_iff, not_and]
    intro hcount
    omega

theorem addMonths_zero (d : Date) : d.addMonths 0 = .ok d :=
  addMonths_eq_ok_iff.2 ⟨(Int.add_zero _).symm, (Nat.min_eq_left d.day_le).symm⟩

/-- More months lead to a later date, whatever days are cut off at the ends of months. -/
theorem addMonths_lt {months more : Int} {f : Date} (hlt : months < more)
    (h : d.addMonths months = .ok e) (h' : d.addMonths more = .ok f) : e < f := by
  apply lt_of_monthCount_lt
  have := (addMonths_eq_ok_iff.1 h).1
  have := (addMonths_eq_ok_iff.1 h').1
  omega

end Date
end AddOnLoan
