import AddOnLoan.Proofs.DueDates.ClosedForm

namespace AddOnLoan
namespace Date

variable {d e f : Date} {months more : Int}

def yearBehind (d : Date) (months : Int) : Int := (d.monthCount + months - 1) / 12

theorem yearBehind_eq (d : Date) (months : Int) :
    d.yearBehind months = d.year + (d.month - 1 + months) / 12 := by
  rw [yearBehind, monthCount]
  omega

/-- A date is moved exactly if its new month is in the years of the calendar, and a move to any
other month is refused as one kind of mistake. -/
structure MovesOrRefuses (d : Date) (months : Int) (kind : Refusal.Kind) : Prop where
  moves : (∃ e, d.addMonths months = .ok e) ↔
    1 ≤ d.yearBehind months ∧ d.yearBehind months ≤ 9999
  refuses : ∀ cause, d.addMonths months = .error cause →
    (Refusal.step (.calendar cause)).kind = kind

/-- The laws of moving one date by months, one after the other and beside other dates. -/
structure MonthLaws (d : Date) : Prop where
  lands : ∀ months e, d.addMonths months = .ok e → d.MonthsBehind e months
  increasing : ∀ months more e f, months < more → d.addMonths months = .ok e →
    d.addMonths more = .ok f → e < f
  monotone : ∀ later months e f, ¬later < d → d.addMonths months = .ok e →
    later.addMonths months = .ok f → ¬f < e
  composes : ∀ months more e f, d.addMonths months = .ok e → e.addMonths more = .ok f →
    ∃ g, d.addMonths (months + more) = .ok g ∧ f.year = g.year ∧ f.month = g.month ∧
      f.day ≤ g.day ∧ (d.day ≤ monthLength e.year e.month → f.day = g.day)

theorem month_eq_of_monthCount_eq (h : d.monthCount = e.monthCount) :
    d.year = e.year ∧ d.month = e.month := by
  have := d.month_pos
  have := d.month_le
  have := e.month_pos
  have := e.month_le
  simp only [monthCount] at h
  omega

theorem addMonths_mono {later : Date} (hle : ¬later < d) (he : d.addMonths months = .ok e)
    (hf : later.addMonths months = .ok f) : ¬f < e := by
  obtain ⟨hmonth, hday⟩ := addMonths_eq_ok_iff_monthsBehind.1 he
  obtain ⟨hmonth', hday'⟩ := addMonths_eq_ok_iff_monthsBehind.1 hf
  have hcount : d.monthCount ≤ later.monthCount :=
    Nat.not_lt.1 fun hlt => hle (lt_of_monthCount_lt hlt)
  rcases Nat.lt_or_eq_of_le hcount with hlt | heq
  · have hbefore : e < f := lt_of_monthCount_lt (by omega)
    exact fun hafter => lt_irrefl _ (lt_trans hbefore hafter)
  · -- within one month the later day may be cut off, but not to below the earlier one
    obtain ⟨hyear, hmonths⟩ := month_eq_of_monthCount_eq heq
    obtain ⟨hyear', hmonths'⟩ := month_eq_of_monthCount_eq (d := e) (e := f) (by omega)
    rw [hyear', hmonths'] at hday
    rw [lt_def] at hle ⊢
    omega

/-- Two moves lead to the month of one. A day cut off by the month between them is not got back, so
the day is no later than that of the one move. -/
theorem addMonths_addMonths (he : d.addMonths months = .ok e) (hf : e.addMonths more = .ok f) :
    ∃ g, d.addMonths (months + more) = .ok g ∧ f.year = g.year ∧ f.month = g.month ∧
      f.day ≤ g.day ∧ (d.day ≤ monthLength e.year e.month → f.day = g.day) := by
  obtain ⟨hmonth, hday⟩ := addMonths_eq_ok_iff_monthsBehind.1 he
  obtain ⟨hmonth', hday'⟩ := addMonths_eq_ok_iff_monthsBehind.1 hf
  have hroom : HasMonth (d.monthCount + (months + more)) := ⟨f, by omega⟩
  obtain ⟨g, hg⟩ := exists_addMonths_iff.2 hroom
  obtain ⟨hmonth'', hday''⟩ := addMonths_eq_ok_iff_monthsBehind.1 hg
  obtain ⟨hyear, hmonths⟩ := month_eq_of_monthCount_eq (d := f) (e := g) (by omega)
  rw [← hyear, ← hmonths] at hday''
  exact ⟨g, hg, hyear, hmonths, by omega, by omega⟩

theorem monthLaws (d : Date) : d.MonthLaws where
  lands _ _ := addMonths_eq_ok_iff_monthsBehind.1
  increasing _ _ _ _ := addMonths_lt
  monotone _ _ _ _ := addMonths_mono
  composes _ _ _ _ := addMonths_addMonths

theorem addMonths_eq_error {cause : CalendarError} (h : d.addMonths months = .error cause) :
    cause = .ofYear (d.yearBehind months) := by
  simp only [addMonths] at h
  split at h
  · cases h
  · cases h
    rw [yearBehind_eq]

theorem exists_addMonths_iff_yearBehind : (∃ e, d.addMonths months = .ok e) ↔
    1 ≤ d.yearBehind months ∧ d.yearBehind months ≤ 9999 := by
  rw [exists_addMonths_iff, hasMonth_iff, yearBehind]
  omega

def kindOfYear (year : Int) : Refusal.Kind :=
  if -2147483648 ≤ year ∧ year ≤ 2147483647 then .invalidValue else .outOfRange

theorem kind_ofYear (year : Int) :
    (Refusal.step (.calendar (.ofYear year))).kind = kindOfYear year := by
  rw [CalendarError.ofYear, kindOfYear]
  split <;> rfl

/-- Every date can be moved by exactly the months that keep it in the calendar, and the moves obey
the laws; other moves are refused as bad values, or as out of range if the year to move to has more
than thirty-two bits. -/
theorem addMonths_laws (d : Date) : d.MonthLaws ∧
    ∀ months, d.MovesOrRefuses months (kindOfYear (d.yearBehind months)) :=
  ⟨d.monthLaws, fun _ => ⟨exists_addMonths_iff_yearBehind, fun _ h => by
    rw [addMonths_eq_error h, kind_ofYear]⟩⟩

theorem not_movesOrRefuses_tooLong :
    ¬MovesOrRefuses { year := 2024, month := 1, day := 1 } 25769803776 .invalidValue := by
  intro h
  cases h.refuses _ rfl

end Date
end AddOnLoan
