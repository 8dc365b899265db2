import AddOnLoan.Calendar.Date
import Mathlib

namespace AddOnLoan

def yearLength (year : Nat) : Nat := if isLeapYear year then 366 else 365

theorem isLeapYear_iff {year : Nat} :
    isLeapYear year = true ↔ year % 4 = 0 ∧ (year % 100 ≠ 0 ∨ year % 400 = 0) := by
  simp [isLeapYear]

theorem daysBeforeYear_succ {year : Nat} (h : 1 ≤ year) :
    daysBeforeYear (year + 1) = daysBeforeYear year + yearLength year := by
  obtain ⟨y, rfl⟩ := Nat.exists_eq_add_of_le' h
  -- each of the three quotients grows by one in the years that its divisor divides
  have hfour : (y + 1) / 4 = y / 4 + if (y + 1) % 4 = 0 then 1 else 0 := by split <;> omega
  have hcentury : (y + 1) / 100 = y / 100 + if (y + 1) % 100 = 0 then 1 else 0 := by
    split <;> omega
  have hcycle : (y + 1) / 400 = y / 400 + if (y + 1) % 400 = 0 then 1 else 0 := by
    split <;> omega
  have hle : y / 100 ≤ y / 4 := by omega
  have hdvd : (y + 1) % 100 = 0 → (y + 1) % 4 = 0 := by omega
  have hdvd' : (y + 1) % 400 = 0 → (y + 1) % 100 = 0 := by omega
  simp only [daysBeforeYear, yearLength, isLeapYear_iff, Nat.add_sub_cancel]
  rw [hfour, hcentury, hcycle]
  clear hfour hcentury hcycle
  generalize y / 4 = a, y / 100 = b, y / 400 = c, (y + 1) % 4 = r, (y + 1) % 100 = r',
    (y + 1) % 400 = r'' at *
  split_ifs <;> omega

theorem daysBeforeYear_mono {year later : Nat} (hpos : 1 ≤ year) (h : year ≤ later) :
    daysBeforeYear year ≤ daysBeforeYear later := by
  induction h with
  | refl => exact le_rfl
  | step h ih =>
    rw [Nat.succ_eq_add_one, daysBeforeYear_succ (hpos.trans h)]
    exact ih.trans (Nat.le_add_right _ _)

theorem daysOfMonths_twelve (year : Nat) : daysOfMonths year 12 = yearLength year := by
  simp only [daysOfMonths, monthLength, yearLength]
  split <;> rfl

theorem daysOfMonths_mono {year months more : Nat} (h : months ≤ more) :
    daysOfMonths year months ≤ daysOfMonths year more := by
  induction h with
  | refl => exact le_rfl
  | step _ ih => exact ih.trans (Nat.le_add_right _ _)

namespace Date

variable {d e : Date}

theorem lt_def : d < e ↔ d.year < e.year ∨ d.year = e.year ∧
    (d.month < e.month ∨ d.month = e.month ∧ d.day < e.day) := Iff.rfl

theorem lt_or_eq_or_lt (d e : Date) : d < e ∨ d = e ∨ e < d := by
  obtain ⟨_, _, _, _⟩ := d
  obtain ⟨_, _, _, _⟩ := e
  simp only [lt_def, mk.injEq]
  omega

theorem daysOfMonths_pred (d : Date) : daysOfMonths d.year (d.month - 1) +
    monthLength d.year d.month = daysOfMonths d.year d.month := by
  obtain ⟨m, hm⟩ := Nat.exists_eq_add_of_le' d.month_pos
  rw [hm]
  rfl

theorem dayNumber_le_month (d : Date) :
    d.dayNumber ≤ daysBeforeYear d.year + daysOfMonths d.year d.month := by
  have := d.day_le
  have := d.daysOfMonths_pred
  rw [dayNumber]
  omega

theorem dayNumber_le_year (d : Date) : d.dayNumber ≤ daysBeforeYear (d.year + 1) := by
  rw [daysBeforeYear_succ d.year_pos, ← daysOfMonths_twelve]
  exact d.dayNumber_le_month.trans (Nat.add_le_add_left (daysOfMonths_mono d.month_le) _)

theorem dayNumber_lt_of_lt (h : d < e) : d.dayNumber < e.dayNumber := by
  have hday := e.day_pos
  obtain hyear | ⟨hyear, hmonth | ⟨hmonth, h⟩⟩ := h
  · calc d.dayNumber ≤ daysBeforeYear (d.year + 1) := d.dayNumber_le_year
      _ ≤ daysBeforeYear e.year := daysBeforeYear_mono (Nat.le_add_left 1 _) hyear
      _ < e.dayNumber := by rw [dayNumber]; omega
  · calc d.dayNumber ≤ daysBeforeYear d.year + daysOfMonths d.year d.month := d.dayNumber_le_month
      _ ≤ daysBeforeYear d.year + daysOfMonths d.year (e.month - 1) :=
        Nat.add_le_add_left (daysOfMonths_mono (by omega)) _
      _ < e.dayNumber := by rw [dayNumber, hyear]; omega
  · rw [dayNumber, dayNumber, hyear, hmonth]
    omega

theorem dayNumber_lt_iff : d.dayNumber < e.dayNumber ↔ d < e := by
  refine ⟨fun h => ?_, dayNumber_lt_of_lt⟩
  rcases lt_or_eq_or_lt d e with hlt | rfl | hgt
  · exact hlt
  · exact absurd h (lt_irrefl _)
  · exact absurd h (dayNumber_lt_of_lt hgt).asymm

theorem dayNumber_injective : Function.Injective dayNumber := by
  intro d e h
  rcases lt_or_eq_or_lt d e with hlt | heq | hgt
  · exact absurd h (dayNumber_lt_of_lt hlt).ne
  · exact heq
  · exact absurd h (dayNumber_lt_of_lt hgt).ne'

theorem lt_irrefl (d : Date) : ¬d < d := fun h => Nat.lt_irrefl _ (dayNumber_lt_of_lt h)

theorem lt_trans {f : Date} (h : d < e) (h' : e < f) : d < f :=
  dayNumber_lt_iff.1 ((dayNumber_lt_of_lt h).trans (dayNumber_lt_of_lt h'))

theorem not_lt_iff : ¬e < d ↔ d.dayNumber ≤ e.dayNumber := by
  rw [← dayNumber_lt_iff, not_lt]

instance : IsTrans Date fun earlier later => ¬later < earlier :=
  ⟨fun _ _ _ h h' => not_lt_iff.2 ((not_lt_iff.1 h).trans (not_lt_iff.1 h'))⟩

theorem daysUntil_self (d : Date) : d.daysUntil d = 0 := sub_self _

theorem daysUntil_add (d e f : Date) : d.daysUntil e + e.daysUntil f = d.daysUntil f := by
  rw [daysUntil, daysUntil, daysUntil]
  omega

theorem dayNumber_bounds (d : Date) : 1 ≤ d.dayNumber ∧ d.dayNumber ≤ 3652059 := by
  have hday := d.day_pos
  refine ⟨by rw [dayNumber]; omega, ?_⟩
  calc d.dayNumber ≤ daysBeforeYear (d.year + 1) := d.dayNumber_le_year
    _ ≤ daysBeforeYear 10000 :=
      daysBeforeYear_mono (Nat.le_add_left 1 _) (Nat.succ_le_succ d.year_le)
    _ = 3652059 := rfl

/-- The year that is found for a day is the one it lies in. -/
theorem yearOfDay_spec {n : Nat} (hn : 1 ≤ n) :
    1 ≤ yearOfDay n ∧ daysBeforeYear (yearOfDay n) < n ∧ n ≤ daysBeforeYear (yearOfDay n + 1) := by
  -- counted in years of average length, a day lies in the year found or in the one before it
  have hpos : 1 ≤ (n - 1) * 400 / 146097 + 1 := Nat.le_add_left 1 _
  have hlow : daysBeforeYear ((n - 1) * 400 / 146097 + 1) < n := by
    simp only [daysBeforeYear]
    omega
  have hhigh : n ≤ daysBeforeYear ((n - 1) * 400 / 146097 + 1 + 1 + 1) := by
    simp only [daysBeforeYear]
    omega
  simp only [yearOfDay]
  split
  · next h => exact ⟨by omega, h, hhigh⟩
  · next h => exact ⟨hpos, hlow, Nat.le_of_not_lt h⟩

theorem placeInYear_spec {year tries month n m d : Nat} (hn : 1 ≤ n) (hmonth : 1 ≤ month)
    (hle : daysOfMonths year (month - 1) + n ≤ daysOfMonths year (month + tries))
    (h : placeInYear year tries month n = (m, d)) :
    month ≤ m ∧ m ≤ month + tries ∧ 1 ≤ d ∧ d ≤ monthLength year m ∧
      daysOfMonths year (m - 1) + d = daysOfMonths year (month - 1) + n := by
  have hsucc :
      daysOfMonths year month = daysOfMonths year (month - 1) + monthLength year month := by
    obtain ⟨k, rfl⟩ := Nat.exists_eq_add_of_le' hmonth
    rfl
  -- with each month that is passed over, as many days are left as the months still to try have
  induction tries generalizing month n with
  | zero =>
    cases h
    exact ⟨le_rfl, le_rfl, hn, by rw [Nat.add_zero] at hle; omega, rfl⟩
  | succ tries ih =>
    rw [placeInYear] at h
    split at h
    · next hfits =>
      cases h
      exact ⟨le_rfl, by omega, hn, hfits, rfl⟩
    · next hfits =>
      have hnext : month + 1 + tries = month + (tries + 1) := by omega
      obtain ⟨hm, hm', hd, hd', hsum⟩ := ih (n := n - monthLength year month) (by omega)
        (by omega) (by rw [hnext, Nat.add_sub_cancel]; omega) h rfl
      rw [Nat.add_sub_cancel] at hsum
      exact ⟨by omega, by omega, hd, hd', by omega⟩

/-- Every number in the range of the calendar is that of the day found for it. -/
theorem exists_ofDayNumber {n : Int} (h : 1 ≤ n) (h' : n ≤ 3652059) :
    ∃ d, ofDayNumber? n = some d ∧ (d.dayNumber : Int) = n := by
  obtain ⟨n, rfl⟩ := Int.eq_ofNat_of_zero_le (by omega : 0 ≤ n)
  obtain ⟨hyear, hlow, hhigh⟩ := yearOfDay_spec (n := n) (by omega)
  have hlast : yearOfDay n ≤ 9999 := by
    by_contra hlate
    have hmono : daysBeforeYear 10000 ≤ daysBeforeYear (yearOfDay n) :=
      daysBeforeYear_mono (by omega) (by omega)
    change 3652059 ≤ _ at hmono
    omega
  -- the eleven months after the first reach to the end of the year
  rcases hplace : placeInYear (yearOfDay n) 11 1 (n - daysBeforeYear (yearOfDay n)) with ⟨m, d⟩
  rw [daysBeforeYear_succ hyear, ← daysOfMonths_twelve] at hhigh
  obtain ⟨hm, hm', hd, hd', hsum⟩ := placeInYear_spec (by omega) le_rfl
    (by change 0 + _ ≤ daysOfMonths _ 12; omega) hplace
  refine ⟨⟨yearOfDay n, m, d, hyear, hlast, hm, hm', hd, hd'⟩, ?_, ?_⟩
  · rw [ofDayNumber?, if_neg (by omega)]
    simp only [Int.toNat_natCast, hplace]
    exact dif_pos ⟨hyear, hlast, hm, hm', hd, hd'⟩
  · change daysOfMonths _ (m - 1) + d = 0 + _ at hsum
    rw [dayNumber]
    simp only
    omega

theorem ofDayNumber_eq_some_iff {n : Int} : ofDayNumber? n = some d ↔ (d.dayNumber : Int) = n := by
  have hbounds := d.dayNumber_bounds
  constructor
  · intro h
    by_cases hn : n < 1 ∨ 3652059 < n
    · rw [ofDayNumber?, if_pos hn] at h
      cases h
    · obtain ⟨e, he, hnumber⟩ := exists_ofDayNumber (n := n) (by omega) (by omega)
      cases he.symm.trans h
      exact hnumber
  · intro h
    obtain ⟨e, he, hnumber⟩ := exists_ofDayNumber (n := n) (by omega) (by omega)
    rw [he, dayNumber_injective (show e.dayNumber = d.dayNumber by omega)]

theorem addDays_eq_ok_iff {days : Int} :
    d.addDays days = .ok e ↔ (e.dayNumber : Int) = d.dayNumber + days := by
  rw [← ofDayNumber_eq_some_iff, addDays]
  split
  · next hmany =>
    -- so many days lead out of the calendar from anywhere in it
    have := d.dayNumber_bounds
    rw [ofDayNumber?, if_pos (by omega)]
    exact ⟨nofun, nofun⟩
  · split
    · next h => rw [h, Except.ok.injEq, Option.some.injEq]
    · next h => rw [h]; exact ⟨nofun, nofun⟩

end Date
end AddOnLoan
