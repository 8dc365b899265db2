namespace AddOnLoan

def isLeapYear (year : Nat) : Bool :=
  year % 4 == 0 && (year % 100 != 0 || year % 400 == 0)

def monthLength (year month : Nat) : Nat :=
  match month with
  | 2 => if isLeapYear year then 29 else 28
  | 4 | 6 | 9 | 11 => 30
  | _ => 31

/-- A day of the Gregorian calendar, years 1 to 9999. -/
structure Date where
  year : Nat
  month : Nat
  day : Nat
  year_pos : 1 ≤ year := by decide
  year_le : year ≤ 9999 := by decide
  month_pos : 1 ≤ month := by decide
  month_le : month ≤ 12 := by decide
  day_pos : 1 ≤ day := by decide
  day_le : day ≤ monthLength year month := by decide
  deriving DecidableEq, Repr

inductive CalendarError where
  | yearOutOfRange (year : Int)
  /-- A year that cannot even be written with thirty-two bits. -/
  | yearTooLong (year : Int)
  | dateOutOfRange
  /-- More days than the calendar can count at all. -/
  | tooManyDays (days : Int)
  deriving DecidableEq, Repr

def CalendarError.ofYear (year : Int) : CalendarError :=
  if -2147483648 ≤ year ∧ year ≤ 2147483647 then .yearOutOfRange year else .yearTooLong year

def daysBeforeYear (year : Nat) : Nat :=
  365 * (year - 1) + (year - 1) / 4 - (year - 1) / 100 + (year - 1) / 400

def daysOfMonths (year : Nat) : Nat → Nat
  | 0 => 0
  | months + 1 => daysOfMonths year months + monthLength year (months + 1)

namespace Date

def of? (year month day : Nat) : Option Date :=
  if h : 1 ≤ year ∧ year ≤ 9999 ∧ 1 ≤ month ∧ month ≤ 12 ∧ 1 ≤ day ∧
      day ≤ monthLength year month then
    some ⟨year, month, day, h.1, h.2.1, h.2.2.1, h.2.2.2.1, h.2.2.2.2.1, h.2.2.2.2.2⟩
  else none

def dayNumber (d : Date) : Nat :=
  daysBeforeYear d.year + daysOfMonths d.year (d.month - 1) + d.day

/-- The year in which the day `n` lies. Four centuries have 146097 days, and dividing by their
mean year is at most one year short. -/
def yearOfDay (n : Nat) : Nat :=
  let year := (n - 1) * 400 / 146097 + 1
  if daysBeforeYear (year + 1) < n then year + 1 else year

def placeInYear (year : Nat) : Nat → Nat → Nat → Nat × Nat
  | 0, month, n => (month, n)
  | tries + 1, month, n =>
    if n ≤ monthLength year month then (month, n)
    else placeInYear year tries (month + 1) (n - monthLength year month)

def ofDayNumber? (n : Int) : Option Date :=
  if n < 1 ∨ 3652059 < n then none
  else
    let year := yearOfDay n.toNat
    let (month, day) := placeInYear year 11 1 (n.toNat - daysBeforeYear year)
    of? year month day

def daysUntil (d e : Date) : Int := (e.dayNumber : Int) - d.dayNumber

def addDays (d : Date) (days : Int) : Except CalendarError Date :=
  if 999999999 < days.natAbs then .error (.tooManyDays days)
  else match ofDayNumber? (d.dayNumber + days) with
    | some e => .ok e
    | none => .error .dateOutOfRange

theorem monthLength_pos (year month : Nat) : 1 ≤ monthLength year month := by
  unfold monthLength; split <;> (try split) <;> omega

/-- The same day some months away, or the last day of a month that is too short for it. -/
def addMonths (d : Date) (months : Int) : Except CalendarError Date :=
  let count : Int := d.month - 1 + months
  let year : Int := d.year + count / 12
  let month := (count % 12).toNat + 1
  if h : 1 ≤ year ∧ year ≤ 9999 then
    .ok {
      year := year.toNat
      month := month
      day := min d.day (monthLength year.toNat month)
      year_pos := by omega
      year_le := by omega
      month_pos := by omega
      month_le := by omega
      day_pos := by have := d.day_pos; have := monthLength_pos year.toNat month; omega
      day_le := by omega }
  else .error (.ofYear year)

end Date

instance : LT Date where
  lt d e := d.year < e.year ∨ d.year = e.year ∧
    (d.month < e.month ∨ d.month = e.month ∧ d.day < e.day)

instance (d e : Date) : Decidable (d < e) :=
  inferInstanceAs (Decidable (d.year < e.year ∨ d.year = e.year ∧
    (d.month < e.month ∨ d.month = e.month ∧ d.day < e.day)))

end AddOnLoan
