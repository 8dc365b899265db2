import AddOnLoan.Calendar.Date
import AddOnLoan.Decimal.Basic
import AddOnLoan.Text.Blank
import AddOnLoan.Text.Case

namespace AddOnLoan

inductive PeriodUnit where
  | days
  | weeks
  | months
  | years
  deriving DecidableEq, Repr

namespace PeriodUnit

def all : List PeriodUnit := [.days, .weeks, .months, .years]

def name : PeriodUnit → String
  | .days => "days"
  | .weeks => "weeks"
  | .months => "months"
  | .years => "years"

def ofName? (name : Text) : Option PeriodUnit := all.find? fun unit => (unit.name : Text) == name

def read? (t : Text) : Option PeriodUnit :=
  all.find? fun unit => unit.name.toList == lower (strip t.chars)

def perYear : PeriodUnit → Nat
  | .days => 365
  | .weeks => 52
  | .months => 12
  | .years => 1

end PeriodUnit

/-- What a loan is counted in: a unit, or a name that is not one. -/
inductive Frequency where
  | unit (u : PeriodUnit)
  | unsupported (name : Text)
  deriving DecidableEq, Repr

namespace Frequency

def ofName (name : Text) : Frequency :=
  match PeriodUnit.ofName? name with
  | some u => .unit u
  | none => .unsupported name

def name : Frequency → Text
  | .unit u => u.name
  | .unsupported name => name

end Frequency

inductive StepError where
  | calendar (e : CalendarError)
  | unsupportedUnit (name : Text)
  deriving DecidableEq, Repr

/-- The date so many units after another; months keep the day or end on the last of a shorter
month. -/
def Date.advance (start : Date) (count : Int) : Frequency → Except StepError Date
  | .unit .days => (start.addDays count).mapError .calendar
  | .unit .weeks => (start.addDays (7 * count)).mapError .calendar
  | .unit .months => (start.addMonths count).mapError .calendar
  | .unit .years => (start.addMonths (12 * count)).mapError .calendar
  | .unsupported name => .error (.unsupportedUnit name)

end AddOnLoan
