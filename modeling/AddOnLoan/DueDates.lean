import AddOnLoan.Schedule
import AddOnLoan.Trace

namespace AddOnLoan

/-- The values of `f` at `i, i + 1, …`, `count` in all, behind those already found in reverse; the
first failure is the answer. -/
def collectFrom (f : Nat → Except ε α) (i : Nat) (found : List α) : Nat → Except ε (List α)
  | 0 => .ok found.reverse
  | count + 1 =>
    match f i with
    | .ok a => collectFrom f (i + 1) (a :: found) count
    | .error e => .error e

namespace LoanTerms

/-- The date that due dates are counted from, and the number of intervals up to the first. -/
def anchor (terms : LoanTerms) : Date × Nat :=
  match terms.firstRepayment with
  | some first => (first, 0)
  | none => (terms.disbursed, 1)

def checkDates (terms : LoanTerms) : Except TermsError Unit :=
  if terms.repayments < 1 then .error (.repayments terms.repayments)
  else if terms.every < 1 then .error (.every terms.every)
  else match terms.firstRepayment with
    | some first =>
      if first < terms.disbursed then .error (.firstBeforeDisbursement first terms.disbursed)
      else .ok ()
    | none => .ok ()

/-- Each date is counted from one anchor and not from the date before it, so a day that is cut short
by one month comes back in the next: from 31 January the dates are 29 February, 31 March, 30 April.
-/
def layOutDates (terms : LoanTerms) : Except TermsError (List Date) := do
  terms.checkDates
  let (start, offset) := terms.anchor
  let dateAt (i : Nat) : Except StepError Date :=
    start.advance (terms.every * ((i : Int) + offset)) terms.frequency
  (collectFrom dateAt 0 [] terms.repayments.toNat).mapError .datesPastCalendar

def dueDates (terms : LoanTerms) : Traced (List Date) := do
  let dates ← (terms.layOutDates.mapError TermsError.raised : Except Refusal (List Date))
  match dates.head?, dates.getLast? with
  | some first, some last => Traced.report (.datesLaidOut dates.length first last)
  | _, _ => pure ()
  return dates

end LoanTerms
end AddOnLoan
