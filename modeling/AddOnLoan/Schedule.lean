import AddOnLoan.Frequency
import AddOnLoan.Money.Basic

namespace AddOnLoan

structure LoanTerms where
  /-- The amount paid out; its currency is the currency of the whole schedule. -/
  principal : Money
  /-- The yearly rate in percent. -/
  annualRate : Decimal
  repayments : Int
  /-- The number of units between two due dates. -/
  every : Int
  frequency : Frequency
  /-- The length of the loan that interest is charged for. -/
  term : Int
  termFrequency : Frequency
  disbursed : Date
  firstRepayment : Option Date := none
  /-- Part of the terms, but without effect on an add-on loan. -/
  interestFrom : Option Date := none

def LoanTerms.currency (terms : LoanTerms) : Currency := terms.principal.currency

structure Installment where
  number : Nat
  /-- The day after which the period of this row begins; the payout has none. -/
  start : Option Date
  due : Date
  disbursed : Decimal
  principalDue : Decimal
  interestDue : Decimal
  totalDue : Decimal
  outstanding : Decimal
  deriving DecidableEq, Repr

namespace Installment

def isDisbursement (row : Installment) : Bool := row.number == 0

/-- The payout: nothing is due, written with zeros that end where the principal ends. -/
def disbursement (date : Date) (principal : Decimal) : Except Signal Installment := do
  let zero ← (⟨28, .halfEven⟩ : Context).sub principal principal
  return {
    number := 0
    start := none
    due := date
    disbursed := principal
    principalDue := zero
    interestDue := zero
    totalDue := zero
    outstanding := principal }

end Installment

structure Schedule where
  currency : Currency
  rows : List Installment
  totalInterest : Decimal
  termInDays : Int
  principalDisbursed : Decimal
  principalDue : Decimal
  principalOutstanding : Decimal
  interestExpected : Decimal
  charges : Decimal
  totalRepayment : Decimal
  deriving DecidableEq, Repr

def Schedule.repayments (s : Schedule) : List Installment :=
  s.rows.filter (!·.isDisbursement)

end AddOnLoan
