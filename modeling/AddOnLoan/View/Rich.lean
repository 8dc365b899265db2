import AddOnLoan.Json.Basic
import AddOnLoan.Money.Catalogue
import AddOnLoan.Refusal
import AddOnLoan.Schedule

namespace AddOnLoan

def CurrencyEntry.toJson (entry : CurrencyEntry) : Json :=
  .object [
    ("code", .text entry.code),
    ("name", .text entry.name),
    ("decimalPlaces", .int entry.places),
    ("displaySymbol", .text entry.symbol),
    ("nameCode", .text entry.nameCode)]

def Schedule.checkEntry (s : Schedule) (entry : CurrencyEntry) : Except Refusal Unit :=
  if entry.code = s.currency.code then .ok ()
  else .error (.entryMismatch entry.code s.currency.code)

structure RichView where
  entry : CurrencyEntry
  schedule : Schedule

namespace RichView

/-- The places shown for the currency are those of the amounts, not those of its entry. -/
def assemble (s : Schedule) (entry : CurrencyEntry) : Except Refusal RichView := do
  s.checkEntry entry
  return ⟨{ entry with places := s.currency.places }, s⟩

def amount (x : Decimal) : Json := .text x.text

def row (p : Installment) : Json :=
  .object [
    ("period", .int p.number),
    ("fromDate", (p.start.map (Json.text ·.iso)).getD .null),
    ("dueDate", .text p.due.iso),
    ("principalDisbursed", amount p.disbursed),
    ("principalDue", amount p.principalDue),
    ("interestDue", amount p.interestDue),
    ("totalDue", amount p.totalDue),
    ("principalLoanBalanceOutstanding", amount p.outstanding)]

def totals (s : Schedule) : List (Text × Json) := [
  ("loanTermInDays", .int s.termInDays),
  ("cumulativePrincipalDisbursed", amount s.principalDisbursed),
  ("cumulativePrincipalDue", amount s.principalDue),
  ("cumulativePrincipalOutstanding", amount s.principalOutstanding),
  ("cumulativeInterestExpected", amount s.interestExpected),
  ("cumulativeChargesToDate", amount s.charges),
  ("totalExpectedRepayment", amount s.totalRepayment)]

def toJson (v : RichView) : Json :=
  .object (("currency", v.entry.toJson) :: ("periods", .array (v.schedule.rows.map row)) ::
    totals v.schedule)

def summaryJson (v : RichView) : Json :=
  .object [("summary", .object (("currency", v.entry.toJson) :: totals v.schedule))]

end RichView
end AddOnLoan
