import AddOnLoan.Calendar.Text
import AddOnLoan.Schedule
import AddOnLoan.Text.Blank

namespace AddOnLoan

namespace Schedule

def rule : String := String.ofList (List.replicate 72 '-')

/-- The line of the currency has no blanks at its end when no symbol is shown. -/
def currencyLine (s : Schedule) (symbol : Text) : Text :=
  ("Currency              : " ++ s.currency.code ++ " " ++ symbol).dropTrailingBlanks

/-- The totals; charges only if there are any. -/
def summaryLines (s : Schedule) (symbol : Text) : List Text :=
  let sums : List Text := [
    "Summary",
    rule,
    s.currencyLine symbol,
    "Principal disbursed   : " ++ s.principalDisbursed.text,
    "Total interest        : " ++ s.interestExpected.text,
    "Total repayment       : " ++ s.totalRepayment.text,
    "Principal outstanding : " ++ s.principalOutstanding.text]
  let charges : List Text :=
    if s.charges.isZero then [] else ["Charges               : " ++ s.charges.text]
  let counts : List Text := [
    "Installments          : " ++ natText s.repayments.length,
    "Loan term (days)      : " ++ intText s.termInDays,
    rule]
  sums ++ charges ++ counts

def summary (s : Schedule) (symbol : Text) : Text := .ofLines (s.summaryLines symbol)

def columns : List String :=
  ["Period", "From", "Due", "Disbursed", "Principal", "Interest", "Total", "Balance"]

def cells (p : Installment) : List String := [
  natText p.number,
  (p.start.map (·.iso)).getD "",
  p.due.iso,
  if p.isDisbursement then p.disbursed.text else "",
  p.principalDue.text,
  p.interestDue.text,
  p.totalDue.text,
  p.outstanding.text]

def tableLines (s : Schedule) : List Text :=
  (columns :: s.rows.map cells).map fun line => ("\t".intercalate line : String)

def table (s : Schedule) : Text := .ofLines s.tableLines

end Schedule
end AddOnLoan
