import AddOnLoan.CommandLine.Error
import AddOnLoan.Entry
import AddOnLoan.Schedule

namespace AddOnLoan

structure TermOptions where
  /-- Only a text can be an amount. -/
  principal : Json
  rate : Text
  repayments : Int
  every : Int := 1
  frequency : Text := "months"
  disbursementDate : Text
  loanTerm : Option Int := none
  loanTermType : Option Text := none
  firstRepaymentDate : Option Text := none
  /-- Only a text can be the code of a currency. -/
  currency : Json := .text "USD"
  digits : Option Int := none

/-- An option that was left empty counts as not given. -/
def givenText (option : Option Text) : Option Text := option.filter (!·.isEmpty)

namespace TermOptions

def asBadValue (outcome : Except Refusal α) : Except CommandError α :=
  outcome.mapError fun r =>
    if r.kind.isAboutInput then .badValue [] (.refused r) else .unexpected r

def amount : Json → Except CommandError Decimal
  | .text t => (Entry.amount t).mapError fun
    | .notANumber shown => .badValue [] (.amount shown)
    | .signal s => .unexpected (.signal s)
  | _ => .error (.unexpected .notText)

/-- The terms and how their currency is presented. A loan term that is not given lasts up to the
last repayment. -/
def terms (o : TermOptions) : Except CommandError (LoanTerms × CurrencyEntry) := do
  let entry ← asBadValue (Entry.currency o.currency)
  let unit ← asBadValue (Entry.frequency o.frequency)
  let termUnit ← match givenText o.loanTermType with
    | some text => asBadValue (Entry.frequency text)
    | none => pure unit
  let disbursed ← asBadValue (Entry.dateText o.disbursementDate)
  let first ← (givenText o.firstRepaymentDate).mapM fun text => asBadValue (Entry.dateText text)
  let rate ← asBadValue (Entry.number o.rate)
  let currency ← asBadValue (entry.currency o.digits)
  let principal ← asBadValue (Money.of currency (← amount o.principal))
  return ({
    principal := principal
    annualRate := rate
    repayments := o.repayments
    every := o.every
    frequency := .unit unit
    term := o.loanTerm.getD (o.repayments * o.every)
    termFrequency := .unit termUnit
    disbursed := disbursed
    firstRepayment := first }, entry)

end TermOptions
end AddOnLoan
