import AddOnLoan.DueDates

namespace AddOnLoan

/-- The digits that the rate for the term is derived with, and the direction of all rounding.
Without a direction nothing that has to be rounded can be computed, and without a number of digits
no rate can. -/
structure Engine where
  ratePrecision : Option Nat := some 8
  rounding : Option Rounding := some .halfEven
  /-- The most digits of a quotient that there is memory for, if there is such a bound. -/
  room : Option Nat := none
  precision_pos : ∀ p ∈ ratePrecision, 1 ≤ p := by decide

structure Shares where
  rate : Decimal
  totalInterest : Money
  principal : Money
  interest : Money

structure LastShares where
  principalDrift : Money
  interestDrift : Money
  principal : Money
  interest : Money

/-- A schedule in the making: the last row's number and due date, the balance, what has been
collected so far, and the rows, the newest first. -/
structure Progress where
  number : Nat
  date : Date
  outstanding : Money
  principal : Money
  interest : Money
  repaid : Money
  days : Int
  rows : List Installment

namespace Progress

def start (terms : LoanTerms) (payout : Installment) : Progress where
  number := 0
  date := terms.disbursed
  outstanding := terms.principal
  principal := .zero terms.currency
  interest := .zero terms.currency
  repaid := .zero terms.currency
  days := 0
  rows := [payout]

def collect (p : Progress) (due : Date) (principal interest : Money) :
    Except MoneyError Progress := do
  let total ← principal.plus interest
  let outstanding ← p.outstanding.minus principal
  let row : Installment := {
    number := p.number + 1
    start := some p.date
    due := due
    disbursed := (Money.zero principal.currency).amount
    principalDue := principal.amount
    interestDue := interest.amount
    totalDue := total.amount
    outstanding := outstanding.amount }
  return {
    number := p.number + 1
    date := due
    outstanding := outstanding
    principal := ← p.principal.plus principal
    interest := ← p.interest.plus interest
    repaid := ← p.repaid.plus total
    days := p.days + p.date.daysUntil due
    rows := row :: p.rows }

end Progress

namespace Engine

def make? (precision : Int) (rounding : Option Rounding) : Except InputError Engine :=
  if h : 1 ≤ precision then
    .ok ⟨some precision.toNat, rounding, none, by
      intro p hp
      cases hp
      omega⟩
  else .error (if fitsNumeral precision then .ratePrecision (intText precision) else .longNumeral)

def mostDigits : Nat := 999999999999999999

def context (engine : Engine) (digits : Nat) : Except Refusal Context :=
  if (2 : Nat) ^ (63 : Nat) ≤ digits then .error (.outOfRange .digitCount)
  else if mostDigits < digits then .error (.input .ratePrecisionPastLimit)
  else match engine.rounding with
    | none => .error .unknownRounding
    | some mode => .ok ⟨digits, mode⟩

def isShort : Decimal → Decimal → Bool
  | .finite _ a e, .finite _ b e' =>
    a * 10 ^ (4 * digitCount b) % b == 0 && (e - e' + leadingDigit a b).natAbs ≤ Context.emax
  | _, _ => true

/-- A quotient. Unless it is short it has as many digits as are asked for, and they need room. -/
def quotient (room : Option Nat) (ctx : Context) (x y : Decimal) : Except Refusal Decimal :=
  if room.any (· < ctx.precision) && !x.isZero && !y.isZero && !isShort x y then
    .error .outOfMemory
  else ctx.div x y

/-- The interest for the whole term per unit of principal. Both divisions keep the digits of the
engine; the product with the length of the term then fits without rounding. -/
def rateForTerm (engine : Engine) (annualRate periodsPerYear : Decimal) (term : Int) :
    Except Refusal Decimal :=
  match engine.ratePrecision with
  | none => .error .unusableSetting
  | some digits => do
    let narrow ← engine.context digits
    let percent ← quotient engine.room narrow annualRate periodsPerYear
    let perPeriod ← quotient engine.room narrow percent (.ofNat 100)
    let wide ← engine.context (digits + digitCount term.natAbs)
    wide.mul perPeriod (.ofInt term)

def requireOrder (previous : Date) : List Date → Traced Unit
  | [] => pure ()
  | due :: rest => do
    Traced.require (!decide (due < previous)) (.dueDateOrder due previous)
    requireOrder due rest

/-- What must hold before anything is computed, in the order in which it is reported. -/
def check (terms : LoanTerms) (dueDates : List Date) (periodsPerYear : Decimal) : Traced Unit := do
  Traced.require (1 ≤ terms.repayments) (.repayments terms.repayments)
  Traced.require (dueDates.length == terms.repayments)
    (.dueDateCount terms.repayments dueDates.length)
  Traced.require (0 < (← periodsPerYear.order0)) (.periodsPerYear periodsPerYear)
  Traced.require (1 ≤ terms.term) (.term terms.term)
  Traced.require (!(← terms.principal.isNegative)) (.negativePrincipal terms.principal)
  Traced.require (0 ≤ (← terms.annualRate.order0)) (.negativeRate terms.annualRate)
  requireOrder terms.disbursed dueDates

def shares (engine : Engine) (terms : LoanTerms) (periodsPerYear : Decimal) :
    Except Refusal Shares := do
  let rate ← engine.rateForTerm terms.annualRate periodsPerYear terms.term
  let total ← terms.principal.times rate engine.rounding
  let count := Decimal.ofInt terms.repayments
  let interest ← total.dividedBy count engine.rounding
  let principal ← terms.principal.dividedBy count engine.rounding
  return ⟨rate, total, principal, interest⟩

/-- How far the even shares would miss the principal and the interest, and what the last
installment is made of instead. -/
def lastShares (terms : LoanTerms) (s : Shares) (p : Progress) : Except MoneyError LastShares := do
  let principalDrift ← (← p.principal.plus s.principal).minus terms.principal
  let interestDrift ← (← p.interest.plus s.interest).minus s.totalInterest
  let principal ← s.principal.minus principalDrift
  let interest ← s.interest.minus interestDrift
  return ⟨principalDrift, interestDrift, principal, interest⟩

def reportDrift (last : LastShares) : Traced Unit := do
  if (← last.principalDrift.isZero) && (← last.interestDrift.isZero) then
    pure ()
  else
    Traced.report (.lastAdjusted last.principalDrift.negated last.interestDrift.negated)

/-- Adds the last installment, whose shares make the sums come out. Its principal must not be
negative, for then the balance would have been below zero before it. -/
def collectLast (terms : LoanTerms) (s : Shares) (p : Progress) (due : Date) :
    Traced Progress := do
  let last ← lastShares terms s p
  reportDrift last
  Traced.require (!(← last.principal.isNegative))
    (.tooSmallToSplit terms.principal terms.repayments)
  p.collect due last.principal last.interest

def schedule (terms : LoanTerms) (s : Shares) (p : Progress) : Except MoneyError Schedule := do
  return {
    currency := terms.currency
    rows := p.rows.reverse
    totalInterest := s.totalInterest.amount
    termInDays := p.days
    principalDisbursed := terms.principal.amount
    principalDue := p.principal.amount
    principalOutstanding := (← terms.principal.minus p.principal).amount
    interestExpected := p.interest.amount
    charges := (Money.zero terms.currency).amount
    totalRepayment := p.repaid.amount }

/-- The schedule for given due dates. The interest of the whole term is found once from the
principal; both are split evenly over the installments and each share is rounded, so the last
installment takes what the rounding left over or took too much. -/
def compute (engine : Engine) (terms : LoanTerms) (dueDates : List Date)
    (periodsPerYear : Decimal) : Traced Schedule := do
  check terms dueDates periodsPerYear
  let s ← engine.shares terms periodsPerYear
  Traced.report (.shares s.rate s.totalInterest s.principal s.interest)
  let payout ← Installment.disbursement terms.disbursed terms.principal.amount
  let even ← (dueDates.dropLast.foldlM (fun p due => p.collect due s.principal s.interest)
    (Progress.start terms payout) : Except MoneyError Progress)
  let full ← match dueDates.getLast? with
    | some due => collectLast terms s even due
    | none => pure even
  schedule terms s full

def periodsPerYear : Frequency → Except Refusal Decimal
  | .unit u => .ok (.ofNat u.perYear)
  | .unsupported name => .error (.unmappedUnit name)

def generate (engine : Engine) (terms : LoanTerms) : Traced Schedule := do
  let dates ← terms.dueDates
  let perYear ← periodsPerYear terms.termFrequency
  let schedule ← engine.compute terms dates perYear
  Traced.report (.scheduleBuilt dates.length terms.principal schedule.termInDays)
  return schedule

end Engine
end AddOnLoan
