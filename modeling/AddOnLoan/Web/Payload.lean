import AddOnLoan.Entry
import AddOnLoan.Schedule
import AddOnLoan.Text.Integer

namespace AddOnLoan

abbrev Payload := List (Text × Json)

namespace Payload

/-- The whole number that a value stands for: places behind a point are dropped, a text is read.
An infinity is a fault of its own. -/
def wholeNumber (name : String) (value : Json) : Except Refusal Int :=
  let bad : Refusal := .input (.wholeNumberField name value.display)
  match value with
  | .int n => .ok n
  | .bool b => .ok (if b then 1 else 0)
  | .double (.infinity _) => .error (.outOfRange .infiniteWholeNumber)
  | .double x =>
    match x.truncate? with
    | some n => .ok n
    | none => .error bad
  | .text t =>
    match readInteger? t.chars with
    | some n => .ok n
    | none => .error bad
  | .null | .array _ | .object _ => .error bad

/-- A field with a whole number. Without a value to take its place it must be there; a null never
has one. -/
def wholeNumberField (payload : Payload) (name : String) (otherwise : Option Int) :
    Except Refusal Int :=
  match Json.field? payload name, otherwise with
  | none, some n => .ok n
  | none, none | some .null, _ => .error (.input (.missingField name))
  | some value, _ => wholeNumber name value

/-- The text of a field that must be there and hold more than blanks. -/
def requiredText (payload : Payload) (name : String) : Except InputError Text :=
  match Json.field? payload name with
  | none | some .null => .error (.missingField name)
  | some value =>
    if value.display.strip.isEmpty then .error (.missingField name)
    else .ok value.display

/-- A field that may be left out, left empty, or be zero to the same effect. -/
def optional (payload : Payload) (name : String) : Option Json :=
  (Json.field? payload name).filter (!·.isBlankValue)

def optionalDate (payload : Payload) (name : String) : Except InputError (Option Date) :=
  (payload.optional name).mapM Entry.date

def entry (payload : Payload) (defaultCurrency : Text) : Except Refusal CurrencyEntry :=
  Entry.currency (.text (((payload.optional "currency").map (·.display)).getD defaultCurrency))

def digits (payload : Payload) : Except Refusal (Option Int) :=
  match Json.field? payload "digits" with
  | none | some .null => .ok none
  | some value => some <$> wholeNumber "digits" value

/-- Turns down more repayments than the most that are served. A limit that is no number is found
out only here. -/
def checkRepayments (repayments : Int) (most : Json) : Except Refusal Unit :=
  match most.isBelow? repayments with
  | none => .error .unusableSetting
  | some true =>
    .error (.input (if most.isWritable && fitsNumeral repayments then
      .tooManyRepayments most.display repayments
    else .longNumeral))
  | some false => .ok ()

/-- Fields are read in a fixed order, and the first that is missing or no good is reported. -/
def terms (payload : Payload) (defaultCurrency : Text) (maxRepayments : Json) :
    Except Refusal (LoanTerms × CurrencyEntry) := do
  let entry ← payload.entry defaultCurrency
  let currency ← entry.currency (← payload.digits)
  let repayments ← payload.wholeNumberField "numberOfRepayments" none
  checkRepayments repayments maxRepayments
  let every ← payload.wholeNumberField "repaymentEvery" (some 1)
  let unit ← Entry.frequency
    ((Json.field? payload "repaymentFrequencyType").getD (.text "months")).display
  let principal ← Money.of currency (← Entry.number (← payload.requiredText "principal"))
  let rate ← Entry.number (← payload.requiredText "annualInterestRate")
  let term ← payload.wholeNumberField "loanTermFrequency" (some (repayments * every))
  let termUnit ← match payload.optional "loanTermFrequencyType" with
    | some value => Entry.frequency value.display
    | none => pure unit
  let disbursed ← Entry.dateText (← payload.requiredText "disbursementDate")
  let first ← payload.optionalDate "firstRepaymentDate"
  let interestFrom ← payload.optionalDate "interestCalculatedFrom"
  return ({
    principal := principal
    annualRate := rate
    repayments := repayments
    every := every
    frequency := .unit unit
    term := term
    termFrequency := .unit termUnit
    disbursed := disbursed
    firstRepayment := first
    interestFrom := interestFrom }, entry)

end Payload
end AddOnLoan
