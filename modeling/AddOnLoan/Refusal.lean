import AddOnLoan.Calendar.Text
import AddOnLoan.Frequency
import AddOnLoan.Money.Basic
import AddOnLoan.Text.Bytes

namespace AddOnLoan

inductive TermsError where
  | repayments (count : Int)
  | every (count : Int)
  | firstBeforeDisbursement (first disbursed : Date)
  | datesPastCalendar (cause : StepError)
  | dueDateCount (expected : Int) (given : Nat)
  | periodsPerYear (given : Decimal)
  | term (count : Int)
  | negativePrincipal (principal : Money)
  | negativeRate (rate : Decimal)
  | dueDateOrder (due previous : Date)
  | tooSmallToSplit (principal : Money) (count : Int)
  deriving DecidableEq

inductive InputError where
  | currency (code : Text)
  | frequency (shown : Text)
  | date (shown : Text)
  | number (shown : Text)
  | shape (name : Text)
  | ratePrecision (shown : Text)
  /-- More digits are asked for than any computation can have. -/
  | ratePrecisionPastLimit
  | missingField (name : String)
  | wholeNumberField (name : String) (shown : Text)
  | tooManyRepayments (most : Text) (given : Int)
  | wholeNumberSetting (text : Text)
  | longNumberSetting (digits : Nat)
  /-- A whole number has too many digits to be written. -/
  | longNumeral
  /-- A setting of the environment holds the character that would end it. -/
  | nulInSetting
  /-- The name of a setting holds the character that would end the name. -/
  | signInSettingName
  /-- A line end stands in the content type, which is one line. -/
  | lineEndInContentType
  deriving DecidableEq, Repr

inductive RangeError where
  /-- An infinity was given for a whole number. -/
  | infiniteWholeNumber
  /-- A number of digits is too large to be counted with sixty-four bits. -/
  | digitCount
  deriving DecidableEq, Repr

inductive Refusal where
  | terms (e : TermsError)
  | unmappedUnit (name : Text)
  | step (e : StepError)
  | money (e : MoneyError)
  | entryMismatch (entry schedule : Text)
  | input (e : InputError)
  | signal (s : Signal)
  | unknownRounding
  | outOfRange (e : RangeError)
  /-- A setting is of a kind that cannot be used for what it sets. -/
  | unusableSetting
  /-- A quotient has more digits than can be kept. -/
  | outOfMemory
  /-- A request body has values too deep inside one another. -/
  | bodyTooDeep
  /-- A request body is larger than is allowed. -/
  | bodyTooLarge
  /-- A text that has to be written in bytes has code points for which there are none. -/
  | unwritable (run : UnwritableRun)
  /-- A value that has to be a text is none. -/
  | notText
  /-- A setting of the environment has no name. -/
  | unnamedSetting
  deriving DecidableEq

namespace StepError

def message : StepError → String
  | calendar e => e.message
  | unsupportedUnit name => "Cannot step dates by " ++ quoted name

end StepError

namespace TermsError

def message : TermsError → Text
  | repayments n => "number_of_repayments must be at least 1; got " ++ intText n
  | every n => "repayment_every must be at least 1; got " ++ intText n
  | firstBeforeDisbursement first disbursed =>
    "First repayment date " ++ first.iso ++ " is before disbursement date " ++ disbursed.iso
  | datesPastCalendar cause => "Due dates run past the supported calendar: " ++ cause.message
  | dueDateCount expected given =>
    "Expected " ++ intText expected ++ " due dates; got " ++ natText given
  | periodsPerYear x => "periods_per_year must be positive; got " ++ x.text
  | term n => "loan_term_frequency must be at least 1; got " ++ intText n
  | negativePrincipal m => "Principal must not be negative; got " ++ m.text
  | negativeRate x => "Interest rate must not be negative; got " ++ x.text
  | dueDateOrder due previous => "Due date " ++ due.iso ++ " is before " ++ previous.iso
  | tooSmallToSplit m n =>
    "Principal " ++ m.text ++ " is too small to split over " ++ intText n ++ " installments"

def isWritable : TermsError → Bool
  | repayments n | every n | term n | dueDateCount n _ | tooSmallToSplit _ n => fitsNumeral n
  | _ => true

/-- What is raised to turn terms down. The message is written first, and may itself be refused. -/
def raised (e : TermsError) : Refusal :=
  if e.isWritable then .terms e else .input .longNumeral

end TermsError

namespace InputError

def message : InputError → Text
  | currency code => "Unknown currency code: " ++ code
  | frequency shown => "Invalid frequency: " ++ shown
  | date shown => "Invalid date string: " ++ shown
  | number shown => "Invalid numeric value: " ++ shown
  | shape name => "Unknown schedule shape " ++ quoted name ++ "; expected one of rich, slim"
  | ratePrecision shown => "rate_precision must be positive; got " ++ shown
  | ratePrecisionPastLimit => "valid range for prec is [1, MAX_PREC]"
  | missingField name => "Missing required field " ++ name
  | wholeNumberField name shown => "Invalid integer for " ++ name ++ ": " ++ shown
  | tooManyRepayments most n =>
    "numberOfRepayments must not exceed " ++ most ++ "; got " ++ intText n
  | wholeNumberSetting text =>
    "invalid literal for int() with base 10: " ++ String.ofList ((quoted text).toList.take 200)
  | longNumberSetting digits =>
    "Exceeds the limit (4300 digits) for integer string conversion: value has " ++
      natText digits ++ " digits; use sys.set_int_max_str_digits() to increase the limit"
  | longNumeral => longNumeralText
  | nulInSetting => "embedded null byte"
  | signInSettingName => "illegal environment variable name"
  | lineEndInContentType => "Header values must not contain newline characters."

end InputError

namespace Refusal

def message : Refusal → Text
  | terms e => e.message
  | unmappedUnit name => "No periods-per-year mapping for " ++ quoted name
  | step e => e.message
  | money e => e.message
  | entryMismatch entry schedule =>
    "Currency metadata " ++ entry ++ " does not match schedule currency " ++ schedule
  | input e => e.message
  | unwritable run => run.message
  | signal _ | unknownRounding | outOfRange _ | unusableSetting | outOfMemory | bodyTooDeep
  | bodyTooLarge | notText | unnamedSetting => ""

/-- The families that a caller can tell apart. -/
inductive Kind where
  | terms
  | unsupportedUnit
  | currencyMismatch
  | invalidAmount
  | invalidValue
  | divisionByZero
  | signal (s : Signal)
  | wrongType
  | outOfRange
  | outOfMemory
  | tooDeep
  | tooLarge
  | unwritable
  | notText
  | unnamed
  deriving DecidableEq, Repr

def moneyKind : MoneyError → Kind
  | .placesOutOfRange _ | .notANumber _ | .cannotBeHeld .. => .invalidAmount
  | .malformedParts .outOfRange => .outOfRange
  | .longNumeral | .malformedParts _ => .invalidValue
  | .wrongType | .unknownRounding => .wrongType
  | .currencyMismatch .. => .currencyMismatch
  | .divisionByZero => .divisionByZero
  | .signal s => .signal s

def kind : Refusal → Kind
  | terms _ => .terms
  | unmappedUnit _ | step (.unsupportedUnit _) => .unsupportedUnit
  | step (.calendar (.yearOutOfRange _)) | input _ => .invalidValue
  | step (.calendar _) | outOfRange _ => .outOfRange
  | money e => moneyKind e
  | entryMismatch .. => .currencyMismatch
  | signal s => .signal s
  | unknownRounding | unusableSetting => .wrongType
  | outOfMemory => .outOfMemory
  | bodyTooDeep => .tooDeep
  | bodyTooLarge => .tooLarge
  | unwritable _ => .unwritable
  | notText => .notText
  | unnamedSetting => .unnamed

def Kind.isAboutLoan : Kind → Bool
  | .terms | .unsupportedUnit | .currencyMismatch | .invalidAmount => true
  | _ => false

def Kind.isAboutInput (k : Kind) : Bool := k.isAboutLoan || k == .invalidValue

end Refusal

/-- Turns down a text that cannot be written in bytes, where only some halves can. -/
def Text.checkWritable (writable : Half → Bool) (t : Text) : Except Refusal Unit :=
  match t.unwritable? writable with
  | some run => .error (.unwritable run)
  | none => .ok ()

instance : MonadLift (Except MoneyError) (Except Refusal) := ⟨(·.mapError .money)⟩

instance : MonadLift (Except InputError) (Except Refusal) := ⟨(·.mapError .input)⟩

instance : MonadLift (Except Signal) (Except Refusal) := ⟨(·.mapError .signal)⟩

end AddOnLoan
